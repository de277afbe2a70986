import SiteSearch.Proofs.Migration.Renewal

/-!
# Collections stay in order

Where no call goes wrong every request leaves collections in order (`Request.keepsOrder`): it renews a
collection, or takes something away, or does one after the other. So after any requests each alias is
bound to the newest index of its collection and to no other, no index is bound to an alias of another
collection, and none is blocked (`History.wellFormed`). The clock may run as it likes, and what the
engine refuses may leave indexes behind.
-/

namespace SiteSearch

variable {names : IndexNames} {aliases : List String}

/-- The collections with some aliases are in order, under a way to name indexes. -/
def World.Orderly (names : IndexNames) (aliases : List String) (w : World) : Prop :=
  w.service.indexNames = names ∧ w.memory.store.Orderly aliases

namespace Operation

variable {α β : Type}

/-- Where no call goes wrong, and no copy has been told to report failures, the operation leaves
collections in order. -/
def KeepsOrder (names : IndexNames) (aliases : List String) (op : Operation α) : Prop :=
  ∀ ⦃w : World⦄ ⦃t : List (Turn Memory)⦄ ⦃r : Except ServiceError α⦄ ⦃w' : World⦄,
    op.Runs .none w t r w' → (∀ u ∈ t, u.before.pendingFailures = 0) → w.Orderly names aliases →
      w'.Orderly names aliases

theorem keepsOrder_bind {op : Operation α} {f : α → Operation β} (h : KeepsOrder names aliases op)
    (hf : ∀ a, KeepsOrder names aliases (f a)) : KeepsOrder names aliases (op >>= f) := by
  intro w t r w' hrun hcalm hw
  obtain ⟨e, hop, -⟩ | ⟨a, w₁, t₁, t₂, rfl, hop, hnext⟩ := runs_bind.1 hrun
  · exact h hop hcalm hw
  · have hw₁ := h hop (fun u hu => hcalm u (List.mem_append_left _ hu)) hw
    exact hf a hnext (fun u hu => hcalm u (List.mem_append_right _ hu)) hw₁

theorem keepsOrder_outcome {op : Operation α} (h : KeepsOrder names aliases op) :
    KeepsOrder names aliases (outcome op) := by
  intro w t r w' hrun hcalm hw
  obtain ⟨r', hop, -⟩ := says_outcome.1 hrun.1
  exact h ⟨hop, hrun.2⟩ hcalm hw

/-- An operation that only takes away keeps the order. -/
theorem Runs.orderly_of_asksOnly {op : Operation α} {Q : α → Prop} {w w' : World}
    {t : List (Turn Memory)} {r : Except ServiceError α} (h : op.Runs .none w t r w')
    (hop : AsksOnly names EngineCall.Shrinks op Q) (hw : w.Orderly names aliases) :
    w'.Orderly names aliases := by
  obtain ⟨hnames, hcalls, -⟩ := hop hw.1 h.1
  have hkept := h.2.keeps_store (J := Store.Orderly aliases) (P := fun x => x.1.Shrinks)
    (fun hx hs => hs.after_of_shrinks hx) hcalls hw.2
  exact ⟨hnames, hkept.2⟩

theorem keepsOrder_of_asksOnly {Q : α → Prop} {op : Operation α}
    (h : AsksOnly names EngineCall.Shrinks op Q) : KeepsOrder names aliases op :=
  fun _ _ _ _ hrun _ hw => hrun.orderly_of_asksOnly h hw

theorem keepsOrder_pure {a : α} : KeepsOrder names aliases (pure a) :=
  keepsOrder_of_asksOnly (Q := fun _ => True) (asksOnly_pure .intro)

section

variable {key : CollectionKey}

theorem keepsOrder_clone {source : String} (hkey : names.aliasName key ∈ aliases) :
    KeepsOrder names aliases (clone key source) := by
  rintro w t r w' hrun - ⟨rfl, hstore⟩
  refine ⟨(asksOnly_clone _ key source rfl hrun.1).1, ?_⟩
  obtain ⟨hsame, -⟩ | ⟨_, hrenews, -⟩ := hrun.clone_renews hstore
  · exact hstore.shrinks hsame.shrinks
  · exact hrenews.orderly hstore hkey

variable (hkey : names.aliasName key ∈ aliases)
  (hshape : ∀ a ∈ aliases, ∀ b ∈ aliases, ¬ IsGeneration b a)

include hkey hshape

theorem keepsOrder_ensureExists : KeepsOrder names aliases (ensureExists key) := by
  rintro w t r w' hrun - ⟨rfl, hstore⟩
  refine ⟨(asksOnly_ensureExists _ key rfl hrun.1).1, ?_⟩
  obtain ⟨hsame, -⟩ | ⟨hrenews, -⟩ := hrun.ensureExists_renews hstore hkey hshape
  · exact hstore.shrinks hsame.shrinks
  · exact hrenews.orderly hstore hkey

theorem keepsOrder_reindex : KeepsOrder names aliases (reindex key) := by
  rintro w t r w' hrun hcalm ⟨rfl, hstore⟩
  refine ⟨(asksOnly_reindex _ key rfl hrun.1).1, ?_⟩
  obtain ⟨hsame, -⟩ | ⟨hrenews, -⟩ := hrun.reindex_renews hstore hkey hshape hcalm
  · exact hstore.shrinks hsame.shrinks
  · exact hrenews.orderly hstore hkey

theorem keepsOrder_upsert {document : Document} :
    KeepsOrder names aliases (upsert document key) := by
  refine keepsOrder_bind (keepsOrder_ensureExists hkey hshape) fun _ =>
    keepsOrder_of_asksOnly (Q := fun _ => True) ?_
  refine asksOnly_bind asksOnly_aliasOf fun _ _ => asksOnly_bind (asksOnly_attempt .intro) ?_
  rintro (e | _) -
  · exact asksOnly_bind asksOnly_record fun _ _ => asksOnly_throw
  · exact asksOnly_record

theorem keepsOrder_indexElement {element : Element} :
    KeepsOrder names aliases (indexElement element key) := by
  have hreplace : KeepsOrder names aliases (replaceDocument element key) :=
    keepsOrder_bind (keepsOrder_of_asksOnly asksOnly_buildDocument) fun _ =>
      keepsOrder_bind (keepsOrder_of_asksOnly (asksOnly_delete fun _ => .intro)) fun _ =>
        keepsOrder_upsert hkey hshape
  have hmodify : ∀ {f : Service → Service}, (∀ s, (f s).indexNames = s.indexNames) →
      KeepsOrder names aliases (modify f : Operation PUnit) :=
    fun h => keepsOrder_of_asksOnly (asksOnly_modify h)
  refine keepsOrder_bind (keepsOrder_of_asksOnly asksOnly_get) fun service => ?_
  split
  · exact keepsOrder_bind (keepsOrder_of_asksOnly asksOnly_record) fun _ => keepsOrder_pure
  · refine keepsOrder_bind (hmodify fun _ => rfl) fun _ =>
      keepsOrder_bind (keepsOrder_outcome hreplace) fun result =>
      keepsOrder_bind (hmodify fun _ => rfl) fun _ => ?_
    exact keepsOrder_bind (keepsOrder_of_asksOnly (Q := fun _ => True)
      (asksOnly_finish fun _ _ => .intro)) fun _ => keepsOrder_pure

end

end Operation

/-- Whatever is requested, where no call goes wrong it leaves collections in order. -/
theorem Request.keepsOrder (request : Request) (hkey : names.aliasName request.key ∈ aliases)
    (hshape : ∀ a ∈ aliases, ∀ b ∈ aliases, ¬ IsGeneration b a) :
    Operation.KeepsOrder names aliases request.perform := by
  open Operation in
  cases request with
  | ensureExists => exact keepsOrder_bind (keepsOrder_ensureExists hkey hshape) fun _ => keepsOrder_pure
  | reindex => exact keepsOrder_bind (keepsOrder_reindex hkey hshape) fun _ => keepsOrder_pure
  | clone => exact keepsOrder_bind (keepsOrder_clone hkey) fun _ => keepsOrder_pure
  | updateMapping key =>
    have hupdate : AsksOnly names EngineCall.Shrinks (Operation.updateMapping key) fun _ => True :=
      asksOnly_updateMapping fun _ => .intro
    exact keepsOrder_bind (keepsOrder_of_asksOnly hupdate) fun _ => keepsOrder_pure
  | syncMapping key =>
    have hsync : AsksOnly names EngineCall.Shrinks (Operation.syncMapping key) fun _ => True :=
      asksOnly_syncMapping (fun _ => .intro) fun _ => .intro
    exact keepsOrder_bind (keepsOrder_of_asksOnly hsync) fun _ => keepsOrder_pure
  | deleteOrphaned key =>
    have hsweep : AsksOnly names EngineCall.Shrinks (Operation.deleteOrphaned key) fun _ => True :=
      asksOnly_deleteOrphaned (fun _ => .intro) (fun _ => .intro) fun _ _ => .intro
    exact keepsOrder_bind (keepsOrder_of_asksOnly hsweep) fun _ => keepsOrder_pure
  | deleteCollection key =>
    have hdelete : AsksOnly names EngineCall.Shrinks (Operation.deleteCollection key) fun _ => True :=
      asksOnly_deleteCollection (fun _ => .intro) (fun _ _ _ => .intro) fun _ _ => .intro
    exact keepsOrder_bind (keepsOrder_of_asksOnly hdelete) fun _ => keepsOrder_pure
  | upsert => exact keepsOrder_upsert hkey hshape
  | delete => exact keepsOrder_of_asksOnly (asksOnly_delete fun _ => .intro)
  | bulkDelete ids key =>
    have hdelete : AsksOnly names EngineCall.Shrinks (Operation.bulkDelete ids key) fun _ => True :=
      asksOnly_bulkDelete fun _ _ => .intro
    exact keepsOrder_bind (keepsOrder_of_asksOnly hdelete) fun _ => keepsOrder_pure
  | indexElement =>
    exact keepsOrder_bind (keepsOrder_indexElement hkey hshape) fun _ => keepsOrder_pure

theorem History.keepsOrder {w w' : World} {requests : List Request} {t : List (Turn Memory)}
    (h : History .none w requests t w') (hcalm : ∀ u ∈ t, u.before.pendingFailures = 0)
    (hkeys : ∀ request ∈ requests, names.aliasName request.key ∈ aliases)
    (hshape : ∀ a ∈ aliases, ∀ b ∈ aliases, ¬ IsGeneration b a) (hw : w.Orderly names aliases) :
    w'.Orderly names aliases := by
  induction h with
  | nil => exact hw
  | @cons w w₁ w₂ w₃ request requests t t' r hpass hrun hrest ih =>
    have hw₁ : w₁.Orderly names aliases := ⟨hpass.indexNames.trans hw.1, hpass.1 ▸ hw.2⟩
    have hw₂ := request.keepsOrder (hkeys _ List.mem_cons_self) hshape hrun
      (fun u hu => hcalm u (List.mem_append_left _ hu)) hw₁
    exact ih (fun u hu => hcalm u (List.mem_append_right _ hu))
      (fun request hr => hkeys request (List.mem_cons_of_mem _ hr)) hw₂

/-- The collections with some aliases are well formed. -/
structure Store.WellFormed (aliases : List String) (store : Store) : Prop where
  /-- An alias is bound to one index at most. -/
  single : ∀ i j a, store.Carries i a → store.Carries j a → i = j
  /-- What is bound to an alias is a generation of its own collection. -/
  own : ∀ i a, store.Carries i a → a ∈ aliases ∧ IsGeneration a i
  /-- And there is no generation that is newer or as new. -/
  newest : ∀ i a, store.Carries i a → ∀ j, store.contains j = true → j ≠ i → EarlierUnder a j i
  /-- An index is bound to one alias at most. -/
  unshared : ∀ i a b, store.Carries i a → store.Carries i b → a = b
  free : ∀ i, store.blocked? i ≠ some true

/-- However long a service runs, as long as no call goes wrong its collections are well formed between
two requests, where no alias looks like a generation of another collection. -/
theorem History.wellFormed {service : Service} {requests : List Request} {t : List (Turn Memory)}
    {w' : World} (h : History .none (.empty service) requests t w')
    (hcalm : ∀ u ∈ t, u.before.pendingFailures = 0)
    (hshape : ∀ request ∈ requests, ∀ other ∈ requests,
      ¬ IsGeneration (service.aliasName other.key) (service.aliasName request.key)) :
    w'.memory.store.WellFormed (requests.map fun request => service.aliasName request.key) := by
  let aliases := requests.map fun request => service.aliasName request.key
  have hkeys : ∀ request ∈ requests, service.aliasName request.key ∈ aliases :=
    fun request hr => List.mem_map_of_mem hr
  have hshapes : ∀ a ∈ aliases, ∀ b ∈ aliases, ¬ IsGeneration b a := by
    intro a ha b hb
    obtain ⟨request, hr, rfl⟩ := List.mem_map.1 ha
    obtain ⟨other, ho, rfl⟩ := List.mem_map.1 hb
    exact hshape request hr other ho
  have hempty : (World.empty service).Orderly service.indexNames aliases :=
    ⟨rfl, Store.Orderly.empty⟩
  obtain ⟨-, horderly⟩ := h.keepsOrder hcalm hkeys hshapes hempty
  refine ⟨fun i j a => horderly.unique, fun i a hi => ⟨?_, horderly.owned i a hi⟩, horderly.newest,
    fun i a b ha hb => (horderly.owned i a ha).unique (horderly.owned i b hb), horderly.free⟩
  obtain ⟨b, hb, time, hname⟩ := horderly.named i hi.contains
  have hgeneration := horderly.owned i a hi
  rw [hname] at hgeneration
  rw [hgeneration.unique isGeneration_append]
  exact hb

/-- Two collections that are made, moved, cloned, swept and deleted from. -/
theorem wellFormed_after_moves_and_clones :
    let script := [Request.ensureExists .english, .reindex .english, .clone .german "craftcms_en",
      .reindex .german, .clone .german "craftcms_en", .deleteOrphaned .english, .delete 7 .german]
    let run := (World.empty .plain).rehearse (script.map fun request => (request, []))
    run.2.memory.store.names =
        ["craftcms_de_1700000000", "craftcms_de_1700000001", "craftcms_en_1700000001"] ∧
      run.2.memory.store.carriers "craftcms_de" = ["craftcms_de_1700000001"] ∧
      run.2.memory.store.WellFormed (script.map fun request => Service.plain.aliasName request.key) := by
  intro script run
  have hallowed : ∀ line ∈ script.map fun request => (request, ([] : List Cue)),
      ∀ cue ∈ line.2, cue.AllowedBy .none := by
    simp [script]
  have hhistory : History .none (.empty .plain) script run.1 run.2 := World.history_rehearse hallowed
  exact ⟨by decide +kernel, by decide +kernel,
    hhistory.wellFormed (World.calm_rehearse rfl) (by decide +kernel)⟩

end SiteSearch
