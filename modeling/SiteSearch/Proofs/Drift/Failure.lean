import SiteSearch.Proofs.Alias.Orphans
import SiteSearch.Proofs.Drift.Agreement
import SiteSearch.Proofs.Memory.Showing
import SiteSearch.Proofs.Service.Cloning
import SiteSearch.Proofs.Service.Deletion
import SiteSearch.Proofs.Service.Keeping

/-!
# What is remembered behind a failure

A signature is remembered behind a success only, so a request that fails leaves at most what was
remembered before, or what it has just been told (`World.FailsInto.remembered`). The engine need not be
as it was: a reindex may have moved the alias before it fails, and a deletion may have unbound it. What
is remembered then is coherent if and only if the engine still reports the same behind the alias
(`Request.coherent_after_failure_iff`); no other request fails behind a change of its alias.
-/

namespace SiteSearch

/-- An alias is given to an index or taken from it. -/
inductive Exchange.Rebinds (a : String) : Exchange → Prop where
  | putAlias (index : String) : Rebinds a ⟨.putAlias index a, .ok ()⟩
  | deleteAlias (index : String) : Rebinds a ⟨.deleteAlias index a, .ok ()⟩

variable {key : CollectionKey} {w w' : World} {t : List (Turn Memory)} {faults : Faults}
variable {e : ServiceError}

namespace World

/-- The signature that the engine reports for a collection. -/
def reported? (w : World) (key : CollectionKey) : Option Signature :=
  w.memory.store.reported? (w.service.aliasName key)

/-- Whether the alias of a collection is bound. -/
def isBound (w : World) (key : CollectionKey) : Bool :=
  w.memory.store.aliasExists (w.service.aliasName key)

/-- Nothing is remembered for a collection, or it is bound and what is remembered is what the engine
reports. -/
def CoherentFor (w : World) (key : CollectionKey) : Prop :=
  ∀ signature, w.service.cache.peek? key = some signature →
    w.isBound key = true ∧ w.reported? key = some signature

instance (w : World) (key : CollectionKey) : Decidable (w.CoherentFor key) :=
  match h : w.service.cache.peek? key with
  | none => .isTrue fun signature hsome => by rw [h] at hsome; cases hsome
  | some signature =>
    decidable_of_iff (w.isBound key = true ∧ w.reported? key = some signature) (by
      unfold CoherentFor
      rw [h]
      simp)

/-- What a failure leaves. Only what was reported before is remembered, and as long as the alias has not
been given or taken, nothing is remembered or the engine shows the same behind it. -/
structure FailsInto (w : World) (key : CollectionKey) (d : List Exchange) (w' : World) : Prop where
  names : w'.service.indexNames = w.service.indexNames
  remembered : ∀ signature, w'.service.cache.peek? key = some signature →
    w.reported? key = some signature
  shown : (∀ x ∈ d, ¬ x.Rebinds (w.service.aliasName key)) → w'.service.cache.peek? key = none ∨
    w.memory.store.ShowsAlike (w.service.aliasName key) w'.memory.store

/-- A failure that has learnt nothing and forgotten at most. -/
theorem CoherentFor.failsInto (hw : w.CoherentFor key) (h : w.service.Forgets w'.service)
    {d : List Exchange} (hshown : (∀ x ∈ d, ¬ x.Rebinds (w.service.aliasName key)) →
      w.memory.store.ShowsAlike (w.service.aliasName key) w'.memory.store) :
    w.FailsInto key d w' where
  names := h.names
  remembered signature hpeek := (hw signature (h.cache key signature hpeek)).2
  shown hd := .inr (hshown hd)

/-- A failure where the collection was not bound: nothing was remembered. -/
theorem CoherentFor.failsInto_of_unbound (hw : w.CoherentFor key) (h : w.service.Forgets w'.service)
    {d : List Exchange} (hunbound : w.isBound key = false) : w.FailsInto key d w' := by
  have hnone : ∀ signature, w'.service.cache.peek? key ≠ some signature := by
    intro signature hpeek
    rw [(hw signature (h.cache key signature hpeek)).1] at hunbound
    cases hunbound
  refine ⟨h.names, fun signature hpeek => absurd hpeek (hnone signature), fun _ => .inl ?_⟩
  exact Option.eq_none_iff_forall_ne_some.2 hnone

/-- Behind a failure, what is remembered is coherent if it is gone or if the engine reports the same. -/
theorem FailsInto.coherent_iff {d : List Exchange} (h : w.FailsInto key d w') :
    w'.CoherentFor key ↔ w'.service.cache.peek? key = none ∨
      w'.isBound key = true ∧ w'.reported? key = w.reported? key := by
  unfold CoherentFor
  cases hpeek : w'.service.cache.peek? key with
  | none => simp
  | some signature => simp [h.remembered signature hpeek]

theorem FailsInto.coherent {d : List Exchange} (h : w.FailsInto key d w')
    (hd : ∀ x ∈ d, ¬ x.Rebinds (w.service.aliasName key))
    (hbound : w.isBound key = true ∨ w.memory.store.contains (w.service.aliasName key) = false) :
    w'.CoherentFor key := by
  intro signature hpeek
  have hreported := h.remembered signature hpeek
  have halias : w'.service.aliasName key = w.service.aliasName key := Service.aliasName_congr h.names
  rcases h.shown hd with hnone | hshown
  · rw [hpeek] at hnone
    cases hnone
  · rw [isBound, World.reported?, halias, hshown.aliasExists, hshown.reported]
    refine ⟨?_, hreported⟩
    rcases hbound with hbound | hname
    · exact hbound
    · cases hunbound : w.memory.store.aliasExists (w.service.aliasName key) with
      | true => rfl
      | false =>
        rw [World.reported?, Store.reported?_eq_none hname hunbound] at hreported
        cases hreported

end World

/-! ## Operations that fail -/

namespace Operation.Runs

section

variable (hfaults : faults ≠ .any) (hw : w.CoherentFor key)

include hfaults hw

theorem ensureExists_fails (h : (ensureExists key).Runs faults w t (.error e) w') :
    w.FailsInto key (t.map Turn.exchange) w' := by
  obtain ⟨hnames, -⟩ := asksOnly_ensureExists _ key rfl h.1
  obtain ⟨hsame, hcache, -⟩ | ⟨listed, found, s₁, s₂, s₃, o, -, -, -, hfree, -, -, hr, hcache⟩ :=
    h.making hfaults
  · refine hw.failsInto ⟨hnames, by simp [hcache]⟩ fun _ => ?_
    rw [hsame]
    exact .refl
  · refine hw.failsInto_of_unbound ⟨hnames, ?_⟩ (Store.aliasExists_eq_false.2 hfree)
    cases o with
    | ok => cases hr
    | error => simp [hcache, Except.isOk, Except.toBool]

/-- A reindex changes what is shown behind the alias with the alias only. -/
theorem reindex_fails (h : (reindex key).Runs faults w t (.error e) w') :
    w.FailsInto key (t.map Turn.exchange) w' := by
  refine hw.failsInto (failsUnlearned_reindex h.1) fun hd => ?_
  obtain ⟨-, hcalls, -⟩ := keeps_reindex .refl h.1
  refine Store.showsAlike_leads h.2 hfaults fun x hx hok => ?_
  have hcall := hcalls x hx
  have hno := hd x hx
  obtain ⟨c, o⟩ := x
  cases hcall with
  | createIndex hnew =>
    refine ⟨?_, Store.contains_aliases_indexOfBody⟩
    rintro rfl
    exact not_isGeneration_self hnew
  | putAlias hnew =>
    cases o with
    | ok => exact absurd (.putAlias _) hno
    | error => cases hok
  | deleteAlias old =>
    cases o with
    | ok => exact absurd (.deleteAlias _) hno
    | error => cases hok
  | _ => trivial

/-- A clone is made only where its alias is not bound. -/
theorem clone_fails {source : String} (h : (clone key source).Runs faults w t (.error e) w') :
    w.FailsInto key (t.map Turn.exchange) w' := by
  obtain ⟨hnames, -⟩ := asksOnly_clone _ key source rfl h.1
  obtain ⟨-, hcache, hscouts⟩ | ⟨m, halias, o, found, d₁, d₂, r', service₁, -, -, -, hd, hop, hr, hcache⟩ :=
    h.1.clone
  · have hidle : ∀ x ∈ t.map Turn.exchange, x.Idle := by
      intro x hx
      cases hscouts x hx with
      | aliasExists | getAlias | getIndices => exact .looks (fun _ => rfl) _
    refine hw.failsInto ⟨hnames, by simp [hcache]⟩ fun _ => ?_
    rw [(h.2.idle hfaults hidle).2]
    exact .refl
  · obtain ⟨s₁, t₁, -, hlook, -⟩ := h.2.first hd
    have hforgets : w.service.Forgets service₁ :=
      learnsNothing_whileBlocked learnsNothing_cloneBlocked hop
    refine hw.failsInto_of_unbound ⟨hnames, ?_⟩ ?_
    · cases r' with
      | ok => cases hr
      | error =>
        rw [hcache]
        exact hforgets.cache
    · rw [World.isBound, ← halias]
      exact Except.ok.inj hlook.of_ok.1

theorem updateMapping_fails (h : (updateMapping key).Runs faults w t (.error e) w') :
    w.FailsInto key (t.map Turn.exchange) w' := by
  obtain ⟨o, ht, hr, hnames, hcache⟩ := h.1.updateMapping
  obtain ⟨s₁, t₁, rfl, hput, ht₁, hl₁⟩ := h.2.first ht
  cases o with
  | ok => cases hr
  | error =>
    refine hw.failsInto ⟨hnames, by simp [hcache, Except.isOk, Except.toBool]⟩ fun _ => ?_
    rw [(hl₁.none ht₁).2, hput.store_of_error hfaults]
    exact .refl

omit hfaults in
/-- A look for drift remembers at most what the engine reports. -/
theorem signatureDiff_tells {r : Except ServiceError SignatureDiff}
    (h : (signatureDiff key).Runs faults w t r w') :
    w'.memory.store = w.memory.store ∧ w'.service.indexNames = w.service.indexNames ∧
      ∀ signature, w'.service.cache.peek? key = some signature → w.reported? key = some signature := by
  obtain ⟨r', hindexed, rfl⟩ := h.1.signatureDiff
  obtain ⟨hnames, -, ⟨signature, -, ht, -, hsame⟩ | ⟨-, o, ht, -, hlearnt⟩⟩ :=
    hindexed.indexedSignature
  · refine ⟨by rw [(h.2.none ht).2], hnames, fun other hpeek => ?_⟩
    rw [hsame] at hpeek
    exact (hw other hpeek).2
  · obtain ⟨s₁, t₁, rfl, hlook, ht₁, hl₁⟩ := h.2.first ht
    refine ⟨?_, hnames, fun other hpeek => ?_⟩
    · rw [(hl₁.none ht₁).2]
      exact hlook.store_of_looks fun _ => rfl
    · rw [hlearnt] at hpeek
      cases o with
      | error => exact (hw other hpeek).2
      | ok live =>
        have hlive : w.memory.store.getMapping (w.service.aliasName key) = .ok live := hlook.of_ok.1
        rw [World.reported?, Store.reported?, hlive]
        exact (if_pos rfl).symm.trans hpeek

theorem syncMapping_fails (h : (syncMapping key).Runs faults w t (.error e) w') :
    w.FailsInto key (t.map Turn.exchange) w' := by
  have hleft : ∀ {d : List Exchange} {w₁ : World}, w₁.memory.store = w.memory.store →
      w₁.service.indexNames = w.service.indexNames →
      (∀ signature, w₁.service.cache.peek? key = some signature → w.reported? key = some signature) →
      w.FailsInto key d w₁ := by
    intro d w₁ hstore hnames hremembered
    refine ⟨hnames, hremembered, fun _ => .inr ?_⟩
    rw [hstore]
    exact .refl
  unfold syncMapping at h
  obtain ⟨e', hlook, -⟩ | ⟨diff, w₁, t₁, t₂, rfl, hlook, hrest⟩ := runs_bind.1 h
  · obtain ⟨hstore, hnames, hremembered⟩ := signatureDiff_tells hw hlook
    exact hleft hstore hnames hremembered
  obtain ⟨hstore, hnames, hremembered⟩ := signatureDiff_tells hw hlook
  split at hrest
  · cases hrest.of_pure.1
  split at hrest
  · cases hrest.of_pure.1
  obtain ⟨r', hupdate, hr⟩ := hrest.of_mapped
  obtain ⟨o, ht, rfl, hnames', hcache⟩ := hupdate.1.updateMapping
  obtain ⟨s₁, t₃, rfl, hput, ht₃, hl₃⟩ := hupdate.2.first ht
  cases o with
  | ok => cases hr
  | error =>
    refine hleft ?_ (hnames'.trans hnames) fun signature hpeek => hremembered signature ?_
    · rw [(hl₃.none ht₃).2, hput.store_of_error hfaults, hstore]
    · rw [hcache] at hpeek
      exact hpeek

/-- What a sweep deletes does not carry the alias. -/
theorem deleteOrphaned_fails (h : (deleteOrphaned key).Runs faults w t (.error e) w') :
    w.FailsInto key (t.map Turn.exchange) w' := by
  refine hw.failsInto (learnsNothing_deleteOrphaned h.1) fun _ => ?_
  obtain ⟨t₁, t₂, m, -, -, hm, hl, hdeletes, -⟩ := h.sweeps
  rw [← hm]
  refine Store.showsAlike_leads hl hfaults fun x hx _ => ?_
  obtain ⟨i, hcall, -, hgeneration, hfree⟩ := hdeletes x hx
  rw [hcall, hm]
  refine ⟨?_, hfree⟩
  rintro rfl
  exact not_isGeneration_self hgeneration

/-- What a deletion deletes does not carry the alias any more. -/
theorem deleteCollection_fails (h : (deleteCollection key).Runs faults w t (.error e) w') :
    w.FailsInto key (t.map Turn.exchange) w' := by
  refine hw.failsInto (learnsNothing_deleteCollection h.1) fun hd => ?_
  obtain ⟨listed, d, ht, hrest⟩ := h.1.deleteCollection
  obtain ⟨s₁, t₁, rfl, hlist, ht₁, -⟩ := h.2.first ht
  refine Store.showsAlike_leads h.2 hfaults fun x hx hok => ?_
  rw [ht] at hx hd
  rcases List.mem_cons.1 hx with rfl | hx
  · trivial
  obtain rfl | ⟨found, hfound, hcalls⟩ := hrest
  · cases hx
  obtain ⟨index, hindex, hgeneration, ⟨a, hcall⟩ | ⟨hcall, hall⟩⟩ := hcalls x hx
  · have hno := hd x (List.mem_cons_of_mem _ hx)
    obtain ⟨c, o⟩ := x
    obtain rfl : c = .deleteAlias index.name a := hcall
    rintro rfl
    cases o with
    | ok => exact hno (.deleteAlias _)
    | error => cases hok
  · rw [hcall]
    refine ⟨?_, fun hcarries => ?_⟩
    · intro heq
      rw [heq] at hgeneration
      exact not_isGeneration_self hgeneration
    · obtain rfl | ⟨-, rfl⟩ := foundIn_eq_ok hfound
      · obtain ⟨indexes, rfl, -⟩ := Store.describe_eq_ok.1 hlist.describe_eq
        obtain ⟨-, held, hget, haliases⟩ := Store.mem_described.1 hindex
        have hmem : w.service.aliasName key ∈ index.aliases := by
          rw [haliases, NameMap.mem_names]
          exact (Store.carries_iff hget).1 hcarries
        exact hd _ (List.mem_cons_of_mem _ (hall _ hmem)) (.deleteAlias _)
      · cases hindex

omit hfaults hw in
/-- A collection that could not be made has not been bound. -/
theorem ensureExists_fails_unbound (h : (ensureExists key).Runs faults w t (.error e) w') :
    ∀ x ∈ t.map Turn.exchange, ¬ x.Rebinds (w.service.aliasName key) := by
  intro x hx hbinds
  obtain ⟨-, -, -, hscouts⟩ | ⟨listed, found, o, -, ht, hr, -⟩ := h.1.makes
  · cases hbinds <;> cases hscouts _ hx
  · rw [ht] at hx
    cases o with
    | ok => cases hr
    | error => cases hbinds <;> simp at hx

end

end Operation.Runs

/-! ## Requests that fail -/

namespace Request

open Operation

variable {request : Request}

theorem failsInto (hrequest : ¬ request.OnDocuments) (hfaults : faults ≠ .any)
    (hw : w.CoherentFor request.key) (h : request.perform.Runs faults w t (.error e) w') :
    w.FailsInto request.key (t.map Turn.exchange) w' := by
  have hfailed : ∀ {α : Type} {op : Operation α},
      (do let _ ← op; pure () : Operation Unit).Runs faults w t (.error e) w' →
        op.Runs faults w t (.error e) w' := by
    intro α op hop
    obtain ⟨a | e', hop', hr⟩ := hop.of_mapped
    · cases hr
      exact hop'
    · cases hr
  cases request with
  | ensureExists key => exact (hfailed h).ensureExists_fails hfaults hw
  | reindex key => exact (hfailed h).reindex_fails hfaults hw
  | clone key source => exact (hfailed h).clone_fails hfaults hw
  | updateMapping key => exact (hfailed h).updateMapping_fails hfaults hw
  | syncMapping key => exact (hfailed h).syncMapping_fails hfaults hw
  | deleteOrphaned key => exact (hfailed h).deleteOrphaned_fails hfaults hw
  | deleteCollection key => exact (hfailed h).deleteCollection_fails hfaults hw
  | upsert | delete | bulkDelete | indexElement => exact absurd .intro hrequest

/-- Only two requests fail behind a change of the alias. -/
theorem rebinds_of_failure (hrequest : ¬ request.OnDocuments)
    (h : request.perform.Runs faults w t (.error e) w')
    (hbinds : ∃ u ∈ t, u.exchange.Rebinds (w.service.aliasName request.key)) :
    request = .reindex request.key ∨ request = .deleteCollection request.key := by
  obtain ⟨u, hu, hbinds⟩ := hbinds
  have hx : u.exchange ∈ t.map Turn.exchange := List.mem_map_of_mem hu
  have hnone : ∀ {α : Type} {op : Operation α} {P : EngineCall → Prop},
      (∀ i a, ¬ P (.putAlias i a)) → (∀ i a, ¬ P (.deleteAlias i a)) →
      Keeps w.service P op (fun _ => True) →
      (do let _ ← op; pure () : Operation Unit).Runs faults w t (.error e) w' → False := by
    intro α op P hput hdelete hkeeps hop
    obtain ⟨r', hop'⟩ := hop.of_discarded
    obtain ⟨-, hcalls, -⟩ := hkeeps .refl hop'.1
    have hcall := hcalls _ hx
    generalize u.exchange = x at hbinds hcall
    cases hbinds with
    | putAlias => exact hput _ _ hcall
    | deleteAlias => exact hdelete _ _ hcall
  cases request with
  | reindex => exact .inl rfl
  | deleteCollection => exact .inr rfl
  | ensureExists key =>
    obtain ⟨a | e', hop, hr⟩ := Operation.Runs.of_mapped h
    · exact absurd hbinds (hop.ensureExists_fails_unbound _ hx)
    · cases hr
  | clone key source => exact (hnone nofun nofun keeps_clone h).elim
  | updateMapping key =>
    exact (hnone (P := fun c => ∃ i p, c = .putMapping i p) (by simp) (by simp)
      (keeps_updateMapping ⟨_, _, rfl⟩) h).elim
  | syncMapping key =>
    exact (hnone (P := fun c => (∃ i, c = .getMapping i) ∨ ∃ i p, c = .putMapping i p) (by simp) (by simp)
      (keeps_syncMapping (.inl ⟨_, rfl⟩) (.inr ⟨_, _, rfl⟩)) h).elim
  | deleteOrphaned key =>
    exact (hnone (P := fun c => ∀ i a, c ≠ .putAlias i a ∧ c ≠ .deleteAlias i a) (by simp) (by simp)
      (keeps_deleteOrphaned (by simp) (by simp) (by simp)) h).elim
  | upsert | delete | bulkDelete | indexElement => exact absurd .intro hrequest

/-- A request fails, each of its failed calls without effect, where what was remembered was coherent. It
stays coherent if and only if nothing is remembered any more or the engine still reports what it did.
Only a reindex and a deletion change their alias before they fail; as long as it is not changed, all
stays coherent, unless the alias is not bound and an index has its name. -/
theorem coherent_after_failure_iff (hrequest : ¬ request.OnDocuments) (hw : w.CoherentFor request.key)
    (h : request.perform.Runs .unperformed w t (.error e) w') :
    (w'.CoherentFor request.key ↔ w'.service.cache.peek? request.key = none ∨
      w'.isBound request.key = true ∧ w'.reported? request.key = w.reported? request.key) ∧
    ((∃ u ∈ t, u.exchange.Rebinds (w.service.aliasName request.key)) →
      request = .reindex request.key ∨ request = .deleteCollection request.key) ∧
    ((∀ u ∈ t, ¬ u.exchange.Rebinds (w.service.aliasName request.key)) →
      w.isBound request.key = true ∨
        w.memory.store.contains (w.service.aliasName request.key) = false →
      w'.CoherentFor request.key) := by
  have hfails := failsInto hrequest (by simp) hw h
  refine ⟨hfails.coherent_iff, rebinds_of_failure hrequest h, fun hd hbound => ?_⟩
  refine hfails.coherent (fun x hx => ?_) hbound
  obtain ⟨u, hu, rfl⟩ := List.mem_map.1 hx
  exact hd u hu

/-- A reindex fails when the old index is to be released. The content model had not changed, so what is
remembered is still what the engine reports. -/
theorem coherent_behind_reindex_of_same_model :
    let failed := Cue.unperformed (.backend "out of memory")
    let made := ((Request.ensureExists .english).perform.rehearse [] (.empty .withBody)).2.2
    let moved := (Request.reindex .english).perform.rehearse (List.replicate 8 .heard ++ [failed]) made
    moved.2.1 = .error (.ofEngine (.backend "out of memory")) ∧
      moved.2.2.service.cache.peek? .english ≠ none ∧ moved.2.2.CoherentFor .english := by
  intro failed made moved
  have hcues : ∀ cue ∈ List.replicate 8 Cue.heard ++ [failed], cue.AllowedBy .unperformed := by decide
  obtain ⟨hcoherent, hmoved, hpeek, hreported⟩ : made.CoherentFor (Request.reindex .english).key ∧
      moved.2.1 = .error (.ofEngine (.backend "out of memory")) ∧
      moved.2.2.service.cache.peek? .english ≠ none ∧
      moved.2.2.isBound .english = true ∧ moved.2.2.reported? .english = made.reported? .english := by
    decide +kernel
  have hrun : (Request.reindex .english).perform.Runs .unperformed made moved.1
      (.error (.ofEngine (.backend "out of memory"))) moved.2.2 := Operation.runs_rehearse hcues hmoved
  have hiff := (coherent_after_failure_iff (by simp [OnDocuments]) hcoherent hrun).1
  exact ⟨hmoved, hpeek, hiff.2 (.inr hreported)⟩

/-- Where a field has been added before, the alias then stands for an index that has it, and what is
remembered does not. -/
theorem incoherent_behind_reindex_of_new_field :
    let failed := Cue.unperformed (.backend "out of memory")
    let made := ((Request.ensureExists .english).perform.rehearse [] (.empty .withBody)).2.2
    let extended : World := { made with
      service := { made.service with model := made.service.model.registerField ⟨13, "summary", true⟩ } }
    let moved :=
      (Request.reindex .english).perform.rehearse (List.replicate 8 .heard ++ [failed]) extended
    extended.CoherentFor .english ∧
      (Request.reindex .english).perform.Runs .unperformed extended moved.1
        (.error (.ofEngine (.backend "out of memory"))) moved.2.2 ∧
      ¬ moved.2.2.CoherentFor .english := by
  intro failed made extended moved
  have hcues : ∀ cue ∈ List.replicate 8 Cue.heard ++ [failed], cue.AllowedBy .unperformed := by decide
  obtain ⟨hcoherent, hmoved, hbehind⟩ : extended.CoherentFor .english ∧
      moved.2.1 = .error (.ofEngine (.backend "out of memory")) ∧
      ¬ moved.2.2.CoherentFor .english := by
    decide +kernel
  exact ⟨hcoherent, Operation.runs_rehearse hcues hmoved, hbehind⟩

end Request

end SiteSearch
