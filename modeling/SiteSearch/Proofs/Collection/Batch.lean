import Mathlib.Data.List.Perm.Subperm
import SiteSearch.Proofs.Alias.Ownership
import SiteSearch.Proofs.Collection.Steady
import SiteSearch.Service.Administration

/-!
# One operation over many collections

An operation that is run over a list of collections comes for each of them to what it comes to for that
collection alone, whatever becomes of the others before it (`World.Independent`). This is so for every
operation that takes the same course in worlds that are abreast (`Operation.Homely`). What a batch has
done so far is told collection by collection: under the names reserved for a collection that has had its
turn the store is as the collection alone would have left it, and everywhere else it is as it was
(`World.Merges`). That is a description without an order, so the order of the collections makes no
difference to the engine.
-/

namespace SiteSearch

/-! ## What a run counts -/

namespace Memory

instance : RightCommutative Memory.count where
  right_comm m c c' := by
    cases m
    simp only [Memory.count]
    congr 1
    · split <;> split <;> omega
    · split <;> split <;> omega

/-- Besides the store and the failures that are asked for, a call changes only the counts. -/
theorem answer_eq_count (c : EngineCall) (m : Memory) :
    (answer c m).2 = { m.count c with
      store := (answer c m).2.store, pendingFailures := (answer c m).2.pendingFailures } := by
  have hupdate : ∀ (m : Memory) (r : Except EngineError Store), (m.update r).2 = { m with
      store := (m.update r).2.store, pendingFailures := (m.update r).2.pendingFailures } := by
    intro m r
    cases r <;> rfl
  cases c with
  | createIndex | deleteIndex | putAlias | deleteAlias | putSettings | putMapping | cloneIndex
  | indexDocument | deleteDocument => exact hupdate _ _
  | reindex body =>
    show ((m.count _).reindex body).2 = _
    unfold answer serve Memory.reindex
    dsimp only
    split <;> rfl
  | _ => rfl

/-- Counting does not look at what is stored. -/
theorem foldl_count_with {store : Store} {pendingFailures : Nat} :
    ∀ {calls : List EngineCall} {m : Memory},
      calls.foldl count { m with store, pendingFailures } =
        { calls.foldl count m with store, pendingFailures }
  | [], _ => rfl
  | c :: _, m => foldl_count_with (m := m.count c)

end Memory

/-- What a run has counted is known from its calls. -/
theorem Leads.counted : ∀ {t : List (Turn Memory)} {m m' : Memory},
    Leads Memory.answer .none m t m' → m' = { (t.map Turn.call).foldl Memory.count m with
      store := m'.store, pendingFailures := m'.pendingFailures }
  | [], _, _, h => by
    obtain rfl := h
    rfl
  | ⟨c, o, before, after⟩ :: t, m, m', ⟨_, ha, hl⟩ => by
    have hrest := hl.counted
    dsimp only at ha hrest
    rw [ha.of_none.2, Memory.answer_eq_count, Memory.foldl_count_with] at hrest
    exact hrest

/-- Runs that make the same calls in any order count the same. -/
theorem Leads.eq_of_perm {t t' : List (Turn Memory)} {m m₁ m₂ : Memory}
    (h₁ : Leads Memory.answer .none m t m₁) (h₂ : Leads Memory.answer .none m t' m₂)
    (hcalls : (t.map Turn.call).Perm (t'.map Turn.call)) (hstore : m₁.store = m₂.store)
    (hpending : m₁.pendingFailures = m₂.pendingFailures) : m₁ = m₂ := by
  rw [h₁.counted, h₂.counted, hcalls.foldl_eq, hstore, hpending]

namespace Operation

variable {α : Type}

/-! ## Operations that may be run over many collections -/

/-- The operation takes the same course in worlds that are abreast for its collection, and asks for nothing
but what belongs to the collection. -/
structure Homely (op : CollectionKey → Operation α) : Prop where
  steady : ∀ (base : Service) (key : CollectionKey) (start start' : Store),
    Store.AlikeAround (base.aliasName key) start start' →
      Steady base key start start' [] (op key) fun _ => True
  tends : ∀ (names : IndexNames) (key : CollectionKey),
    AsksOnly names (EngineCall.Tends (names.aliasName key)) (op key) fun _ => True

theorem homely_reindex : Homely reindex :=
  ⟨fun _ _ _ _ => steady_reindex, asksOnly_reindex⟩

theorem homely_deleteCollection : Homely deleteCollection :=
  ⟨fun _ _ _ _ => steady_deleteCollection, fun _ _ =>
    asksOnly_deleteCollection (fun _ => .intro) (fun _ _ => .inl) fun _ => id⟩

theorem homely_deleteOrphaned : Homely deleteOrphaned :=
  ⟨fun _ _ _ _ => steady_deleteOrphaned, fun _ _ =>
    asksOnly_deleteOrphaned (fun _ => .intro) (fun _ => .intro) fun _ => id⟩

theorem homely_updateMapping : Homely updateMapping :=
  ⟨fun _ _ _ _ => steady_updateMapping, fun _ _ => asksOnly_updateMapping fun _ => .intro⟩

/-- A run for one collection leaves the aliases of all others where they are. -/
theorem Homely.carries_iff {op : CollectionKey → Operation α} (hop : Homely op) {key : CollectionKey}
    {w w' : World} {t : List (Turn Memory)} {r : Except ServiceError α} {faults : Faults}
    (hw : w.memory.store.WellNamed) (h : (op key).Runs faults w t r w') {i b : String}
    (hb : b ≠ w.service.aliasName key) :
    w'.memory.store.Carries i b ↔ w.memory.store.Carries i b := by
  obtain ⟨-, hcalls, -⟩ := hop.tends _ key rfl h.1
  refine (h.2.keeps_store (J := fun store => store.Carries i b ↔ w.memory.store.Carries i b)
    (P := fun x => x.1.Tends (w.service.aliasName key)) (fun {x store} hx hs => ?_) hcalls .rfl).2
  refine ⟨fun hi => ?_, fun hi => ?_⟩
  · rcases Store.carries_after_of_tends hx hi with hi | ⟨rfl, -⟩
    · exact hs.1 hi
    · exact absurd rfl hb
  · exact (hs.2 hi).after_of_tends (hw i b hi) hx hb

end Operation

/-! ## What a batch has done so far -/

namespace World

open Operation

variable {α : Type} {op : CollectionKey → Operation α} {w v v' : World} {done : List CollectionKey}
variable {key : CollectionKey} {t : List (Turn Memory)} {r : Except ServiceError α}

/-- The world that an operation on a single collection leaves, no call going wrong. -/
def leftBy (w : World) (op : CollectionKey → Operation α) (key : CollectionKey) : World :=
  ((op key).rehearse [] w).2.2

/-- Some collections have had their turn. Under their names the store is as each of them alone would have
left it, and elsewhere as it was. -/
structure Merges (w : World) (op : CollectionKey → Operation α) (done : List CollectionKey) (v : World) :
    Prop where
  like : w.service.Like v.service
  calm : v.memory.pendingFailures = 0
  own : ∀ key ∈ done, ∀ i, IsReserved (w.service.aliasName key) i →
    v.memory.store.get? i = (w.leftBy op key).memory.store.get? i
  others : ∀ i, (∀ key ∈ done, ¬ IsReserved (w.service.aliasName key) i) →
    v.memory.store.get? i = w.memory.store.get? i

/-- Aliases of other collections are where they were. -/
theorem Merges.carries_iff (h : w.Merges op done v) (hop : Homely op) (hw : w.memory.store.WellNamed)
    {b i : String} (hb : ∀ key ∈ done, b ≠ w.service.aliasName key) :
    v.memory.store.Carries i b ↔ w.memory.store.Carries i b := by
  by_cases hi : ∃ key ∈ done, IsReserved (w.service.aliasName key) i
  · obtain ⟨key, hkey, hi⟩ := hi
    have hrun : (op key).Runs .none w _ _ (w.leftBy op key) := (op key).runs_rehearse_nil w
    have halone := hop.carries_iff hw hrun (i := i) (hb key hkey)
    unfold Store.Carries at halone ⊢
    rw [h.own key hkey i hi]
    exact halone
  · unfold Store.Carries
    rw [h.others i fun key hkey hreserved => hi ⟨key, hkey, hreserved⟩]

/-- The next collection has its turn as if it were the only one. -/
theorem Merges.next (h : w.Merges op done v) (hop : Homely op) (hw : w.memory.store.WellNamed)
    (hcalm : w.memory.pendingFailures = 0)
    (hkey : ∀ other ∈ done, w.service.aliasName other ≠ w.service.aliasName key ∧
      ¬ IsGeneration (w.service.aliasName other) (w.service.aliasName key) ∧
      ¬ IsGeneration (w.service.aliasName key) (w.service.aliasName other))
    (hrun : (op key).Runs .none v t r v') :
    t.map Turn.call = ((op key).rehearse [] w).1.map Turn.call ∧
      r = ((op key).rehearse [] w).2.1 ∧ w.Merges op (key :: done) v' := by
  have hapart : ∀ i, IsReserved (w.service.aliasName key) i → ∀ other ∈ done,
      ¬ IsReserved (w.service.aliasName other) i := by
    intro i hi other hother
    obtain ⟨hne, hshape, hshape'⟩ := hkey other hother
    exact hi.disjoint hne.symm hshape' hshape
  have haround : Store.AlikeAround (w.service.aliasName key) w.memory.store v.memory.store := by
    constructor
    · exact fun i hi => .inr (hw i _ hi)
    · intro i hi
      exact .inr (hw i _ ((h.carries_iff hop hw fun other hother => (hkey other hother).1.symm).1 hi))
    · intro b hb
      have hne : ∀ other ∈ done, b ≠ w.service.aliasName other := by
        rintro other hother rfl
        exact (hkey other hother).2.2 hb
      exact exists_congr fun i => and_congr_right fun _ => (h.carries_iff hop hw hne).symm
  have habreast : World.Abreast w.service key w.memory.store v.memory.store [] w v :=
    { like := .refl, like' := h.like, calm := hcalm, calm' := h.calm
      stores := ⟨fun i hi => (h.others i (hapart i hi)).symm, fun _ _ => rfl, fun _ _ => rfl,
        by simp, by simp⟩ }
  obtain ⟨hcalls, hends⟩ := hop.steady _ _ _ _ haround habreast ((op key).runs_rehearse_nil w) hrun
  obtain ⟨hr, hbehind⟩ : r = ((op key).rehearse [] w).2.1 ∧
      World.Abreast w.service key w.memory.store v.memory.store [] (w.leftBy op key) v' := by
    unfold leftBy
    generalize ((op key).rehearse [] w).2.1 = r₀ at hends ⊢
    cases hends with
    | ok hw => exact ⟨congrArg _ hw.1.symm, hw.2.2⟩
    | error hw => exact ⟨rfl, hw⟩
  refine ⟨hcalls.symm, hr, hbehind.like', hbehind.calm', ?_, ?_⟩
  · intro other hother i hi
    rcases List.mem_cons.1 hother with rfl | hother
    · exact (hbehind.stores.same i hi).symm
    · have hnot : ¬ IsReserved (w.service.aliasName key) i := fun hown => hapart i hown other hother hi
      rw [hbehind.stores.kept' i hnot]
      exact h.own other hother i hi
  · intro i hi
    obtain ⟨hnot, hrest⟩ := List.forall_mem_cons.1 hi
    rw [hbehind.stores.kept' i hnot]
    exact h.others i hrest

theorem Merges.refl (hcalm : w.memory.pendingFailures = 0) : w.Merges op [] w :=
  ⟨.refl, hcalm, by simp, fun _ _ => rfl⟩

/-- What is told of the work makes no difference. -/
theorem Merges.recorded {event : MetricEvent} (h : w.Merges op done v)
    (hrun : (record event).Runs .none v t (.ok ()) v') : t = [] ∧ w.Merges op done v' := by
  obtain ⟨rfl, -, rfl⟩ := hrun.silent fun _ _ _ => says_record.1
  exact ⟨rfl, { h with like := h.like.trans ⟨_, _, rfl⟩ }⟩

/-- Aliases of collections that are looked after together: all different, and none of them a generation
of another by name. -/
def Separate (a b : String) : Prop :=
  a ≠ b ∧ ¬ IsGeneration a b ∧ ¬ IsGeneration b a

instance (a b : String) : Decidable (Separate a b) :=
  inferInstanceAs (Decidable (_ ∧ _ ∧ _))

theorem Separate.symm {a b : String} (h : Separate a b) : Separate b a :=
  ⟨h.1.symm, h.2.2, h.2.1⟩

/-- A batch comes to one outcome for each collection, in their order, and makes the calls of each. -/
theorem Merges.batch {name : String} (hop : Homely op) (hw : w.memory.store.WellNamed)
    (hcalm : w.memory.pendingFailures = 0) :
    ∀ {keys done : List CollectionKey} {v v' : World} {t : List (Turn Memory)}
      {r : Except ServiceError (List (SiteOutcome α))}, w.Merges op done v →
      ((keys.map w.service.aliasName).Pairwise Separate) →
      (∀ key ∈ keys, ∀ other ∈ done,
        Separate (w.service.aliasName other) (w.service.aliasName key)) →
      (forEachSite name op keys).Runs .none v t r v' →
      r = .ok (keys.map fun key => ⟨key, ((op key).rehearse [] w).2.1⟩) ∧
        t.map Turn.call = keys.flatMap (fun key => ((op key).rehearse [] w).1.map Turn.call) ∧
        w.Merges op (keys.reverse ++ done) v'
  | [], done, v, v', t, r, h, _, _, hrun => by
    obtain ⟨rfl, rfl, rfl⟩ := hrun.silent fun _ _ _ => says_pure.1
    exact ⟨rfl, rfl, h⟩
  | key :: keys, done, v, v', t, r, h, hkeys, hdone, hrun => by
    obtain ⟨hfirst, hkeys⟩ := List.pairwise_cons.1 hkeys
    obtain ⟨hkey, hdone⟩ := List.forall_mem_cons.1 hdone
    unfold forEachSite at hrun
    obtain ⟨r₁, v₁, t₁, t₂, rfl, hsingle, hbehind⟩ := runs_outcome_bind hrun
    obtain ⟨hcalls, rfl, hmerged⟩ := h.next hop hw hcalm hkey hsingle
    obtain ⟨e, htold, -⟩ | ⟨_, v₂, t₃, t₄, rfl, htold, hrest⟩ := runs_bind.1 hbehind
    · cases (says_record.1 htold.1).2.1
    obtain ⟨rfl, hmerged⟩ := hmerged.recorded htold
    have hdone' : ∀ other ∈ keys, ∀ earlier ∈ key :: done,
        Separate (w.service.aliasName earlier) (w.service.aliasName other) := fun other hother =>
      List.forall_mem_cons.2 ⟨hfirst _ (List.mem_map_of_mem hother), hdone other hother⟩
    obtain ⟨e, hothers, -⟩ | ⟨outcomes, v₃, t₅, t₆, rfl, hothers, hpure⟩ := runs_bind.1 hrest
    · cases (hmerged.batch hop hw hcalm hkeys hdone' hothers).1
    obtain ⟨houtcomes, hcalls', hmerged⟩ := hmerged.batch hop hw hcalm hkeys hdone' hothers
    obtain rfl := Except.ok.inj houtcomes
    obtain ⟨rfl, rfl, rfl⟩ := hpure.silent fun _ _ _ => says_pure.1
    refine ⟨rfl, ?_, by simpa using hmerged⟩
    simp [hcalls, hcalls']

/-- A batch comes for each collection to what the operation comes to for that collection alone, one outcome
for each in their order, and leaves the engine in the same state whatever their order is. -/
structure Independent (w : World) (batch : List CollectionKey → Operation (List (SiteOutcome α)))
    (op : CollectionKey → Operation α) (keys : List CollectionKey) : Prop where
  outcomes : ((batch keys).rehearse [] w).2.1 =
    .ok (keys.map fun key => ⟨key, ((op key).rehearse [] w).2.1⟩)
  order : ∀ keys', keys'.Perm keys →
    ((batch keys').rehearse [] w).2.2.memory = ((batch keys).rehearse [] w).2.2.memory

/-- Behind two batches over the same collections the stores are the same. -/
theorem Merges.store_eq {done' : List CollectionKey} (h : w.Merges op done v) (h' : w.Merges op done' v')
    (hsame : ∀ key, key ∈ done ↔ key ∈ done') : v.memory.store = v'.memory.store := by
  refine NameMap.ext_get? fun i => ?_
  by_cases hi : ∃ key ∈ done, IsReserved (w.service.aliasName key) i
  · obtain ⟨key, hkey, hi⟩ := hi
    rw [h.own key hkey i hi, h'.own key ((hsame key).1 hkey) i hi]
  · rw [h.others i fun key hkey hreserved => hi ⟨key, hkey, hreserved⟩,
      h'.others i fun key hkey hreserved => hi ⟨key, (hsame key).2 hkey, hreserved⟩]

theorem independent_forEachSite {name : String} {keys : List CollectionKey} (hop : Homely op)
    (hw : w.memory.store.WellNamed) (hcalm : w.memory.pendingFailures = 0)
    (hkeys : (keys.map w.service.aliasName).Pairwise Separate) :
    w.Independent (forEachSite name op) op keys := by
  have hstart : w.Merges op [] w := .refl hcalm
  obtain ⟨houtcomes, hcalls, hmerged⟩ :=
    hstart.batch hop hw hcalm hkeys (by simp) ((forEachSite name op keys).runs_rehearse_nil w)
  refine ⟨houtcomes, fun keys' hperm => ?_⟩
  have hkeys' : (keys'.map w.service.aliasName).Pairwise Separate :=
    (hperm.map _).symm.pairwise hkeys Separate.symm
  obtain ⟨-, hcalls', hmerged'⟩ :=
    hstart.batch hop hw hcalm hkeys' (by simp) ((forEachSite name op keys').runs_rehearse_nil w)
  refine Leads.eq_of_perm ((forEachSite name op keys').runs_rehearse_nil w).2
    ((forEachSite name op keys).runs_rehearse_nil w).2 ?_ ?_ ?_
  · rw [hcalls, hcalls']
    exact hperm.flatMap_right _
  · exact hmerged'.store_eq hmerged fun key => by simp [hperm.mem_iff]
  · exact hmerged'.calm.trans hmerged.calm.symm

end World

end SiteSearch
