import SiteSearch.Proofs.Alias.Orphans
import SiteSearch.Proofs.Service.Drifting

/-!
# What a sweep has deleted

A sweep deletes the orphans of an alias in their order, the oldest one first. So wherever it stops, the
store is the one that it has found without the first few orphans, and it is never without an index that
carries the alias. A sweep that succeeds has come to the end of the list, unless its look at the
generations has failed (`Operation.Runs.swept`). Where no call may go wrong, it does come to the end, and
there is nothing left for the next one (`Operation.deleteOrphaned_exact`).
-/

namespace SiteSearch

/-! ## Deletions one after another -/

section

variable {faults : Faults} {s s' : Memory} {t : List (Turn Memory)} {indexes : List String}
  {d : List Exchange}

/-- While indexes are deleted one after another, the first few of them are gone. -/
theorem Sweep.Deletes.leads (h : Sweep.Deletes indexes d) (hfaults : faults ≠ .any)
    (hl : Leads Memory.answer faults s t s') (ht : t.map Turn.exchange = d) :
    (∀ u ∈ t, ∃ deleted, deleted <+: indexes ∧ u.after.store = s.store.without deleted) ∧
      ∃ deleted, deleted <+: indexes ∧ s'.store = s.store.without deleted := by
  induction h generalizing s t with
  | done =>
    obtain ⟨rfl, rfl⟩ := hl.none ht
    exact ⟨by simp, [], List.nil_prefix, rfl⟩
  | @refused index rest e =>
    obtain ⟨s₁, t₁, rfl, hdelete, ht₁, hl₁⟩ := hl.first ht
    obtain ⟨rfl, rfl⟩ := hl₁.none ht₁
    have hkept := hdelete.store_of_error hfaults
    exact ⟨by simpa using ⟨[], List.nil_prefix, hkept⟩, [], List.nil_prefix, hkept⟩
  | @deleted index rest d hrest ih =>
    obtain ⟨s₁, t₁, rfl, hdelete, ht₁, hl₁⟩ := hl.first ht
    obtain ⟨-, hs₁⟩ := Store.deleteIndex_eq_ok.1 hdelete.perform_of_ok
    have hone : ∀ {m : Memory}, (∃ deleted, deleted <+: rest ∧ m.store = s₁.store.without deleted) →
        ∃ deleted, deleted <+: index :: rest ∧ m.store = s.store.without deleted := by
      rintro m ⟨deleted, hdeleted, hm⟩
      exact ⟨index :: deleted, List.cons_prefix_cons.2 ⟨rfl, hdeleted⟩, by rw [hm, hs₁]; rfl⟩
    obtain ⟨hturns, hlast⟩ := ih hl₁ ht₁
    refine ⟨fun u hu => ?_, hone hlast⟩
    rcases List.mem_cons.1 hu with rfl | hu
    · exact hone ⟨[], List.nil_prefix, rfl⟩
    · exact hone (hturns u hu)

/-- Where no call may go wrong, indexes that are there can be deleted. -/
theorem Sweep.Deletes.not_refused (h : Sweep.Deletes indexes d) (hnodup : indexes.Nodup)
    (hthere : ∀ i ∈ indexes, s.store.contains i = true) (hl : Leads Memory.answer .none s t s')
    (ht : t.map Turn.exchange = d) {i : String} {e : EngineError} :
    ⟨.deleteIndex i, .error e⟩ ∉ d := by
  induction h generalizing s t with
  | done => exact List.not_mem_nil
  | @refused index rest e' =>
    obtain ⟨s₁, t₁, rfl, hdelete, -, -⟩ := hl.first ht
    have hindex := hthere index List.mem_cons_self
    obtain ⟨⟨_, ho⟩, -⟩ := hdelete.accepted .intro (Store.deleteIndex_eq_ok.2 ⟨hindex, rfl⟩)
    cases ho
  | @deleted index rest d hrest ih =>
    obtain ⟨s₁, t₁, rfl, hdelete, ht₁, hl₁⟩ := hl.first ht
    obtain ⟨-, hs₁⟩ := Store.deleteIndex_eq_ok.1 hdelete.perform_of_ok
    obtain ⟨hnew, hnodup⟩ := List.nodup_cons.1 hnodup
    have hrest : ∀ i ∈ rest, s₁.store.contains i = true := by
      intro i hi
      rw [hs₁]
      refine NameMap.contains_erase.2 ⟨?_, hthere i (List.mem_cons_of_mem _ hi)⟩
      rintro rfl
      exact hnew hi
    rw [List.mem_cons, not_or]
    exact ⟨by simp, ih hnodup hrest hl₁ ht₁⟩

end

/-! ## Sweeps -/

namespace Operation

variable {faults : Faults} {key : CollectionKey} {w w' : World} {t : List (Turn Memory)}
  {r : Except ServiceError (List String)} {orphans : List String}

/-- The alias of a collection is the same behind a sweep. -/
theorem Runs.aliasName_swept (h : (deleteOrphaned key).Runs faults w t r w') :
    w'.service.aliasName key = w.service.aliasName key :=
  Service.aliasName_congr (learnsNothing_deleteOrphaned h.1).names

/-- How far a sweep has come: the store is without the first few orphans, and where it succeeds, without
all of them, unless nothing has been found at the generations. Where no call may go wrong it succeeds. -/
theorem Runs.swept (h : (deleteOrphaned key).Runs faults w t r w') (hfaults : faults ≠ .any)
    (horphans : w.memory.store.ListsOrphans (w.service.aliasName key) orphans) :
    (∀ m, m = w'.memory ∨ (∃ u ∈ t, m = u.after) →
      ∃ deleted, deleted <+: orphans ∧ m.store = w.memory.store.without deleted) ∧
    (∀ swept, r = .ok swept →
      swept = orphans ∧ w'.memory.store = w.memory.store.without orphans ∨
      swept = [] ∧ w'.memory.store = w.memory.store ∧
        ∃ pattern what, ⟨.getIndices pattern, .error (.notFound what)⟩ ∈ t.map Turn.exchange) ∧
    (faults = .none → r = .ok orphans ∧ w'.memory.store = w.memory.store.without orphans) := by
  obtain ⟨t₁, t₂, m, rfl, ht₁, hm, hl, hrest⟩ := h.sweep_course horphans
  obtain ⟨rfl, hfaulty, hended⟩ | ⟨-, hdeletes, hok, hrefused⟩ := hrest
  · obtain rfl : w'.memory = m := hl
    refine ⟨?_, ?_, fun hnone => absurd hnone hfaulty⟩
    · rintro m' (rfl | ⟨u, hu, rfl⟩)
      · exact ⟨[], List.nil_prefix, hm⟩
      · exact ⟨[], List.nil_prefix, ht₁ u (by simpa using hu)⟩
    · rintro swept rfl
      obtain ⟨e, heq⟩ | ⟨heq, pattern, what, hmem⟩ := hended
      · cases heq
      · exact .inr ⟨Except.ok.inj heq, hm, pattern, what, by simpa using hmem⟩
  obtain ⟨hturns, hlast⟩ := hdeletes.leads hfaults hl rfl
  rw [hm] at hlast hturns
  have hall : ∀ swept, r = .ok swept →
      swept = orphans ∧ w'.memory.store = w.memory.store.without orphans := by
    intro swept hswept
    obtain ⟨rfl, ht₂⟩ := hok swept hswept
    refine ⟨rfl, ?_⟩
    rw [hl.without_of_deletes (f := id) ht₂, hm, List.map_id]
  refine ⟨?_, fun swept hswept => .inl (hall swept hswept), ?_⟩
  · rintro m' (rfl | ⟨u, hu, rfl⟩)
    · exact hlast
    · rcases List.mem_append.1 hu with hu | hu
      · exact ⟨[], List.nil_prefix, ht₁ u hu⟩
      · exact hturns u hu
  · rintro rfl
    have hthere : ∀ i ∈ orphans, m.store.contains i = true := by
      intro i hi
      rw [hm]
      exact ((horphans.mem_iff i).1 hi).1
    cases r with
    | ok swept => exact ⟨by rw [(hall swept rfl).1], (hall swept rfl).2⟩
    | error e =>
      obtain ⟨i, e', hmem⟩ := hrefused e rfl
      exact absurd hmem (hdeletes.not_refused horphans.nodup hthere hl rfl)

/-- In every state of the engine the generations that do not carry the alias of a collection have an
order, the oldest one first. A sweep deletes exactly these and names them in this order; every other index
is as it was, and another sweep finds nothing to delete. Where calls fail without effect, a sweep has
deleted the first few of them at any moment, so none that carries the alias, and where it succeeds all of
them, unless nothing has been found at the generations. -/
theorem deleteOrphaned_exact (w : World) (key : CollectionKey) : ∃ orphans : List String,
    (∀ i, i ∈ orphans ↔ w.memory.store.Orphaned (w.service.aliasName key) i) ∧
    orphans.Pairwise (PrecedesUnder (w.service.aliasName key)) ∧
    (∀ t r w', (deleteOrphaned key).Runs .none w t r w' →
      r = .ok orphans ∧ w'.memory.store = w.memory.store.without orphans ∧
      (∀ i, i ∉ orphans → w'.memory.store.get? i = w.memory.store.get? i) ∧
      ∀ w₁ t' r' w'', w'.Passes w₁ → (deleteOrphaned key).Runs .none w₁ t' r' w'' →
        r' = .ok [] ∧ w''.memory.store = w'.memory.store ∧
          ∀ u ∈ t', u.after.store = w'.memory.store) ∧
    ∀ t r w', (deleteOrphaned key).Runs .unperformed w t r w' →
      (∀ m, m = w'.memory ∨ (∃ u ∈ t, m = u.after) →
        (∃ deleted, deleted <+: orphans ∧ m.store = w.memory.store.without deleted) ∧
        ∀ i, w.memory.store.Carries i (w.service.aliasName key) →
          m.store.get? i = w.memory.store.get? i) ∧
      ∀ swept, r = .ok swept →
        swept = orphans ∧ w'.memory.store = w.memory.store.without orphans ∨
        swept = [] ∧ w'.memory.store = w.memory.store ∧
          ∃ pattern what, ⟨.getIndices pattern, .error (.notFound what)⟩ ∈ t.map Turn.exchange := by
  obtain ⟨orphans, horphans⟩ :
      ∃ orphans, w.memory.store.ListsOrphans (w.service.aliasName key) orphans :=
    Store.exists_listsOrphans
  refine ⟨orphans, horphans.mem_iff, horphans.ordered, fun t r w' h => ?_, fun t r w' h => ?_⟩
  · obtain ⟨-, -, hall⟩ := h.swept (by decide) horphans
    obtain ⟨hr, hlast⟩ := hall rfl
    refine ⟨hr, hlast, fun i hi => by rw [hlast, Store.get?_without, if_neg hi],
      fun w₁ t' r' w'' hpass h' => ?_⟩
    have hnone : w₁.memory.store.ListsOrphans (w₁.service.aliasName key) [] := by
      rw [hpass.1, Service.aliasName_congr hpass.indexNames, h.aliasName_swept, hlast]
      exact horphans.without_all
    obtain ⟨hturns, -, hall'⟩ := h'.swept (by decide) hnone
    have hkept : ∀ m, m = w''.memory ∨ (∃ u ∈ t', m = u.after) → m.store = w'.memory.store := by
      intro m hm
      obtain ⟨deleted, hdeleted, hstore⟩ := hturns m hm
      rw [hstore, List.prefix_nil.1 hdeleted, hpass.1]
      rfl
    exact ⟨(hall' rfl).1, hkept _ (.inl rfl), fun u hu => hkept _ (.inr ⟨u, hu, rfl⟩)⟩
  · obtain ⟨hturns, hok, -⟩ := h.swept (by decide) horphans
    refine ⟨fun m hm => ?_, hok⟩
    obtain ⟨deleted, hdeleted, hstore⟩ := hturns m hm
    exact ⟨⟨deleted, hdeleted, hstore⟩, fun i hi => by rw [hstore, horphans.get?_of_carries hdeleted hi]⟩

/-- Two moves have left two orphans. A sweep whose second deletion fails has deleted the older one, and a
sweep that succeeds names both and has left nothing to the next one. -/
theorem deleteOrphaned_exact_english :
    let w := ((World.empty .plain).rehearse
      [(.ensureExists .english, []), (.reindex .english, []), (.reindex .english, [])]).2
    let failed := Cue.unperformed (.backend "out of memory")
    let stopped := (deleteOrphaned .english).rehearse [.heard, .heard, .heard, failed] w
    let swept := (deleteOrphaned .english).rehearse [] w
    let again := (deleteOrphaned .english).rehearse [] swept.2.2
    let orphans := ["craftcms_en_1700000000", "craftcms_en_1700000001"]
    stopped.2.1 = .error (.backend "out of memory") ∧ stopped.2.2.memory.store.names =
        ["craftcms_en_1700000001", "craftcms_en_1700000002"] ∧
      (∃ deleted, deleted <+: orphans ∧ stopped.2.2.memory.store = w.memory.store.without deleted) ∧
      swept.2.1 = .ok orphans ∧ swept.2.2.memory.store = w.memory.store.without orphans ∧
      again.2.1 = .ok [] ∧ again.2.2.memory.store = swept.2.2.memory.store := by
  intro w failed stopped swept again orphans
  obtain ⟨hstopped, hnames⟩ : stopped.2.1 = .error (.backend "out of memory") ∧
      stopped.2.2.memory.store.names = ["craftcms_en_1700000001", "craftcms_en_1700000002"] := by
    decide +kernel
  have hok : swept.2.1 = .ok orphans := by decide +kernel
  have hcues : ∀ cue ∈ [Cue.heard, .heard, .heard, failed], cue.AllowedBy .unperformed := by decide
  have hfailed : (deleteOrphaned .english).Runs .unperformed w stopped.1 stopped.2.1 stopped.2.2 :=
    Operation.runs_rehearse hcues rfl
  have hsweep : (deleteOrphaned .english).Runs .none w swept.1 swept.2.1 swept.2.2 :=
    Operation.runs_rehearse_nil _ w
  have hnext : (deleteOrphaned .english).Runs .none swept.2.2 again.1 again.2.1 again.2.2 :=
    Operation.runs_rehearse_nil _ swept.2.2
  clear_value again swept stopped w
  obtain ⟨listed, -, -, hclean, hfaulty⟩ := deleteOrphaned_exact w .english
  obtain ⟨hlisted, hswept, -, hagain⟩ := hclean _ _ _ hsweep
  obtain rfl : orphans = listed := Except.ok.inj (hok.symm.trans hlisted)
  obtain ⟨hr, hlast, -⟩ := hagain _ _ _ _ (.refl _) hnext
  obtain ⟨hdeleted, -⟩ := (hfaulty _ _ _ hfailed).1 _ (.inl rfl)
  exact ⟨hstopped, hnames, hdeleted, hok, hswept, hr, hlast⟩

end Operation

end SiteSearch
