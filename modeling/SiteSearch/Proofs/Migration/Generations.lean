import SiteSearch.Proofs.Alias.Orphans
import SiteSearch.Proofs.Alias.Ownership
import SiteSearch.Proofs.Migration.Binding

/-!
# Generations behind a move

A move unbinds one index only, the newest of those that its alias was bound to. Where an earlier move
has failed to unbind its old index, the alias was bound to two, and the one that is left over stays
bound: a move that succeeds leaves one generation bound, and a sweep behind it leaves one generation
at all, exactly where the alias was bound to one index before.
-/

namespace SiteSearch

namespace Store

variable {store : Store} {a i : String}

/-- The indexes that are generations under an alias, bound or not. -/
def generationsUnder (store : Store) (aliasName : String) : List String :=
  store.names.filter fun index => IsGeneration aliasName index

theorem mem_generationsUnder :
    i ∈ store.generationsUnder a ↔ store.contains i = true ∧ IsGeneration a i := by
  rw [generationsUnder, List.mem_filter, NameMap.mem_names, decide_eq_true_iff]

end Store

namespace Operation.Runs

variable {key : CollectionKey} {w w' : World} {t : List (Turn Memory)}

section

variable {report : ReindexReport}
  (h : (Operation.reindex key).Runs .unperformed w t (.ok report) w')

include h

/-- The indexes that an alias is bound to behind a move that succeeds. -/
theorem carries_moved {i : String} :
    w'.memory.store.Carries i (w.service.aliasName key) ↔
      i = report.newIndex ∨
        w.memory.store.Carries i (w.service.aliasName key) ∧ i ≠ report.oldIndex := by
  obtain ⟨m, hm, hold, hnew, -, -, held, -, hstands⟩ := h.moved
  rw [← hm.alias_eq, hold, hnew]
  show i ∈ w'.memory.store.bound m.aliasName ↔ _
  rw [hstands.bound_eq]
  simp [Store.bound]

/-- A move that succeeds began at an index that was bound, and led to one that was not. -/
theorem carries_oldIndex :
    w.memory.store.Carries report.oldIndex (w.service.aliasName key) ∧
      ¬ w.memory.store.Carries report.newIndex (w.service.aliasName key) := by
  obtain ⟨m, hm, hold, hnew, hnewest, hfresh, -⟩ := h.moved
  rw [← hm.alias_eq, hold, hnew]
  refine ⟨Store.mem_carriers.1 (mem_of_newestIndex? hnewest), fun hcarries => ?_⟩
  rw [hcarries.contains] at hfresh
  cases hfresh

/-- The old index is left, bound or not. -/
theorem contains_oldIndex : w'.memory.store.contains report.oldIndex = true := by
  obtain ⟨m, hm, hold, -, -, -, held, hget, hstands⟩ := h.moved
  obtain ⟨held', hget', -⟩ := hstands.spares.old held hget
  rw [hold]
  exact NameMap.contains_eq_true.2 ⟨held', hget'⟩

theorem carriers_moved_eq_singleton :
    w'.memory.store.carriers (w.service.aliasName key) = [report.newIndex] ↔
      w.memory.store.carriers (w.service.aliasName key) = [report.oldIndex] := by
  obtain ⟨hold, hnew⟩ := h.carries_oldIndex
  rw [Store.carriers_eq_singleton, Store.carriers_eq_singleton]
  constructor
  · intro hsingle j
    constructor
    · intro hj
      by_contra hne
      obtain rfl := (hsingle j).1 (h.carries_moved.2 (.inr ⟨hj, hne⟩))
      exact hnew hj
    · rintro rfl
      exact hold
  · intro hsingle j
    rw [h.carries_moved, hsingle]
    simp

end

/-- Behind a sweep that succeeds the generations that are left are those that the alias is bound to,
unless the look at the generations has failed; then all of them are left. -/
theorem generationsUnder_swept {swept : List String} (hstore : w.memory.store.WellNamed)
    (h : (Operation.deleteOrphaned key).Runs .unperformed w t (.ok swept) w') :
    ((∃ pattern e, ⟨.getIndices pattern, .error e⟩ ∈ t.map Turn.exchange) ∧
      w'.memory.store.generationsUnder (w.service.aliasName key) =
        w.memory.store.generationsUnder (w.service.aliasName key)) ∨
    (∀ pattern e, ⟨.getIndices pattern, .error e⟩ ∉ t.map Turn.exchange) ∧
      w'.memory.store.generationsUnder (w.service.aliasName key) =
        w.memory.store.carriers (w.service.aliasName key) := by
  obtain ⟨t₁, t₂, m, -, -, -, -, -, hswept⟩ := h.sweeps
  rcases hswept swept rfl with ⟨hfailed, heq⟩ | ⟨hlisted, hleft⟩
  · exact .inl ⟨hfailed, by rw [heq]⟩
  refine .inr ⟨hlisted, ?_⟩
  refine eq_of_rising ((NameMap.rising_names _).filter _) (NameMap.rising_names _) fun i => ?_
  refine Store.mem_generationsUnder.trans (Iff.trans ?_ Store.mem_carriers.symm)
  rw [hleft]
  constructor
  · rintro ⟨⟨hcontains, hkept⟩, hgeneration⟩
    by_contra hcarries
    exact hkept ⟨hcontains, hgeneration, hcarries⟩
  · intro hcarries
    exact ⟨⟨hcarries.contains, fun horphaned => horphaned.2.2 hcarries⟩, hstore i _ hcarries⟩

end Operation.Runs

/-- In every state that a service brings about while calls fail without effect: a reindex that
succeeds leaves its alias bound to the new index alone exactly where the alias was bound to the old
index alone, and a sweep that succeeds behind it leaves the new index as the only generation exactly
where, besides, its look at the generations was answered. -/
theorem History.single_generation_iff {service : Service} {earlier : List Request}
    {t t₁ : List (Turn Memory)} {w w₁ w₂ : World} {key : CollectionKey} {report : ReindexReport}
    (hearlier : History .unperformed (.empty service) earlier t w) (hpass : w.Passes w₁)
    (hmoved : (Operation.reindex key).Runs .unperformed w₁ t₁ (.ok report) w₂) :
    (w₂.memory.store.carriers (service.aliasName key) = [report.newIndex] ↔
      w₁.memory.store.carriers (service.aliasName key) = [report.oldIndex]) ∧
    ∀ (w₃ w₄ : World) (t₂ : List (Turn Memory)) (swept : List String), w₂.Passes w₃ →
      (Operation.deleteOrphaned key).Runs .unperformed w₃ t₂ (.ok swept) w₄ →
      (w₄.memory.store.generationsUnder (service.aliasName key) = [report.newIndex] ↔
        w₁.memory.store.carriers (service.aliasName key) = [report.oldIndex] ∧
          ∀ pattern e, ⟨.getIndices pattern, .error e⟩ ∉ t₂.map Turn.exchange) := by
  obtain ⟨hstore, hnames⟩ := hearlier.wellNamed Store.wellNamed_empty
  rw [← hpass.1] at hstore
  have hnames₁ : w₁.service.indexNames = service.indexNames := hpass.indexNames.trans hnames
  have halias₁ : w₁.service.aliasName key = service.aliasName key := by
    rw [Service.aliasName, hnames₁, Service.aliasName]
  obtain ⟨hnames₂, hcalls, -⟩ := Operation.asksOnly_reindex _ key rfl hmoved.1
  have hstore₂ : w₂.memory.store.WellNamed := hstore.leads hmoved.2 hcalls
  have hsingle := hmoved.carriers_moved_eq_singleton
  rw [halias₁] at hsingle
  refine ⟨hsingle, fun w₃ w₄ t₂ swept hpass₂ hswept => ?_⟩
  rw [← hpass₂.1] at hstore₂
  have halias₃ : w₃.service.aliasName key = service.aliasName key := by
    rw [Service.aliasName, hpass₂.indexNames, hnames₂, hnames₁, Service.aliasName]
  have hleft := hswept.generationsUnder_swept hstore₂
  rw [halias₃, hpass₂.1] at hleft
  rcases hleft with ⟨⟨pattern, e, hfailed⟩, hleft⟩ | ⟨hlisted, hleft⟩
  · obtain ⟨hold, hnew⟩ := hmoved.carries_oldIndex
    rw [halias₁] at hold hnew
    have hmem : report.oldIndex ∈ w₂.memory.store.generationsUnder (service.aliasName key) :=
      Store.mem_generationsUnder.2 ⟨hmoved.contains_oldIndex, hstore _ _ hold⟩
    refine iff_of_false (fun h => ?_) fun h => h.2 pattern e hfailed
    rw [← hleft, h, List.mem_singleton] at hmem
    exact hnew (hmem ▸ hold)
  · rw [hleft, hsingle]
    exact (and_iff_left hlisted).symm

/-- The alias stays bound to two indexes behind a move that succeeds, and so both are left by a
sweep, when the move before could not unbind its old index. -/
theorem two_generations_after_failed_unbinding :
    let failed := Cue.unperformed (.backend "out of memory")
    let script :=
      [(Request.ensureExists .english, []), (.reindex .english, List.replicate 7 .heard ++ [failed])]
    let earlier := (World.empty .plain).rehearse script
    let moved := (Operation.reindex .english).rehearse [] earlier.2
    let swept := (Operation.deleteOrphaned .english).rehearse [] moved.2.2
    let report : ReindexReport :=
      { aliasName := "craftcms_en", oldIndex := "craftcms_en_1700000001",
        newIndex := "craftcms_en_1700000002", total := 0, took := 0 }
    moved.2.1 = .ok report ∧ swept.2.1 = .ok ["craftcms_en_1700000001"] ∧
      moved.2.2.memory.store.carriers (Service.plain.aliasName .english) ≠ [report.newIndex] ∧
      swept.2.2.memory.store.generationsUnder (Service.plain.aliasName .english) ≠
        [report.newIndex] := by
  intro failed script earlier moved swept report
  have hmoved : moved.2.1 = .ok report := by decide +kernel
  have hswept : swept.2.1 = .ok ["craftcms_en_1700000001"] := by decide +kernel
  have hdoubled : earlier.2.memory.store.carriers (Service.plain.aliasName .english) ≠
      [report.oldIndex] := by decide +kernel
  have hfailed : ∀ line ∈ script, ∀ cue ∈ line.2, cue.AllowedBy .unperformed := by decide
  have hearlier : History .unperformed (.empty .plain) (script.map (·.1)) earlier.1 earlier.2 :=
    World.history_rehearse hfailed
  have hreindex : (Operation.reindex .english).Runs .unperformed earlier.2 moved.1 (.ok report)
      moved.2.2 := Operation.runs_rehearse (by simp) hmoved
  have hsweep : (Operation.deleteOrphaned .english).Runs .unperformed moved.2.2 swept.1
      (.ok ["craftcms_en_1700000001"]) swept.2.2 := Operation.runs_rehearse (by simp) hswept
  clear_value swept moved earlier
  obtain ⟨hbound, hleft⟩ := History.single_generation_iff hearlier (.refl _) hreindex
  refine ⟨hmoved, hswept, fun h => hdoubled (hbound.1 h), fun h => hdoubled ?_⟩
  exact ((hleft _ _ _ _ (.refl _) hsweep).1 h).1

end SiteSearch
