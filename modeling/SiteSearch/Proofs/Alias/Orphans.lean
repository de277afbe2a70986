import SiteSearch.Proofs.Collection.Precedence
import SiteSearch.Proofs.Migration.Opening
import SiteSearch.Proofs.Service.Sweep

/-!
# Orphans in the engine in memory

A sweep goes by what the engine has told it, and the engine in memory describes the indexes as they
are. So what a sweep deletes are generations that the alias is not bound to (`Store.Orphaned`), in the
order of generations (`Store.ListsOrphans`), and where it succeeds it has deleted all of them, unless the
look at the generations has failed (`Operation.Runs.sweep_course`).
-/

namespace SiteSearch

variable {names : IndexNames} {key : CollectionKey} {found : List IndexDescription} {g : Generation}

/-- The index is a generation under the alias, and the alias is not bound to it. -/
def Store.Orphaned (store : Store) (aliasName index : String) : Prop :=
  store.contains index = true ∧ IsGeneration aliasName index ∧ ¬ store.Carries index aliasName

/-- The store without some indexes. -/
def Store.without (store : Store) (indexes : List String) : Store :=
  indexes.foldl NameMap.erase store

theorem Store.get?_without {store : Store} {i : String} : ∀ {indexes : List String},
    (store.without indexes).get? i = if i ∈ indexes then none else store.get? i := by
  intro indexes
  induction indexes generalizing store with
  | nil => simp [without]
  | cons first rest ih =>
    show (Store.without (store.erase first) rest).get? i = _
    rw [ih, NameMap.get?_erase]
    by_cases hrest : i ∈ rest
    · simp [hrest]
    · simp [hrest, eq_comm]

theorem Store.contains_without {store : Store} {indexes : List String} {i : String} :
    (store.without indexes).contains i = true ↔ i ∉ indexes ∧ store.contains i = true := by
  rw [NameMap.contains, get?_without]
  split <;> simp_all [NameMap.contains]

/-- What a sweep takes for orphans: the generations that do not carry the alias, but for the one that it
takes for the current index. -/
theorem exists_orphan_iff {store : Store} {current : Option String} {i : String}
    (h : store.describe (names.generationPattern key) = .ok found) :
    (∃ g ∈ orphansAmong names key current found, g.name = i) ↔
      store.Orphaned (names.aliasName key) i ∧ current ≠ some i := by
  constructor
  · rintro ⟨g, hg, rfl⟩
    obtain ⟨hmem, hunbound⟩ := List.mem_filter.1 hg
    obtain ⟨hcontains, htime, hbound⟩ := (mem_generationsAmong_described h).1 hmem
    rw [Bool.not_eq_true', Bool.or_eq_false_iff, decide_eq_false_iff_not] at hunbound
    refine ⟨⟨hcontains, Option.isSome_iff_exists.2 ⟨_, htime⟩, fun hcarries => ?_⟩, hunbound.2⟩
    exact Bool.eq_false_iff.1 hunbound.1 (hbound.2 hcarries)
  · rintro ⟨⟨hcontains, hgeneration, hcarries⟩, hcurrent⟩
    obtain ⟨time, htime⟩ := Option.isSome_iff_exists.1 hgeneration
    have hmem : (⟨i, time, false⟩ : Generation) ∈ generationsAmong names key found :=
      (mem_generationsAmong_described h).2 ⟨hcontains, htime, by simpa using hcarries⟩
    exact ⟨_, List.mem_filter.2 ⟨hmem, by simpa using hcurrent⟩, rfl⟩

/-- A sweep takes no index for an orphan twice. -/
theorem nodup_orphans {store : Store} {current : Option String}
    (h : store.describe (names.generationPattern key) = .ok found) :
    ((orphansAmong names key current found).map (·.name)).Nodup :=
  (nodup_generationsAmong h).sublist (List.filter_sublist.map _)

/-! ## In their order -/

/-- The list has the orphans of an alias, the oldest one first. -/
structure Store.ListsOrphans (store : Store) (aliasName : String) (orphans : List String) : Prop where
  mem_iff : ∀ i, i ∈ orphans ↔ store.Orphaned aliasName i
  ordered : orphans.Pairwise (PrecedesUnder aliasName)

namespace Store.ListsOrphans

variable {store : Store} {a : String} {orphans others : List String}

theorem nodup (h : store.ListsOrphans a orphans) : orphans.Nodup :=
  h.ordered.imp <| by
    rintro i _ hlt rfl
    exact PrecedesUnder.irrefl hlt

/-- The orphans of an alias are listed in one way. -/
theorem unique (h : store.ListsOrphans a orphans) (h' : store.ListsOrphans a others) :
    orphans = others := by
  have hperm : orphans.Perm others :=
    (List.perm_ext_iff_of_nodup h.nodup h'.nodup).2 fun i => (h.mem_iff i).trans (h'.mem_iff i).symm
  exact hperm.eq_of_pairwise (fun i j _ _ hij hji => (hij.asymm hji).elim) h.ordered h'.ordered

/-- Without its orphans the alias has none. -/
theorem without_all (h : store.ListsOrphans a orphans) : (store.without orphans).ListsOrphans a [] where
  mem_iff i := by
    refine ⟨fun hi => absurd hi List.not_mem_nil, fun ⟨hcontains, hgeneration, hfree⟩ => ?_⟩
    obtain ⟨hkept, hcontains⟩ := Store.contains_without.1 hcontains
    refine absurd ((h.mem_iff i).2 ⟨hcontains, hgeneration, fun hcarries => hfree ?_⟩) hkept
    obtain ⟨held, hget, halias⟩ := hcarries
    exact ⟨held, by rw [Store.get?_without, if_neg hkept, hget], halias⟩
  ordered := .nil

/-- What carries the alias is no orphan. -/
theorem get?_of_carries {deleted : List String} {i : String} (h : store.ListsOrphans a orphans)
    (hdeleted : deleted <+: orphans) (hi : store.Carries i a) :
    (store.without deleted).get? i = store.get? i := by
  rw [Store.get?_without, if_neg]
  exact fun hmem => ((h.mem_iff i).1 (hdeleted.subset hmem)).2.2 hi

end Store.ListsOrphans

section

variable {current : Option String} {store : Store}

theorem ordered_orphansAmong (h : store.describe (names.generationPattern key) = .ok found) :
    ((orphansAmong names key current found).map (·.name)).Pairwise
      (PrecedesUnder (names.aliasName key)) :=
  List.pairwise_map.2 ((pairwise_generationsAmong h).filter _)

/-- The orphans of a collection can be listed. -/
theorem Store.exists_listsOrphans : ∃ orphans, store.ListsOrphans (names.aliasName key) orphans := by
  obtain ⟨found, hfound⟩ : ∃ found, store.describe (names.generationPattern key) = .ok found :=
    Store.describe_generationPattern
  refine ⟨(orphansAmong names key none found).map (·.name), fun i => ?_, ordered_orphansAmong hfound⟩
  rw [List.mem_map, exists_orphan_iff hfound]
  simp

end

/-! ## Sweeps -/

variable {faults : Faults}

/-- Where a look at the generations is answered, a sweep takes for orphans what is orphaned. -/
theorem exists_orphan_iff_orphaned {m m₁ m₂ : Memory} {bound : (EngineCall.getAlias _).Outcome}
    {current : Option String} {i : String}
    (hlook : Answers Memory.answer faults (.getAlias (names.aliasName key)) m bound m₁)
    (hlist : Answers Memory.answer faults (.getIndices (names.generationPattern key)) m₁ (.ok found) m₂)
    (hcurrent : ∀ index, current = some index →
      ∃ indexes, bound = .ok indexes ∧ newestIndex? indexes = some index) :
    (∃ g ∈ orphansAmong names key current found, g.name = i) ↔
      m.store.Orphaned (names.aliasName key) i := by
  have hdescribe := hlist.describe_eq
  rw [hlook.store_of_looks fun _ => rfl] at hdescribe
  have hcarried : ∀ index, current = some index → m.store.Carries index (names.aliasName key) := by
    intro index hindex
    obtain ⟨indexes, rfl, hnewest⟩ := hcurrent index hindex
    rw [← Store.mem_carriers, ← hlook.bound_eq]
    exact mem_of_newestIndex? hnewest
  rw [exists_orphan_iff hdescribe, and_iff_left_iff_imp]
  exact fun horphaned hindex => horphaned.2.2 (hcarried i hindex)

/-- Indexes that are deleted one after another are gone, and the others are as they were. -/
theorem Leads.without_of_deletes {ι : Type} {f : ι → String} {s' : Memory} :
    ∀ {items : List ι} {s : Memory} {t : List (Turn Memory)}, Leads Memory.answer faults s t s' →
      t.map Turn.exchange = items.map (fun j => ⟨.deleteIndex (f j), .ok ()⟩) →
      s'.store = s.store.without (items.map f)
  | [], s, t, h, ht => by
    rw [(h.none ht).2]
    rfl
  | j :: items, s, t, h, ht => by
    obtain ⟨s₁, t₁, rfl, hdelete, ht₁, hl⟩ := h.first ht
    obtain ⟨-, hs₁⟩ := Store.deleteIndex_eq_ok.1 hdelete.perform_of_ok
    rw [hl.without_of_deletes ht₁, hs₁]
    rfl

theorem Sweep.Deletes.none {d : List Exchange} (h : Sweep.Deletes [] d) : d = [] := by
  cases h
  rfl

/-- The course of a sweep: at first it only looks. It ends there where a look has failed, with no orphans
where nothing has been found at the generations, or else it begins to delete the orphans. -/
theorem Operation.Runs.sweep_course {w w' : World} {t : List (Turn Memory)}
    {r : Except ServiceError (List String)} {orphans : List String}
    (h : (Operation.deleteOrphaned key).Runs faults w t r w')
    (horphans : w.memory.store.ListsOrphans (w.service.aliasName key) orphans) :
    ∃ t₁ t₂ m, t = t₁ ++ t₂ ∧ (∀ u ∈ t₁, u.after.store = w.memory.store) ∧
      m.store = w.memory.store ∧ Leads Memory.answer faults m t₂ w'.memory ∧
      (t₂ = [] ∧ faults ≠ .none ∧
          ((∃ e, r = .error e) ∨ r = .ok [] ∧
            ∃ pattern what, ⟨.getIndices pattern, .error (.notFound what)⟩ ∈ t₁.map Turn.exchange) ∨
        (∀ pattern e, ⟨.getIndices pattern, .error e⟩ ∉ t₁.map Turn.exchange) ∧
          Sweep.Deletes orphans (t₂.map Turn.exchange) ∧
          (∀ swept, r = .ok swept → swept = orphans ∧
            t₂.map Turn.exchange = orphans.map fun i => ⟨.deleteIndex i, .ok ()⟩) ∧
          ∀ e, r = .error e → ∃ i e', ⟨.deleteIndex i, .error e'⟩ ∈ t₂.map Turn.exchange) := by
  obtain ⟨hop, hl⟩ := h
  obtain ⟨bound, d₁, hd₁, ⟨rfl, hfailed, e, rfl, hother⟩ | ⟨listed, d₂, rfl, hrest⟩⟩ := hop.deleteOrphaned
  · obtain ⟨s₁, t₁, rfl, hlook, ht₁, hl₁⟩ := hl.first hd₁
    obtain ⟨rfl, hlast⟩ := hl₁.none ht₁
    have hs₁ : s₁.store = w.memory.store := hlook.store_of_looks fun _ => rfl
    refine ⟨[_], [], s₁, rfl, by simpa using hs₁, hs₁, hlast, .inl ⟨rfl, ?_, .inl hfailed⟩⟩
    rintro rfl
    obtain ⟨what, rfl⟩ := hlook.notFound_of_unbound
    exact hother what rfl
  obtain ⟨s₁, t₁, rfl, hlook, ht₁, hl₁⟩ := hl.first hd₁
  obtain ⟨s₂, t₂, rfl, hlist, rfl, hl₂⟩ := hl₁.first ht₁
  have hs₁ : s₁.store = w.memory.store := hlook.store_of_looks fun _ => rfl
  have hs₂ : s₂.store = w.memory.store := (hlist.store_of_looks fun _ => rfl).trans hs₁
  refine ⟨[_, _], t₂, s₂, rfl, by simpa using ⟨hs₁, hs₂⟩, hs₂, hl₂, ?_⟩
  obtain ⟨e, hfailed, ht₂, rfl⟩ | ⟨found, current, hfound, hcurrent, hdeletes, hok, hrefused⟩ := hrest
  · refine .inl ⟨List.map_eq_nil_iff.1 ht₂, ?_, .inl ⟨e, rfl⟩⟩
    rintro rfl
    obtain ⟨found, hfound, -⟩ := hlist.exists_found
    cases hfound.symm.trans hfailed
  obtain rfl | ⟨⟨what, rfl⟩, rfl⟩ := foundIn_eq_ok hfound
  · have hsame : orphans =
        (orphansAmong w.service.indexNames key current found).map (·.name) := by
      refine horphans.unique ⟨fun i => ?_, ?_⟩
      · exact List.mem_map.trans (exists_orphan_iff_orphaned hlook hlist hcurrent)
      · exact ordered_orphansAmong hlist.describe_eq
    refine .inr ⟨by simp [Turn.exchange], hsame ▸ hdeletes, fun swept hswept => ?_, fun e he => ?_⟩
    · obtain ⟨rfl, hall⟩ := hok swept hswept
      exact ⟨hsame.symm, by rw [hall, hsame, List.map_map]; rfl⟩
    · obtain ⟨g, -, e', hmem⟩ := hrefused e he
      exact ⟨g.name, e', hmem⟩
  · -- nothing has been found, so there is nothing to delete
    refine .inl ⟨List.map_eq_nil_iff.1 hdeletes.none, ?_,
      .inr ⟨?_, w.service.indexNames.generationPattern key, what, by simp [Turn.exchange]⟩⟩
    · rintro rfl
      obtain ⟨found, hanswered, -⟩ := hlist.exists_described
      cases hanswered
    · cases r with
      | ok swept => rw [(hok swept rfl).1]; rfl
      | error e =>
        obtain ⟨g, hg, -⟩ := hrefused e rfl
        exact absurd hg List.not_mem_nil

/-- A sweep changes nothing at first, and then deletes what is orphaned. Where it succeeds, nothing
orphaned is left, unless the look at the generations has failed. -/
theorem Operation.Runs.sweeps {w w' : World} {t : List (Turn Memory)}
    {r : Except ServiceError (List String)}
    (h : (Operation.deleteOrphaned key).Runs faults w t r w') :
    ∃ t₁ t₂ m, t = t₁ ++ t₂ ∧ (∀ u ∈ t₁, u.after.store = w.memory.store) ∧
      m.store = w.memory.store ∧ Leads Memory.answer faults m t₂ w'.memory ∧
      (∀ x ∈ t₂.map Turn.exchange, ∃ i, x.1 = .deleteIndex i ∧
        w.memory.store.Orphaned (w.service.aliasName key) i) ∧
      ∀ swept, r = .ok swept →
        ((∃ pattern e, ⟨.getIndices pattern, .error e⟩ ∈ t.map Turn.exchange) ∧
          w'.memory.store = w.memory.store) ∨
        (∀ pattern e, ⟨.getIndices pattern, .error e⟩ ∉ t.map Turn.exchange) ∧
          ∀ i, w'.memory.store.contains i = true ↔
            w.memory.store.contains i = true ∧
              ¬ w.memory.store.Orphaned (w.service.aliasName key) i := by
  obtain ⟨orphans, horphans⟩ :
      ∃ orphans, w.memory.store.ListsOrphans (w.service.aliasName key) orphans :=
    Store.exists_listsOrphans
  obtain ⟨t₁, t₂, m, rfl, ht₁, hm, hl, hrest⟩ := h.sweep_course horphans
  refine ⟨t₁, t₂, m, rfl, ht₁, hm, hl, ?_, ?_⟩
  · obtain ⟨rfl, -⟩ | ⟨-, hdeletes, -⟩ := hrest
    · simp
    · intro x hx
      obtain ⟨i, hi, hcall⟩ := hdeletes.call_eq hx
      exact ⟨i, hcall, (horphans.mem_iff i).1 hi⟩
  · rintro swept rfl
    obtain ⟨rfl, -, hended⟩ | ⟨hlisted, -, hok, -⟩ := hrest
    · obtain ⟨e, heq⟩ | ⟨-, pattern, what, hmem⟩ := hended
      · cases heq
      obtain rfl : w'.memory = m := hl
      exact .inl ⟨⟨pattern, _, by simpa using hmem⟩, hm⟩
    · obtain ⟨rfl, ht₂⟩ := hok swept rfl
      refine .inr ⟨fun pattern e => ?_, fun i => ?_⟩
      · rw [List.map_append, List.mem_append, ht₂]
        simp [hlisted pattern e]
      · rw [hl.without_of_deletes (f := id) ht₂, hm, List.map_id, Store.contains_without, and_comm,
          horphans.mem_iff]

end SiteSearch
