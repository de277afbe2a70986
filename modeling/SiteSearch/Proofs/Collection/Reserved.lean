import Mathlib.Data.List.Basic
import SiteSearch.Proofs.Memory.Copy
import SiteSearch.Proofs.Memory.Look

/-!
# The part of a store that a collection works on

To a collection its alias and the names of its generations are reserved (`IsReserved`). Collections whose
aliases differ, none of them a generation of the other by name, have no reserved name in common
(`IsReserved.disjoint`).

Two stores are abreast for a collection when they hold the same under its reserved names, whatever stands
elsewhere (`Store.Abreast`). Each call that a collection makes about itself (`EngineCall.Confined`) is
then answered alike, and leaves the stores abreast and all else in them as it was
(`Store.Abreast.answer`). Two answers reach beyond the reserved names. A new index may not be named as
an alias that any index carries, which is what `Store.AlikeAround` is for; and the pattern of a
collection may cover indexes of others, which are filtered out behind the look
(`Store.Abreast.ownAmong_eq`).
-/

namespace SiteSearch

/-- The name is reserved for the collection with an alias. -/
def IsReserved (aliasName name : String) : Prop :=
  name = aliasName ∨ IsGeneration aliasName name

theorem IsReserved.disjoint {a b name : String} (h : IsReserved a name) (hne : a ≠ b)
    (hab : ¬ IsGeneration a b) (hba : ¬ IsGeneration b a) : ¬ IsReserved b name := by
  rintro (rfl | hb)
  · rcases h with rfl | ha
    · exact hne rfl
    · exact hab ha
  · rcases h with rfl | ha
    · exact hba hb
    · exact hne (ha.unique hb)

/-- Two outcomes: both successes or both the same refusal. -/
inductive OutcomesAlike {α : Type} (R : α → α → Prop) :
    Except EngineError α → Except EngineError α → Prop where
  | ok {x y : α} (h : R x y) : OutcomesAlike R (.ok x) (.ok y)
  | error (e : EngineError) : OutcomesAlike R (.error e) (.error e)

namespace Store

variable {start start' s s' : Store} {a i : String} {there : List String}

/-- Around the reserved names of a collection two stores are alike: no other index carries its alias, and
the same names of generations are aliases of other indexes. -/
structure AlikeAround (a : String) (start start' : Store) : Prop where
  own : ∀ i, start.Carries i a → IsReserved a i
  own' : ∀ i, start'.Carries i a → IsReserved a i
  foreign : ∀ b, IsGeneration a b → ((∃ i, ¬ IsReserved a i ∧ start.Carries i b) ↔
    ∃ i, ¬ IsReserved a i ∧ start'.Carries i b)

/-- Two stores hold the same under the names that are reserved for a collection, among them the indexes
that have to be there; each of them is as it was at the start under all other names. -/
structure Abreast (a : String) (start start' : Store) (there : List String) (s s' : Store) : Prop where
  same : ∀ i, IsReserved a i → s.get? i = s'.get? i
  kept : ∀ i, ¬ IsReserved a i → s.get? i = start.get? i
  kept' : ∀ i, ¬ IsReserved a i → s'.get? i = start'.get? i
  reserved : ∀ i ∈ there, IsReserved a i
  holds : ∀ i ∈ there, s.contains i = true

namespace Abreast

/-! ## What is looked up -/

theorem contains_eq (h : Abreast a start start' there s s') (hi : IsReserved a i) :
    s.contains i = s'.contains i := by
  rw [NameMap.contains, NameMap.contains, h.same i hi]

theorem holds' (h : Abreast a start start' there s s') (hi : i ∈ there) : s'.contains i = true :=
  (h.contains_eq (h.reserved i hi)).symm.trans (h.holds i hi)

theorem index?_eq (h : Abreast a start start' there s s') (hi : IsReserved a i) :
    s.index? i = s'.index? i := by
  rw [index?, index?, h.same i hi]

theorem indexesOf_eq (h : Abreast a start start' there s s') {names : List String}
    (hnames : ∀ i ∈ names, IsReserved a i) : s.indexesOf names = s'.indexesOf names :=
  List.filterMap_congr fun i hi => h.same i (hnames i hi)

theorem carries_iff (h : Abreast a start start' there s s') (hi : IsReserved a i) {b : String} :
    s.Carries i b ↔ s'.Carries i b := by
  unfold Carries
  rw [h.same i hi]

theorem carries_of_not (h : Abreast a start start' there s s') (hi : ¬ IsReserved a i) {b : String} :
    s.Carries i b ↔ start.Carries i b := by
  unfold Carries
  rw [h.kept i hi]

theorem carries_of_not' (h : Abreast a start start' there s s') (hi : ¬ IsReserved a i) {b : String} :
    s'.Carries i b ↔ start'.Carries i b := by
  unfold Carries
  rw [h.kept' i hi]

section

variable (haround : AlikeAround a start start')

include haround

/-- All that carries the alias has a reserved name. -/
theorem reserved_of_carries (h : Abreast a start start' there s s') (hi : s.Carries i a) :
    IsReserved a i := by
  by_contra hnot
  exact hnot (haround.own i ((h.carries_of_not hnot).1 hi))

theorem reserved_of_carries' (h : Abreast a start start' there s s') (hi : s'.Carries i a) :
    IsReserved a i := by
  by_contra hnot
  exact hnot (haround.own' i ((h.carries_of_not' hnot).1 hi))

theorem carriers_eq (h : Abreast a start start' there s s') : s.carriers a = s'.carriers a := by
  refine carriers_congr fun i => ⟨fun hi => ?_, fun hi => ?_⟩
  · exact (h.carries_iff (h.reserved_of_carries haround hi)).1 hi
  · exact (h.carries_iff (h.reserved_of_carries' haround hi)).2 hi

theorem readTargets_eq (h : Abreast a start start' there s s') : s.readTargets a = s'.readTargets a := by
  rw [readTargets, readTargets, h.contains_eq (.inl rfl), h.carriers_eq haround]

theorem reserved_of_read (h : Abreast a start start' there s s') {targets : List String}
    (hread : s.readTargets a = .ok targets) : ∀ i ∈ targets, IsReserved a i := by
  unfold readTargets at hread
  split at hread
  · obtain rfl := Except.ok.inj hread
    rintro i hi
    exact .inl (List.mem_singleton.1 hi)
  · split at hread
    · cases hread
    · obtain rfl := Except.ok.inj hread
      exact fun i hi => h.reserved_of_carries haround (mem_carriers.1 hi)

/-- The name of a generation is an alias in both stores or in neither. -/
theorem isEmpty_carriers_eq (h : Abreast a start start' there s s') {b : String}
    (hb : IsGeneration a b) : (s.carriers b).isEmpty = (s'.carriers b).isEmpty := by
  have hiff : (∃ i, s.Carries i b) ↔ ∃ i, s'.Carries i b := by
    constructor
    · rintro ⟨i, hi⟩
      by_cases hreserved : IsReserved a i
      · exact ⟨i, (h.carries_iff hreserved).1 hi⟩
      · obtain ⟨j, hj, hcarries⟩ :=
          (haround.foreign b hb).1 ⟨i, hreserved, (h.carries_of_not hreserved).1 hi⟩
        exact ⟨j, (h.carries_of_not' hj).2 hcarries⟩
    · rintro ⟨i, hi⟩
      by_cases hreserved : IsReserved a i
      · exact ⟨i, (h.carries_iff hreserved).2 hi⟩
      · obtain ⟨j, hj, hcarries⟩ :=
          (haround.foreign b hb).2 ⟨i, hreserved, (h.carries_of_not' hreserved).1 hi⟩
        exact ⟨j, (h.carries_of_not hj).2 hcarries⟩
  rw [← aliasExists_iff, ← aliasExists_iff] at hiff
  exact Bool.not_inj (Bool.eq_iff_iff.2 hiff)

end

/-! ## What is changed -/

theorem mono (h : Abreast a start start' there s s') {fewer : List String}
    (hfewer : ∀ i ∈ fewer, i ∈ there) : Abreast a start start' fewer s s' :=
  ⟨h.same, h.kept, h.kept', fun i hi => h.reserved i (hfewer i hi), fun i hi => h.holds i (hfewer i hi)⟩

/-- Both stores have changed under one reserved name only, and hold the same under it. -/
theorem changed (h : Abreast a start start' there s s') (hi : IsReserved a i) {u u' : Store}
    (hsame : u.get? i = u'.get? i) (hothers : ∀ j, i ≠ j → u.get? j = s.get? j)
    (hothers' : ∀ j, i ≠ j → u'.get? j = s'.get? j) (hthere : i ∈ there → u.contains i = true) :
    Abreast a start start' there u u' where
  same j hj := by
    by_cases hij : i = j
    · rw [← hij, hsame]
    · rw [hothers j hij, hothers' j hij, h.same j hj]
  kept j hj := (hothers j (fun hij => hj (hij ▸ hi))).trans (h.kept j hj)
  kept' j hj := (hothers' j (fun hij => hj (hij ▸ hi))).trans (h.kept' j hj)
  reserved := h.reserved
  holds j hj := by
    by_cases hij : i = j
    · subst hij
      exact hthere hj
    · rw [NameMap.contains, hothers j hij]
      exact h.holds j hj

theorem insert (h : Abreast a start start' there s s') (hi : IsReserved a i) {held : StoredIndex} :
    Abreast a start start' there (s.insert i held) (s'.insert i held) := by
  refine h.changed hi ?_ (fun j hij => ?_) (fun j hij => ?_) fun _ => ?_
  · rw [NameMap.get?_insert_self, NameMap.get?_insert_self]
  · rw [NameMap.get?_insert, if_neg hij]
  · rw [NameMap.get?_insert, if_neg hij]
  · exact NameMap.contains_insert.2 (.inl rfl)

theorem erase (h : Abreast a start start' there s s') (hi : IsReserved a i) (hfree : i ∉ there) :
    Abreast a start start' there (s.erase i) (s'.erase i) := by
  refine h.changed hi ?_ (fun j hij => ?_) (fun j hij => ?_) fun hthere => absurd hthere hfree
  · rw [NameMap.get?_erase, NameMap.get?_erase, if_pos rfl, if_pos rfl]
  · rw [NameMap.get?_erase, if_neg hij]
  · rw [NameMap.get?_erase, if_neg hij]

theorem modify (h : Abreast a start start' there s s') (hi : IsReserved a i)
    {f : StoredIndex → StoredIndex} : Abreast a start start' there (s.modify i f) (s'.modify i f) := by
  refine h.changed hi ?_ (fun j hij => ?_) (fun j hij => ?_) fun hthere => ?_
  · rw [NameMap.get?_modify, NameMap.get?_modify, h.same i hi]
  · rw [NameMap.get?_modify, if_neg hij]
  · rw [NameMap.get?_modify, if_neg hij]
  · rw [NameMap.contains, NameMap.get?_modify, if_pos rfl, Option.isSome_map]
    exact h.holds i hthere

theorem modifyAll {f : StoredIndex → StoredIndex} : ∀ {names : List String} {s s' : Store},
    Abreast a start start' there s s' → (∀ i ∈ names, IsReserved a i) →
      Abreast a start start' there (s.modifyAll names f) (s'.modifyAll names f)
  | [], _, _, h, _ => h
  | i :: _, _, _, h, hnames =>
    (h.modify (hnames i List.mem_cons_self)).modifyAll
      fun j hj => hnames j (List.mem_cons_of_mem _ hj)

/-! ## Calls -/

variable {name : String}

theorem createIndex (haround : AlikeAround a start start') (h : Abreast a start start' there s s')
    (hname : IsGeneration a name) {body : Json} :
    OutcomesAlike (Abreast a start start' there) (s.createIndex name body)
      (s'.createIndex name body) := by
  unfold Store.createIndex
  rw [h.contains_eq (.inr hname), h.isEmpty_carriers_eq haround hname]
  split
  · exact .error _
  split
  · exact .error _
  · exact .ok (h.insert (.inr hname))

theorem deleteIndex (h : Abreast a start start' there s s') (hname : IsReserved a name)
    (hfree : name ∉ there) :
    OutcomesAlike (Abreast a start start' there) (s.deleteIndex name) (s'.deleteIndex name) := by
  unfold Store.deleteIndex
  rw [h.contains_eq hname]
  split
  · exact .ok (h.erase hname hfree)
  · exact .error _

theorem putAlias (h : Abreast a start start' there s s') (hname : IsReserved a name) :
    OutcomesAlike (Abreast a start start' there) (s.putAlias name a) (s'.putAlias name a) := by
  unfold Store.putAlias
  rw [h.contains_eq (.inl rfl), h.index?_eq hname]
  split
  · exact .error _
  cases s'.index? name with
  | error e => exact .error e
  | ok held =>
    show OutcomesAlike _ (if held.aliases.contains a then _ else _)
      (if held.aliases.contains a then _ else _)
    split
    · exact .ok h
    · exact .ok (h.insert hname)

theorem deleteAlias (h : Abreast a start start' there s s') (hname : IsReserved a name) {b : String} :
    OutcomesAlike (Abreast a start start' there) (s.deleteAlias name b) (s'.deleteAlias name b) := by
  unfold Store.deleteAlias
  rw [h.index?_eq hname]
  cases s'.index? name with
  | error e => exact .error e
  | ok held =>
    show OutcomesAlike _ (if held.aliases.contains b then _ else _)
      (if held.aliases.contains b then _ else _)
    split
    · exact .ok (h.insert hname)
    · exact .error _

theorem putSettings (h : Abreast a start start' there s s') (hname : name ∈ there) {settings : Json} :
    OutcomesAlike (Abreast a start start' there) (s.putSettings name settings)
      (s'.putSettings name settings) := by
  unfold Store.putSettings
  rw [readTargets_of_contains (h.holds name hname), readTargets_of_contains (h.holds' hname)]
  refine .ok (h.modifyAll fun i hi => ?_)
  rw [List.mem_singleton.1 hi]
  exact h.reserved name hname

theorem putMapping (haround : AlikeAround a start start') (h : Abreast a start start' there s s')
    {properties : Json} :
    OutcomesAlike (Abreast a start start' there) (s.putMapping a properties)
      (s'.putMapping a properties) := by
  unfold Store.putMapping
  split
  · exact .error _
  rw [← h.readTargets_eq haround]
  cases hread : s.readTargets a with
  | error e => exact .error e
  | ok targets =>
    have hreserved := h.reserved_of_read haround hread
    simp only [bind, Except.bind]
    rw [h.indexesOf_eq hreserved]
    split
    · exact .error _
    · exact .ok (h.modifyAll hreserved)

theorem getSettings_eq (h : Abreast a start start' there s s') (hname : IsReserved a name) :
    s.getSettings name = s'.getSettings name := by
  rw [getSettings, getSettings, h.index?_eq hname]

theorem aliasTargets_eq (haround : AlikeAround a start start') (h : Abreast a start start' there s s') :
    s.aliasTargets a = s'.aliasTargets a := by
  rw [aliasTargets, aliasTargets, h.carriers_eq haround]

theorem reindex (h : Abreast a start start' there s s') {old new : String} {fields : List String}
    {failures : Nat} (hold : old ∈ there) (hnew : new ∈ there) :
    OutcomesAlike (fun x y => Abreast a start start' there x.1 y.1 ∧ x.2 = y.2)
      (s.reindex (copyBody old new fields) failures) (s'.reindex (copyBody old new fields) failures) := by
  have hcopied : s.copiedDocuments ⟨old, new, some fields⟩ [old] =
      s'.copiedDocuments ⟨old, new, some fields⟩ [old] := by
    rw [copiedDocuments, copiedDocuments, h.indexesOf_eq]
    intro i hi
    rw [List.mem_singleton.1 hi]
    exact h.reserved old hold
  unfold Store.reindex
  simp only [ofBody_copyBody, readTargets_of_contains (h.holds old hold),
    readTargets_of_contains (h.holds' hold), writeTarget_of_contains (h.holds new hnew),
    writeTarget_of_contains (h.holds' hnew), hcopied, h.index?_eq (h.reserved new hnew), bind,
    Except.bind]
  cases s'.index? new with
  | error e => exact .error e
  | ok held =>
    show OutcomesAlike _ (if held.writeBlocked then _ else _) (if held.writeBlocked then _ else _)
    split
    · exact .error _
    · exact .ok ⟨h.insert (h.reserved new hnew), rfl⟩

end Abreast

end Store

/-! ## Looks at a pattern -/

/-- Those of some indexes that are generations of a collection. -/
def ownAmong (names : IndexNames) (key : CollectionKey) (found : List IndexDescription) :
    List IndexDescription :=
  found.filter fun index => names.isGenerationOf key index.name

section

variable {names : IndexNames} {key : CollectionKey} {found found' : List IndexDescription}

theorem isGeneration_of_mem_ownAmong {index : IndexDescription} (h : index ∈ ownAmong names key found) :
    IsGeneration (names.aliasName key) index.name :=
  (List.mem_filter.1 h).2

/-- The other indexes are no generations of the collection. -/
theorem generationsAmong_ownAmong :
    generationsAmong names key (ownAmong names key found) = generationsAmong names key found := by
  refine congrArg (List.foldr Generation.putAmong []) ?_
  rw [ownAmong, List.filterMap_filter]
  refine List.filterMap_congr fun index _ => ?_
  rw [IndexNames.isGenerationOf]
  cases names.generationTime? key index.name with
  | none => rfl
  | some time => rfl

theorem Store.ownAmong_described {store : Store} {indexes : List String} :
    ownAmong names key (store.described indexes) =
      store.described (indexes.filter (names.isGenerationOf key)) := by
  unfold ownAmong Store.described
  rw [List.filter_filterMap, List.filterMap_filter]
  refine List.filterMap_congr fun name _ => ?_
  cases store.get? name with
  | none => split <;> rfl
  | some held => rfl

/-- The look at the pattern of a collection tells the same about its generations in both stores. -/
theorem Store.Abreast.ownAmong_eq {start start' s s' : Store} {there : List String}
    (h : Store.Abreast (names.aliasName key) start start' there s s')
    (hfound : s.describe (names.generationPattern key) = .ok found)
    (hfound' : s'.describe (names.generationPattern key) = .ok found') :
    ownAmong names key found = ownAmong names key found' := by
  have hown : ∀ {store : Store} {listed : List IndexDescription},
      store.describe (names.generationPattern key) = .ok listed →
        ownAmong names key listed = store.described (store.names.filter (names.isGenerationOf key)) := by
    intro store listed hlisted
    obtain ⟨indexes, rfl, hindexes⟩ := Store.describe_eq_ok.1 hlisted
    rw [if_pos getLast?_generationPattern] at hindexes
    subst hindexes
    rw [Store.ownAmong_described, List.filter_filter]
    refine congrArg store.described (List.filter_congr fun name _ => ?_)
    cases hname : names.isGenerationOf key name with
    | false => rfl
    | true => rw [Bool.true_and, covers_of_isGeneration hname]
  have hnames : s.names.filter (names.isGenerationOf key) =
      s'.names.filter (names.isGenerationOf key) := by
    refine eq_of_rising ((NameMap.rising_names _).filter _) ((NameMap.rising_names _).filter _)
      fun name => ?_
    rw [List.mem_filter, List.mem_filter, NameMap.mem_names, NameMap.mem_names]
    refine and_congr_left fun hname => ?_
    rw [h.contains_eq (.inr hname)]
  rw [hown hfound, hown hfound', hnames]
  refine List.filterMap_congr fun name hname => ?_
  rw [h.same name (.inr (List.mem_filter.1 hname).2)]

end

/-! ## Calls of a collection -/

/-- A call that a collection makes about itself. What it addresses without having found it in the same
call has to be there, or has to be its alias. -/
inductive EngineCall.Confined (a : String) (there : List String) : EngineCall → Prop where
  | getAlias : Confined a there (.getAlias a)
  | createIndex {name : String} (h : IsGeneration a name) (body : Json) :
    Confined a there (.createIndex name body)
  | deleteIndex {name : String} (h : IsReserved a name) (hfree : name ∉ there) :
    Confined a there (.deleteIndex name)
  | putAlias {name : String} (h : IsReserved a name) : Confined a there (.putAlias name a)
  | deleteAlias {name : String} (h : IsReserved a name) (b : String) :
    Confined a there (.deleteAlias name b)
  | getSettings {name : String} (h : name ∈ there) : Confined a there (.getSettings name)
  | putSettings {name : String} (h : name ∈ there) (settings : Json) :
    Confined a there (.putSettings name settings)
  | putMapping (properties : Json) : Confined a there (.putMapping a properties)
  | reindex {old new : String} (hold : old ∈ there) (hnew : new ∈ there) (fields : List String) :
    Confined a there (.reindex (copyBody old new fields))

/-- A change that the stores take alike is answered alike. -/
theorem Memory.update_alike {R : Store → Store → Prop} {m m' : Memory}
    {r r' : Except EngineError Store} (hr : OutcomesAlike R r r') (hm : R m.store m'.store) :
    (m.update r).1 = (m'.update r').1 ∧ R (m.update r).2.store (m'.update r').2.store := by
  cases hr with
  | ok h => exact ⟨rfl, h⟩
  | error e => exact ⟨rfl, hm⟩

theorem Memory.reindex_alike {R : Store → Store → Prop} {m m' : Memory} {body : Json}
    (hr : OutcomesAlike (fun x y => R x.1 y.1 ∧ x.2 = y.2) (m.store.reindex body m.pendingFailures)
      (m'.store.reindex body m'.pendingFailures)) (hm : R m.store m'.store) :
    (m.reindex body).1 = (m'.reindex body).1 ∧ R (m.reindex body).2.store (m'.reindex body).2.store := by
  unfold Memory.reindex
  generalize m.store.reindex body m.pendingFailures = r at hr ⊢
  generalize m'.store.reindex body m'.pendingFailures = r' at hr ⊢
  cases hr with
  | @ok x y h =>
    obtain ⟨store, reply⟩ := x
    obtain ⟨store', reply'⟩ := y
    obtain ⟨hstores, rfl⟩ := h
    exact ⟨rfl, hstores⟩
  | error e => exact ⟨rfl, hm⟩

/-- A call that a collection makes about itself is answered alike by stores that are abreast, and leaves
them abreast. -/
theorem Store.Abreast.answer {start start' : Store} {a : String} {there : List String} {m m' : Memory}
    {c : EngineCall} (haround : Store.AlikeAround a start start')
    (h : Store.Abreast a start start' there m.store m'.store) (hc : c.Confined a there)
    (hcalm : m.pendingFailures = m'.pendingFailures) :
    (Memory.answer c m).1 = (Memory.answer c m').1 ∧
      Store.Abreast a start start' there (Memory.answer c m).2.store (Memory.answer c m').2.store := by
  cases hc with
  | getAlias => exact ⟨h.aliasTargets_eq haround, h⟩
  | createIndex hname body => exact Memory.update_alike (h.createIndex haround hname) h
  | deleteIndex hname hfree => exact Memory.update_alike (h.deleteIndex hname hfree) h
  | putAlias hname => exact Memory.update_alike (h.putAlias hname) h
  | deleteAlias hname b => exact Memory.update_alike (h.deleteAlias hname) h
  | getSettings hname => exact ⟨h.getSettings_eq (h.reserved _ hname), h⟩
  | putSettings hname settings => exact Memory.update_alike (h.putSettings hname) h
  | putMapping properties => exact Memory.update_alike (h.putMapping haround) h
  | @reindex old new hold hnew fields =>
    refine Memory.reindex_alike ?_ h
    show OutcomesAlike _ (m.store.reindex _ m.pendingFailures) (m'.store.reindex _ m'.pendingFailures)
    rw [hcalm]
    exact h.reindex hold hnew

end SiteSearch
