import SiteSearch.Proofs.Memory.Frame

/-!
# The indexes behind an alias

`Store.Carries` says that an index carries an alias. An operation of the engine in memory changes
that in one place at most: `carries_putAlias` and its companions say where. An operation on
settings, mappings or documents leaves all aliases as they are (`SameAliases`).

`Store.carriers` lists the indexes that carry an alias, so two stores with the same carriers list
them alike (`carriers_congr`).
-/

namespace SiteSearch

namespace Store

variable {store store' : Store} {i j a b name : String}

/-- The index is there and carries the alias. -/
def Carries (store : Store) (index aliasName : String) : Prop :=
  ∃ held, store.get? index = some held ∧ held.aliases.contains aliasName = true

theorem mem_carriers : i ∈ store.carriers a ↔ store.Carries i a := by
  rw [carriers, NameMap.mem_names, NameMap.contains_eq_true]
  simp only [NameMap.get?_filter, Option.filter_eq_some_iff]
  rfl

theorem carriers_congr (h : ∀ i, store.Carries i a ↔ store'.Carries i a) :
    store.carriers a = store'.carriers a := by
  refine eq_of_rising (NameMap.rising_names _) (NameMap.rising_names _) fun i => ?_
  exact mem_carriers.trans ((h i).trans mem_carriers.symm)

theorem carriers_eq_singleton : store.carriers a = [i] ↔ ∀ j, store.Carries j a ↔ j = i := by
  constructor
  · intro h j
    rw [← mem_carriers, h, List.mem_singleton]
  · intro h
    refine eq_of_rising (NameMap.rising_names _) (List.pairwise_singleton _ _) fun j => ?_
    rw [List.mem_singleton, ← h j]
    exact mem_carriers

theorem aliasExists_iff : store.aliasExists a = true ↔ ∃ i, store.Carries i a := by
  rw [aliasExists, Bool.not_eq_true', List.isEmpty_eq_false_iff_exists_mem]
  simp only [mem_carriers]

theorem aliasExists_eq_false : store.aliasExists a = false ↔ ∀ i, ¬ store.Carries i a := by
  rw [← Bool.not_eq_true, aliasExists_iff, not_exists]

theorem carries_iff {held : StoredIndex} (h : store.get? i = some held) :
    store.Carries i a ↔ held.aliases.contains a = true := by
  constructor
  · rintro ⟨held', h', hc⟩
    obtain rfl := Option.some.inj (h'.symm.trans h)
    exact hc
  · intro hc
    exact ⟨held, h, hc⟩

theorem Carries.contains (h : store.Carries i a) : store.contains i = true := by
  obtain ⟨held, hget, -⟩ := h
  exact NameMap.contains_eq_true.2 ⟨held, hget⟩

/-- An alias can be given to an index unless an index has its name. -/
theorem putAlias_of_contains (ha : store.contains a = false) (hname : store.contains name = true) :
    ∃ store', store.putAlias name a = .ok store' := by
  obtain ⟨held, hget⟩ := NameMap.contains_eq_true.1 hname
  cases hheld : held.aliases.contains a with
  | true => exact ⟨_, putAlias_eq_ok.2 ⟨held, ha, hget, .inl ⟨hheld, rfl⟩⟩⟩
  | false => exact ⟨_, putAlias_eq_ok.2 ⟨held, ha, hget, .inr ⟨hheld, rfl⟩⟩⟩

/-- An alias can be taken from an index that carries it. -/
theorem deleteAlias_of_carries (h : store.Carries name a) :
    ∃ store', store.deleteAlias name a = .ok store' := by
  obtain ⟨held, hget, hheld⟩ := h
  exact ⟨_, deleteAlias_eq_ok.2 ⟨held, hget, hheld, rfl⟩⟩

/-! ## Where an operation changes the carriers -/

theorem carries_insert {held : StoredIndex} :
    Carries (store.insert name held) i a ↔
      if name = i then held.aliases.contains a = true else store.Carries i a := by
  unfold Carries
  rw [NameMap.get?_insert]
  by_cases h : name = i
  · simp [h]
  · simp [h]

theorem carries_erase : Carries (store.erase name) i a ↔ name ≠ i ∧ store.Carries i a := by
  unfold Carries
  rw [NameMap.get?_erase]
  by_cases h : name = i
  · simp [h]
  · simp [h]

/-- A new index carries the aliases that its body gives to it. -/
theorem carries_insert_new {held : StoredIndex} (h : store.contains name = false) :
    Carries (store.insert name held) i a ↔
      name = i ∧ held.aliases.contains a = true ∨ store.Carries i a := by
  rw [carries_insert]
  by_cases hi : name = i
  · subst hi
    have hnot : ¬ store.Carries name a := fun hc => by
      rw [hc.contains] at h
      cases h
    simp [hnot]
  · simp [hi]

theorem carries_putAlias (h : store.putAlias name a = .ok store') :
    store'.Carries i b ↔ name = i ∧ a = b ∨ store.Carries i b := by
  obtain ⟨held, -, hget, ⟨hc, rfl⟩ | ⟨hc, rfl⟩⟩ := putAlias_eq_ok.1 h
  · constructor
    · exact .inr
    · rintro (⟨rfl, rfl⟩ | hb)
      · exact ⟨held, hget, hc⟩
      · exact hb
  · rw [carries_insert]
    by_cases hi : name = i
    · subst hi
      rw [if_pos rfl, NameMap.contains_insert, carries_iff hget]
      simp
    · simp [hi]

theorem carries_deleteAlias (h : store.deleteAlias name a = .ok store') :
    store'.Carries i b ↔ ¬ (name = i ∧ a = b) ∧ store.Carries i b := by
  obtain ⟨held, hget, -, rfl⟩ := deleteAlias_eq_ok.1 h
  rw [carries_insert]
  by_cases hi : name = i
  · subst hi
    rw [if_pos rfl, NameMap.contains_erase, carries_iff hget]
    simp
  · simp [hi]

/-! ## Operations that change no alias -/

/-- Every index has the same aliases in both stores. -/
def SameAliases (store store' : Store) : Prop :=
  ∀ i, (store'.get? i).map (·.aliases) = (store.get? i).map (·.aliases)

theorem SameAliases.refl : store.SameAliases store := fun _ => rfl

theorem SameAliases.trans {store'' : Store} (h : store.SameAliases store')
    (h' : store'.SameAliases store'') : store.SameAliases store'' :=
  SameBy.trans h h'

theorem SameAliases.contains_eq (h : store.SameAliases store') :
    store'.contains name = store.contains name := by
  have hsome := congrArg Option.isSome (h name)
  rwa [Option.isSome_map, Option.isSome_map] at hsome

theorem SameAliases.carries_iff (h : store.SameAliases store') :
    store'.Carries i a ↔ store.Carries i a := by
  have hiff : ∀ s : Store, s.Carries i a ↔
      ∃ aliases, (s.get? i).map (·.aliases) = some aliases ∧ aliases.contains a = true := by
    intro s
    constructor
    · rintro ⟨held, hget, hc⟩
      exact ⟨held.aliases, by rw [hget]; rfl, hc⟩
    · rintro ⟨_, hmap, hc⟩
      obtain ⟨held, hget, rfl⟩ := Option.map_eq_some_iff.1 hmap
      exact ⟨held, hget, hc⟩
  rw [hiff, hiff, h i]

theorem sameAliases_insert {held held' : StoredIndex} (h : store.get? name = some held)
    (ha : held'.aliases = held.aliases) : store.SameAliases (store.insert name held') :=
  sameBy_insert h ha

theorem sameAliases_indexDocument {id : String} {document : Json}
    (h : store.indexDocument name id document = .ok store') : store.SameAliases store' :=
  sameBy_indexDocument (fun _ _ => rfl) h

theorem sameAliases_deleteDocument {id : String}
    (h : store.deleteDocument name id = .ok store') : store.SameAliases store' :=
  sameBy_deleteDocument (fun _ _ => rfl) h

theorem sameAliases_bulk {operations : List BulkOperation} :
    store.SameAliases (store.bulk operations).1 :=
  sameBy_bulk fun _ _ => rfl

theorem sameAliases_reindex {body : Json} {failures : Nat} {reply : ReindexReply}
    (h : store.reindex body failures = .ok (store', reply)) : store.SameAliases store' :=
  sameBy_reindex (fun _ _ => rfl) h

theorem sameAliases_putSettings {settings : Json}
    (h : store.putSettings name settings = .ok store') : store.SameAliases store' :=
  sameBy_putSettings (fun _ _ _ => rfl) h

theorem sameAliases_putMapping {properties : Json}
    (h : store.putMapping name properties = .ok store') : store.SameAliases store' :=
  sameBy_putMapping (fun _ _ => rfl) h

end Store

end SiteSearch
