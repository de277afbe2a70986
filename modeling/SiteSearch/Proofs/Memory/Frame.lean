import SiteSearch.Engine.Memory.Document
import SiteSearch.Engine.Memory.Index
import SiteSearch.Proofs.Engine.Run

/-!
# What an operation leaves as it is

What the engine in memory leaves when an operation succeeds, and what it leaves alone: a write changes
documents only, settings change settings and the block, a mapping is put over properties.

`Store.SameBy f` says that every index shows the same under `f` in two stores. An operation that
changes one part of an index keeps every `f` that does not look at this part.
-/

namespace SiteSearch

namespace Store

variable {store store' : Store} {i a name : String}

/-! ## What is left when an operation succeeds -/

theorem createIndex_eq_ok {body : Json} :
    store.createIndex name body = .ok store' ↔
      store.contains name = false ∧ store.carriers name = [] ∧
        store' = store.insert name (indexOfBody body) := by
  unfold createIndex
  by_cases h₁ : store.contains name = true
  · simp [h₁]
  · by_cases h₂ : store.carriers name = []
    · simp [h₁, h₂, eq_comm]
    · simp [h₁, h₂]

theorem deleteIndex_eq_ok :
    store.deleteIndex name = .ok store' ↔
      store.contains name = true ∧ store' = store.erase name := by
  unfold deleteIndex
  by_cases h : store.contains name = true
  · simp [h, eq_comm]
  · simp [h]

theorem index?_eq_ok {held : StoredIndex} :
    store.index? name = .ok held ↔ store.get? name = some held := by
  unfold index?
  cases store.get? name <;> simp

theorem cloneIndex_eq_ok {source target : String} {body : Json} :
    store.cloneIndex source target body = .ok store' ↔
      ∃ held, store.get? source = some held ∧ held.writeBlocked = true ∧
        store.contains target = false ∧
        store' = store.insert target
          { held with aliases := bodyAliases body, writeBlocked := false } := by
  unfold cloneIndex
  simp only [bind_eq_ok, index?_eq_ok]
  refine exists_congr fun held => and_congr_right fun _ => ?_
  by_cases h₁ : held.writeBlocked = true
  · by_cases h₂ : store.contains target = true
    · simp [h₁, h₂]
    · simp [h₁, h₂, eq_comm]
  · simp [h₁]

theorem putAlias_eq_ok :
    store.putAlias name a = .ok store' ↔
      ∃ held, store.contains a = false ∧ store.get? name = some held ∧
        (held.aliases.contains a = true ∧ store' = store ∨
          held.aliases.contains a = false ∧
            store' = store.insert name { held with aliases := held.aliases.insert a false }) := by
  unfold putAlias
  by_cases h₁ : store.contains a = true
  · simp [h₁]
  · simp only [h₁, Bool.false_eq_true, if_false, bind_eq_ok, index?_eq_ok, true_and]
    refine exists_congr fun held => and_congr_right fun _ => ?_
    by_cases h₂ : held.aliases.contains a = true
    · simp [h₂, eq_comm]
    · simp [h₂, eq_comm]

theorem deleteAlias_eq_ok :
    store.deleteAlias name a = .ok store' ↔
      ∃ held, store.get? name = some held ∧ held.aliases.contains a = true ∧
        store' = store.insert name { held with aliases := held.aliases.erase a } := by
  unfold deleteAlias
  simp only [bind_eq_ok, index?_eq_ok]
  refine exists_congr fun held => and_congr_right fun _ => ?_
  by_cases h : held.aliases.contains a = true
  · simp [h, eq_comm]
  · simp [h]

theorem openForWriting_eq_ok {held : StoredIndex} :
    store.openForWriting name = .ok (i, held) ↔
      store.writeTarget name = .ok i ∧ store.get? i = some held ∧ held.writeBlocked = false := by
  unfold openForWriting
  simp only [bind_eq_ok, index?_eq_ok]
  constructor
  · rintro ⟨target, hw, found, hget, h⟩
    by_cases hb : found.writeBlocked = true
    · simp [hb] at h
    · simp only [hb, Bool.false_eq_true, if_false, Except.ok.injEq, Prod.mk.injEq] at h
      obtain ⟨rfl, rfl⟩ := h
      exact ⟨hw, hget, by simpa using hb⟩
  · rintro ⟨hw, hget, hb⟩
    exact ⟨i, hw, held, hget, by simp [hb]⟩

/-! ## What indexes show -/

variable {β : Type} {f : StoredIndex → β}

/-- Every index shows the same in both stores. -/
def SameBy (f : StoredIndex → β) (store store' : Store) : Prop :=
  ∀ i, (store'.get? i).map f = (store.get? i).map f

theorem SameBy.refl : store.SameBy f store := fun _ => rfl

theorem SameBy.trans {store'' : Store} (h : store.SameBy f store') (h' : store'.SameBy f store'') :
    store.SameBy f store'' :=
  fun i => (h' i).trans (h i)

theorem SameBy.contains (h : store.SameBy f store') : store'.contains i = store.contains i := by
  rw [NameMap.contains, NameMap.contains, ← Option.isSome_map (f := f), h i, Option.isSome_map]

theorem SameBy.get? {held : StoredIndex} (h : store.SameBy f store')
    (hget : NameMap.get? store i = some held) :
    ∃ held', NameMap.get? store' i = some held' ∧ f held' = f held := by
  have hi := h i
  rw [hget] at hi
  exact Option.map_eq_some_iff.1 hi

theorem SameBy.get?_after {held' : StoredIndex} (h : store.SameBy f store')
    (hget : NameMap.get? store' i = some held') :
    ∃ held, NameMap.get? store i = some held ∧ f held' = f held := by
  have hi := h i
  rw [hget] at hi
  obtain ⟨held, hheld, heq⟩ := Option.map_eq_some_iff.1 hi.symm
  exact ⟨held, hheld, heq.symm⟩

theorem sameBy_insert {held held' : StoredIndex} (h : store.get? name = some held)
    (hf : f held' = f held) : store.SameBy f (store.insert name held') := by
  intro i
  rw [NameMap.get?_insert]
  by_cases hi : name = i
  · subst hi
    simp [h, hf]
  · rw [if_neg hi]

theorem sameBy_modifyAll {g : StoredIndex → StoredIndex} (hf : ∀ x, f (g x) = f x) :
    ∀ {names : List String} {store : Store}, store.SameBy f (store.modifyAll names g)
  | [], _ => .refl
  | name :: names, store => by
    have hfirst : store.SameBy f (store.modify name g) := by
      intro i
      rw [NameMap.get?_modify]
      by_cases hi : name = i
      · simp [hi, Option.map_map, Function.comp_def, hf]
      · rw [if_neg hi]
    exact hfirst.trans (sameBy_modifyAll hf)

/-! ### Operations on documents -/

section

variable (hf : ∀ x documents, f { x with documents } = f x)

include hf

theorem sameBy_indexDocument {id : String} {document : Json}
    (h : store.indexDocument name id document = .ok store') : store.SameBy f store' := by
  obtain ⟨⟨target, held⟩, hopen, h⟩ := bind_eq_ok.1 h
  cases h
  exact sameBy_insert (openForWriting_eq_ok.1 hopen).2.1 (hf _ _)

theorem sameBy_deleteDocument {id : String}
    (h : store.deleteDocument name id = .ok store') : store.SameBy f store' := by
  obtain ⟨⟨target, held⟩, hopen, h⟩ := bind_eq_ok.1 h
  simp only at h
  split at h
  · cases h
    exact sameBy_insert (openForWriting_eq_ok.1 hopen).2.1 (hf _ _)
  · cases h

theorem sameBy_bulkStep (operation : BulkOperation) :
    store.SameBy f (store.bulkStep operation).1 := by
  cases operation with
  | index name id document =>
    simp only [bulkStep]
    split
    · exact .refl
    · rename_i hopen
      exact sameBy_insert (openForWriting_eq_ok.1 hopen).2.1 (hf _ _)
  | delete name id =>
    simp only [bulkStep]
    split
    · exact .refl
    · rename_i hopen
      split
      · exact sameBy_insert (openForWriting_eq_ok.1 hopen).2.1 (hf _ _)
      · exact .refl

theorem sameBy_bulk :
    ∀ {operations : List BulkOperation} {store : Store}, store.SameBy f (store.bulk operations).1
  | [], _ => .refl
  | operation :: _, _ => (sameBy_bulkStep hf operation).trans sameBy_bulk

theorem sameBy_reindex {body : Json} {failures : Nat} {reply : ReindexReply}
    (h : store.reindex body failures = .ok (store', reply)) : store.SameBy f store' := by
  obtain ⟨request, -, h⟩ := bind_eq_ok.1 h
  obtain ⟨sources, -, h⟩ := bind_eq_ok.1 h
  obtain ⟨target, -, h⟩ := bind_eq_ok.1 h
  obtain ⟨held, hget, h⟩ := bind_eq_ok.1 h
  split at h
  · cases h
  · cases h
    exact sameBy_insert (index?_eq_ok.1 hget) (hf _ _)

end

/-! ### Operations on aliases, settings and mappings -/

theorem sameBy_putAlias (hf : ∀ x aliases, f { x with aliases } = f x)
    (h : store.putAlias name a = .ok store') : store.SameBy f store' := by
  obtain ⟨held, -, hget, ⟨-, rfl⟩ | ⟨-, rfl⟩⟩ := putAlias_eq_ok.1 h
  · exact .refl
  · exact sameBy_insert hget (hf _ _)

theorem sameBy_deleteAlias (hf : ∀ x aliases, f { x with aliases } = f x)
    (h : store.deleteAlias name a = .ok store') : store.SameBy f store' := by
  obtain ⟨held, hget, -, rfl⟩ := deleteAlias_eq_ok.1 h
  exact sameBy_insert hget (hf _ _)

theorem sameBy_putSettings {settings : Json}
    (hf : ∀ x settings writeBlocked, f { x with settings, writeBlocked } = f x)
    (h : store.putSettings name settings = .ok store') : store.SameBy f store' := by
  obtain ⟨targets, -, h⟩ := bind_eq_ok.1 h
  cases h
  exact sameBy_modifyAll fun x => hf x _ _

theorem sameBy_putMapping {properties : Json} (hf : ∀ x properties, f { x with properties } = f x)
    (h : store.putMapping name properties = .ok store') : store.SameBy f store' := by
  unfold putMapping at h
  split at h
  · cases h
  · obtain ⟨targets, -, h⟩ := bind_eq_ok.1 h
    split at h
    · cases h
    · cases h
      exact sameBy_modifyAll fun x => hf x _

end Store

end SiteSearch
