import SiteSearch.Proofs.Field.Signature
import SiteSearch.Proofs.Memory.Growth

/-!
# The fields of an index

`Store.signature?` is the set of the fields that an index has. A look at the mapping behind an alias
tells it where one index is bound to the alias, and a mapping that is put there adds to it: no field is
ever taken out of an index. Calls that only take indexes and aliases away leave the fields of the others
as they are (`Store.Fades`).
-/

namespace SiteSearch

namespace Store

variable {store store' store'' : Store} {a i j : String}

/-- The fields of an index, where there is one with the name. -/
def signature? (store : Store) (index : String) : Option Signature :=
  (store.properties? index).map fun properties => .ofProperties (.ofMap properties)

theorem contains_iff_signature? : store.contains i = true ↔ (store.signature? i).isSome := by
  rw [signature?, Option.isSome_map, properties?, Option.isSome_map]
  rfl

theorem signature?_of_contains (h : store.contains i = true) :
    ∃ signature, store.signature? i = some signature :=
  Option.isSome_iff_exists.1 (contains_iff_signature?.1 h)

/-- A new index has the fields of the mapping that it is made with. -/
theorem ofProperties_indexOfBody {key : CollectionKey} {mapping : Mapping} :
    Signature.ofProperties (.ofMap (indexOfBody (indexBody key mapping)).properties) =
      mapping.signature := by
  have hpath : (indexBody key mapping).path? ["mappings", "properties"] = some mapping.properties := by
    simp [indexBody, Json.path?, Json.field?_ofFields, NameMap.ofList, NameMap.get?_insert]
  refine Signature.eq_of_mem_iff fun name => ?_
  rw [Signature.mem_ofProperties_ofMap, Mapping.mem_signature, indexOfBody, hpath, Option.bind_some,
    Mapping.properties, Json.map?_ofFields, Option.getD_some, NameMap.contains_ofList,
    ← NameMap.names, NameMap.mem_names, NameMap.contains_ofList, List.map_map]
  rfl

/-- A reader reaches the one index that is bound to an alias. -/
theorem readTargets_of_bound (ha : store.contains a = false)
    (hbound : ∀ j, store.Carries j a ↔ j = i) : store.readTargets a = .ok [i] := by
  rw [readTargets, carriers_eq_singleton.2 hbound, ha]
  rfl

/-- The mapping behind an alias is that of the index that is bound to it. -/
theorem getMapping_of_bound (ha : store.contains a = false)
    (hbound : ∀ j, store.Carries j a ↔ j = i) :
    ∃ live, store.getMapping a = .ok live ∧ store.signature? i = some (.ofProperties live) := by
  obtain ⟨held, hget, -⟩ := (hbound i).2 rfl
  refine ⟨.ofMap held.properties, ?_, ?_⟩
  · rw [getMapping, readTargets_of_bound ha hbound]
    simp only [bind, Except.bind, List.take_succ_cons, List.take_zero, indexesOf, List.filterMap_cons,
      hget, List.filterMap_nil]
  · rw [signature?, properties?, hget]
    rfl

/-- A mapping can be put behind an alias only where an index is bound to it. -/
theorem exists_carries_of_putMapping {mapping : Mapping} (ha : store.contains a = false)
    (h : store.putMapping a mapping.properties = .ok store') : ∃ i, store.Carries i a := by
  have hexists : store.aliasExists a = true := by
    rw [aliasExists, Bool.not_eq_true', Bool.eq_false_iff, ne_eq, List.isEmpty_iff]
    intro hnone
    have hrefused : store.readTargets a = .error (noSuchIndex a) := by
      rw [readTargets, ha, hnone]
      rfl
    unfold putMapping at h
    rw [hrefused] at h
    cases h
  exact aliasExists_iff.1 hexists

/-- A mapping that is put behind an alias adds its fields to the index that is bound to it. -/
theorem signature?_putMapping {mapping : Mapping} {held : Signature} (ha : store.contains a = false)
    (hbound : ∀ j, store.Carries j a ↔ j = i) (hheld : store.signature? i = some held)
    (h : store.putMapping a mapping.properties = .ok store') :
    (∃ signature, store'.signature? i = some signature ∧
      ∀ name, name ∈ signature.names ↔ name ∈ held.names ∨ name ∈ mapping.signature.names) ∧
      ∀ j, j ≠ i → store'.signature? j = store.signature? j := by
  have hobject : mapping.properties.object? =
      some (NameMap.ofList (mapping.fields.map fun f => (f.1, f.2.toJson))).entries := rfl
  unfold putMapping at h
  rw [hobject, readTargets_of_bound ha hbound] at h
  simp only [bind, Except.bind] at h
  split at h
  · cases h
  obtain rfl := Except.ok.inj h
  have hget : ∀ j, (store.modifyAll [i] (withProperties
      (NameMap.ofList (mapping.fields.map fun f => (f.1, f.2.toJson))).entries)).get? j =
      if i = j then (store.get? i).map (withProperties
        (NameMap.ofList (mapping.fields.map fun f => (f.1, f.2.toJson))).entries)
      else store.get? j := by
    intro j
    show (store.modify i _).get? j = _
    rw [NameMap.get?_modify]
    split
    · rename_i heq
      rw [heq]
    · rfl
  constructor
  · obtain ⟨properties, hproperties, rfl⟩ := Option.map_eq_some_iff.1 hheld
    obtain ⟨index, hindex, rfl⟩ := Option.map_eq_some_iff.1 hproperties
    refine ⟨_, by rw [signature?, properties?, hget, if_pos rfl, hindex]; rfl, fun name => ?_⟩
    rw [Signature.mem_ofProperties_ofMap, Signature.mem_ofProperties_ofMap, withProperties,
      NameMap.contains_foldl_insert, Mapping.mem_signature]
    refine or_congr_right ?_
    rw [← NameMap.names, NameMap.mem_names, NameMap.contains_ofList, List.map_map]
    rfl
  · intro j hj
    rw [signature?, properties?, hget, if_neg (Ne.symm hj), ← properties?, ← signature?]

/-! ## Taking away -/

/-- Indexes may have been deleted and aliases taken away. -/
structure Fades (store store' : Store) : Prop where
  carries : ∀ i b, store'.Carries i b → store.Carries i b
  signature : ∀ i, store'.contains i = true → store'.signature? i = store.signature? i

namespace Fades

theorem refl : store.Fades store := ⟨fun _ _ => id, fun _ _ => rfl⟩

theorem trans (h : store.Fades store') (h' : store'.Fades store'') : store.Fades store'' where
  carries i b hi := h.carries i b (h'.carries i b hi)
  signature i hi := by
    have hsame := h'.signature i hi
    have hthere : NameMap.contains store' i = true := by
      rw [contains_iff_signature?] at hi ⊢
      rwa [← hsame]
    exact hsame.trans (h.signature i hthere)

end Fades

theorem Alike.fades (h : store.Alike store') : store.Fades store' where
  carries i b := (h.carries i b).1
  signature i _ := by rw [signature?, h.properties, ← signature?]

theorem signature?_of_sameBy (h : store.SameBy (·.properties) store') :
    store'.signature? i = store.signature? i := by
  rw [signature?, properties?, h i, ← properties?, ← signature?]

end Store

/-- The call only looks, or it takes an index or an alias away. -/
def EngineCall.TakesAway : EngineCall → Prop
  | getAlias _ | getIndices _ | deleteIndex _ | deleteAlias _ _ => True
  | _ => False

namespace Store

variable {store : Store} {c : EngineCall}

theorem fades_after (h : c.TakesAway) : store.Fades (store.after c) := by
  cases c with
  | getAlias | getIndices => exact .refl
  | deleteIndex name =>
    refine orKept_of .refl fun store' hok => ?_
    obtain ⟨-, rfl⟩ := deleteIndex_eq_ok.1 hok
    refine ⟨fun i b hi => (carries_erase.1 hi).2, fun i hi => ?_⟩
    rw [signature?, properties?, NameMap.get?_erase, if_neg (NameMap.contains_erase.1 hi).1,
      ← properties?, ← signature?]
  | deleteAlias name a =>
    refine orKept_of .refl fun store' hok => ⟨fun i b hi => ((carries_deleteAlias hok).1 hi).2, ?_⟩
    exact fun i _ => signature?_of_sameBy (sameBy_deleteAlias (fun _ _ => rfl) hok)
  | _ => exact h.elim

end Store

end SiteSearch
