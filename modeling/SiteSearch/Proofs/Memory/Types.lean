import SiteSearch.Proofs.Field.Types
import SiteSearch.Proofs.Memory.Properties
import SiteSearch.Proofs.Memory.Reading

/-!
# Fields that keep their types

The engine in memory refuses a mapping that gives a field of an index another type. Where all properties
came from mappings under one prefix (`Store.Typed`), a mapping under this prefix is never refused for
that. It is put to every index behind the name, and each of them has the fields that it had together
with those of the mapping (`Mapping.Unites`), none of them with two types.
-/

namespace SiteSearch

variable {start a i name : String} {mapping : Mapping}

/-- Every field has the type that goes with its name. -/
def TypedByName (start : String) (properties : NameMap Json) : Prop :=
  ∀ name spec, properties.get? name = some spec → spec = (FieldType.ofName start name).toJson

theorem typedByName_specs {model : ContentModel} : TypedByName start (Mapping.ofModel ⟨start, model⟩).specs :=
  fun _ _ h => Mapping.spec_of_ofModel h

/-- Properties of one prefix put over others. -/
theorem TypedByName.written {before added : NameMap Json} (h : TypedByName start before)
    (h' : TypedByName start added) :
    TypedByName start (added.entries.foldl (fun m e => m.insert e.1 e.2) before) := by
  intro name spec hspec
  rw [NameMap.get?_written, Option.or_eq_some_iff] at hspec
  rcases hspec with hspec | ⟨-, hspec⟩
  · exact h' name spec hspec
  · exact h name spec hspec

/-- The properties behind are those before together with those of the mapping. -/
def Mapping.Unites (mapping : Mapping) (before after : NameMap Json) : Prop :=
  ∀ name spec, after.get? name = some spec ↔
    before.get? name = some spec ∨ ∃ type, mapping.get? name = some type ∧ type.toJson = spec

/-- A mapping that is put over properties of its prefix is united with them. -/
theorem Mapping.unites_written {model : ContentModel} {before : NameMap Json}
    (h : TypedByName start before) :
    (ofModel ⟨start, model⟩).Unites before
      ((ofModel ⟨start, model⟩).specs.entries.foldl (fun m e => m.insert e.1 e.2) before) := by
  intro name spec
  have hmapping : (ofModel ⟨start, model⟩).specs.get? name = some spec ↔
      ∃ type, (ofModel ⟨start, model⟩).get? name = some type ∧ type.toJson = spec := by
    rw [get?_specs, Option.map_eq_some_iff]
  rw [NameMap.get?_written, Option.or_eq_some_iff, ← hmapping]
  constructor
  · rintro (hspec | ⟨-, hspec⟩)
    · exact .inr hspec
    · exact .inl hspec
  · rintro (hspec | hspec)
    · -- a field that both have is described alike in both
      cases hheld : (ofModel ⟨start, model⟩).specs.get? name with
      | none => exact .inr ⟨rfl, hspec⟩
      | some held => exact .inl (by rw [h name spec hspec, spec_of_ofModel hheld])
    · exact .inl hspec

theorem sameType_toJson (type : FieldType) : Store.sameType type.toJson type.toJson = true := by
  cases type with
  | text analyzer =>
    have hfield : (FieldType.text analyzer).toJson.field? "type" = some (.string "text") := by
      rw [FieldType.toJson, Json.field?_ofFields]
      simp [NameMap.ofList, NameMap.get?_insert]
    rw [Store.sameType, hfield]
    rfl
  | date => rfl

namespace Store

variable {store store' : Store} {targets : List String}

/-- Every index has its fields under the types that go with their names. -/
def Typed (start : String) (store : Store) : Prop :=
  ∀ i properties, store.properties? i = some properties → TypedByName start properties

theorem typed_empty : Typed start {} := nofun

theorem Typed.sameBy (h : store.Typed start) (hsame : store.SameBy (·.properties) store') :
    store'.Typed start := by
  intro i properties hi
  rw [properties?, hsame i] at hi
  exact h i properties hi

theorem Typed.insert {held : StoredIndex} (h : store.Typed start)
    (hheld : TypedByName start held.properties) : Typed start (store.insert name held) := by
  intro i properties hi
  rw [properties?_insert] at hi
  split at hi
  · rw [← Option.some.inj hi]
    exact hheld
  · exact h i properties hi

theorem Typed.erase (h : store.Typed start) : Typed start (store.erase name) := by
  intro i properties hi
  rw [properties?, NameMap.get?_erase] at hi
  split at hi
  · cases hi
  · exact h i properties hi

/-! ## Names with several indexes behind them -/

theorem get?_modifyAll {f : StoredIndex → StoredIndex} : ∀ {names : List String} {store : Store},
    names.Nodup → (store.modifyAll names f).get? i =
      if i ∈ names then (store.get? i).map f else store.get? i
  | [], _, _ => by simp [modifyAll]
  | first :: names, store, h => by
    obtain ⟨hfirst, hrest⟩ := List.nodup_cons.1 h
    show (modifyAll (store.modify first f) names f).get? i = _
    rw [get?_modifyAll hrest, NameMap.get?_modify]
    by_cases hi : first = i
    · subst hi
      rw [if_neg hfirst, if_pos rfl, if_pos List.mem_cons_self]
    · simp [hi, Ne.symm hi]

theorem SameAliases.readTargets_eq (h : store.SameAliases store') :
    store'.readTargets name = store.readTargets name := by
  have hcarriers : store'.carriers name = store.carriers name := carriers_congr fun _ => h.carries_iff
  rw [readTargets, readTargets, hcarriers, h.contains_eq]

/-- A reader reaches something under an alias that is bound. -/
theorem exists_readTargets (h : store.aliasExists a = true) :
    ∃ first rest, store.readTargets a = .ok (first :: rest) := by
  obtain ⟨i, hi⟩ := aliasExists_iff.1 h
  unfold readTargets
  split
  · exact ⟨a, [], rfl⟩
  · have hmem := mem_carriers.2 hi
    cases hcarriers : store.carriers a with
    | nil =>
      rw [hcarriers] at hmem
      cases hmem
    | cons first rest => exact ⟨first, rest, rfl⟩

/-- The mapping behind a name is that of the first index that a reader reaches. -/
theorem getMapping_of_readTargets {first : String} {rest : List String} {properties : NameMap Json}
    (h : store.readTargets name = .ok (first :: rest))
    (hfirst : store.properties? first = some properties) :
    store.getMapping name = .ok (.ofMap properties) := by
  obtain ⟨held, hget, rfl⟩ := Option.map_eq_some_iff.1 hfirst
  rw [getMapping, h]
  simp only [bind, Except.bind, List.take_succ_cons, List.take_zero, indexesOf, List.filterMap_cons,
    hget, List.filterMap_nil]

/-! ## Putting a mapping -/

variable {model : ContentModel} {key : CollectionKey}

/-- A new index has the properties of the mapping that it is made with. -/
theorem properties_indexOfBody : (indexOfBody (indexBody key mapping)).properties = mapping.specs := by
  have hpath : (indexBody key mapping).path? ["mappings", "properties"] = some mapping.properties := by
    simp [indexBody, Json.path?, Json.field?_ofFields, NameMap.ofList, NameMap.get?_insert]
  rw [indexOfBody, hpath, Option.bind_some, Mapping.properties, Json.map?_ofFields, Option.getD_some]
  exact NameMap.written_empty

/-- A mapping is never refused for the types of its fields. -/
theorem Typed.typeConflict?_eq_none {held : StoredIndex} (h : TypedByName start held.properties) :
    typeConflict? held (Mapping.ofModel ⟨start, model⟩).specs.entries = none := by
  rw [typeConflict?, List.findSome?_eq_none_iff]
  rintro ⟨name, spec⟩ hspec
  rw [NameMap.mem_entries] at hspec
  rw [Option.bind_eq_none_iff]
  intro other hother
  rw [h name other hother, Mapping.spec_of_ofModel hspec]
  exact if_pos (sameType_toJson _)

theorem putMapping_properties : store.putMapping a mapping.properties =
    (store.readTargets a).bind fun targets =>
      match (store.indexesOf targets).findSome? (typeConflict? · mapping.specs.entries) with
      | some conflict => .error (typeConflictError conflict)
      | none => .ok (store.modifyAll targets (withProperties mapping.specs.entries)) := rfl

theorem Typed.putMapping (h : store.Typed start) (htargets : store.readTargets a = .ok targets)
    (model : ContentModel) :
    store.putMapping a (Mapping.ofModel ⟨start, model⟩).properties = .ok (store.modifyAll targets
      (withProperties (Mapping.ofModel ⟨start, model⟩).specs.entries)) := by
  have hnone : (store.indexesOf targets).findSome?
      (typeConflict? · (Mapping.ofModel ⟨start, model⟩).specs.entries) = none := by
    rw [List.findSome?_eq_none_iff]
    intro held hheld
    obtain ⟨i, -, hget⟩ := List.mem_filterMap.1 hheld
    exact Typed.typeConflict?_eq_none (h i _ (Option.map_eq_some_iff.2 ⟨held, hget, rfl⟩))
  rw [putMapping_properties, htargets]
  simp only [Except.bind, hnone]

/-- What is behind each name once a mapping has been put. -/
theorem properties?_withProperties (h : targets.Nodup) :
    properties? (store.modifyAll targets (withProperties mapping.specs.entries)) i =
      if i ∈ targets then
        (store.properties? i).map fun held => mapping.specs.entries.foldl (fun m e => m.insert e.1 e.2) held
      else store.properties? i := by
  rw [properties?, get?_modifyAll h, properties?]
  split
  · rw [Option.map_map, Option.map_map]
    rfl
  · rfl

/-- A mapping is put to every index that a reader reaches under a name, and each of them has the union
of its fields and those of the mapping; no other index is changed. -/
structure Unites (store : Store) (name : String) (mapping : Mapping) (store' : Store) : Prop where
  /-- What is told of the mapping behind the name is the union, too. -/
  live : ∃ before after, store.getMapping name = .ok (.ofMap before) ∧
    store'.getMapping name = .ok (.ofMap after) ∧ mapping.Unites before after
  reached : ∀ i, store.Reads name i → ∃ before after, store.properties? i = some before ∧
    store'.properties? i = some after ∧ mapping.Unites before after
  others : ∀ i, ¬ store.Reads name i → store'.properties? i = store.properties? i

/-- Behind an alias that is bound, a mapping is never refused, and it is united with what is there. -/
theorem Typed.unites (h : store.Typed start) (ha : store.aliasExists a = true) (model : ContentModel) :
    ∃ store', store.putMapping a (Mapping.ofModel ⟨start, model⟩).properties = .ok store' ∧
      store.Unites a (.ofModel ⟨start, model⟩) store' := by
  obtain ⟨first, rest, htargets⟩ := exists_readTargets ha
  have hnodup : (first :: rest).Nodup := (rising_readTargets htargets).imp fun hlt => String.ne_of_lt hlt
  have hreads : ∀ i, store.Reads a i ↔ i ∈ first :: rest := by
    intro i
    rw [Reads, htargets]
    simp
  have hput := h.putMapping htargets model
  have hreached : ∀ i, store.Reads a i → ∃ before after, store.properties? i = some before ∧
      properties? (store.modifyAll (first :: rest)
        (withProperties (Mapping.ofModel ⟨start, model⟩).specs.entries)) i = some after ∧
      (Mapping.ofModel ⟨start, model⟩).Unites before after := by
    intro i hi
    obtain ⟨held, hget⟩ := NameMap.contains_eq_true.1 hi.contains
    have hbefore : store.properties? i = some held.properties := by rw [properties?, hget]; rfl
    refine ⟨_, _, hbefore, ?_, Mapping.unites_written (h i _ hbefore)⟩
    rw [properties?_withProperties hnodup, if_pos ((hreads i).1 hi), hbefore]
    rfl
  refine ⟨_, hput, ?_, hreached, fun i hi => ?_⟩
  · obtain ⟨before, after, hbefore, hafter, hunites⟩ :=
      hreached first ((hreads first).2 List.mem_cons_self)
    refine ⟨before, after, getMapping_of_readTargets htargets hbefore, ?_, hunites⟩
    exact getMapping_of_readTargets ((sameAliases_putMapping hput).readTargets_eq.trans htargets) hafter
  · rw [hreads] at hi
    rw [properties?_withProperties hnodup, if_neg hi]

end Store

/-! ## Calls -/

/-- The fields that the call declares, if it declares any, are those of a mapping under a prefix. -/
def EngineCall.Declares (start : String) : EngineCall → Prop
  | createIndex _ body => ∃ key model, body = indexBody key (.ofModel ⟨start, model⟩)
  | putMapping _ properties => ∃ model, properties = (Mapping.ofModel ⟨start, model⟩).properties
  | _ => True

/-- The call changes no properties of an index that is there, and makes and deletes none. -/
def EngineCall.KeepsProperties : EngineCall → Prop
  | createIndex _ _ | deleteIndex _ | cloneIndex _ _ _ | putMapping _ _ => False
  | _ => True

theorem Store.sameProperties_after {store : Store} {c : EngineCall} (h : c.KeepsProperties) :
    store.SameBy (·.properties) (store.after c) := by
  cases c with
  | createIndex | deleteIndex | cloneIndex | putMapping => exact h.elim
  | putAlias => exact orKept_of .refl fun _ => sameBy_putAlias fun _ _ => rfl
  | deleteAlias => exact orKept_of .refl fun _ => sameBy_deleteAlias fun _ _ => rfl
  | putSettings => exact orKept_of .refl fun _ => sameBy_putSettings fun _ _ _ => rfl
  | reindex body =>
    refine orKept_of .refl fun store' hok => ?_
    obtain ⟨p, hp, rfl⟩ := map_eq_ok.1 hok
    exact sameBy_reindex (fun _ _ => rfl) hp
  | indexDocument => exact orKept_of .refl fun _ => sameBy_indexDocument fun _ _ => rfl
  | deleteDocument => exact orKept_of .refl fun _ => sameBy_deleteDocument fun _ _ => rfl
  | bulk => exact sameBy_bulk fun _ _ => rfl
  | _ => exact .refl

theorem Store.Typed.after {store : Store} {c : EngineCall} (h : store.Typed start)
    (hc : c.Declares start) : (store.after c).Typed start := by
  by_cases hkeeps : c.KeepsProperties
  · exact h.sameBy (sameProperties_after hkeeps)
  cases c with
  | createIndex name body =>
    refine orKept_of h fun store' hok => ?_
    obtain ⟨key, model, rfl⟩ := hc
    obtain ⟨-, -, rfl⟩ := createIndex_eq_ok.1 hok
    refine h.insert ?_
    rw [properties_indexOfBody]
    exact typedByName_specs
  | deleteIndex name =>
    refine orKept_of h fun store' hok => ?_
    obtain ⟨-, rfl⟩ := deleteIndex_eq_ok.1 hok
    exact h.erase
  | cloneIndex source target body =>
    refine orKept_of h fun store' hok => ?_
    obtain ⟨held, hget, -, -, rfl⟩ := cloneIndex_eq_ok.1 hok
    exact h.insert (h source held.properties (by rw [properties?, hget]; rfl))
  | putMapping name properties =>
    refine orKept_of h fun store' hok => ?_
    obtain ⟨model, rfl⟩ := hc
    obtain ⟨targets, htargets, -⟩ := bind_eq_ok.1 ((putMapping_properties.symm).trans hok)
    obtain rfl := Except.ok.inj ((h.putMapping htargets model).symm.trans hok)
    have hnodup : targets.Nodup := (rising_readTargets htargets).imp fun hlt => String.ne_of_lt hlt
    intro i after hafter
    rw [properties?_withProperties hnodup] at hafter
    split at hafter
    · obtain ⟨before, hbefore, rfl⟩ := Option.map_eq_some_iff.1 hafter
      exact (h i before hbefore).written typedByName_specs
    · exact h i after hafter
  | _ => exact absurd trivial hkeeps

end SiteSearch
