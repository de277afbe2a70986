import SiteSearch.Proofs.Document.Fields
import SiteSearch.Proofs.Memory.Copy

/-!
# The type of a field is in its name

Mappings are made anew whenever the content model changes. Under one prefix the name of a field decides
its type (`FieldType.ofName`): the post date is a date, and it comes before any attribute that could have
the same handle; all else is text. So two content models never disagree about a field
(`Mapping.get?_ofModel`).
-/

namespace SiteSearch

variable {start name : String} {type : FieldType} {names : FieldNames} {mapping : Mapping}

/-- The type of the field with a name in every mapping under a prefix. -/
def FieldType.ofName (start name : String) : FieldType :=
  if name = FieldNames.ofAttribute start "postDate" then .date else .standardText

/-! ## Lookups -/

namespace NameMap

variable {α : Type} {entries rest : List (String × α)} {value : α}

theorem valueAt?_append :
    valueAt? name (entries ++ rest) = (valueAt? name entries).or (valueAt? name rest) := by
  induction entries with
  | nil => rfl
  | cons first entries ih =>
    rw [List.cons_append, valueAt?, valueAt?]
    split
    · rfl
    · exact ih

theorem mem_of_valueAt? (h : valueAt? name entries = some value) : (name, value) ∈ entries := by
  induction entries with
  | nil => cases h
  | cons first entries ih =>
    rw [valueAt?] at h
    split at h
    · rename_i hname
      obtain rfl := Option.some.inj h
      rw [← hname]
      exact List.mem_cons_self
    · exact List.mem_cons_of_mem _ (ih h)

theorem exists_valueAt? (h : name ∈ entries.map (·.1)) : ∃ value, valueAt? name entries = some value := by
  cases hvalue : valueAt? name entries with
  | some value => exact ⟨value, rfl⟩
  | none =>
    induction entries with
    | nil => cases h
    | cons first entries ih =>
      rw [valueAt?] at hvalue
      split at hvalue
      · cases hvalue
      · rename_i hname
        rcases List.mem_cons.1 h with rfl | h
        · exact absurd rfl hname
        · exact ih h hvalue

theorem get?_ofList (h : (entries.map (·.1)).Nodup) :
    (ofList entries).get? name = valueAt? name entries := by
  rw [ofList, get?_foldl_insert h, get?_empty, Option.or_none]

end NameMap

namespace Mapping

open NameMap

/-- A name that is there keeps its type. -/
theorem get?_insert {other : String} :
    (mapping.insert other type).get? name =
      (mapping.get? name).or (if other = name then some type else none) := by
  unfold insert get?
  split
  · rename_i hthere
    by_cases hname : other = name
    · subst hname
      obtain ⟨held, hheld⟩ := exists_valueAt? (show other ∈ mapping.fields.map (·.1) by
        simpa [contains, names] using hthere)
      rw [hheld, Option.some_or]
    · rw [if_neg hname, Option.or_none]
  · exact valueAt?_append

/-- Of several fields with one name the first that is found is kept. -/
theorem get?_foldl_insert : ∀ {found : List (String × FieldType)} {mapping : Mapping},
    (found.foldl (fun m f => m.insert f.1 f.2) mapping).get? name =
      (mapping.get? name).or (valueAt? name found)
  | [], _ => by rw [valueAt?, Option.or_none]; rfl
  | (first, type) :: found, mapping => by
    rw [List.foldl_cons, get?_foldl_insert, get?_insert, Option.or_assoc, valueAt?]
    split
    · rfl
    · rfl

theorem mem_names_iff : name ∈ mapping.names ↔ ∃ type, mapping.get? name = some type := by
  constructor
  · exact exists_valueAt?
  · rintro ⟨type, htype⟩
    exact List.mem_map.2 ⟨_, mem_of_valueAt? htype, rfl⟩

/-- Fields of attributes and custom fields are text. -/
theorem standardText_of_found {value : FieldType}
    (h : (name, value) ∈ ofTypes names.start names.model.types
      ++ ofCustomFields names.start names.model.searchableFields) : value = .standardText := by
  simp only [ofTypes, ofCustomFields, List.mem_append, List.mem_flatMap, List.mem_map,
    Prod.mk.injEq] at h
  rcases h with ⟨_, -, _, -, -, rfl⟩ | ⟨_, -, -, rfl⟩
  · rfl
  · rfl

/-- The type of a field does not depend on the content model. -/
theorem get?_ofModel : (ofModel names).get? name =
    if name ∈ (ofModel names).names then some (.ofName names.start name) else none := by
  split
  · rename_i hmem
    obtain ⟨type, htype⟩ := mem_names_iff.1 hmem
    rw [htype]
    rw [ofModel, get?_foldl_insert, List.append_assoc, valueAt?_append] at htype
    simp only [predefined, valueAt?, empty, get?, Option.none_or] at htype
    unfold FieldType.ofName
    by_cases hdate : name = FieldNames.ofAttribute names.start "postDate"
    · subst hdate
      simp [FieldNames.ofAttribute_inj] at htype
      rw [if_pos rfl, ← htype]
    · rw [if_neg hdate]
      split at htype
      · rw [← Option.some.inj htype]
      split at htype
      · rw [← Option.some.inj htype]
      rw [if_neg (Ne.symm hdate), Option.none_or] at htype
      rw [standardText_of_found (mem_of_valueAt? htype)]
  · rename_i hmem
    rw [mem_names_iff, not_exists] at hmem
    exact Option.eq_none_iff_forall_ne_some.2 hmem

/-! ## What the engine is told -/

/-- The properties of a mapping by name. -/
def specs (m : Mapping) : NameMap Json :=
  .ofList (m.fields.map fun f => (f.1, f.2.toJson))

theorem get?_specs : mapping.specs.get? name = (mapping.get? name).map FieldType.toJson := by
  have hmap : ∀ fields : List (String × FieldType),
      valueAt? name (fields.map fun f => (f.1, f.2.toJson)) =
        (valueAt? name fields).map FieldType.toJson := by
    intro fields
    induction fields with
    | nil => rfl
    | cons first fields ih =>
      rw [List.map_cons, valueAt?, valueAt?, ih]
      split
      · rfl
      · rfl
  rw [specs, get?_ofList (by rw [List.map_map]; exact mapping.distinct), hmap, get?]

/-- What the engine is told of a field follows from its name. -/
theorem spec_of_ofModel {spec : Json} (h : (ofModel names).specs.get? name = some spec) :
    spec = (FieldType.ofName names.start name).toJson := by
  rw [get?_specs, get?_ofModel] at h
  split at h
  · exact (Option.some.inj h).symm
  · cases h

end Mapping

end SiteSearch
