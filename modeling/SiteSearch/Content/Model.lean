import SiteSearch.Json.Basic

/-!
# The content model

What a content store tells about its content: the types its elements have, each with the
attributes whose text is indexed, and the custom fields that editors have defined. Types are known
by their handle and custom fields by their id, each at most once; registering one again replaces
it where it stands, so the order is that of the first registration.
-/
namespace SiteSearch

/-- The id of an element, which is also the id of its document. -/
abbrev ElementId := UInt64

/-- The id of a custom field. -/
abbrev FieldId := UInt64

/-- The id of a site. -/
abbrev SiteId := UInt64

/-- A type of elements: entries, categories, assets and so on. -/
structure ElementType where
  handle : String
  /-- Whether elements of the type have a title. -/
  hasTitles : Bool
  /-- Handles of the attributes whose text is indexed. -/
  attributes : List String
  deriving DecidableEq, Repr

/-- A custom field. -/
structure CustomField where
  id : FieldId
  handle : String
  /-- Whether the field has a place in the mapping. -/
  searchable : Bool
  deriving DecidableEq, Repr

/-- The type as JSON. -/
def ElementType.toJson (type : ElementType) : Json :=
  .ofFields
    [ ("handle", .string type.handle), ("has_titles", .bool type.hasTitles),
      ("attributes", .strings type.attributes) ]

/-- The custom field as JSON. -/
def CustomField.toJson (field : CustomField) : Json :=
  .ofFields
    [ ("id", .word field.id), ("handle", .string field.handle),
      ("searchable", .bool field.searchable) ]

/-- Replaces the item with the same key where it stands, or appends the item. -/
def replaceOrAppend {α κ : Type} [DecidableEq κ] (key : α → κ) (item : α) : List α → List α
  | [] => [item]
  | other :: rest =>
    if key other = key item then item :: rest else other :: replaceOrAppend key item rest

section ReplaceOrAppend

variable {α κ : Type} [DecidableEq κ] {key : α → κ} {item : α}

/-- Replacing keeps the keys, appending adds the new one behind them. -/
theorem map_replaceOrAppend : ∀ (items : List α),
    (replaceOrAppend key item items).map key
      = if key item ∈ items.map key then items.map key else items.map key ++ [key item]
  | [] => by simp [replaceOrAppend]
  | other :: rest => by
    by_cases h : key other = key item
    · simp [replaceOrAppend, h]
    · have h' : ¬ key item = key other := fun e => h e.symm
      have ih := map_replaceOrAppend rest
      by_cases hm : key item ∈ rest.map key <;> simp_all [replaceOrAppend]

theorem nodup_map_replaceOrAppend {items : List α} (h : (items.map key).Nodup) :
    ((replaceOrAppend key item items).map key).Nodup := by
  rw [map_replaceOrAppend]
  split
  · exact h
  · rename_i hm
    rw [List.nodup_append]
    refine ⟨h, by simp, ?_⟩
    intro a ha b hb
    simp only [List.mem_singleton] at hb
    subst hb
    exact fun e => hm (e ▸ ha)

end ReplaceOrAppend

/-- The registered types and custom fields. -/
structure ContentModel where
  types : List ElementType
  fields : List CustomField
  distinctTypes : (types.map (·.handle)).Nodup := by decide
  distinctFields : (fields.map (·.id)).Nodup := by decide

namespace ContentModel

/-- A model in which nothing is registered. -/
def empty : ContentModel := ⟨[], [], by decide, by decide⟩

instance : Inhabited ContentModel := ⟨empty⟩

/-- Registers a type, in place of the one with the same handle if there is one. -/
def registerType (model : ContentModel) (type : ElementType) : ContentModel :=
  { model with
    types := replaceOrAppend (·.handle) type model.types
    distinctTypes := nodup_map_replaceOrAppend model.distinctTypes }

/-- Registers a custom field, in place of the one with the same id if there is one. -/
def registerField (model : ContentModel) (field : CustomField) : ContentModel :=
  { model with
    fields := replaceOrAppend (·.id) field model.fields
    distinctFields := nodup_map_replaceOrAppend model.distinctFields }

/-- Takes a custom field out of the model. -/
def removeField (model : ContentModel) (id : FieldId) : ContentModel :=
  { model with
    fields := model.fields.filter (·.id != id)
    distinctFields := model.distinctFields.sublist (List.filter_sublist.map _) }

/-- The type with a handle. -/
def elementType? (model : ContentModel) (handle : String) : Option ElementType :=
  model.types.find? (·.handle == handle)

/-- The custom field with an id. -/
def fieldById? (model : ContentModel) (id : FieldId) : Option CustomField :=
  model.fields.find? (·.id == id)

/-- The first custom field with a handle; several may share one. -/
def fieldByHandle? (model : ContentModel) (handle : String) : Option CustomField :=
  model.fields.find? (·.handle == handle)

/-- The custom fields that have a place in the mapping. -/
def searchableFields (model : ContentModel) : List CustomField :=
  model.fields.filter (·.searchable)

end ContentModel

end SiteSearch
