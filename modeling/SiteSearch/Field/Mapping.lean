import SiteSearch.Collection.Language
import SiteSearch.Collection.Name
import SiteSearch.Field.Name
import SiteSearch.Field.Signature

/-!
# Mappings

The mapping of an index says which fields its documents have. It follows from the content model:
title, slug and post date come first, then the attributes of every type, then the searchable custom
fields, each in the order of registration. A name that comes up again keeps its first place and its
first type.
-/
namespace SiteSearch

/-- What a field holds. -/
inductive FieldType where
  /-- Text that an analyzer cuts into words. -/
  | text (analyzer : String)
  | date
  deriving DecidableEq, Repr

/-- The analyzer of every text field. -/
def standardAnalyzer : String := "standard"

namespace FieldType

/-- Text cut into words by the standard analyzer. -/
def standardText : FieldType := .text standardAnalyzer

/-- The type as the engine is told. -/
def toJson : FieldType → Json
  | text analyzer => .ofFields [("type", .string "text"), ("analyzer", .string analyzer)]
  | date => .ofFields [("type", .string "date")]

end FieldType

/-- Field names with their types, in the order in which they were found. -/
structure Mapping where
  fields : List (String × FieldType)
  distinct : (fields.map (·.1)).Nodup := by decide

namespace Mapping

/-- The mapping without fields. -/
def empty : Mapping := ⟨[], List.nodup_nil⟩

instance : Inhabited Mapping := ⟨empty⟩

/-- The field names. -/
def names (m : Mapping) : List String :=
  m.fields.map (·.1)

/-- Whether a name is in the mapping. -/
def contains (m : Mapping) (name : String) : Bool :=
  m.names.contains name

/-- The type of a field. -/
def get? (m : Mapping) (name : String) : Option FieldType :=
  valueAt? name m.fields

/-- The mapping with a field behind the others, unless its name is there. -/
def insert (m : Mapping) (name : String) (type : FieldType) : Mapping :=
  if h : m.contains name then m
  else
    { fields := m.fields ++ [(name, type)]
      distinct := by
        have hname : name ∉ m.fields.map (·.1) := by simpa [contains, names] using h
        rw [List.map_append, List.nodup_append]
        refine ⟨m.distinct, by simp, ?_⟩
        intro a ha b hb
        simp only [List.map_cons, List.map_nil, List.mem_singleton] at hb
        subst hb
        exact fun e => hname (e ▸ ha) }

/-- The number of fields. -/
def size (m : Mapping) : Nat := m.fields.length

/-- Whether there is no field. -/
def isEmpty (m : Mapping) : Bool := m.fields.isEmpty

/-- The mapping as the engine is told. -/
def properties (m : Mapping) : Json :=
  .ofFields (m.fields.map fun f => (f.1, f.2.toJson))

/-- The set of the field names. -/
def signature (m : Mapping) : Signature :=
  .ofNames m.names

/-- The fields that every index has. -/
def predefined (start : String) : List (String × FieldType) :=
  [ (FieldNames.ofAttribute start "title", .standardText),
    (FieldNames.ofAttribute start "slug", .standardText),
    (FieldNames.ofAttribute start "postDate", .date) ]

/-- The fields of the attributes of every type. -/
def ofTypes (start : String) (types : List ElementType) : List (String × FieldType) :=
  types.flatMap fun type =>
    type.attributes.map fun handle => (FieldNames.ofAttribute start handle, .standardText)

/-- The fields of the searchable custom fields. -/
def ofCustomFields (start : String) (fields : List CustomField) : List (String × FieldType) :=
  fields.map fun field => (FieldNames.ofCustom start field.id, .standardText)

/-- The mapping of a content model. -/
def ofModel (names : FieldNames) : Mapping :=
  let found := predefined names.start ++ ofTypes names.start names.model.types
    ++ ofCustomFields names.start names.model.searchableFields
  found.foldl (fun m f => m.insert f.1 f.2) empty

end Mapping

/-! ## Analysis -/

/-- The stop words of a collection's language. -/
def stopWords (key : CollectionKey) : String :=
  "_" ++ (engineLanguage? key.languageId).getD "none" ++ "_"

/-- The analyzer of a collection's language. -/
def languageAnalyzer (key : CollectionKey) : String :=
  (engineLanguage? key.languageId).getD standardAnalyzer

/-- The settings of a new index: an analyzer that knows the stop words of the language. -/
def analyzerSettings (key : CollectionKey) : Json :=
  .ofFields [("analysis", .ofFields [("analyzer", .ofFields [("standard_stopwords",
    .ofFields [("type", .string "standard"), ("stopwords", .string (stopWords key))])])])]

/-- The body that a new index is made with. -/
def indexBody (key : CollectionKey) (mapping : Mapping) : Json :=
  .ofFields
    [ ("settings", analyzerSettings key),
      ("mappings", .ofFields [("properties", mapping.properties)]) ]

end SiteSearch
