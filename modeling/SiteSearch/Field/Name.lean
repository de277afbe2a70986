import SiteSearch.Content.Model
import SiteSearch.NameMap
import SiteSearch.Text.Pieces
import SiteSearch.Text.Unsigned

/-!
# Names of document fields

An attribute with the handle `title` is stored in the document field `craft_attribute_title`, the
custom field with id 12 in `craft_field_12`, where `craft_` is the prefix that the installation
has chosen. A handle that belongs to a custom field names that field; any other handle names an
attribute.

`handleOf` is the way back. It is asked often, so its answers are remembered in a `HandleMemo`
until the memo is cleared; a model that changes in between does not change a remembered answer.
-/
namespace SiteSearch

/-- The prefix of every document field name, and the model that handles are looked up in. -/
structure FieldNames where
  start : String
  model : ContentModel

namespace FieldNames

/-- What the field names of attributes start with. -/
def attributeStart (start : String) : String := start ++ "attribute_"

/-- What the field names of custom fields start with. -/
def customStart (start : String) : String := start ++ "field_"

/-- The field name of an attribute. -/
def ofAttribute (start handle : String) : String :=
  attributeStart start ++ handle

/-- The field name of a custom field. -/
def ofCustom (start : String) (id : FieldId) : String :=
  customStart start ++ Text.writeWord id

/-- The field name of a handle; custom fields come before attributes. -/
def ofHandle (names : FieldNames) (handle : String) : String :=
  match names.model.fieldByHandle? handle with
  | some field => ofCustom names.start field.id
  | none => ofAttribute names.start handle

/-- The text after a leading part. -/
def afterPart? (part name : String) : Option String :=
  (Text.stripPrefix? part.toList name.toList).map String.ofList

/-- The handle that a field name stands for, or a sentence that says why there is none. -/
def handleOf (names : FieldNames) (name : String) : String :=
  match afterPart? (attributeStart names.start) name with
  | some handle => handle
  | none =>
    match afterPart? (customStart names.start) name with
    | some digits =>
      let id := (Text.readWord? digits.toList).getD 0
      match names.model.fieldById? id with
      | some field => field.handle
      | none => "field not found for ID " ++ Text.writeWord id
    | none => "Unknown field " ++ name

end FieldNames

/-- The answers of `FieldNames.handleOf` that have been given so far. -/
structure HandleMemo where
  answers : NameMap String

namespace HandleMemo

/-- A memo without answers. -/
def empty : HandleMemo := ⟨.empty⟩

/-- The remembered answer for a name, or a new one that is remembered from now on. -/
def lookup (memo : HandleMemo) (names : FieldNames) (name : String) : String × HandleMemo :=
  match memo.answers.get? name with
  | some answer => (answer, memo)
  | none =>
    let answer := names.handleOf name
    (answer, ⟨memo.answers.insert name answer⟩)

end HandleMemo

end SiteSearch
