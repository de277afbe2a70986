import SiteSearch.Content.Model
import SiteSearch.Engine.Error
import SiteSearch.Field.Name
import SiteSearch.Json.Basic
import SiteSearch.Text.Alphanumeric
import SiteSearch.Text.Blank
import SiteSearch.Text.LetterCase

/-!
# Elements and their documents

An element has a text under each of its attributes and custom fields. Its document has the
keywords of these texts: `keywords` leaves the letters and digits of a text, in lowercase, with
one blank between words. Which texts are taken follows from the content model.
-/
namespace SiteSearch

/-- An element of the content store. -/
structure Element where
  id : ElementId
  siteId : SiteId
  /-- Handle of its type. -/
  type : String
  /-- Texts of the attributes by handle. -/
  attributes : NameMap String
  /-- Texts of the custom fields by id; of two with one id, the later one counts. -/
  fieldTexts : List (FieldId × String)
  deriving DecidableEq

/-- The text of the attribute with a handle; a missing one is empty. -/
def Element.attributeText (element : Element) (handle : String) : String :=
  (element.attributes.get? handle).getD ""

/-- The text of the custom field with an id, if the element has the field. -/
def Element.fieldText? (element : Element) (id : FieldId) : Option String :=
  (element.fieldTexts.reverse.find? fun t => t.1 = id).map (·.2)

/-- A text with everything but letters and digits replaced by blanks, in lowercase. -/
def keywordText (text : List Char) : List Char :=
  text.flatMap fun c => if Text.isAlphanumeric c then Text.lowercaseChar c else [' ']

/-- The words of a text, one blank apart. -/
def keywords (text : String) : String :=
  String.ofList (Text.joinWith [' '] (Text.words (keywordText text.toList)))

/-- What an element is indexed as. -/
structure Document where
  id : ElementId
  fields : NameMap String

/-- A document as the engine stores it. -/
def Document.toJson (document : Document) : Json :=
  .ofMap (document.fields.mapValues fun _ text => .string text)

namespace ContentModel

/-- Whether elements of a type have anything to index. -/
def isIndexable (model : ContentModel) (element : Element) : Bool :=
  match model.elementType? element.type with
  | some type => type.hasTitles || !type.attributes.isEmpty
  | none => false

/-- Handles of the attributes that elements of a type are indexed with. -/
def indexedAttributes (type : ElementType) : List String :=
  type.attributes ++ ["slug"] ++ (if type.hasTitles then ["title"] else [])

/-- The keywords of the attributes of an element by field name. -/
def attributeFields (start : String) (type : ElementType) (element : Element) : NameMap String :=
  (indexedAttributes type).foldl
    (fun fields handle =>
      let name := FieldNames.ofAttribute start handle
      if fields.contains name then fields
      else fields.insert name (keywords (element.attributeText handle)))
    .empty

/-- The keywords of the custom fields of an element put into a document. -/
def withCustomFields (names : FieldNames) (element : Element) (fields : NameMap String) :
    NameMap String :=
  names.model.searchableFields.foldl
    (fun fields field =>
      match element.fieldText? field.id with
      | some text => fields.insert (FieldNames.ofCustom names.start field.id) (keywords text)
      | none => fields)
    fields

end ContentModel

/-- The document of an element whose type is registered. -/
def FieldNames.document? (names : FieldNames) (element : Element) : Except ServiceError Document :=
  match names.model.elementType? element.type with
  | none => .error (.notFound ("element type [" ++ element.type ++ "]"))
  | some type =>
    .ok
      { id := element.id
        fields := ContentModel.withCustomFields names element
          (ContentModel.attributeFields names.start type element) }

end SiteSearch
