import SiteSearch.Proofs.Field.Types

/-!
# Documents under their mapping

Every field of a document holds keywords (`ContentModel.keywords_of_get?`), so its place in the mapping
ought to be text. In the mapping of the same content model it is, with one exception
(`FieldNames.document_fits_mapping`). A type may name the post date among the attributes that its elements
are indexed with. The mapping keeps the post date as a date, while the document has the keywords of
whatever text the element has there (`FieldNames.keywords_in_date`).
-/

namespace SiteSearch

namespace ContentModel

open FieldNames

variable {name value : String} {type : ElementType} {element : Element} {names : FieldNames}
variable {fields : NameMap String}

/-- All that custom fields put into a document are keywords. -/
theorem keywords_of_withCustomFields
    (hfields : ∀ value, fields.get? name = some value → ∃ text, value = keywords text)
    (h : (withCustomFields names element fields).get? name = some value) :
    ∃ text, value = keywords text := by
  rw [withCustomFields] at h
  generalize names.model.searchableFields = customs at h
  induction customs generalizing fields with
  | nil => exact hfields value h
  | cons first rest ih =>
    refine ih (fun other hother => ?_) h
    dsimp only at hother
    split at hother
    · rename_i text _
      rw [NameMap.get?_insert] at hother
      split at hother
      · exact ⟨text, (Option.some.inj hother).symm⟩
      · exact hfields other hother
    · exact hfields other hother

/-- Every field of a document holds the keywords of a text. -/
theorem keywords_of_get?
    (h : (withCustomFields names element (attributeFields names.start type element)).get? name =
      some value) : ∃ text, value = keywords text := by
  refine keywords_of_withCustomFields (fun other hother => ?_) h
  rw [get?_attributeFields] at hother
  obtain ⟨handle, -, rfl⟩ := Option.map_eq_some_iff.1 hother
  exact ⟨element.attributeText handle, rfl⟩

/-- A document has the post date only if its type names it. -/
theorem contains_postDate :
    (withCustomFields names element (attributeFields names.start type element)).contains
      (ofAttribute names.start "postDate") = true ↔ "postDate" ∈ type.attributes := by
  rw [NameMap.contains, get?_withCustomFields]
  constructor
  · intro h
    obtain ⟨handle, hhandle, hname⟩ := exists_of_contains_attributeFields h
    obtain rfl := ofAttribute_inj.1 hname
    simpa [indexedAttributes] using hhandle
  · intro h
    have hindexed : "postDate" ∈ indexedAttributes type := by simp [indexedAttributes, h]
    rw [get?_attributeFields_of_mem hindexed]
    rfl

end ContentModel

namespace FieldNames

open ContentModel

/-- **Documents fit their mapping, but for the post date.** An element of a registered type has a
document, whatever the content model and the prefix. Every field of the document holds keywords, and the
mapping of the content model has the field as text unless it is the post date, which is a date. So all
fields of the document are text exactly where its type does not name the post date. -/
theorem document_fits_mapping {names : FieldNames} {element : Element} {type : ElementType}
    (h : names.model.elementType? element.type = some type) :
    ∃ document, names.document? element = .ok document ∧
      (∀ name value, document.fields.get? name = some value →
        (∃ text, value = keywords text) ∧
        (Mapping.ofModel names).get? name =
          some (if name = ofAttribute names.start "postDate" then .date else .standardText)) ∧
      ((∀ name, document.fields.contains name = true →
          (Mapping.ofModel names).get? name = some .standardText) ↔ "postDate" ∉ type.attributes) := by
  obtain ⟨document, hdocument⟩ := exists_document? h
  have htype : ∀ name, document.fields.contains name = true →
      (Mapping.ofModel names).get? name = some (.ofName names.start name) := by
    intro name hname
    rw [Mapping.get?_ofModel, if_pos (mem_ofModel_of_document? hdocument hname)]
  have hdate : document.fields.contains (ofAttribute names.start "postDate") = true ↔
      "postDate" ∈ type.attributes := by
    obtain ⟨_, hfound, rfl⟩ := document?_eq_ok.1 hdocument
    obtain rfl := Option.some.inj (h.symm.trans hfound)
    exact contains_postDate
  refine ⟨document, hdocument, fun name value hvalue => ⟨?_, ?_⟩, ?_⟩
  · obtain ⟨_, -, rfl⟩ := document?_eq_ok.1 hdocument
    exact keywords_of_get? hvalue
  · exact htype name (NameMap.contains_eq_true.2 ⟨value, hvalue⟩)
  · constructor
    · intro htext hnamed
      have hpost := hdate.2 hnamed
      have heq := (htype _ hpost).symm.trans (htext _ hpost)
      simp [FieldType.ofName, FieldType.standardText] at heq
    · intro hunnamed name hname
      have hne : name ≠ ofAttribute names.start "postDate" := by
        rintro rfl
        exact hunnamed (hdate.1 hname)
      rw [htype name hname, FieldType.ofName, if_neg hne]

/-- An entry with a title, a summary and a custom field has four fields, all of them text. -/
theorem document_fits_mapping_of_entry :
    let names : FieldNames := ⟨"craft_",
      (ContentModel.empty.registerType ⟨"entry", true, ["summary"]⟩).registerField ⟨12, "body", true⟩⟩
    let element : Element :=
      ⟨7, 1, "entry", .ofList [("title", "Hello, World!"), ("summary", "1st")], [(12, "Body & soul")]⟩
    ∃ document, names.document? element = .ok document ∧
      document.fields.entries = [("craft_attribute_slug", ""), ("craft_attribute_summary", "1st"),
        ("craft_attribute_title", "hello world"), ("craft_field_12", "body soul")] ∧
      ∀ name, document.fields.contains name = true →
        (Mapping.ofModel names).get? name = some .standardText := by
  intro names element
  have htype : names.model.elementType? element.type = some ⟨"entry", true, ["summary"]⟩ := by decide +kernel
  obtain ⟨document, hdocument, -, htext⟩ := document_fits_mapping htype
  refine ⟨document, hdocument, ?_, htext.2 (by decide)⟩
  obtain ⟨_, hfound, rfl⟩ := document?_eq_ok.1 hdocument
  obtain rfl := Option.some.inj (htype.symm.trans hfound)
  decide +kernel

/-- The post date among the attributes of a type: the document has keywords where the mapping has a
date. -/
theorem keywords_in_date :
    let names : FieldNames := ⟨"craft_", ContentModel.empty.registerType ⟨"entry", true, ["postDate"]⟩⟩
    let element : Element :=
      ⟨7, 1, "entry", .ofList [("title", "Hello"), ("postDate", "2024-01-02")], []⟩
    ∃ document, names.document? element = .ok document ∧
      document.fields.get? "craft_attribute_postDate" = some "2024 01 02" ∧
      (Mapping.ofModel names).get? "craft_attribute_postDate" = some .date :=
  ⟨_, rfl, by decide +kernel, by decide +kernel⟩

end FieldNames

end SiteSearch
