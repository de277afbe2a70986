import SiteSearch.Content.Element
import SiteSearch.Engine.Memory.Condition
import SiteSearch.Proofs.Content.Registration
import SiteSearch.Proofs.Field.Signature

/-!
# The fields of a document

The document of an element has a field for each attribute that the type of the element is indexed with,
and for each searchable custom field that the element has a text for. The mapping of the same content
model has a field for everything that any element may have, so the fields of a document are always among
those of the mapping (`FieldNames.mem_ofModel_of_document?`).
-/

namespace SiteSearch

instance : DecidableEq ContentModel := fun model other =>
  decidable_of_iff (model.types = other.types ∧ model.fields = other.fields) (by
    cases model
    cases other
    simp)

instance : DecidableEq FieldNames := fun names other =>
  decidable_of_iff (names.start = other.start ∧ names.model = other.model) (by
    cases names
    cases other
    simp)

/-! ## Names -/

namespace FieldNames

variable {start handle other : String} {id : FieldId}

theorem ofAttribute_inj : ofAttribute start handle = ofAttribute start other ↔ handle = other := by
  constructor
  · intro h
    have hlist := congrArg String.toList h
    simp only [ofAttribute, String.toList_append, List.append_cancel_left_eq] at hlist
    exact String.toList_inj.1 hlist
  · rintro rfl
    rfl

/-- Attributes and custom fields have different names. -/
theorem ofCustom_ne_ofAttribute : ofCustom start id ≠ ofAttribute start handle := by
  intro h
  have hlist := congrArg String.toList h
  simp [ofCustom, customStart, ofAttribute, attributeStart, String.toList_append] at hlist

end FieldNames

/-! ## What documents have -/

namespace ContentModel

open FieldNames

variable {start handle name : String} {type : ElementType} {element : Element} {names : FieldNames}
variable {fields : NameMap String}

/-- Under a name there are the keywords of the first attribute with that name. -/
theorem get?_attributeFields :
    (attributeFields start type element).get? name =
      ((indexedAttributes type).find? fun handle => ofAttribute start handle = name).map
        fun handle => keywords (element.attributeText handle) := by
  -- a name that is there already keeps its value
  have hfold : ∀ (handles : List String) (fields : NameMap String),
      (handles.foldl (fun fields handle =>
        let name := ofAttribute start handle
        if fields.contains name then fields
        else fields.insert name (keywords (element.attributeText handle))) fields).get? name =
          (fields.get? name).or ((handles.find? fun handle => ofAttribute start handle = name).map
            fun handle => keywords (element.attributeText handle)) := by
    intro handles
    induction handles with
    | nil => simp
    | cons first rest ih =>
      intro fields
      rw [List.foldl_cons, ih]
      by_cases hfirst : ofAttribute start first = name
      · subst hfirst
        cases hget : fields.get? (ofAttribute start first) with
        | none => simp [NameMap.contains, hget, NameMap.get?_insert]
        | some text => simp [NameMap.contains, hget]
      · by_cases hthere : fields.contains (ofAttribute start first) = true
        · simp [hthere, hfirst]
        · simp [hthere, NameMap.get?_insert, hfirst]
  rw [attributeFields, hfold]
  rfl

/-- A document has the keywords of the attributes that its type is indexed with. -/
theorem get?_attributeFields_of_mem (h : handle ∈ indexedAttributes type) :
    (attributeFields start type element).get? (ofAttribute start handle) =
      some (keywords (element.attributeText handle)) := by
  rw [get?_attributeFields]
  cases hfound : (indexedAttributes type).find? fun other =>
      ofAttribute start other = ofAttribute start handle with
  | none => simpa using List.find?_eq_none.1 hfound handle h
  | some other =>
    have hother : other = handle := by simpa [ofAttribute_inj] using List.find?_some hfound
    rw [hother, Option.map_some]

theorem exists_of_contains_attributeFields (h : (attributeFields start type element).contains name = true) :
    ∃ handle ∈ indexedAttributes type, name = ofAttribute start handle := by
  rw [NameMap.contains, get?_attributeFields, Option.isSome_map] at h
  obtain ⟨handle, hfound⟩ := Option.isSome_iff_exists.1 h
  have hname : ofAttribute start handle = name := by simpa using List.find?_some hfound
  exact ⟨handle, List.mem_of_find?_eq_some hfound, hname.symm⟩

/-- Custom fields are put beside the attributes. -/
theorem get?_withCustomFields :
    (withCustomFields names element fields).get? (ofAttribute names.start handle) =
      fields.get? (ofAttribute names.start handle) := by
  rw [withCustomFields]
  generalize names.model.searchableFields = customs
  induction customs generalizing fields with
  | nil => rfl
  | cons first rest ih =>
    rw [List.foldl_cons, ih]
    cases element.fieldText? first.id with
    | none => rfl
    | some text => exact NameMap.get?_insert_ne ofCustom_ne_ofAttribute.symm

theorem of_contains_withCustomFields (h : (withCustomFields names element fields).contains name = true) :
    fields.contains name = true ∨
      ∃ field ∈ names.model.searchableFields, name = ofCustom names.start field.id := by
  rw [withCustomFields] at h
  generalize names.model.searchableFields = customs at h ⊢
  induction customs generalizing fields with
  | nil => exact .inl h
  | cons first rest ih =>
    rw [List.foldl_cons] at h
    obtain hthere | ⟨field, hfield, rfl⟩ := ih h
    · split at hthere
      · obtain rfl | hthere := NameMap.contains_insert.1 hthere
        · exact .inr ⟨first, List.mem_cons_self, rfl⟩
        · exact .inl hthere
      · exact .inl hthere
    · exact .inr ⟨field, List.mem_cons_of_mem _ hfield, rfl⟩

end ContentModel

/-! ## What mappings have -/

namespace Mapping

variable {names : FieldNames} {name : String} {type : FieldType} {mapping : Mapping}

theorem names_insert : (mapping.insert name type).names =
    if name ∈ mapping.names then mapping.names else mapping.names ++ [name] := by
  unfold insert
  split
  · rename_i hthere
    rw [if_pos (by simpa [contains] using hthere)]
  · rename_i hthere
    rw [if_neg (by simpa [contains] using hthere)]
    exact List.map_append

/-- A field that comes up again keeps its place. -/
theorem names_foldl_insert (found : List (String × FieldType)) :
    (found.foldl (fun m f => m.insert f.1 f.2) empty).names = (found.map (·.1)).eraseDups := by
  induction found using List.reverseRecOn with
  | nil => rfl
  | append_singleton found last ih =>
    rw [List.foldl_concat, names_insert, ih, List.map_append, List.map_singleton, eraseDups_concat]
    simp only [List.mem_eraseDups]

/-- No name is lost. -/
theorem mem_ofModel : name ∈ (ofModel names).names ↔
    name ∈ (predefined names.start ++ ofTypes names.start names.model.types
      ++ ofCustomFields names.start names.model.searchableFields).map (·.1) := by
  rw [ofModel, names_foldl_insert, List.mem_eraseDups]

end Mapping

namespace FieldNames

variable {names : FieldNames} {element : Element} {document : Document} {type : ElementType} {name : String}

theorem document?_eq_ok : names.document? element = .ok document ↔
    ∃ type, names.model.elementType? element.type = some type ∧
      document = ⟨element.id, ContentModel.withCustomFields names element
        (ContentModel.attributeFields names.start type element)⟩ := by
  unfold document?
  split
  · rename_i hnone
    simp [hnone]
  · rename_i type htype
    simp [htype, eq_comm]

theorem exists_document? (htype : names.model.elementType? element.type = some type) :
    ∃ document, names.document? element = .ok document :=
  ⟨_, document?_eq_ok.2 ⟨type, htype, rfl⟩⟩

/-- An element of a type with titles is indexed with the keywords of its title. -/
theorem get?_title (h : names.document? element = .ok document)
    (htype : names.model.elementType? element.type = some type) (htitles : type.hasTitles = true) :
    document.fields.get? (ofAttribute names.start "title") =
      some (keywords (element.attributeText "title")) := by
  obtain ⟨_, htype', rfl⟩ := document?_eq_ok.1 h
  obtain rfl := Option.some.inj (htype.symm.trans htype')
  rw [ContentModel.get?_withCustomFields, ContentModel.get?_attributeFields_of_mem]
  simp [ContentModel.indexedAttributes, htitles]

/-- The fields of a document are in the mapping of the content model that it is built under. -/
theorem mem_ofModel_of_document? (h : names.document? element = .ok document)
    (hname : document.fields.contains name = true) : name ∈ (Mapping.ofModel names).names := by
  obtain ⟨type, htype, rfl⟩ := document?_eq_ok.1 h
  rw [Mapping.mem_ofModel]
  simp only [List.map_append, List.mem_append]
  obtain hattribute | ⟨field, hfield, rfl⟩ := ContentModel.of_contains_withCustomFields hname
  · obtain ⟨handle, hhandle, rfl⟩ := ContentModel.exists_of_contains_attributeFields hattribute
    simp only [ContentModel.indexedAttributes, List.mem_append] at hhandle
    rcases hhandle with (hown | hslug) | htitle
    · have hmem : type ∈ names.model.types := List.mem_of_find?_eq_some htype
      refine .inl (.inr (List.mem_map.2 ⟨(_, .standardText), ?_, rfl⟩))
      exact List.mem_flatMap.2 ⟨type, hmem, List.mem_map_of_mem hown⟩
    · obtain rfl := List.mem_singleton.1 hslug
      exact .inl (.inl (by simp [Mapping.predefined]))
    · split at htitle
      · obtain rfl := List.mem_singleton.1 htitle
        exact .inl (.inl (by simp [Mapping.predefined]))
      · cases htitle
  · exact .inr (List.mem_map.2 ⟨(_, .standardText), List.mem_map_of_mem hfield, rfl⟩)

end FieldNames

/-! ## What is stored -/

/-- Every field of a stored document holds text. -/
theorem Condition.textFields_toJson (document : Document) :
    textFields document.toJson = document.fields.entries := by
  show List.filterMap _ (document.fields.entries.map _) = _
  rw [List.filterMap_map]
  exact List.filterMap_some

end SiteSearch
