import SiteSearch.Proofs.Document.Fields

/-!
# What mappings cover

A name that is put into a mapping again stays where it is, so the names of a mapping are the first
occurrences of what has been found (`Mapping.names_ofModel`). Together with what registrations lead to this
tells the names of a mapping from the history of its content model. The order of a history shows in the
order of the names, but their set, the signature, has forgotten it (`Mapping.signature_eq_of_holds`).
-/

namespace SiteSearch

namespace Mapping

open FieldNames ContentModel

variable {mapping : Mapping} {names : FieldNames} {start : String} {model other : ContentModel}

/-- The field names of what is indexed, each as often as it comes up: the predefined attributes, the
attributes of types and the searchable ones of custom fields. -/
def covered (start : String) (types : List ElementType) (fields : List CustomField) : List String :=
  (["title", "slug", "postDate"] ++ types.flatMap (·.attributes)).map (ofAttribute start)
    ++ (fields.filter (·.searchable)).map fun field => ofCustom start field.id

/-- A mapping has the names of what is indexed, each where it comes up first. -/
theorem names_ofModel :
    (ofModel names).names = (covered names.start names.model.types names.model.fields).eraseDups := by
  have hfound : (predefined names.start ++ ofTypes names.start names.model.types
      ++ ofCustomFields names.start names.model.searchableFields).map (·.1) =
        covered names.start names.model.types names.model.fields := by
    simp [predefined, ofTypes, ofCustomFields, covered, searchableFields, List.map_flatMap,
      Function.comp_def]
  rw [ofModel, names_foldl_insert, hfound]

/-- The signature of a mapping can be read off its properties. -/
theorem ofProperties_properties : Signature.ofProperties mapping.properties = mapping.signature := by
  refine Signature.eq_of_mem_iff fun name => ?_
  show name ∈ (Signature.ofProperties (.ofMap (.ofList _))).names ↔ _
  rw [Signature.mem_ofProperties_ofMap, NameMap.contains_ofList, mem_signature, List.map_map]
  rfl

/-- Content models that hold the same have mappings with the same signature. -/
theorem signature_eq_of_holds (h : ∀ step, model.Holds step ↔ other.Holds step) :
    (ofModel ⟨start, model⟩).signature = (ofModel ⟨start, other⟩).signature := by
  have htypes : ∀ type, type ∈ model.types ↔ type ∈ other.types := fun type => h (.setType type)
  have hfields : ∀ field, field ∈ model.fields ↔ field ∈ other.fields := fun field => h (.setField field)
  refine Signature.eq_of_mem_iff fun name => ?_
  rw [mem_signature, mem_signature, names_ofModel, names_ofModel, List.mem_eraseDups, List.mem_eraseDups]
  simp only [covered, List.map_append, List.mem_append, List.mem_map, List.mem_flatMap, List.mem_filter,
    htypes, hfields]

/-- **A mapping covers its content model exactly.** Let a content model be reached by registering types and
custom fields and by removing custom fields, in any order and any number of times. The names of its mapping
are title, slug and post date, then the attributes of the types, then the searchable custom fields, each
name at its first occurrence and never again. Types stand in the order in which their handles were first
registered, each as it was registered last, and so do the custom fields whose registrations were not taken
back. The properties that the mapping is written as have the signature of the mapping. What is then done to
different types and custom fields leads to the same signature in any order. -/
theorem covers_model (start : String) (steps : List ModelStep) :
    let mapping := ofModel ⟨start, reached steps⟩
    mapping.names = (covered start (latest (·.handle) (steps.filterMap ModelStep.type?))
        (latest (·.id) (standingFields steps))).eraseDups ∧
      mapping.names.Nodup ∧
      Signature.ofProperties mapping.properties = mapping.signature ∧
      ∀ more others : List ModelStep, more.Perm others → (more.map ModelStep.subject).Nodup →
        (ofModel ⟨start, reached (steps ++ more)⟩).signature =
          (ofModel ⟨start, reached (steps ++ others)⟩).signature := by
  intro mapping
  refine ⟨?_, mapping.distinct, ofProperties_properties, fun more others hperm hdistinct => ?_⟩
  · rw [names_ofModel, types_reached, fields_reached]
  · refine signature_eq_of_holds fun step => ?_
    rw [reached, reached, List.foldl_append, List.foldl_append]
    exact holds_iff_of_perm hdistinct hperm

/-- A type that is registered again keeps its place, a custom field that is taken out and put back loses
it. -/
theorem covers_model_of_renewal :
    let steps : List ModelStep :=
      [.setType ⟨"entry", true, ["summary", "title"]⟩, .setField ⟨12, "body", true⟩,
        .setType ⟨"asset", false, ["filename", "summary"]⟩, .setField ⟨13, "notes", true⟩,
        .dropField 12, .setType ⟨"entry", true, ["teaser"]⟩, .setField ⟨12, "body", true⟩]
    let tag : ModelStep := .setType ⟨"tag", true, ["label"]⟩
    let intro : ModelStep := .setField ⟨14, "intro", true⟩
    (ofModel ⟨"craft_", reached steps⟩).names =
        ["craft_attribute_title", "craft_attribute_slug", "craft_attribute_postDate",
          "craft_attribute_teaser", "craft_attribute_filename", "craft_attribute_summary",
          "craft_field_13", "craft_field_12"] ∧
      (ofModel ⟨"craft_", reached (steps ++ [tag, intro])⟩).signature =
        (ofModel ⟨"craft_", reached (steps ++ [intro, tag])⟩).signature := by
  intro steps tag intro
  obtain ⟨hnames, -, -, horder⟩ := covers_model "craft_" steps
  refine ⟨hnames.trans ?_, horder _ _ (.swap intro tag []) ?_⟩
  · decide +kernel
  · decide

end Mapping

end SiteSearch
