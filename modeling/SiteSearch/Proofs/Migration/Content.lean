import SiteSearch.Proofs.Document.Indexing
import SiteSearch.Proofs.Migration.Generations
import SiteSearch.Proofs.Query.Answering

/-!
# What a move keeps

A move copies the documents of the old index with the fields of the current mapping only. So a document
loses exactly the fields that the mapping does not have (`Store.field?_restrictTo`). One that an element
has been indexed as under the same content model loses none, since the fields of a document are among
those of the mapping (`Store.restrictTo_of_hasWritten`): readers find behind the move what they have
found before it.
-/

namespace SiteSearch

namespace Store

variable {store : Store} {names : List String} {name : String} {documents : NameMap Json}

theorem valueAt?_filter_names : ∀ fields : List (String × Json),
    valueAt? name (fields.filter fun f => names.contains f.1) =
      if name ∈ names then valueAt? name fields else none
  | [] => by simp [valueAt?]
  | (first, value) :: rest => by
    have ih := valueAt?_filter_names rest
    simp only [List.contains_eq_mem] at ih ⊢
    by_cases hname : first = name
    · subst hname
      by_cases hkept : first ∈ names <;> simp [valueAt?, hkept, ih]
    · by_cases hkept : first ∈ names <;> simp [valueAt?, hkept, hname, ih]

/-- A document with only some of its fields has these as before, and no others. -/
theorem field?_restrictTo (names : List String) (document : Json) (name : String) :
    (restrictTo names document).field? name = if name ∈ names then document.field? name else none := by
  cases document with
  | object fields => exact valueAt?_filter_names fields
  | _ => exact (ite_self none).symm

theorem restrictTo_toJson {document : Document}
    (h : ∀ name, document.fields.contains name = true → name ∈ names) :
    restrictTo names document.toJson = document.toJson := by
  refine congrArg Json.object (List.filter_eq_self.2 fun field hfield => ?_)
  obtain ⟨entry, hentry, rfl⟩ := List.mem_map.1 hfield
  have hthere := NameMap.mem_names.1 (List.mem_map_of_mem (f := (·.1)) hentry)
  simpa using h entry.1 hthere

/-- A document that an element has been indexed as has no fields but those of the mapping. -/
theorem restrictTo_of_hasWritten {model : FieldNames} {id : String} {document : Json}
    (h : model.HasWritten id document) : restrictTo (Mapping.ofModel model).names document = document := by
  obtain ⟨element, document, hdocument, -, rfl⟩ := h.exists_document
  exact restrictTo_toJson fun name hname => FieldNames.mem_ofModel_of_document? hdocument hname

theorem restricted_eq_self
    (h : ∀ id document, documents.get? id = some document → restrictTo names document = document) :
    restricted names documents = documents := by
  refine NameMap.ext_get? fun id => ?_
  rw [restricted, NameMap.get?_mapValues]
  cases hget : documents.get? id with
  | none => rfl
  | some document => rw [Option.map_some, h id document hget]

end Store

namespace World

variable {w : World} {key : CollectionKey} {index : String} {blocked : Bool} {documents : NameMap Json}

theorem source_of_backs (h : w.memory.store.Backs (w.service.aliasName key) index blocked documents)
    (id : ElementId) : w.source id key = Operation.resultOf ((documents.get? (Text.writeWord id)).elim
      (.error (Store.noSuchDocument (Text.writeWord id))) .ok) := by
  rw [source_eq, h.getSource_eq]

theorem documents_of_backs (h : w.memory.store.Backs (w.service.aliasName key) index blocked documents) :
    w.documents key = documents.entries :=
  h.documents_eq

end World

namespace Operation.Runs

variable {faults : Faults} {key : CollectionKey} {w w' : World} {t : List (Turn Memory)}
variable {report : ReindexReport} {index : String} {blocked : Bool} {documents : NameMap Json}

/-- A move that succeeds from an index that backs its alias leads to one that backs it. -/
theorem backs_moved (h : (Operation.reindex key).Runs .unperformed w t (.ok report) w')
    (hbacks : w.memory.store.Backs (w.service.aliasName key) index blocked documents) :
    ∃ blocked', w'.memory.store.Backs (w.service.aliasName key) report.newIndex blocked'
      (Store.restricted w.service.mapping.names documents) := by
  obtain ⟨m, hm, hold, hnew, -, -, held, hheld, hstands⟩ := h.moved
  obtain ⟨held', hget, -, rfl⟩ := hbacks.holds
  have hindex : m.oldIndex = index := by
    have hcarries := h.carries_oldIndex.1
    rw [← hold]
    exact (Store.carriers_eq_singleton.1 hbacks.carriers_eq _).1 hcarries
  obtain rfl : held = held' := Option.some.inj (hheld.symm.trans (hindex ▸ hget))
  obtain ⟨new, hfilled, hdocuments⟩ := hstands.filled
  refine ⟨new.writeBlocked, ?_, ?_, new, hnew ▸ hfilled, rfl, ?_⟩
  · -- the two indexes of the move have other names than the alias
    have hnotOld : w.service.aliasName key ≠ m.oldIndex := (Store.ne_of_unnamed hbacks.unnamed hheld).symm
    have hnotNew : w.service.aliasName key ≠ m.newIndex := by
      rw [← hm.alias_eq]
      intro heq
      exact not_isGeneration_self (heq ▸ hm.generation)
    rw [NameMap.contains_eq_false, hstands.spares.others _ hnotOld hnotNew]
    exact NameMap.contains_eq_false.1 hbacks.unnamed
  · refine h.carriers_moved_eq_singleton.2 ?_
    rw [hold, hindex]
    exact hbacks.carriers_eq
  · rw [hdocuments, hm.mapping_eq]

theorem aliasName_reindex {r : Except ServiceError ReindexReport}
    (h : (Operation.reindex key).Runs faults w t r w') :
    w'.service.aliasName key = w.service.aliasName key :=
  congrArg (·.aliasName key) (Operation.asksOnly_reindex _ key rfl h.1).1

/-- Where a collection is a single index and no index has the name of its alias, a move that succeeds
loses no more than the fields that the current mapping does not have: each document that readers find, by
its id or in the collection, has all others as it had them, and it has no more. Where all documents have
been written by indexing elements under the same content model, readers find the same documents, for under
every content model the fields of a document are among those of the mapping. -/
theorem reindex_keeps_content (hfaults : faults ≠ .any)
    (hbacks : w.memory.store.Backs (w.service.aliasName key) index blocked documents)
    (h : (Operation.reindex key).Runs faults w t (.ok report) w') :
    ((∀ id, w'.source id key = (w.source id key).map (Store.restrictTo w.service.mapping.names)) ∧
      w'.documents key = (w.documents key).map
        (fun entry => (entry.1, Store.restrictTo w.service.mapping.names entry.2)) ∧
      ∀ document name, (Store.restrictTo w.service.mapping.names document).field? name =
        if name ∈ w.service.mapping.names then document.field? name else none) ∧
    ((∀ entry ∈ w.documents key, w.service.fieldNames.HasWritten entry.1 entry.2) →
      (∀ id, w'.source id key = w.source id key) ∧ w'.documents key = w.documents key) ∧
    ∀ (names : FieldNames) (element : Element) (type : ElementType),
      names.model.elementType? element.type = some type →
        ∃ document, names.document? element = .ok document ∧
          ∀ name, document.fields.contains name = true → name ∈ (Mapping.ofModel names).names := by
  have hcalm : (Operation.reindex key).Runs .unperformed w t (.ok report) w' := by
    cases faults with
    | none => exact ⟨h.1, h.2.of_faultless⟩
    | unperformed => exact h
    | any => exact absurd rfl hfaults
  obtain ⟨blocked', hmoved⟩ := hcalm.backs_moved hbacks
  rw [← h.aliasName_reindex] at hmoved
  refine ⟨⟨fun id => ?_, ?_, Store.field?_restrictTo _⟩, fun hwritten => ?_,
    fun names element type htype => ?_⟩
  · rw [World.source_of_backs hmoved, World.source_of_backs hbacks, Store.restricted, NameMap.get?_mapValues]
    cases documents.get? (Text.writeWord id) <;> rfl
  · rw [World.documents_of_backs hmoved, World.documents_of_backs hbacks]
    rfl
  · have hsame : Store.restricted w.service.mapping.names documents = documents := by
      refine Store.restricted_eq_self fun id document hget => ?_
      rw [World.documents_of_backs hbacks] at hwritten
      exact Store.restrictTo_of_hasWritten (hwritten (id, document) (NameMap.mem_entries.2 hget))
    rw [hsame] at hmoved
    refine ⟨fun id => ?_, ?_⟩
    · rw [World.source_of_backs hmoved, World.source_of_backs hbacks]
    · rw [World.documents_of_backs hmoved, World.documents_of_backs hbacks]
  · obtain ⟨document, hdocument⟩ := FieldNames.exists_document? htype
    exact ⟨document, hdocument, fun name hname => FieldNames.mem_ofModel_of_document? hdocument hname⟩

/-- An entry is read behind a move as it was read before it. -/
theorem reindex_keeps_entry :
    let indexed := (Operation.indexElement (.entry "Green Salad!") .english).rehearse []
      (World.empty .ofEntries)
    let moved := (Operation.reindex .english).rehearse [] indexed.2.2
    let report : ReindexReport :=
      { aliasName := "craftcms_en", oldIndex := "craftcms_en_1700000000",
        newIndex := "craftcms_en_1700000001", total := 1, took := 0 }
    let document : Json :=
      .ofFields [("craft_attribute_slug", .string ""), ("craft_attribute_title", .string "green salad")]
    indexed.2.1 = .ok true ∧ indexed.2.2.documents .english = [("7", document)] ∧ moved.2.1 = .ok report ∧
      moved.2.2.documents .english = indexed.2.2.documents .english := by
  intro indexed moved report document
  have hok : indexed.2.1 = .ok true := by decide +kernel
  have hdocuments : indexed.2.2.documents .english = [("7", document)] := by decide +kernel
  have hmoved : moved.2.1 = .ok report := by decide +kernel
  have hunnamed : indexed.2.2.memory.store.contains "craftcms_en" = false := by decide +kernel
  have hcarriers : indexed.2.2.memory.store.carriers "craftcms_en" = ["craftcms_en_1700000000"] := by
    decide +kernel
  have hthere : indexed.2.2.memory.store.contains "craftcms_en_1700000000" = true := by decide +kernel
  have hfree : (World.empty .ofEntries).service.locks.isHeld
      (elementLock (Element.entry "Green Salad!").id (Element.entry "Green Salad!").siteId) = false := by
    decide +kernel
  have hindexes : (Operation.indexElement (.entry "Green Salad!") .english).Runs .none
      (World.empty .ofEntries) indexed.1 (.ok true) indexed.2.2 := Operation.runs_rehearse (by simp) hok
  have hmoves : (Operation.reindex .english).Runs .none indexed.2.2 moved.1 (.ok report) moved.2.2 :=
    Operation.runs_rehearse (by simp) hmoved
  obtain ⟨written, hwritten, hhas⟩ := hindexes.exists_hasWritten hfree
  have hentry : ((World.empty .ofEntries).service.fieldNames.document? (.entry "Green Salad!")).map
      (fun other => (Text.writeWord other.id, other.toJson)) = .ok ("7", document) := by decide +kernel
  have hnames : indexed.2.2.service.fieldNames = (World.empty .ofEntries).service.fieldNames := by
    decide +kernel
  obtain ⟨held, hheld⟩ := NameMap.contains_eq_true.1 hthere
  have hbacks : indexed.2.2.memory.store.Backs (indexed.2.2.service.aliasName .english)
      "craftcms_en_1700000000" held.writeBlocked held.documents := by
    have halias : indexed.2.2.service.aliasName .english = "craftcms_en" := by decide +kernel
    rw [halias]
    exact ⟨hunnamed, hcarriers, held, hheld, rfl, rfl⟩
  clear_value indexed moved
  refine ⟨hok, hdocuments, hmoved, ((hmoves.reindex_keeps_content (by decide) hbacks).2.1 ?_).2⟩
  intro entry hmem
  rw [hdocuments] at hmem
  obtain rfl := List.mem_singleton.1 hmem
  rw [hwritten] at hentry
  obtain ⟨hid, hjson⟩ := Prod.mk.inj (Except.ok.inj hentry)
  rw [hnames]
  exact hid ▸ hjson ▸ hhas

end Operation.Runs

end SiteSearch
