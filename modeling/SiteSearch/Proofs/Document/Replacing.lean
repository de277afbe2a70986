import SiteSearch.Proofs.Document.Deleting
import SiteSearch.Proofs.Migration.Content
import SiteSearch.Proofs.Service.Keeping

/-!
# One document for each element

Where writers reach a collection or can have it made (`World.Open`), indexing an element puts the document
that its content model asks for under its id, and leaves all others as they are
(`Operation.Runs.indexElement_of_open`). So it comes to the same to index an element once or twice, and two
elements can be indexed in either order.

An element is indexed by one worker at a time. The locks of different elements have different names
(`elementLock_inj`), so that none of them keeps another one out.
-/

namespace SiteSearch

variable {key : CollectionKey} {element : Element} {document : Document} {documents : NameMap Json}

/-! ## Locks -/

/-- A lock is named after one element on one site. -/
theorem elementLock_inj {id id' : ElementId} {site site' : SiteId} :
    elementLock id site = elementLock id' site' ↔ id = id' ∧ site = site' := by
  refine ⟨fun h => ?_, fun ⟨hid, hsite⟩ => by rw [hid, hsite]⟩
  have hlist : ("searchindex:".toList ++ (Text.writeWord id).toList) ++ ':' :: (Text.writeWord site).toList =
      ("searchindex:".toList ++ (Text.writeWord id').toList) ++ ':' :: (Text.writeWord site').toList := by
    simpa [elementLock] using congrArg String.toList h
  -- the last colon stands between the two words
  have hfront := eq_of_append_cons_eq (Text.notMem_writeWord (by decide) _)
    (Text.notMem_writeWord (by decide) _) hlist
  have hid := String.toList_inj.1 (List.append_cancel_left hfront)
  rw [hid] at hlist
  have hsite := String.toList_inj.1 (List.cons.inj (List.append_cancel_left hlist)).2
  exact ⟨Text.writeWord_inj.1 hid, Text.writeWord_inj.1 hsite⟩

/-! ## Collections that can be written to -/

/-- Writers reach a collection with some documents: one open index alone backs its alias, or the alias is
bound nowhere and the engine takes the next generation under it, which has no documents at first. -/
inductive World.Open (w : World) (key : CollectionKey) : NameMap Json → Prop where
  | bound {index : String} {documents : NameMap Json}
    (h : w.memory.store.Backs (w.service.aliasName key) index false documents) : Open w key documents
  | unbound (hfree : w.memory.store.aliasExists (w.service.aliasName key) = false)
    (haccepts : w.memory.store.Accepts w.service key) : Open w key {}

namespace World.Open

variable {w w' : World}

/-- These are the documents that readers find. -/
theorem documents_eq (hw : w.Open key documents) : w.documents key = documents.entries := by
  cases hw with
  | bound h => exact documents_of_backs h
  | unbound hfree haccepts => exact Store.documents_of_unread (Store.unread_of_unbound haccepts.unnamed hfree)

theorem congr (hw : w.Open key documents) (hstore : w'.memory.store = w.memory.store)
    (hnames : w'.service.indexNames = w.service.indexNames)
    (hmapping : w'.service.mapping = w.service.mapping) (hnow : w'.service.now = w.service.now) :
    w'.Open key documents := by
  have halias : w'.service.aliasName key = w.service.aliasName key := Service.aliasName_congr hnames
  cases hw with
  | bound h =>
    rw [← halias, ← hstore] at h
    exact .bound h
  | unbound hfree haccepts =>
    rw [← halias, ← hstore] at hfree
    refine .unbound hfree ⟨?_, fun found hfound => ?_⟩
    · rw [halias, hstore]
      exact haccepts.unnamed
    · rw [hstore, hnames] at hfound
      rw [hstore, Service.newName, hnames, hmapping, hnow]
      exact haccepts.creates found hfound

theorem of_like (hw : w.Open key documents) (hstore : w'.memory.store = w.memory.store)
    (hlike : w.service.Like w'.service) : w'.Open key documents :=
  hw.congr hstore hlike.indexNames hlike.mapping hlike.now

end World.Open

namespace Operation.Runs

variable {faults : Faults} {w w' : World} {t : List (Turn Memory)}

/-- A document is written with one call, behind the making of its collection. -/
theorem upserts {r : Except ServiceError Unit} (h : (Operation.upsert document key).Runs faults w t r w') :
    (∃ e, (Operation.ensureExists key).Runs faults w t (.error e) w' ∧ r = .error e) ∨
    ∃ made w₁ t₁ o, (Operation.ensureExists key).Runs faults w t₁ (.ok made) w₁ ∧
      t.map Turn.exchange = t₁.map Turn.exchange ++ [⟨.indexDocument (w.service.aliasName key)
        (Text.writeWord document.id) document.toJson, o⟩] ∧
      Answers Memory.answer faults (.indexDocument (w.service.aliasName key)
        (Text.writeWord document.id) document.toJson) w₁.memory o w'.memory ∧ r = resultOf o := by
  obtain ⟨e, hmade, rfl⟩ | ⟨made, service₁, d₁, o, hmade, hd, rfl⟩ := h.1.upserts
  · exact .inl ⟨e, ⟨hmade, h.2⟩, rfl⟩
  obtain ⟨m₁, t₁, t₂, rfl, rfl, ht₂, hl₁, hl₂⟩ := h.2.split hd
  obtain ⟨m₂, t₃, rfl, hwrite, ht₃, hl₃⟩ := hl₂.first ht₂
  rw [(hl₃.none ht₃).2]
  exact .inr ⟨made, ⟨service₁, m₁⟩, t₁, o, ⟨hmade, hl₁⟩, hd, hwrite, rfl⟩

/-- An element whose lock is held is left alone, and so is one without a document. Otherwise its document
is deleted and written. -/
theorem indexes {r : Except ServiceError Bool}
    (h : (Operation.indexElement element key).Runs faults w t r w') :
    (w.service.locks.isHeld (elementLock element.id element.siteId) = true ∧ t = [] ∧ r = .ok true) ∨
    w.service.locks.isHeld (elementLock element.id element.siteId) = false ∧
      ((∃ e, w.service.fieldNames.document? element = .error e ∧ t = [] ∧ r = .error e) ∨
      ∃ document locks r' service', w.service.fieldNames.document? element = .ok document ∧
        Operation.Runs faults (do delete element.id key; upsert document key)
          ⟨{ w.service with locks }, w.memory⟩ t r' ⟨service', w'.memory⟩ ∧
        r = r'.map fun _ => true) := by
  obtain ⟨hheld, ht, hr⟩ | ⟨hfree, locks, r', service', hreplaced, rfl⟩ := h.1.indexElement
  · exact .inl ⟨hheld, List.map_eq_nil_iff.1 ht, hr⟩
  refine .inr ⟨hfree, ?_⟩
  obtain ⟨e, hnone, ht, rfl⟩ | ⟨document, hdocument, hsaid⟩ := hreplaced.replaceDocument
  · exact .inl ⟨e, hnone, List.map_eq_nil_iff.1 ht, rfl⟩
  · exact .inr ⟨document, locks, r', service', hdocument, ⟨hsaid, h.2⟩, rfl⟩

/-- A collection that can be written to is there, or it is made. -/
theorem ensureExists_of_open {r : Except ServiceError Bool}
    (h : (Operation.ensureExists key).Runs .none w t r w') (hw : w.Open key documents) :
    (∃ made, r = .ok made) ∧
      ∃ index, w'.memory.store.Backs (w.service.aliasName key) index false documents := by
  cases hw with
  | @bound index _ hbacks =>
    have hbound : w.memory.store.aliasExists (w.service.aliasName key) = true := by
      simp [Store.aliasExists, hbacks.carriers_eq]
    obtain ⟨rfl, hstore⟩ := h.ensureExists_of_bound hbound
    exact ⟨⟨_, rfl⟩, index, hstore ▸ hbacks⟩
  | unbound hfree haccepts =>
    obtain ⟨rfl, hbacks⟩ := h.ensureExists_of_accepted haccepts hfree
    exact ⟨⟨_, rfl⟩, hbacks⟩

/-- A document that is written to a collection stands under its id. -/
theorem upsert_of_open {r : Except ServiceError Unit}
    (h : (Operation.upsert document key).Runs .none w t r w') (hw : w.Open key documents) :
    r = .ok () ∧ ∃ index, w'.memory.store.Backs (w.service.aliasName key) index false
      (documents.insert (Text.writeWord document.id) document.toJson) := by
  obtain ⟨e, hmade, -⟩ | ⟨made, w₁, t₁, o, hmade, -, hwrite, rfl⟩ := h.upserts
  · obtain ⟨⟨made, heq⟩, -⟩ := hmade.ensureExists_of_open hw
    cases heq
  obtain ⟨-, index, hbacks⟩ := hmade.ensureExists_of_open hw
  obtain ⟨held, hopen, hwritten⟩ := hbacks.written
  obtain ⟨⟨_, rfl⟩, hstore⟩ := hwrite.accepted .intro (Store.indexDocument_eq_ok.2 ⟨index, held, hopen, rfl⟩)
  exact ⟨rfl, index, hstore ▸ hwritten _⟩

/-- Behind a deletion no document stands under the id, and the collection can still be written to. -/
theorem delete_of_writable {id : ElementId} {r : Except ServiceError Unit}
    (h : (Operation.delete id key).Runs .none w t r w') (hw : w.Open key documents) :
    r = .ok () ∧ w'.Open key (documents.erase (Text.writeWord id)) := by
  have hlike := h.delete_like
  cases hw with
  | bound hbacks =>
    obtain ⟨held, hopen, hwritten⟩ := hbacks.written
    obtain ⟨rfl, hstore⟩ := h.delete_of_open hopen
    rw [← Service.aliasName_congr hlike.indexNames] at hwritten
    exact ⟨rfl, .bound (hstore ▸ hwritten [.delete (Text.writeWord id)])⟩
  | unbound hfree haccepts =>
    obtain ⟨what, hclosed⟩ := Store.openForWriting_notFound_iff.2
      (Store.unread_of_unbound haccepts.unnamed hfree)
    obtain ⟨rfl, hstore⟩ := h.delete_of_closed hclosed
    exact ⟨rfl, World.Open.of_like (.unbound hfree haccepts) hstore hlike⟩

/-- Indexing an element changes the document under its id, and nothing in the service but what it
remembers and what it has told. -/
theorem indexElement_like {r : Except ServiceError Bool}
    (h : (Operation.indexElement element key).Runs faults w t r w') : w.service.Like w'.service := by
  have hmakes : ∀ locks, Keeps { w.service with locks } (fun _ => True) (Operation.ensureExists key)
      fun _ => True :=
    fun _ => keeps_ensureExists .intro .intro (fun _ _ => .intro) fun _ _ => .intro
  have hkeeps : Keeps w.service (fun _ => True) (Operation.indexElement element key) fun _ => True :=
    keeps_indexElement fun locks =>
      keeps_replaceDocument (keeps_delete .intro) fun _ => keeps_upsert (hmakes locks) .intro
  exact (hkeeps .refl h.1).1

/-- The document of an element is put under its id, where its lock is free. -/
theorem indexElement_of_open {r : Except ServiceError Bool}
    (h : (Operation.indexElement element key).Runs .none w t r w') (hw : w.Open key documents)
    (hlock : w.service.locks.isHeld (elementLock element.id element.siteId) = false)
    (hdocument : w.service.fieldNames.document? element = .ok document) :
    r = .ok true ∧ w'.Open key (documents.insert (Text.writeWord element.id) document.toJson) := by
  have hlike := h.indexElement_like
  obtain ⟨hheld, -⟩ | ⟨-, ⟨e, hnone, -⟩ | ⟨document', locks, r', service', hdocument', hreplaced, rfl⟩⟩ :=
    h.indexes
  · cases hlock.symm.trans hheld
  · cases hdocument.symm.trans hnone
  obtain rfl := Except.ok.inj (hdocument.symm.trans hdocument')
  obtain ⟨type, -, hfields⟩ := FieldNames.document?_eq_ok.1 hdocument
  have hid : document.id = element.id := congrArg Document.id hfields
  have hw₀ : World.Open ⟨{ w.service with locks }, w.memory⟩ key documents := hw.congr rfl rfl rfl rfl
  obtain ⟨e, hdeleted, -⟩ | ⟨_, w₁, t₁, t₂, -, hdeleted, hwritten⟩ := runs_bind.1 hreplaced
  · cases (hdeleted.delete_of_writable hw₀).1
  obtain ⟨-, hw₁⟩ := hdeleted.delete_of_writable hw₀
  obtain ⟨rfl, index, hbacks⟩ := hwritten.upsert_of_open hw₁
  have halias : w'.service.aliasName key = w₁.service.aliasName key :=
    (Service.aliasName_congr hlike.indexNames).trans
      (Service.aliasName_congr hdeleted.delete_like.indexNames).symm
  rw [hid, NameMap.insert_erase, ← halias] at hbacks
  exact ⟨rfl, .bound hbacks⟩

end Operation.Runs

/-! ## One element after another -/

/-- The state behind the indexing of an element, with no call going wrong. -/
def World.indexed (w : World) (element : Element) (key : CollectionKey) : World :=
  ((Operation.indexElement element key).rehearse [] w).2.2

namespace World

variable {w : World}

theorem runs_indexed : (Operation.indexElement element key).Runs .none w
    ((Operation.indexElement element key).rehearse [] w).1
    ((Operation.indexElement element key).rehearse [] w).2.1 (w.indexed element key) :=
  Operation.runs_rehearse_nil _ w

/-- The document of an element can be written: there is one, and nobody is writing it. -/
structure Indexes (w : World) (element : Element) (document : Document) : Prop where
  document_eq : w.service.fieldNames.document? element = .ok document
  free : w.service.locks.isHeld (elementLock element.id element.siteId) = false

/-- It can still be written when another one has been. -/
theorem Indexes.indexed {other : Element} (h : w.Indexes element document) :
    (w.indexed other key).Indexes element document := by
  have hlike : w.service.Like (w.indexed other key).service := runs_indexed.indexElement_like
  exact ⟨by rw [hlike.fieldNames, h.document_eq], by rw [hlike.locks, h.free]⟩

theorem Open.indexed (hw : w.Open key documents) (h : w.Indexes element document) :
    (w.indexed element key).Open key
      (documents.insert (Text.writeWord element.id) document.toJson) :=
  (runs_indexed.indexElement_of_open hw h.free h.document_eq).2

end World

namespace Operation

/-- Whatever becomes of the indexing of an element, the locks behind it are those in front. An element
whose lock is held counts as indexed without a call, and to index an element keeps no other one waiting.

Where its type is known, its lock is free, writers reach the collection or can have it made, and no call
goes wrong, an element counts as indexed, and its document stands under its id, beside the documents that
have been there under other ids. Indexing it again changes no document, and another element can be indexed
before it or behind it. -/
theorem indexElement_sets_document (element : Element) (key : CollectionKey) (w : World) :
    (∀ faults t r w', (indexElement element key).Runs faults w t r w' →
      w'.service.locks = w.service.locks ∧
      (w.service.locks.isHeld (elementLock element.id element.siteId) = true → t = [] ∧ r = .ok true)) ∧
    (∀ id site taken, (id, site) ≠ (element.id, element.siteId) →
      w.service.locks.acquire? (elementLock element.id element.siteId) = some taken →
      taken.isHeld (elementLock id site) = w.service.locks.isHeld (elementLock id site)) ∧
    ∀ documents type, w.Open key documents → w.service.model.elementType? element.type = some type →
      w.service.locks.isHeld (elementLock element.id element.siteId) = false →
      ((indexElement element key).rehearse [] w).2.1 = .ok true ∧
      w.documents key = documents.entries ∧
      (∃ document, w.service.fieldNames.document? element = .ok document ∧
        (w.indexed element key).documents key =
          (documents.insert (Text.writeWord element.id) document.toJson).entries) ∧
      ((w.indexed element key).indexed element key).documents key = (w.indexed element key).documents key ∧
      ∀ other type', other.id ≠ element.id → w.service.model.elementType? other.type = some type' →
        w.service.locks.isHeld (elementLock other.id other.siteId) = false →
        ((w.indexed element key).indexed other key).documents key =
          ((w.indexed other key).indexed element key).documents key := by
  refine ⟨fun faults t r w' h => ⟨h.indexElement_like.locks, fun hheld => ?_⟩,
    fun id site taken hother htaken => ?_, fun documents type hw htype hfree => ?_⟩
  · obtain ⟨-, ht, hr⟩ | ⟨hfree, -⟩ := h.indexes
    · exact ⟨ht, hr⟩
    · cases hfree.symm.trans hheld
  · refine Locks.isHeld_of_acquire? htaken fun heq => hother ?_
    obtain ⟨rfl, rfl⟩ := elementLock_inj.1 heq
    rfl
  · obtain ⟨document, hdocument⟩ : ∃ document, w.service.fieldNames.document? element = .ok document :=
      FieldNames.exists_document? htype
    have h : w.Indexes element document := ⟨hdocument, hfree⟩
    refine ⟨(World.runs_indexed.indexElement_of_open hw hfree hdocument).1, hw.documents_eq,
      ⟨document, hdocument, (hw.indexed h).documents_eq⟩, ?_, fun other type' hid htype' hfree' => ?_⟩
    · rw [((hw.indexed h).indexed h.indexed).documents_eq, (hw.indexed h).documents_eq,
        NameMap.insert_insert]
    · obtain ⟨document', hdocument'⟩ : ∃ document', w.service.fieldNames.document? other = .ok document' :=
        FieldNames.exists_document? htype'
      have h' : w.Indexes other document' := ⟨hdocument', hfree'⟩
      have hids : Text.writeWord element.id ≠ Text.writeWord other.id := fun heq =>
        hid (Text.writeWord_inj.1 heq).symm
      rw [((hw.indexed h).indexed h'.indexed).documents_eq,
        ((hw.indexed h').indexed h.indexed).documents_eq, NameMap.insert_comm hids]

/-- The first entry of a collection is indexed, once or twice, before another entry or behind it. -/
theorem indexElement_sets_document_of_entry :
    let entry := Element.entry "Green Salad!"
    let other := { Element.entry "Fruit" with id := 8 }
    let w := World.empty .ofEntries
    let document : Json :=
      .ofFields [("craft_attribute_slug", .string ""), ("craft_attribute_title", .string "green salad")]
    (w.indexed entry .english).service.locks = w.service.locks ∧
      Locks.isHeld ⟨[elementLock 7 1]⟩ (elementLock 8 1) = false ∧
      (w.indexed entry .english).documents .english = [("7", document)] ∧
      ((w.indexed entry .english).indexed entry .english).documents .english =
        (w.indexed entry .english).documents .english ∧
      ((w.indexed entry .english).indexed other .english).documents .english =
        ((w.indexed other .english).indexed entry .english).documents .english := by
  intro entry other w document
  have htype : w.service.model.elementType? "entry" = some ⟨"entry", true, []⟩ := by decide +kernel
  have haccepts : w.memory.store.Accepts w.service .english :=
    ⟨rfl, fun _ _ => ⟨_, Store.createIndex_eq_ok.2 ⟨rfl, rfl, rfl⟩⟩⟩
  obtain ⟨hlocks, hapart, hsets⟩ := indexElement_sets_document entry .english w
  obtain ⟨-, -, -, htwice, hcommutes⟩ := hsets {} _ (.unbound rfl haccepts) htype rfl
  exact ⟨(hlocks _ _ _ _ World.runs_indexed).1, hapart 8 1 _ (by decide) rfl, by decide +kernel, htwice,
    hcommutes other _ (by decide) htype rfl⟩

end Operation

end SiteSearch
