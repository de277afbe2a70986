import SiteSearch.Proofs.Document.Fields
import SiteSearch.Proofs.Document.Readback

/-!
# Indexing an element

An element that counts as indexed has been written: the document that its content model asks for is
deleted where it was and written anew (`Operation.Runs.indexElement_ok`), and nothing else is written
(`FieldNames.HasWritten.exists_document`). The one exception is an element whose lock is held elsewhere,
which is left alone.
-/

namespace SiteSearch

variable {key : CollectionKey} {element : Element}

/-- The call puts nothing into any index but a document under its id. -/
def EngineCall.WritesOnly (document : Document) : EngineCall → Prop
  | indexDocument _ id json => id = Text.writeWord document.id ∧ json = document.toJson
  | bulk _ | reindex _ | cloneIndex _ _ _ => False
  | _ => True

namespace Operation

/-- A document that is replaced is built first; where it is built, it is deleted and written. -/
theorem Says.replaceDocument {service service' : Service} {d : List Exchange}
    {r : Except ServiceError Unit} (h : (replaceDocument element key).Says service d r service') :
    (∃ e, service.fieldNames.document? element = .error e ∧ d = [] ∧ r = .error e) ∨
    ∃ document, service.fieldNames.document? element = .ok document ∧
      Operation.Says (do delete element.id key; upsert document key) service d r service' := by
  unfold Operation.replaceDocument at h
  rw [says_bind] at h
  obtain ⟨e, hbuilt, rfl⟩ | ⟨document, service₁, d₁, d₂, rfl, hbuilt, h⟩ := h
  · rw [buildDocument, says_get_bind] at hbuilt
    obtain ⟨rfl, hfailed, -⟩ := says_finish.1 hbuilt
    exact .inl ⟨e, hfailed.symm, rfl, rfl⟩
  · rw [buildDocument, says_get_bind] at hbuilt
    obtain ⟨rfl, hdocument, rfl⟩ := says_finish.1 hbuilt
    exact .inr ⟨document, hdocument.symm, h⟩

/-- An element whose lock is held is left alone; the document of another one is replaced. -/
theorem Says.indexElement {service service' : Service} {d : List Exchange} {r : Except ServiceError Bool}
    (h : (indexElement element key).Says service d r service') :
    (service.locks.isHeld (elementLock element.id element.siteId) = true ∧ d = [] ∧ r = .ok true) ∨
    service.locks.isHeld (elementLock element.id element.siteId) = false ∧
      ∃ locks r' service₁,
        (Operation.replaceDocument element key).Says { service with locks } d r' service₁ ∧
        r = r'.map fun _ => true := by
  unfold Operation.indexElement at h
  dsimp only at h
  rw [says_get_bind] at h
  split at h
  · rename_i hheld
    rw [says_record_bind] at h
    obtain ⟨rfl, rfl, -⟩ := says_pure.1 h
    exact .inl ⟨Locks.acquire?_eq_none.1 hheld, rfl, rfl⟩
  · rename_i locks hlocks
    rw [says_modify_bind] at h
    obtain ⟨r', service₁, d₁, d₂, rfl, hreplaced, hdone⟩ := says_outcome_bind.1 h
    rw [says_modify_bind] at hdone
    refine .inr ⟨(Locks.acquire?_eq_some.1 hlocks).1, locks, r', service₁, ?_⟩
    obtain ⟨e, hfinish, rfl⟩ | ⟨_, service₂, d₃, d₄, rfl, hfinish, hpure⟩ := says_bind.1 hdone
    · obtain ⟨rfl, rfl, -⟩ := says_finish.1 hfinish
      exact ⟨by simpa using hreplaced, rfl⟩
    · obtain ⟨rfl, rfl, -⟩ := says_finish.1 hfinish
      obtain ⟨rfl, rfl, -⟩ := says_pure.1 hpure
      exact ⟨by simpa using hreplaced, rfl⟩

/-- What is said when an element counts as indexed. -/
theorem Says.indexElement_ok {service service' : Service} {d : List Exchange} {indexed : Bool}
    (h : (Operation.indexElement element key).Says service d (.ok indexed) service') :
    (service.locks.isHeld (elementLock element.id element.siteId) = true ∧ d = []) ∨
    ∃ locks document service₁ service₂ d₁ d₂,
      service.fieldNames.document? element = .ok document ∧ d = d₁ ++ d₂ ∧
      (delete element.id key).Says { service with locks } d₁ (.ok ()) service₁ ∧
      (upsert document key).Says service₁ d₂ (.ok ()) service₂ := by
  obtain ⟨hheld, hd, -⟩ | ⟨-, locks, r, service₁, hreplaced, heq⟩ := h.indexElement
  · exact .inl ⟨hheld, hd⟩
  obtain ⟨_, rfl, -⟩ := map_eq_ok.1 heq.symm
  obtain ⟨e, -, -, heq⟩ | ⟨document, hdocument, h⟩ := hreplaced.replaceDocument
  · cases heq
  obtain ⟨e, -, heq⟩ | ⟨_, service₂, d₁, d₂, rfl, hdeleted, hwritten⟩ := says_bind.1 h
  · cases heq
  exact .inr ⟨locks, document, service₂, service₁, d₁, d₂, hdocument, rfl, hdeleted, hwritten⟩

/-- Of an element, nothing is ever written but its document. -/
theorem Says.indexElement_writes {service service' : Service} {d : List Exchange}
    {r : Except ServiceError Bool} (h : (Operation.indexElement element key).Says service d r service') :
    d = [] ∨ ∃ document, service.fieldNames.document? element = .ok document ∧
      ∀ x ∈ d, x.1.WritesOnly document := by
  obtain ⟨-, hd, -⟩ | ⟨-, locks, r', service₁, hreplaced, -⟩ := h.indexElement
  · exact .inl hd
  obtain ⟨_, -, hd, -⟩ | ⟨document, hdocument, hsaid⟩ := hreplaced.replaceDocument
  · exact .inl hd
  have hmade : AsksOnly service.indexNames (EngineCall.WritesOnly document)
      (Operation.ensureExists key) fun _ => True :=
    asksOnly_ensureExists_calls (fun _ => .intro) (fun _ => .intro) (fun _ _ _ => .intro)
      fun _ _ => .intro
  have hasked : AsksOnly service.indexNames (EngineCall.WritesOnly document)
      (do delete element.id key; upsert document key) fun _ => True :=
    asksOnly_bind (asksOnly_delete fun _ => .intro) fun _ _ => asksOnly_upsert_calls hmade ⟨rfl, rfl⟩
  have hnames : Service.indexNames { service with locks } = service.indexNames := rfl
  exact .inr ⟨document, hdocument, (hasked hnames hsaid).2.1⟩

end Operation

/-- Under a content model, the indexing of some element has put a document under an id. -/
def FieldNames.HasWritten (names : FieldNames) (id : String) (json : Json) : Prop :=
  ∃ (element : Element) (key : CollectionKey) (faults : Faults) (w w' : World) (t : List (Turn Memory))
    (r : Except ServiceError Bool) (aliasName : String), w.service.fieldNames = names ∧
    (Operation.indexElement element key).Runs faults w t r w' ∧
    ⟨.indexDocument aliasName id json, .ok ()⟩ ∈ t.map Turn.exchange

namespace Operation

namespace Runs

variable {faults : Faults} {w w' : World} {t : List (Turn Memory)} {document : Document}

/-- What counts as written is in the index that is written to. -/
theorem upsert_put (h : (Operation.upsert document key).Runs faults w t (.ok ()) w') :
    ∃ (store : Store) (i : String) (held : StoredIndex),
      store.openForWriting (w.service.aliasName key) = .ok (i, held) ∧
      w'.memory.store = store.written i held [.put (Text.writeWord document.id) document.toJson] := by
  obtain ⟨made, service₁, d₁, -, hd⟩ := h.1.upsert_ok
  obtain ⟨s₁, t₁, t₂, -, -, ht₂, -, hl₂⟩ := h.2.split hd
  obtain ⟨s₂, t₃, -, hwrite, ht₃, hl₃⟩ := hl₂.first ht₂
  obtain ⟨i, held, hopen, hstore⟩ := Store.indexDocument_eq_ok.1 hwrite.perform_of_ok
  refine ⟨s₁.store, i, held, hopen, ?_⟩
  rw [(hl₃.none ht₃).2]
  exact hstore

/-- An element that counts as indexed has its document deleted and written, unless its lock is held. -/
theorem indexElement_ok {indexed : Bool}
    (h : (Operation.indexElement element key).Runs faults w t (.ok indexed) w') :
    (w.service.locks.isHeld (elementLock element.id element.siteId) = true ∧ t = []) ∨
    ∃ locks document w₁ service₂ t₁ t₂,
      w.service.fieldNames.document? element = .ok document ∧ t = t₁ ++ t₂ ∧
      w₁.service.aliasName key = w.service.aliasName key ∧
      (Operation.delete element.id key).Runs faults ⟨{ w.service with locks }, w.memory⟩ t₁ (.ok ()) w₁ ∧
      (Operation.upsert document key).Runs faults w₁ t₂ (.ok ()) ⟨service₂, w'.memory⟩ := by
  obtain ⟨hheld, ht⟩ | ⟨locks, document, service₁, service₂, d₁, d₂, hdocument, ht, hdeleted, hwritten⟩ :=
    h.1.indexElement_ok
  · exact .inl ⟨hheld, List.map_eq_nil_iff.1 ht⟩
  · obtain ⟨m₁, t₁, t₂, rfl, rfl, rfl, hl₁, hl₂⟩ := h.2.split ht
    have hasked : AsksOnly w.service.indexNames (fun _ => True) (delete element.id key) fun _ => True :=
      asksOnly_delete fun _ => .intro
    have hnames : service₁.indexNames = w.service.indexNames := by
      refine (hasked ?_ hdeleted).1
      rfl
    exact .inr ⟨locks, document, ⟨service₁, m₁⟩, service₂, t₁, t₂, hdocument, rfl,
      congrArg (·.aliasName key) hnames, ⟨hdeleted, hl₁⟩, ⟨hwritten, hl₂⟩⟩

/-- Where an element counts as indexed and its lock was free, its document has been written. -/
theorem exists_hasWritten {indexed : Bool}
    (h : (Operation.indexElement element key).Runs faults w t (.ok indexed) w')
    (hlock : w.service.locks.isHeld (elementLock element.id element.siteId) = false) :
    ∃ document, w.service.fieldNames.document? element = .ok document ∧
      w.service.fieldNames.HasWritten (Text.writeWord document.id) document.toJson := by
  obtain ⟨hheld, -⟩ | ⟨locks, document, w₁, service₂, t₁, t₂, hdocument, ht, -, -, hwritten⟩ :=
    h.indexElement_ok
  · rw [hlock] at hheld
    cases hheld
  obtain ⟨made, service₁, d₁, -, hd⟩ := hwritten.1.upsert_ok
  refine ⟨document, hdocument, element, key, faults, w, w', t, .ok indexed, w₁.service.aliasName key, rfl,
    h, ?_⟩
  rw [ht, List.map_append, hd]
  simp

end Runs

end Operation

/-- What an element is written as is its document. -/
theorem FieldNames.HasWritten.exists_document {names : FieldNames} {id : String} {json : Json}
    (h : names.HasWritten id json) : ∃ element document, names.document? element = .ok document ∧
      id = Text.writeWord document.id ∧ json = document.toJson := by
  obtain ⟨element, key, faults, w, w', t, r, aliasName, rfl, hrun, hwritten⟩ := h
  obtain ht | ⟨document, hdocument, honly⟩ := hrun.1.indexElement_writes
  · rw [ht] at hwritten
    cases hwritten
  obtain ⟨hid, hjson⟩ := honly _ hwritten
  exact ⟨element, document, hdocument, hid, hjson⟩

/-! ## The entries of the examples -/

/-- A service that knows entries, which have titles. -/
def Service.ofEntries : Service :=
  { Service.plain with model := ContentModel.empty.registerType ⟨"entry", true, []⟩ }

/-- An entry with a title. -/
def Element.entry (title : String) : Element where
  id := 7
  siteId := 1
  type := "entry"
  attributes := .ofList [("title", title)]
  fieldTexts := []

end SiteSearch
