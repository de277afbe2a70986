import SiteSearch.Proofs.Memory.Answer
import SiteSearch.Proofs.Memory.Bodies
import SiteSearch.Service.Document

/-!
# Writing through an alias

Documents are written through an alias one by one or in bulk. A write is acknowledged where its call,
or its item in the reply to a bulk request, is answered without a refusal (`Exchange.acknowledged`).

Where a writer reaches an index under the alias, its documents become what the acknowledged writes
make of them, and nothing else changes (`Answers.written`). Where it reaches none, every write is
refused and nothing changes at all (`Answers.refused`). A call that fails without effect is neither
performed nor acknowledged, so both hold although calls may fail.
-/

namespace SiteSearch

/-- A write of one document. -/
inductive Write where
  | put (id : String) (document : Json)
  | delete (id : String)
  deriving DecidableEq, Repr

/-- Documents with a write done. -/
def Write.apply (documents : NameMap Json) : Write → NameMap Json
  | put id document => documents.insert id document
  | delete id => documents.erase id

/-- Documents with some writes done one after another. -/
def replay (writes : List Write) (documents : NameMap Json) : NameMap Json :=
  writes.foldl Write.apply documents

theorem replay_append {writes writes' : List Write} {documents : NameMap Json} :
    replay (writes ++ writes') documents = replay writes' (replay writes documents) :=
  List.foldl_append

namespace BulkOperation

/-- The name under which an operation writes. -/
def target : BulkOperation → String
  | index name _ _ | delete name _ => name

/-- What an operation writes. -/
def write : BulkOperation → Write
  | index _ id document => .put id document
  | delete _ id => .delete id

/-- What is written by those operations whose items are no refusals. -/
def acknowledged (operations : List BulkOperation) (items : List Json) : List Write :=
  ((operations.zip items).filter fun p => !isRefusedItem p.2).map (·.1.write)

/-- Where no item is a refusal, all is written. -/
theorem acknowledged_eq {operations : List BulkOperation} {items : List Json}
    (hlength : items.length = operations.length) (hitems : ∀ item ∈ items, isRefusedItem item = false) :
    acknowledged operations items = operations.map (·.write) := by
  have hall : (operations.zip items).filter (fun p => !isRefusedItem p.2) = operations.zip items :=
    List.filter_eq_self.2 fun (operation, item) hmem => by
      simp [hitems item (List.of_mem_zip hmem).2]
  have hfirst : (operations.zip items).map Prod.fst = operations :=
    List.map_fst_zip (by omega)
  rw [acknowledged, hall]
  exact (List.map_map (f := Prod.fst) (g := BulkOperation.write)).symm.trans (congrArg _ hfirst)

end BulkOperation

/-- The call writes documents, and under one name only. -/
def EngineCall.WritesThrough (name : String) : EngineCall → Prop
  | indexDocument target _ _ | deleteDocument target _ => target = name
  | bulk operations => ∀ operation ∈ operations, operation.target = name
  | _ => False

instance (name : String) : DecidablePred (EngineCall.WritesThrough name) := fun c => by
  cases c <;> unfold EngineCall.WritesThrough <;> infer_instance

namespace Exchange

/-- The writes of an exchange that have been acknowledged, in their order. -/
def acknowledged : Exchange → List Write
  | ⟨.indexDocument _ id document, .ok _⟩ => [.put id document]
  | ⟨.deleteDocument _ id, .ok _⟩ => [.delete id]
  | ⟨.bulk operations, .ok reply⟩ => BulkOperation.acknowledged operations reply.items
  | _ => []

/-- Every write of an exchange has been refused. -/
def Refused : Exchange → Prop
  | ⟨.bulk operations, .ok reply⟩ =>
    reply.items.length = operations.length ∧ ∀ item ∈ reply.items, isRefusedItem item = true
  | ⟨_, .ok _⟩ => False
  | ⟨_, .error _⟩ => True

/-- What has been refused is not acknowledged. -/
theorem Refused.acknowledged_eq_nil {x : Exchange} (h : x.Refused) : x.acknowledged = [] := by
  obtain ⟨c, o⟩ := x
  cases o with
  | error e => cases c <;> rfl
  | ok answer =>
    cases c with
    | bulk operations =>
      refine List.map_eq_nil_iff.2 (List.filter_eq_nil_iff.2 fun (operation, item) hmem => ?_)
      simp [h.2 item (List.of_mem_zip hmem).2]
    | _ => exact h.elim

end Exchange

namespace Store

variable {store store' : Store} {name a i : String} {held : StoredIndex} {e : EngineError}

/-! ## The index that is written to -/

theorem SameAliases.isMarked_eq (h : store.SameAliases store') :
    store'.isMarked a i = store.isMarked a i := by
  have hbind : ∀ s : Store,
      s.isMarked a i = (((s.get? i).map (·.aliases)).bind (·.get? a)).getD false := by
    intro s
    rw [isMarked, Option.bind_map]
    rfl
  rw [hbind, hbind, h i]

/-- Where a write goes depends on the aliases only. -/
theorem SameAliases.writeTarget_eq (h : store.SameAliases store') :
    store'.writeTarget name = store.writeTarget name := by
  have hcarriers : store'.carriers name = store.carriers name :=
    carriers_congr fun _ => h.carries_iff
  have hmarked : store'.isMarked name = store.isMarked name := funext fun _ => h.isMarked_eq
  rw [writeTarget, writeTarget, readTargets, readTargets, h.contains_eq, hcarriers, hmarked]

/-- A store with writes done to the documents of an index. -/
def written (store : Store) (i : String) (held : StoredIndex) (writes : List Write) : Store :=
  store.insert i { held with documents := replay writes held.documents }

/-- Behind a write the index is written to as before. -/
theorem openForWriting_written {writes : List Write}
    (h : store.openForWriting name = .ok (i, held)) :
    (store.written i held writes).openForWriting name =
      .ok (i, { held with documents := replay writes held.documents }) := by
  obtain ⟨htarget, hget, hblocked⟩ := openForWriting_eq_ok.1 h
  refine openForWriting_eq_ok.2 ⟨?_, ?_, hblocked⟩
  · have haliases : store.SameAliases (store.written i held writes) := sameAliases_insert hget rfl
    exact haliases.writeTarget_eq.trans htarget
  · exact NameMap.get?_insert_self

theorem written_written {writes writes' : List Write} :
    (store.written i held writes).written i
        { held with documents := replay writes held.documents } writes' =
      store.written i held (writes ++ writes') := by
  rw [written, written, written, NameMap.insert_insert, replay_append]

theorem written_nil (h : store.openForWriting name = .ok (i, held)) :
    store.written i held [] = store :=
  NameMap.insert_eq_self (openForWriting_eq_ok.1 h).2.1

/-- Deleting what is not there changes nothing. -/
theorem written_absent {id : String} (h : store.openForWriting name = .ok (i, held))
    (hid : held.documents.contains id = false) : store.written i held [.delete id] = store := by
  show store.insert i { held with documents := held.documents.erase id } = store
  rw [NameMap.erase_eq_self hid]
  exact written_nil h

/-! ## Single documents -/

/-- A document is written to the index that is reached. -/
theorem indexDocument_eq_ok {id : String} {document : Json} :
    store.indexDocument name id document = .ok store' ↔
      ∃ i held, store.openForWriting name = .ok (i, held) ∧
        store' = store.written i held [.put id document] := by
  unfold indexDocument
  rw [bind_eq_ok]
  constructor
  · rintro ⟨⟨i, held⟩, hopen, heq⟩
    exact ⟨i, held, hopen, (Except.ok.inj heq).symm⟩
  · rintro ⟨i, held, hopen, rfl⟩
    exact ⟨(i, held), hopen, rfl⟩

/-- Where an index is reached, a document is deleted from it unless it is not there. -/
theorem deleteDocument_of_open {id : String} (h : store.openForWriting name = .ok (i, held)) :
    store.deleteDocument name id = .ok (store.written i held [.delete id]) ∨
      store.deleteDocument name id = .error (noSuchDocument id) ∧
        store.written i held [.delete id] = store := by
  simp only [deleteDocument, h, bind, Except.bind]
  split
  · exact .inl rfl
  · rename_i hid
    exact .inr ⟨rfl, written_absent h (by simpa using hid)⟩

/-- A deletion that is performed takes a document from the index that is reached. -/
theorem deleteDocument_eq_ok {id : String} : store.deleteDocument name id = .ok store' ↔
    ∃ i held document, store.openForWriting name = .ok (i, held) ∧ held.documents.get? id = some document ∧
      store' = store.written i held [.delete id] := by
  unfold deleteDocument
  rw [bind_eq_ok]
  constructor
  · rintro ⟨⟨i, held⟩, hopen, heq⟩
    dsimp only at heq
    split at heq
    · rename_i hid
      obtain ⟨document, hdocument⟩ := NameMap.contains_eq_true.1 hid
      exact ⟨i, held, document, hopen, hdocument, (Except.ok.inj heq).symm⟩
    · cases heq
  · rintro ⟨i, held, document, hopen, hdocument, rfl⟩
    exact ⟨(i, held), hopen, if_pos (NameMap.contains_eq_true.2 ⟨document, hdocument⟩)⟩

theorem deleteDocument_of_closed {id : String} (h : store.openForWriting name = .error e) :
    store.deleteDocument name id = .error e := by
  rw [deleteDocument, h]
  rfl

/-! ## Bulk requests -/

theorem isRefusedItem_refusedItem {action id : String} :
    isRefusedItem (refusedItem action name id e) = true := by
  show isRefusedOutcome (.ofFields _) = true
  simp [isRefusedOutcome, Json.field?_ofFields, NameMap.ofList, NameMap.get?_insert]

theorem isRefusedItem_performedItem {action id result : String} {status : Nat}
    (h : status = 200 ∨ status = 201 ∨ status = 404) :
    isRefusedItem (performedItem action name id status result) = false := by
  show isRefusedOutcome (.ofFields _) = false
  have herror : (Json.ofFields [("_index", .string name), ("_id", .string id),
      ("status", .nat status), ("result", .string result)]).field? "error" = none := by
    simp [Json.field?_ofFields, NameMap.ofList, NameMap.get?_insert]
  have hstatus : (Json.ofFields [("_index", .string name), ("_id", .string id),
      ("status", .nat status), ("result", .string result)]).field? "status" =
      some (.nat status) := by
    simp [Json.field?_ofFields, NameMap.ofList, NameMap.get?_insert]
  rw [isRefusedOutcome, herror, hstatus]
  rcases h with rfl | rfl | rfl <;> rfl

/-- Where an index is reached every operation is performed, and one that has nothing to delete leaves
the documents as they are. -/
theorem bulkStep_of_open {operation : BulkOperation}
    (h : store.openForWriting operation.target = .ok (i, held)) :
    ∃ item, isRefusedItem item = false ∧
      store.bulkStep operation = (store.written i held [operation.write], item, false) := by
  cases operation with
  | index name id document =>
    have hopen : store.openForWriting name = .ok (i, held) := h
    refine ⟨performedItem "index" name id 201 "created",
      isRefusedItem_performedItem (.inr (.inl rfl)), ?_⟩
    rw [bulkStep, hopen]
    rfl
  | delete name id =>
    have hopen : store.openForWriting name = .ok (i, held) := h
    by_cases hid : held.documents.contains id = true
    · refine ⟨performedItem "delete" name id 200 "deleted",
        isRefusedItem_performedItem (.inl rfl), ?_⟩
      rw [bulkStep, hopen]
      exact if_pos hid
    · refine ⟨performedItem "delete" name id 404 "not_found",
        isRefusedItem_performedItem (.inr (.inr rfl)), ?_⟩
      rw [bulkStep, hopen]
      refine (if_neg hid).trans ?_
      show _ = (store.written i held [.delete id], _)
      rw [written_absent hopen (by simpa using hid)]

theorem bulkStep_of_closed {operation : BulkOperation}
    (h : store.openForWriting operation.target = .error e) :
    ∃ item, isRefusedItem item = true ∧ store.bulkStep operation = (store, item, true) := by
  cases operation with
  | index name id document =>
    have hclosed : store.openForWriting name = .error e := h
    refine ⟨refusedItem "index" name id e, isRefusedItem_refusedItem, ?_⟩
    rw [bulkStep, hclosed]
  | delete name id =>
    have hclosed : store.openForWriting name = .error e := h
    refine ⟨refusedItem "delete" name id e, isRefusedItem_refusedItem, ?_⟩
    rw [bulkStep, hclosed]

/-- A bulk request has one item for each operation. -/
theorem length_bulk : ∀ {operations : List BulkOperation} {store : Store},
    (store.bulk operations).2.items.length = operations.length
  | [], _ => rfl
  | operation :: operations, store => by
    rw [bulk, List.length_cons, List.length_cons, length_bulk]

/-- Where an index is reached, all operations of a bulk request are performed and none is refused. -/
theorem bulk_of_open {operations : List BulkOperation} :
    ∀ {store : Store} {held : StoredIndex}, store.openForWriting a = .ok (i, held) →
      (∀ operation ∈ operations, operation.target = a) →
      (store.bulk operations).1 = store.written i held (operations.map (·.write)) ∧
        (store.bulk operations).2.items.length = operations.length ∧
        ∀ item ∈ (store.bulk operations).2.items, isRefusedItem item = false := by
  induction operations with
  | nil =>
    intro store held h _
    exact ⟨(written_nil h).symm, rfl, by simp [bulk]⟩
  | cons operation operations ih =>
    intro store held h hall
    have hfirst : store.openForWriting operation.target = .ok (i, held) := by
      rwa [hall operation (by simp)]
    obtain ⟨item, hitem, hstep⟩ := bulkStep_of_open hfirst
    obtain ⟨hrest, hlength, hitems⟩ := @ih (store.written i held [operation.write]) _
      (openForWriting_written h) fun other hother => hall other (by simp [hother])
    simp only [bulk, hstep]
    refine ⟨hrest.trans written_written, by simp [hlength], fun other hother => ?_⟩
    rcases List.mem_cons.1 hother with rfl | hother
    · exact hitem
    · exact hitems other hother

/-- Where no index is reached, all operations of a bulk request are refused. -/
theorem bulk_of_closed (h : store.openForWriting a = .error e) :
    ∀ {operations : List BulkOperation}, (∀ operation ∈ operations, operation.target = a) →
      (store.bulk operations).1 = store ∧
        Exchange.Refused ⟨.bulk operations, .ok (store.bulk operations).2⟩
  | [], _ => ⟨rfl, rfl, by simp [bulk]⟩
  | operation :: operations, hall => by
    have hfirst : store.openForWriting operation.target = .error e := by
      rwa [hall operation (by simp)]
    obtain ⟨item, hitem, hstep⟩ := bulkStep_of_closed hfirst
    obtain ⟨hrest, hlength, hitems⟩ :=
      @bulk_of_closed h operations fun other hother => hall other (by simp [hother])
    simp only [bulk, hstep]
    refine ⟨hrest, by simp [hlength], fun other hother => ?_⟩
    rcases List.mem_cons.1 hother with rfl | hother
    · exact hitem
    · exact hitems other hother

end Store

/-! ## Calls that write -/

namespace Answers

variable {c : EngineCall} {s s' : Memory} {o : c.Outcome} {name i : String} {held : StoredIndex}

/-- Where an index is reached, a call does the writes that are acknowledged, and no others. -/
theorem written (ha : Answers Memory.answer .unperformed c s o s') (hc : c.WritesThrough name)
    (h : s.store.openForWriting name = .ok (i, held)) :
    s'.store = s.store.written i held (Exchange.acknowledged ⟨c, o⟩) := by
  rcases o with e | answer
  · rw [ha.store_of_error (by decide)]
    have hnone : Exchange.acknowledged ⟨c, .error e⟩ = [] :=
      Exchange.Refused.acknowledged_eq_nil (by cases c <;> trivial)
    rw [hnone, Store.written_nil h]
  have hok := ha.perform_of_ok
  cases c with
  | indexDocument target id document =>
    obtain rfl : target = name := hc
    obtain ⟨target', held', hopen, hstore⟩ := Store.indexDocument_eq_ok.1 hok
    obtain ⟨rfl, rfl⟩ := Prod.mk.inj (Except.ok.inj (hopen.symm.trans h))
    exact hstore
  | deleteDocument target id =>
    obtain rfl : target = name := hc
    obtain ⟨target', held', document, hopen, -, hstore⟩ := Store.deleteDocument_eq_ok.1 hok
    obtain ⟨rfl, rfl⟩ := Prod.mk.inj (Except.ok.inj (hopen.symm.trans h))
    exact hstore
  | bulk operations =>
    obtain ⟨hstore, hlength, hitems⟩ := Store.bulk_of_open h hc
    obtain rfl : answer = (s.store.bulk operations).2 := (Except.ok.inj ha.of_ok.1).symm
    show _ = s.store.written i held (BulkOperation.acknowledged operations _)
    rw [BulkOperation.acknowledged_eq hlength hitems, ← hstore]
    exact (Except.ok.inj hok).symm
  | _ => exact hc.elim

/-- Where no index is reached, a call is refused with all its writes, and nothing changes. -/
theorem refused {e : EngineError} (ha : Answers Memory.answer .unperformed c s o s')
    (hc : c.WritesThrough name) (h : s.store.openForWriting name = .error e) :
    s'.store = s.store ∧ Exchange.Refused ⟨c, o⟩ := by
  rcases o with e' | answer
  · exact ⟨ha.store_of_error (by decide), by cases c <;> trivial⟩
  have hok := ha.perform_of_ok
  cases c with
  | indexDocument target id document =>
    obtain rfl : target = name := hc
    obtain ⟨reached, hopen, -⟩ := bind_eq_ok.1 hok
    cases h.symm.trans hopen
  | deleteDocument target id =>
    obtain rfl : target = name := hc
    obtain ⟨reached, hopen, -⟩ := bind_eq_ok.1 hok
    cases h.symm.trans hopen
  | bulk operations =>
    obtain ⟨hstore, hrefused⟩ := Store.bulk_of_closed h hc
    obtain rfl : answer = (s.store.bulk operations).2 := (Except.ok.inj ha.of_ok.1).symm
    exact ⟨(Except.ok.inj hok).symm.trans hstore, hrefused⟩
  | _ => exact hc.elim

end Answers

/-! ## Stretches of writes -/

section

variable {name i : String} {held : StoredIndex} {s s' : Memory}

/-- What clients write one after another where an index is reached. -/
theorem Leads.written :
    ∀ {t : List (Turn Memory)} {s : Memory} {held : StoredIndex},
      Leads Memory.answer .unperformed s t s' → (∀ u ∈ t, u.call.WritesThrough name) →
      s.store.openForWriting name = .ok (i, held) →
      s'.store = s.store.written i held (t.flatMap fun u => u.exchange.acknowledged)
  | [], s, held, hl, _, h => by
    obtain rfl : s' = s := hl
    exact (Store.written_nil h).symm
  | u :: t, s, held, ⟨_, ha, hl⟩, ht, h => by
    have hu : u.after.store = s.store.written i held u.exchange.acknowledged :=
      ha.written (ht u (by simp)) h
    have hnext := @Store.openForWriting_written _ _ _ _ u.exchange.acknowledged h
    rw [← hu] at hnext
    rw [hl.written (fun v hv => ht v (by simp [hv])) hnext, hu, Store.written_written,
      List.flatMap_cons]

/-- Where no index is reached, clients write nothing. -/
theorem Leads.refused {e : EngineError} :
    ∀ {t : List (Turn Memory)} {s : Memory},
      Leads Memory.answer .unperformed s t s' → (∀ u ∈ t, u.call.WritesThrough name) →
      s.store.openForWriting name = .error e →
      s'.store = s.store ∧ ∀ u ∈ t, u.exchange.Refused ∧ u.after.store = u.before.store
  | [], s, hl, _, _ => by
    obtain rfl : s' = s := hl
    exact ⟨rfl, by simp⟩
  | u :: t, s, ⟨hbefore, ha, hl⟩, ht, h => by
    obtain ⟨hu, hrefused⟩ := ha.refused (ht u (by simp)) h
    have hnext := h
    rw [← hu] at hnext
    obtain ⟨hlast, hturns⟩ := hl.refused (fun v hv => ht v (by simp [hv])) hnext
    refine ⟨hlast.trans hu, fun v hv => ?_⟩
    rcases List.mem_cons.1 hv with rfl | hv
    · exact ⟨hrefused, by rw [hu, hbefore]⟩
    · exact hturns v hv

end

end SiteSearch
