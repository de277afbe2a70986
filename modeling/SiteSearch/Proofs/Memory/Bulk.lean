import SiteSearch.Proofs.Memory.Writing

/-!
# Bulk requests and single calls

A bulk request does what its operations do as single calls, one after another and whatever becomes of
each (`Memory.bulk_is_fold`): it leaves the memory that they leave, but for the number of requests, and
its items tell of them in their order. An item has an error where the single call is refused, with one
exception. A single deletion is refused as well when the document is not there
(`BulkOperation.misses`), and the item tells of that without an error.
-/

namespace SiteSearch

namespace BulkOperation

/-- The document that an operation is about. -/
def id : BulkOperation → String
  | index _ id _ | delete _ id => id

/-- The name that the item of an operation stands under. -/
def action : BulkOperation → String
  | index _ _ _ => "index"
  | delete _ _ => "delete"

/-- The call that does an operation by itself. -/
def call : BulkOperation → EngineCall
  | index name id document => .indexDocument name id document
  | delete name id => .deleteDocument name id

/-- Whether an operation deletes a document that is not in the index that it reaches. -/
def misses (store : Store) : BulkOperation → Bool
  | index _ _ _ => false
  | delete name id =>
    match store.openForWriting name with
    | .ok (_, held) => !held.documents.contains id
    | .error _ => false

end BulkOperation

/-- Whether an item, an object with the outcome of an operation under the name of its action, has an
error. -/
def itemHasError : Json → Bool
  | .object ((_, outcome) :: _) => (outcome.field? "error").isSome
  | _ => false

/-- An item tells of an operation: under the name of the action it has the index and the id, and as its
error the message of what the operation is refused for, if it is. -/
def TellsOf (operation : BulkOperation) (refusal : Option EngineError) (item : Json) : Prop :=
  ∃ outcome, item = .object [(operation.action, outcome)] ∧
    outcome.field? "_index" = some (.string operation.target) ∧
    outcome.field? "_id" = some (.string operation.id) ∧
    outcome.field? "error" = refusal.map fun e => .string e.message

theorem TellsOf.itemHasError_eq {operation : BulkOperation} {refusal : Option EngineError} {item : Json}
    (h : TellsOf operation refusal item) : itemHasError item = refusal.isSome := by
  obtain ⟨outcome, rfl, -, -, herror⟩ := h
  rw [itemHasError, herror, Option.isSome_map]

namespace Memory

/-- What a call is refused for, if it is. -/
def refusal? (call : EngineCall) (memory : Memory) : Option EngineError :=
  match (answer call memory).1 with
  | .ok _ => none
  | .error e => some e

/-- What an operation is refused for as a single call, if it is refused for more than that there is
nothing to delete. -/
def graveRefusal? (operation : BulkOperation) (memory : Memory) : Option EngineError :=
  if operation.misses memory.store then none else refusal? operation.call memory

/-- A single call is refused where the store refuses it. -/
theorem refusal?_call {operation : BulkOperation} {memory : Memory} :
    refusal? operation.call memory =
      match memory.store.perform operation.call with
      | .ok _ => none
      | .error e => some e := by
  cases operation with
  | index name id document =>
    simp only [refusal?, BulkOperation.call, answer, serve, update, count, Store.perform]
    cases memory.store.indexDocument name id document <;> rfl
  | delete name id =>
    simp only [refusal?, BulkOperation.call, answer, serve, update, count, Store.perform]
    cases memory.store.deleteDocument name id <;> rfl

/-- The memory behind operations that are done by single calls. -/
def afterEach (memory : Memory) (operations : List BulkOperation) : Memory :=
  operations.foldl (fun memory operation => (answer operation.call memory).2) memory

/-- Each operation changes the store as a call by itself, and is a request. -/
theorem afterEach_eq (operations : List BulkOperation) : ∀ memory : Memory,
    memory.afterEach operations =
      { memory with
        store := operations.foldl (fun store operation => store.after operation.call) memory.store
        requests := memory.requests + operations.length } := by
  induction operations with
  | nil => exact fun memory => rfl
  | cons operation operations ih =>
    intro memory
    have hfirst : (answer operation.call memory).2 =
        { memory with
          store := memory.store.after operation.call
          requests := memory.requests + 1 } := by
      cases operation with
      | index name id document =>
        simp only [BulkOperation.call, answer, serve, update, count, Store.after, Store.perform]
        cases memory.store.indexDocument name id document <;> rfl
      | delete name id =>
        simp only [BulkOperation.call, answer, serve, update, count, Store.after, Store.perform]
        cases memory.store.deleteDocument name id <;> rfl
    rw [afterEach, List.foldl_cons, hfirst]
    refine (ih _).trans ?_
    simp only [List.foldl_cons, List.length_cons]
    rw [Nat.add_assoc, Nat.add_comm 1]

end Memory

/-! ## One operation -/

namespace Store

variable {store : Store} {e : EngineError}

theorem tellsOf_refusedItem {operation : BulkOperation} :
    TellsOf operation (some e) (refusedItem operation.action operation.target operation.id e) := by
  refine ⟨_, rfl, ?_, ?_, ?_⟩ <;> simp [Json.field?_ofFields, NameMap.ofList, NameMap.get?_insert]

theorem tellsOf_performedItem {operation : BulkOperation} {status : Nat} {result : String} :
    TellsOf operation none
      (performedItem operation.action operation.target operation.id status result) := by
  refine ⟨_, rfl, ?_, ?_, ?_⟩ <;> simp [Json.field?_ofFields, NameMap.ofList, NameMap.get?_insert]

/-- A bulk request does one operation as a single call does, and its item tells how that call ends. -/
theorem bulkStep_eq (memory : Memory) (operation : BulkOperation) :
    ∃ item, TellsOf operation (memory.graveRefusal? operation) item ∧
      memory.store.bulkStep operation =
        (memory.store.after operation.call, item, (memory.graveRefusal? operation).isSome) := by
  rw [after, Memory.graveRefusal?, Memory.refusal?_call]
  cases operation with
  | index name id document =>
    rw [BulkOperation.call, perform, indexDocument, bulkStep, BulkOperation.misses]
    cases memory.store.openForWriting name with
    | error e => exact ⟨_, tellsOf_refusedItem, rfl⟩
    | ok reached => exact ⟨_, tellsOf_performedItem, rfl⟩
  | delete name id =>
    rw [BulkOperation.call, perform, deleteDocument, bulkStep, BulkOperation.misses]
    cases memory.store.openForWriting name with
    | error e => exact ⟨_, tellsOf_refusedItem, rfl⟩
    | ok reached =>
      obtain ⟨i, held⟩ := reached
      by_cases hid : held.documents.contains id = true
      · simp only [bind, Except.bind, hid, if_true, Bool.not_true, Bool.false_eq_true, if_false]
        exact ⟨_, tellsOf_performedItem, rfl⟩
      · simp only [bind, Except.bind, hid, Bool.false_eq_true, if_false, Bool.not_false, if_true]
        exact ⟨_, tellsOf_performedItem, rfl⟩

/-! ## All operations -/

/-- A bulk request goes through its operations from one store to the next. -/
theorem bulk_append (before operations : List BulkOperation) : ∀ store : Store,
    (store.bulk (before ++ operations)).1 = ((store.bulk before).1.bulk operations).1 ∧
      (store.bulk (before ++ operations)).2.items =
        (store.bulk before).2.items ++ ((store.bulk before).1.bulk operations).2.items := by
  induction before with
  | nil => exact fun store => ⟨rfl, rfl⟩
  | cons operation before ih =>
    intro store
    obtain ⟨hstore, hitems⟩ := ih (store.bulkStep operation).1
    refine ⟨hstore, ?_⟩
    simp only [List.cons_append, bulk]
    rw [hitems]

/-- Something went wrong in a bulk request where an item has an error. -/
theorem errors_bulk {operations : List BulkOperation} : ∀ {memory : Memory},
    (memory.store.bulk operations).2.errors = (memory.store.bulk operations).2.items.any itemHasError := by
  induction operations with
  | nil => exact fun {memory} => rfl
  | cons operation operations ih =>
    intro memory
    obtain ⟨item, htells, hstep⟩ := bulkStep_eq memory operation
    simp only [bulk, hstep]
    rw [List.any_cons, htells.itemHasError_eq]
    exact congrArg _ (@ih { memory with store := memory.store.after operation.call })

/-- A bulk request leaves the store that its operations leave one after another. -/
theorem bulk_store (operations : List BulkOperation) : ∀ memory : Memory,
    (memory.store.bulk operations).1 = (memory.afterEach operations).store := by
  intro memory
  rw [Memory.afterEach_eq]
  induction operations generalizing memory with
  | nil => rfl
  | cons operation operations ih =>
    obtain ⟨item, -, hstep⟩ := bulkStep_eq memory operation
    rw [bulk, hstep]
    exact ih { memory with store := memory.store.after operation.call }

end Store

/-- The engine's bulk is the fold of its single operations. Whatever the memory and the operations, the
request is answered. It leaves the memory as the single calls do, except that it counts as one request.
Each operation has an item in its place, which tells of it, and which has an error if and only if the
single call would be refused there, for another reason than that there is nothing to delete. The reply
says that there are errors if and only if some item has one. -/
theorem Memory.bulk_is_fold (memory : Memory) (operations : List BulkOperation) :
    ∃ reply, answer (.bulk operations) memory =
        (.ok reply, { memory.afterEach operations with requests := memory.requests + 1 }) ∧
      reply.items.length = operations.length ∧
      (∀ before operation behind, operations = before ++ operation :: behind →
        let reached := memory.afterEach before
        ∃ item, reply.items[before.length]? = some item ∧
          TellsOf operation (reached.graveRefusal? operation) item ∧
          (itemHasError item = true ↔ operation.misses reached.store = false ∧
            ∃ e, (answer operation.call reached).1 = .error e)) ∧
      (reply.errors = true ↔ ∃ item ∈ reply.items, itemHasError item = true) := by
  have hleft : (memory.store.bulk operations).1 = (memory.afterEach operations).store :=
    Store.bulk_store operations memory
  refine ⟨(memory.store.bulk operations).2, ?_, Store.length_bulk, ?_, ?_⟩
  · rw [afterEach_eq] at hleft ⊢
    simp only [answer, serve, count, hleft]
    rfl
  · rintro before operation behind rfl
    obtain ⟨item, htells, hstep⟩ := Store.bulkStep_eq (memory.afterEach before) operation
    have hitems := (Store.bulk_append before (operation :: behind) memory.store).2
    rw [Store.bulk_store before memory, Store.bulk, hstep] at hitems
    refine ⟨item, ?_, htells, ?_⟩
    · rw [hitems, ← @Store.length_bulk before memory.store, List.getElem?_append_right (Nat.le_refl _),
        Nat.sub_self]
      rfl
    · rw [htells.itemHasError_eq, Option.isSome_iff_exists, graveRefusal?, refusal?]
      cases operation.misses (memory.afterEach before).store with
      | true => simp
      | false => cases (answer operation.call (memory.afterEach before)).1 <;> simp
  · rw [Store.errors_bulk, List.any_eq_true]

/-- Of four operations the second has nothing to delete, the third comes to a blocked index and the last
one to none; only these two have errors. -/
theorem Memory.bulk_is_fold_of_four :
    let memory : Memory := { store := (NameMap.insert {} "a" {}).insert "b" { writeBlocked := true } }
    let operations : List BulkOperation :=
      [.index "a" "7" .null, .delete "a" "8", .delete "b" "7", .index "c" "7" .null]
    ∃ reply, answer (.bulk operations) memory =
        (.ok reply, { memory.afterEach operations with requests := 1 }) ∧
      reply.items.map itemHasError = [false, false, true, true] ∧
      ∃ item, reply.items[1]? = some item ∧ TellsOf (.delete "a" "8") none item := by
  intro memory operations
  obtain ⟨reply, hanswer, -, hitems, -⟩ := bulk_is_fold memory operations
  obtain rfl : (memory.store.bulk operations).2 = reply := Except.ok.inj (congrArg Prod.fst hanswer)
  obtain ⟨item, hitem, htells, -⟩ := hitems [.index "a" "7" .null] (.delete "a" "8")
    [.delete "b" "7", .index "c" "7" .null] rfl
  have hmissing : (memory.afterEach [.index "a" "7" .null]).graveRefusal? (.delete "a" "8") = none := by
    decide +kernel
  rw [hmissing] at htells
  exact ⟨_, hanswer, by decide +kernel, item, hitem, htells⟩

end SiteSearch
