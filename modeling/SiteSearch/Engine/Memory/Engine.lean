import SiteSearch.Engine.Memory.Analysis
import SiteSearch.Engine.Memory.Document
import SiteSearch.Engine.Memory.Index
import SiteSearch.Engine.Memory.Search

/-!
# An engine in memory

`Memory.answer` answers every engine call from a store. It counts the calls, and it can be told to
report failures at the next copy or to refuse searches.
-/
namespace SiteSearch

/-- An engine in memory. -/
structure Memory where
  store : Store := {}
  /-- Calls that have been answered. -/
  requests : Nat := 0
  /-- Calls that asked for a new index. -/
  createCalls : Nat := 0
  /-- Failures that the next copy will report. -/
  pendingFailures : Nat := 0
  /-- Whether every search is refused. -/
  rejectSearches : Bool := false
  deriving DecidableEq

namespace Memory

instance : Inhabited Memory := ⟨{}⟩

/-- The memory with a new store, or as it was when the call was refused. -/
def update (memory : Memory) (result : Except EngineError Store) :
    Except EngineError Unit × Memory :=
  match result with
  | .ok store => (.ok (), { memory with store })
  | .error error => (.error error, memory)

/-- A copy; failures that were asked for are reported once. -/
def reindex (memory : Memory) (body : Json) : Except EngineError ReindexReply × Memory :=
  match memory.store.reindex body memory.pendingFailures with
  | .ok (store, reply) => (.ok reply, { memory with store, pendingFailures := 0 })
  | .error error => (.error error, memory)

/-- A search, unless searches are refused. -/
def search (memory : Memory) (name : String) (body : Json) : Except EngineError SearchReply :=
  if memory.rejectSearches then
    .error (.badRequest "search_phase_execution_exception: rejected")
  else memory.store.search name body

/-- The answer to a call, apart from counting it. -/
def serve : Engine Memory
  | .ping, m => (.ok (), m)
  | .createIndex name body, m => m.update (m.store.createIndex name body)
  | .deleteIndex name, m => m.update (m.store.deleteIndex name)
  | .getIndices pattern, m => (m.store.describe pattern, m)
  | .aliasExists aliasName, m => (.ok (m.store.aliasExists aliasName), m)
  | .getAlias aliasName, m => (m.store.aliasTargets aliasName, m)
  | .putAlias index aliasName, m => m.update (m.store.putAlias index aliasName)
  | .deleteAlias index aliasName, m => m.update (m.store.deleteAlias index aliasName)
  | .putSettings index settings, m => m.update (m.store.putSettings index settings)
  | .getSettings index, m => (m.store.getSettings index, m)
  | .getMapping index, m => (m.store.getMapping index, m)
  | .putMapping index properties, m => m.update (m.store.putMapping index properties)
  | .cloneIndex source target body, m => m.update (m.store.cloneIndex source target body)
  | .reindex body, m => m.reindex body
  | .indexDocument index id document, m => m.update (m.store.indexDocument index id document)
  | .deleteDocument index id, m => m.update (m.store.deleteDocument index id)
  | .getSource index id, m => (m.store.getSource index id, m)
  | .bulk operations, m =>
    let (store, reply) := m.store.bulk operations
    (.ok reply, { m with store })
  | .search index body, m => (m.search index body, m)
  | .indexStats index, m => (m.store.indexStats index, m)
  | .catAliases, m => (.ok m.store.aliasRows, m)
  | .catIndices, m => (.ok m.store.indexRows, m)
  | .analyze index body, m => (m.store.analyze index body, m)

/-- Whether a call is counted: asking whether the engine is there is not. -/
def isCounted : EngineCall → Bool
  | .ping => false
  | _ => true

/-- The memory with a call counted. -/
def count (memory : Memory) (call : EngineCall) : Memory :=
  { memory with
    requests := if isCounted call then memory.requests + 1 else memory.requests
    createCalls :=
      match call with
      | .createIndex _ _ => memory.createCalls + 1
      | _ => memory.createCalls }

/-- The answer to a call. -/
def answer : Engine Memory := fun call memory => serve call (memory.count call)

/-! ## Looking in from outside -/

/-- Whether an index is blocked for writing. -/
def isWriteBlocked (memory : Memory) (index : String) : Bool :=
  ((memory.store.get? index).map (·.writeBlocked)).getD false

/-- Each index with its aliases, its block and its documents. -/
def toJson (memory : Memory) : Json :=
  .ofMap (memory.store.mapValues fun _ index => .ofFields
    [ ("aliases", .strings index.aliases.names), ("write_blocked", .bool index.writeBlocked),
      ("documents", .ofMap index.documents) ])

/-- Puts a document into an index, whatever its aliases and its block; a missing index is made. -/
def seed (memory : Memory) (index id : String) (document : Json) : Memory :=
  let held := (memory.store.get? index).getD {}
  { memory with
    store := memory.store.insert index { held with documents := held.documents.insert id document } }

end Memory

end SiteSearch
