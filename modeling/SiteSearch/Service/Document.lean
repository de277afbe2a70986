import SiteSearch.Content.Element
import SiteSearch.Service.Lifecycle

/-!
# Writing documents

Documents are written through the alias of their collection. Writing one makes the collection if it
is not there; deleting one that is not there counts as done.
-/
namespace SiteSearch

/-- What came of a bulk request. -/
structure BulkReport where
  /-- Milliseconds. -/
  took : UInt64
  items : Nat
  /-- Items that were refused; deleting what is not there is none. -/
  failed : Nat
  deriving DecidableEq, Repr

/-- The report as JSON. -/
def BulkReport.toJson (report : BulkReport) : Json :=
  .ofFields
    [ ("took", .word report.took), ("items", .nat report.items), ("failed", .nat report.failed) ]

/-- Whether the outcome of an item is a refusal. -/
def isRefusedOutcome (outcome : Json) : Bool :=
  let status := ((outcome.field? "status").bind Json.word?).getD 0
  (outcome.field? "error").isSome || (300 ≤ status && status != 404)

/-- Whether an item, an object with its outcome under the name of the action, is a refusal. -/
def isRefusedItem : Json → Bool
  | .object ((_, outcome) :: _) => isRefusedOutcome outcome
  | _ => false

/-- The report of a bulk request. -/
def BulkReport.ofReply (reply : BulkReply) : BulkReport where
  took := reply.took
  items := reply.items.length
  failed := reply.items.countP isRefusedItem

/-- The search for the ids of all documents of a collection. -/
def allIdsBody (maxWindow : UInt64) : Json :=
  .ofFields
    [ ("query", .ofFields [("match_all", .ofFields [])]), ("stored_fields", .array []),
      ("size", .word maxWindow) ]

namespace Operation

/-- Writes a document, making its collection first if it is not there. -/
def upsert (document : Document) (key : CollectionKey) : Operation Unit := do
  let _ ← ensureExists key
  let aliasName ← aliasOf key
  match ← attempt (.indexDocument aliasName (Text.writeWord document.id) document.toJson) with
  | .ok _ => record (.documentWrite "upsert" "success")
  | .error e =>
    record (.documentWrite "upsert" "error")
    throw (.ofEngine e)

/-- Deletes a document; one that is not there counts as deleted. -/
def delete (id : ElementId) (key : CollectionKey) : Operation Unit := do
  match ← attempt (.deleteDocument (← aliasOf key) (Text.writeWord id)) with
  | .ok _ | .error (.notFound _) => record (.documentWrite "delete" "success")
  | .error e =>
    record (.documentWrite "delete" "error")
    throw (.ofEngine e)

/-- Deletes documents in one request; nothing is asked when there are none. -/
def bulkDelete (ids : List ElementId) (key : CollectionKey) : Operation (Option BulkReport) := do
  if ids.isEmpty then pure none
  else do
    let aliasName ← aliasOf key
    match ← attempt (.bulk (ids.map fun id => .delete aliasName (Text.writeWord id))) with
    | .error e =>
      record (.documentWrite "bulk_delete" "error")
      throw (.ofEngine e)
    | .ok reply =>
      let report := BulkReport.ofReply reply
      record (.documentWrite "bulk_delete" (if 0 < report.failed then "partial_failure" else "success"))
      pure (some report)

/-- The ids of the documents of a collection, at most as many as one search answers with. -/
def listAllIds (key : CollectionKey) : Operation (List ElementId) := do
  let body := allIdsBody (← get).config.maxResultWindow
  let reply : SearchReply ← ask (.search (← aliasOf key) body)
  pure (reply.hits.filterMap fun hit => Text.readWord? hit.id.toList)

end Operation

end SiteSearch
