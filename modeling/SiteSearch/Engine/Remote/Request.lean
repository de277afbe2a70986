import SiteSearch.Engine.Call
import SiteSearch.Json.Printer

/-!
# Engine calls as requests

What each engine call asks a remote engine: a method, a place as a list of names, pairs for the
query, and a body. A call that begins work on the other side may be sent at most once; all others
may be sent again, for doing them twice is the same as doing them once.
-/
namespace SiteSearch.Remote

/-- The method of a request. -/
inductive Method where
  | get
  | head
  | put
  | post
  | delete
  deriving DecidableEq, Repr

/-- The name of a method. -/
def Method.name : Method → String
  | get => "GET"
  | head => "HEAD"
  | put => "PUT"
  | post => "POST"
  | delete => "DELETE"

/-- The body of a request. -/
inductive Payload where
  | value (json : Json)
  /-- JSON texts, each with a line end behind it. -/
  | lines (text : String)
  deriving DecidableEq, Repr

/-- The text of a body. -/
def Payload.text : Payload → String
  | value json => json.compact
  | lines text => text

/-- What a body says of itself. -/
def Payload.contentType : Payload → String
  | value _ => "application/json"
  | lines _ => "application/x-ndjson"

/-- Whether a request may be sent again when it is not known what became of it. -/
inductive Delivery where
  | retryable
  | atMostOnce
  deriving DecidableEq, Repr

/-- What is asked of a remote engine. -/
structure Request where
  method : Method
  /-- The names on the way to the place, below the address of a host. -/
  segments : List String
  query : List (String × String) := []
  payload : Option Payload := none
  delivery : Delivery := .retryable
  deriving DecidableEq, Repr

/-! ## Bulk bodies -/

/-- What is to be done with a document: an object with the index and the id under the action. -/
def bulkAction (action index id : String) : Json :=
  .ofFields [(action, .ofFields [("_index", .string index), ("_id", .string id)])]

/-- The values that write an operation, one for each line. -/
def bulkValues : BulkOperation → List Json
  | .index index id document => [bulkAction "index" index id, document]
  | .delete index id => [bulkAction "delete" index id]

/-- The body of a bulk request: every value in a line of its own. -/
def bulkBody (operations : List BulkOperation) : String :=
  String.join ((operations.flatMap bulkValues).map fun value => value.compact ++ "\n")

/-! ## Calls -/

/-- The pair that asks for JSON instead of a table. -/
def asJson : List (String × String) := [("format", "json")]

/-- The request of an engine call. -/
def Request.ofCall : EngineCall → Request
  | .ping => { method := .get, segments := [] }
  | .createIndex name body =>
    { method := .put, segments := [name], payload := some (.value body), delivery := .atMostOnce }
  | .deleteIndex name => { method := .delete, segments := [name] }
  | .getIndices pattern => { method := .get, segments := [pattern] }
  | .aliasExists aliasName => { method := .head, segments := ["_alias", aliasName] }
  | .getAlias aliasName => { method := .get, segments := ["_alias", aliasName] }
  | .putAlias index aliasName => { method := .put, segments := [index, "_alias", aliasName] }
  | .deleteAlias index aliasName => { method := .delete, segments := [index, "_alias", aliasName] }
  | .putSettings index settings =>
    { method := .put
      segments := [index, "_settings"]
      payload := some (.value (.ofFields [("settings", settings)])) }
  | .getSettings index =>
    { method := .get, segments := [index, "_settings"], query := [("flat_settings", "true")] }
  | .getMapping index => { method := .get, segments := [index, "_mapping"] }
  | .putMapping index properties =>
    { method := .put
      segments := [index, "_mapping"]
      payload := some (.value (.ofFields [("properties", properties)])) }
  | .cloneIndex source target body =>
    { method := .put
      segments := [source, "_clone", target]
      payload := some (.value body)
      delivery := .atMostOnce }
  | .reindex body =>
    { method := .post
      segments := ["_reindex"]
      query := [("refresh", "true")]
      payload := some (.value body)
      delivery := .atMostOnce }
  | .indexDocument index id document =>
    { method := .put, segments := [index, "_doc", id], payload := some (.value document) }
  | .deleteDocument index id => { method := .delete, segments := [index, "_doc", id] }
  | .getSource index id => { method := .get, segments := [index, "_source", id] }
  | .bulk operations =>
    { method := .post, segments := ["_bulk"], payload := some (.lines (bulkBody operations)) }
  | .search index body =>
    { method := .post, segments := [index, "_search"], payload := some (.value body) }
  | .indexStats index => { method := .get, segments := [index, "_stats"] }
  | .catAliases => { method := .get, segments := ["_cat", "aliases"], query := asJson }
  | .catIndices => { method := .get, segments := ["_cat", "indices"], query := asJson }
  | .analyze index body =>
    { method := .post, segments := [index, "_analyze"], payload := some (.value body) }

end SiteSearch.Remote
