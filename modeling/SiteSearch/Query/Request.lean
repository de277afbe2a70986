import SiteSearch.Json.Basic
import SiteSearch.Query.Rendering

/-!
# Search requests

A query becomes a request to the engine: the name to search and a body that asks for the best
documents matching the query string. A scope limits the documents to given ids. Hooks see the
request last, in the order in which they were added, and may change all of it.
-/
namespace SiteSearch.Query

/-- A request that is ready to be sent. -/
structure Request where
  /-- The alias or index to search. -/
  index : String
  body : Json
  deriving DecidableEq, Repr

/-- A change to a request before it is sent. -/
abbrev Hook := Request → Request

/-- How queries become requests. -/
structure SearchSettings where
  names : FieldNames
  boosts : List Boost
  /-- The most hits that are asked for. -/
  maxWindow : Nat
  hooks : List Hook

/-- The limit of a search to some documents. -/
def scopeFilter (ids : List ElementId) : Json :=
  .ofFields [("ids", .ofFields [("values", .array (ids.map Json.word))])]

/-- The condition that a document has to meet. -/
def boolQuery (fields : List String) (query : String) (scope : Option (List ElementId)) : Json :=
  let must : Json :=
    .ofFields [("query_string", .ofFields [("fields", .strings fields), ("query", .string query)])]
  match scope with
  | none => .ofFields [("must", must)]
  | some ids => .ofFields [("filter", scopeFilter ids), ("must", must)]

/-- The request before the hooks have seen it. -/
def SearchSettings.plainRequest (settings : SearchSettings) (index : String) (tokens : List Token)
    (scope : Option (List ElementId)) : Request :=
  let fields := searchedFields settings.names settings.boosts
  let condition := boolQuery fields (queryString settings.names tokens) scope
  { index
    body := .ofFields
      [("query", .ofFields [("bool", condition)]), ("size", .nat settings.maxWindow)] }

/-- The request of a query, after the hooks. -/
def SearchSettings.request (settings : SearchSettings) (index : String) (tokens : List Token)
    (scope : Option (List ElementId)) : Request :=
  settings.hooks.foldl (fun request hook => hook request)
    (settings.plainRequest index tokens scope)

end SiteSearch.Query
