import SiteSearch.Query.Ranking
import SiteSearch.Query.Reader
import SiteSearch.Service.Operation

/-!
# Searching

A search makes a request of a query, asks the engine and ranks the hits. A query that the engine
cannot make sense of finds nothing; it is no failure. Observers are told before and after.
-/
namespace SiteSearch.Operation

/-- Tells every observer. -/
def notify (notice : SearchNotice) : Operation Unit :=
  modify fun service =>
    let told := (service.observers.filter (· = .recording)).map fun _ => notice
    { service with notices := service.notices ++ told }

/-- The ranked hits of a request; nothing when the engine calls it malformed. -/
def searchHits (request : Query.Request) : Operation (List RankedHit) := do
  match ← attempt (.search request.index request.body) with
  | .ok reply =>
    record (.searchQuery "success")
    pure (Query.rank reply.hits)
  | .error e =>
    match ServiceError.ofEngine e with
    | .badQuery _ =>
      record (.searchQuery "bad_query")
      pure []
    | e =>
      record (.searchQuery "error")
      throw e

/-- The elements that a query finds in a collection, best first. -/
def search (tokens : List Query.Token) (key : Option CollectionKey)
    (scope : Option (List ElementId)) : Operation (List RankedHit) := do
  match key.or (← get).defaultCollection with
  | none => throw (.configuration "no collection to search")
  | some key =>
    notify (.before key tokens scope)
    let request := (← get).searchSettings.request (← aliasOf key) tokens scope
    let hits ← searchHits request
    record .searchTime
    record (.searchResults hits.length)
    notify (.after key hits)
    pure hits

/-- The elements that a query text finds in a collection, best first. -/
def searchText (text : String) (key : Option CollectionKey) (scope : Option (List ElementId)) :
    Operation (List RankedHit) := do
  search (Query.read (← get).config.openEnds text) key scope

end SiteSearch.Operation
