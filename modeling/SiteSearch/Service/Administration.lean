import SiteSearch.Service.Cleanup
import SiteSearch.Service.Drift
import SiteSearch.Service.Indexing
import SiteSearch.Service.Inspection

/-!
# Administration of many sites

Each operation runs over a list of collections and has one outcome for each. One that fails does not
keep the others from being looked after.
-/
namespace SiteSearch

/-- What an operation came to for one collection. -/
structure SiteOutcome (α : Type) where
  key : CollectionKey
  result : Except ServiceError α

/-- Where elements come from: those of a site, or only those updated at or after a second. -/
structure ContentStore where
  elements : CollectionKey → (since : Option Int) → Except ServiceError (List Element)

namespace Operation

variable {α : Type}

/-- Runs an operation for every collection. -/
def forEachSite (name : String) (operation : CollectionKey → Operation α) :
    List CollectionKey → Operation (List (SiteOutcome α))
  | [] => pure []
  | key :: keys => do
    let result ← outcome (operation key)
    record (.administration name result.isOk)
    let rest ← forEachSite name operation keys
    pure (⟨key, result⟩ :: rest)

/-- The sizes of collections. -/
def siteStats (keys : List CollectionKey) : Operation (List (SiteOutcome IndexStats)) :=
  forEachSite "stats" stats keys

/-- Reindexes collections. -/
def siteReindex (keys : List CollectionKey) : Operation (List (SiteOutcome ReindexReport)) :=
  forEachSite "reindex" reindex keys

/-- Deletes collections, or sweeps their generations. -/
def siteDelete (keys : List CollectionKey) (orphanedOnly : Bool) :
    Operation (List (SiteOutcome (List String))) :=
  if orphanedOnly then forEachSite "delete_orphaned" deleteOrphaned keys
  else forEachSite "delete" deleteCollection keys

/-- Adds the fields of the content model to the mappings of collections. -/
def siteUpdateMapping (keys : List CollectionKey) : Operation (List (SiteOutcome Signature)) :=
  forEachSite "update_mapping" updateMapping keys

/-- The handle that a field name stands for, as it is remembered or found now. -/
def handleOf (name : String) : Operation String := do
  let service ← get
  let (handle, memo) := service.memo.lookup service.fieldNames name
  modify fun service => { service with memo }
  pure handle

/-- The document of an element as handles with values. -/
def sourceRows (id : ElementId) (key : CollectionKey) : Operation (List (String × Json)) := do
  let source ← sourceOf id key
  (source.object?.getD []).mapM fun (name, value) => do
    pure (← handleOf name, value)

/-- The documents of an element in several collections. -/
def siteSource (id : ElementId) (keys : List CollectionKey) :
    Operation (List (SiteOutcome (List (String × Json)))) :=
  forEachSite "source" (sourceRows id) keys

/-- Indexes every element that has something to index; how many those are. -/
def indexAll (elements : List Element) (key : CollectionKey) : Operation Nat := do
  match elements with
  | [] => pure 0
  | element :: rest =>
    if (← get).model.isIndexable element then do
      let _ ← indexElement element key
      pure ((← indexAll rest key) + 1)
    else indexAll rest key

/-- Indexes the elements of collections; the first failure of a site ends its turn. -/
def siteIndexElements (keys : List CollectionKey) (store : ContentStore) (since : Option Int) :
    Operation (List (SiteOutcome Nat)) :=
  forEachSite "index_elements"
    (fun key => do
      let elements ← finish (store.elements key since)
      indexAll elements key)
    keys

/-- Deletes the documents of a collection whose element is gone. -/
def deleteOrphanedDocuments (store : ContentStore) (key : CollectionKey) :
    Operation (Option BulkReport) := do
  let elements ← finish (store.elements key none)
  let ids ← listAllIds key
  bulkDelete (ids.filter fun id => !(elements.map (·.id)).contains id) key

/-- Deletes the documents of collections whose element is gone. -/
def siteDeleteOrphanedDocuments (keys : List CollectionKey) (store : ContentStore) :
    Operation (List (SiteOutcome (Option BulkReport))) :=
  forEachSite "delete_orphaned_documents" (deleteOrphanedDocuments store) keys

end Operation

end SiteSearch
