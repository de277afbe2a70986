import SiteSearch.Service.Document

/-!
# Indexing elements

The document of an element is deleted and written anew while the lock of the element is held. Where
someone else holds the lock, nothing is done: the other one is about to write the same document.
-/
namespace SiteSearch.Operation

/-- The document of an element under the current content model. -/
def buildDocument (element : Element) : Operation Document := do
  finish ((← get).fieldNames.document? element)

/-- Replaces the document of an element. -/
def replaceDocument (element : Element) (key : CollectionKey) : Operation Unit := do
  let document ← buildDocument element
  delete element.id key
  upsert document key

/-- Indexes an element, unless its lock is held. -/
def indexElement (element : Element) (key : CollectionKey) : Operation Bool := do
  let lock := elementLock element.id element.siteId
  match (← get).locks.acquire? lock with
  | none =>
    record .lockContention
    pure true
  | some locks =>
    modify fun service => { service with locks }
    let result ← outcome (replaceDocument element key)
    modify fun service => { service with locks := service.locks.release lock }
    finish result
    pure true

end SiteSearch.Operation
