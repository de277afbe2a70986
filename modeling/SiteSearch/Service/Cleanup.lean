import SiteSearch.Service.Alias

/-!
# Deleting collections and sweeping generations

A collection is deleted with all of its generations and their aliases. A sweep deletes only the
generations that the alias is not bound to, such as those a failed reindex has left behind. Both
leave indexes alone that the pattern of the collection covers but that belong to another one.
-/
namespace SiteSearch.Operation

/-- Takes every alias from an index and deletes it. -/
def deleteWithAliases (index : IndexDescription) : Operation Unit := do
  for aliasName in index.aliases do
    ask (.deleteAlias index.name aliasName)
  ask (.deleteIndex index.name)

/-- Deletes every generation of a collection; their names. -/
def deleteCollection (key : CollectionKey) : Operation (List String) := do
  let found ← coveredIndexes key
  let names := (← get).indexNames
  let own := found.filter fun index => names.isGenerationOf key index.name
  for index in own do
    deleteWithAliases index
  forgetSignature key
  record (.indexesDeleted "collection" own.length)
  record (.lifecycle "delete" "success")
  pure (own.map (·.name))

/-- The newest index that an alias is bound to, if it is bound. -/
def boundIndex? (aliasName : String) : Operation (Option String) := do
  match ← outcome (resolveAlias aliasName) with
  | .ok index => pure (some index)
  | .error (.notFound _) => pure none
  | .error e => throw e

/-- Deletes every generation of a collection that its alias is not bound to; their names. -/
def deleteOrphaned (key : CollectionKey) : Operation (List String) := do
  let current ← boundIndex? (← aliasOf key)
  let orphans := (← generations key).filter fun generation =>
    !(generation.bound || current = some generation.name)
  for generation in orphans do
    ask (.deleteIndex generation.name)
  record (.indexesDeleted "orphaned" orphans.length)
  record (.lifecycle "delete_orphaned" "success")
  pure (orphans.map (·.name))

end SiteSearch.Operation
