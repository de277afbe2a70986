import SiteSearch.Service.Alias
import SiteSearch.Service.WriteBlock

/-!
# Making, moving and cloning collections

A collection begins with one generation under its alias. Reindexing fills a new generation that has
the mapping of the current content model and moves the alias to it: the alias is bound to the new
generation first and unbound from the old one last, so it is bound at every moment. What is left
behind when something fails is a generation without the alias, which can be swept later.
-/
namespace SiteSearch

/-- What came of a reindex. -/
structure ReindexReport where
  aliasName : String
  oldIndex : String
  newIndex : String
  /-- Documents that were copied. -/
  total : UInt64
  /-- Milliseconds that the copy took. -/
  took : UInt64
  deriving DecidableEq, Repr

/-- The report as JSON. -/
def ReindexReport.toJson (report : ReindexReport) : Json :=
  .ofFields
    [ ("alias", .string report.aliasName), ("old_index", .string report.oldIndex),
      ("new_index", .string report.newIndex), ("total", .word report.total),
      ("took", .word report.took) ]

/-- What came of a clone. -/
structure CloneReport where
  sourceIndex : String
  newIndex : String
  destinationAlias : String
  deriving DecidableEq, Repr

/-- The report as JSON. -/
def CloneReport.toJson (report : CloneReport) : Json :=
  .ofFields
    [ ("source_index", .string report.sourceIndex), ("new_index", .string report.newIndex),
      ("destination_alias", .string report.destinationAlias) ]

/-- The time after a timestamp; the last one has none after it. -/
def Timestamp.next (time : Timestamp) : Timestamp :=
  if time = UInt64.ofNat (UInt64.size - 1) then time else time + 1

/-- The wall clock as a timestamp; no second before 1970 has one. -/
def Timestamp.ofClock (now : Int) : Timestamp :=
  UInt64.ofNat (min now.toNat (UInt64.size - 1))

/-- The time of a new generation: the clock, or later where a generation is as late as that. -/
def nextTime (now : Int) (generations : List Generation) : Timestamp :=
  generations.foldl (fun time generation => max time generation.time.next) (.ofClock now)

/-- What a copy to a new generation is asked with: only the fields of the mapping are kept. -/
def copyBody (oldIndex newIndex : String) (fields : List String) : Json :=
  .ofFields
    [ ("source", .ofFields [("index", .string oldIndex), ("_source", .strings fields)]),
      ("dest", .ofFields [("index", .string newIndex)]) ]

/-- What a clone is asked with: the alias is bound to it at once, for writing too. -/
def cloneBody (aliasName : String) : Json :=
  .ofFields [("aliases", .ofFields [(aliasName, .ofFields [("is_write_index", .bool true)])])]

namespace Operation

/-- A name for a new generation, later than every one there is. -/
def nextGeneration (key : CollectionKey) : Operation String := do
  let now := (← get).now
  let found ← generations key
  pure ((← get).indexNames.generationName key (nextTime now found))

/-! ## First generation -/

/-- Makes the first generation of a collection, unless its alias is bound; whether one was made. -/
def ensureExists (key : CollectionKey) : Operation Bool := do
  let aliasName ← aliasOf key
  let bound : Bool ← ask (.aliasExists aliasName)
  if bound then pure false
  else do
    let mapping ← currentModelMapping
    let generation ← nextGeneration key
    match ← attempt (.createIndex generation (indexBody key mapping)) with
    | .error e =>
      -- someone else may have made the collection in between
      match ← attempt (.aliasExists aliasName) with
      | .ok true => pure false
      | _ =>
        record (.lifecycle "ensure_exists" "error")
        throw (.ofEngine e)
    | .ok _ =>
      match ← attempt (.putAlias generation aliasName) with
      | .error e =>
        record (.lifecycle "ensure_exists" "error")
        throw (.ofEngine e)
      | .ok _ =>
        rememberSignature key mapping.signature
        record (.lifecycle "ensure_exists" "success")
        record (.lifecycleTime "ensure_exists")
        pure true

/-! ## Reindexing -/

/-- Moves an alias: it is bound to the new index before it is taken from the old one. -/
def rebind (aliasName oldIndex newIndex : String) : Operation Unit := do
  match ← attempt (.putAlias newIndex aliasName) with
  | .error e =>
    record (.lifecycle "reindex" "error")
    throw (.ofEngine e)
  | .ok _ => ask (.deleteAlias oldIndex aliasName)

/-- Copies the old index to the new one and moves the alias, unless the copy reports failures. -/
def copyAndRebind (aliasName oldIndex newIndex : String) (body : Json) :
    Operation ReindexReply := do
  match ← attempt (.reindex body) with
  | .error e =>
    record (.lifecycle "reindex" "error")
    throw (.ofEngine e)
  | .ok reply =>
    if reply.failures.isEmpty then do
      rebind aliasName oldIndex newIndex
      pure reply
    else do
      record (.lifecycle "reindex" "partial_failure")
      throw (.partialFailure oldIndex newIndex reply.failures.length)

/-- Moves a collection to a new generation with the mapping of the current content model. -/
def reindex (key : CollectionKey) : Operation ReindexReport := do
  let aliasName ← aliasOf key
  let oldIndex ← resolveAlias aliasName
  let mapping ← currentModelMapping
  let newIndex ← nextGeneration key
  let _ ← ask (.createIndex newIndex (indexBody key mapping))
  let reply ← whileBlocked oldIndex
    (copyAndRebind aliasName oldIndex newIndex (copyBody oldIndex newIndex mapping.names))
  rememberSignature key mapping.signature
  record (.reindexedDocuments reply.total)
  record (.lifecycle "reindex" "success")
  record (.lifecycleTime "reindex")
  pure { aliasName, oldIndex, newIndex, total := reply.total, took := reply.took }

/-! ## Cloning -/

/-- Clones an index that is blocked for writing, and lifts the block that the clone has too. -/
def cloneBlocked (sourceIndex newIndex aliasName : String) : Operation Unit := do
  let _ ← ask (.cloneIndex sourceIndex newIndex (cloneBody aliasName))
  setBlock newIndex false

/-- Makes a collection as a clone of what is behind a name; its alias must not be bound yet. -/
def clone (key : CollectionKey) (source : String) : Operation CloneReport := do
  let destinationAlias ← aliasOf key
  let bound : Bool ← ask (.aliasExists destinationAlias)
  if bound then do
    record (.lifecycle "clone" "destination_exists")
    throw (.destinationExists destinationAlias)
  else do
    let sourceIndex ← resolveIndex source
    let newIndex ← nextGeneration key
    match ← outcome (whileBlocked sourceIndex
        (cloneBlocked sourceIndex newIndex destinationAlias)) with
    | .error e =>
      record (.lifecycle "clone" "error")
      throw e
    | .ok () =>
      -- the clone has the mapping of its source, which need not be the current one
      forgetSignature key
      record (.lifecycle "clone" "success")
      record (.lifecycleTime "clone")
      pure { sourceIndex, newIndex, destinationAlias }

end Operation

end SiteSearch
