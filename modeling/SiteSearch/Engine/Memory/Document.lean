import SiteSearch.Engine.Memory.Store

/-!
# Documents in memory

Writing, deleting and copying documents. A write goes to one index, and not while that index is
blocked. A bulk request performs its operations one by one; one that is refused does not keep the
others from being performed.
-/
namespace SiteSearch.Store

/-! ## Single documents -/

/-- The index that a writer reaches under a name, unless it is blocked. -/
def openForWriting (store : Store) (name : String) : Except EngineError (String × StoredIndex) := do
  let target ← store.writeTarget name
  let index ← store.index? target
  if index.writeBlocked then .error (writeBlockedError target) else .ok (target, index)

/-- There is no such document. -/
def noSuchDocument (id : String) : EngineError :=
  .notFound ("document [" ++ id ++ "] not found")

/-- Writes a document, in place of the one with the same id. -/
def indexDocument (store : Store) (name id : String) (document : Json) :
    Except EngineError Store := do
  let (target, index) ← store.openForWriting name
  .ok (store.insert target { index with documents := index.documents.insert id document })

/-- Deletes a document. -/
def deleteDocument (store : Store) (name id : String) : Except EngineError Store := do
  let (target, index) ← store.openForWriting name
  if index.documents.contains id then
    .ok (store.insert target { index with documents := index.documents.erase id })
  else .error (noSuchDocument id)

/-- The document with an id in the first index under a name that has one. -/
def getSource (store : Store) (name id : String) : Except EngineError Json := do
  let targets ← store.readTargets name
  match (store.indexesOf targets).findSome? fun index => index.documents.get? id with
  | some document => .ok document
  | none => .error (noSuchDocument id)

/-! ## Bulk requests -/

/-- The item of an operation that was performed. -/
def performedItem (action index id : String) (status : Nat) (result : String) : Json :=
  .ofFields [(action, .ofFields
    [ ("_index", .string index), ("_id", .string id), ("status", .nat status),
      ("result", .string result) ])]

/-- The item of an operation that was refused. -/
def refusedItem (action index id : String) (error : EngineError) : Json :=
  .ofFields [(action, .ofFields
    [ ("_index", .string index), ("_id", .string id), ("status", .nat 400),
      ("error", .string error.message) ])]

/-- Performs one operation: the store it leaves, its item, and whether it was refused. Deleting a
document that is not there is no refusal. -/
def bulkStep (store : Store) : BulkOperation → Store × Json × Bool
  | .index name id document =>
    match store.openForWriting name with
    | .error error => (store, refusedItem "index" name id error, true)
    | .ok (target, index) =>
      ( store.insert target { index with documents := index.documents.insert id document },
        performedItem "index" name id 201 "created", false )
  | .delete name id =>
    match store.openForWriting name with
    | .error error => (store, refusedItem "delete" name id error, true)
    | .ok (target, index) =>
      if index.documents.contains id then
        ( store.insert target { index with documents := index.documents.erase id },
          performedItem "delete" name id 200 "deleted", false )
      else (store, performedItem "delete" name id 404 "not_found", false)

/-- Performs operations in their order. -/
def bulk (store : Store) : List BulkOperation → Store × BulkReply
  | [] => (store, ⟨0, false, []⟩)
  | operation :: operations =>
    let (store, item, refused) := store.bulkStep operation
    let (store, reply) := bulk store operations
    (store, ⟨0, refused || reply.errors, item :: reply.items⟩)

/-! ## Copies -/

/-- A document with only some of its fields; what is no object stays as it is. -/
def restrictTo (names : List String) : Json → Json
  | .object fields => .object (fields.filter fun f => names.contains f.1)
  | document => document

/-- A copy that is asked for: where from, where to, and which fields are kept. -/
structure CopyRequest where
  source : String
  target : String
  fields : Option (List String)
  deriving DecidableEq, Repr

/-- The copy that a body asks for. -/
def CopyRequest.ofBody (body : Json) : Except EngineError CopyRequest :=
  match (body.path? ["source", "index"]).bind Json.string?,
      (body.path? ["dest", "index"]).bind Json.string? with
  | none, _ => .error (.badRequest "reindex requires source.index")
  | _, none => .error (.badRequest "reindex requires dest.index")
  | some source, some target =>
    .ok
      { source, target
        fields := ((body.path? ["source", "_source"]).bind Json.array?).map
          (·.filterMap Json.string?) }

/-- The documents that a copy takes, as they will be written. -/
def copiedDocuments (store : Store) (request : CopyRequest) (sources : List String) :
    List (String × Json) :=
  (store.indexesOf sources).flatMap fun index =>
    index.documents.entries.map fun (id, document) =>
      (id, match request.fields with
        | some names => restrictTo names document
        | none => document)

/-- A failed document of a copy whose failure was asked for. -/
def injectedFailure (target : String) (n : Nat) : Json :=
  .ofFields
    [ ("index", .string target), ("id", .string (toString n)),
      ("cause", .ofFields [("type", .string "injected")]) ]

/-- Copies documents, and reports so many of them as failed. -/
def reindex (store : Store) (body : Json) (failures : Nat) :
    Except EngineError (Store × ReindexReply) := do
  let request ← CopyRequest.ofBody body
  let sources ← store.readTargets request.source
  let target ← store.writeTarget request.target
  let copied := store.copiedDocuments request sources
  let index ← store.index? target
  if index.writeBlocked then .error (writeBlockedError target)
  else
    let documents := copied.foldl (fun m d => m.insert d.1 d.2) index.documents
    .ok
      ( store.insert target { index with documents },
        { took := 0
          total := UInt64.ofNat copied.length
          failures := (List.range failures).map (injectedFailure target) } )

end SiteSearch.Store
