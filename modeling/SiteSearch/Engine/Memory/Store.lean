import SiteSearch.Engine.Call
import SiteSearch.Json.Printer
import SiteSearch.Text.Pieces

/-!
# What the engine in memory holds

A store is a map from index names to indexes. An index has documents, a mapping, settings and a
block that keeps writers out, and it carries aliases. A name is looked up among the indexes first
and among the aliases second. Readers under an alias reach every index that carries it; a writer
reaches the only one, or else the one that is marked as the place to write to.
-/
namespace SiteSearch

/-- One index. -/
structure StoredIndex where
  settings : NameMap Json := {}
  properties : NameMap Json := {}
  documents : NameMap Json := {}
  /-- The aliases of the index; a marked one is written here when it covers several indexes. -/
  aliases : NameMap Bool := {}
  writeBlocked : Bool := false
  deriving DecidableEq

instance : Inhabited StoredIndex := ⟨{}⟩

/-- The bytes of the compact texts of all documents. -/
def StoredIndex.bytes (index : StoredIndex) : Nat :=
  index.documents.values.foldl (fun bytes document => bytes + document.compact.utf8ByteSize) 0

/-- The indexes by name. -/
abbrev Store := NameMap StoredIndex

namespace Store

/-! ## Refusals -/

/-- No index and no alias has the name. -/
def noSuchIndex (name : String) : EngineError :=
  .notFound ("no such index [" ++ name ++ "]")

/-- There is an index with the name. -/
def indexExists (name : String) : EngineError :=
  .badRequest ("resource_already_exists_exception: index [" ++ name ++ "] already exists")

/-- The index is blocked for writing. -/
def writeBlockedError (name : String) : EngineError :=
  .forbidden ("index [" ++ name ++ "] blocked by: [FORBIDDEN/8/index write (api)]")

/-- The alias covers several indexes and none of them is marked. -/
def noWriteIndex (name : String) : EngineError :=
  .badRequest ("no write index is defined for alias [" ++ name ++ "] pointing to multiple indices")

/-! ## Names -/

/-- The indexes that carry an alias, in the order of their names. -/
def carriers (store : Store) (aliasName : String) : List String :=
  (store.filter fun _ index => index.aliases.contains aliasName).names

/-- The indexes that a reader reaches under a name. -/
def readTargets (store : Store) (name : String) : Except EngineError (List String) :=
  if store.contains name then .ok [name]
  else
    match store.carriers name with
    | [] => .error (noSuchIndex name)
    | targets => .ok targets

/-- Whether an alias is marked on an index. -/
def isMarked (store : Store) (aliasName index : String) : Bool :=
  ((store.get? index).bind fun i => i.aliases.get? aliasName).getD false

/-- The index that a writer reaches under a name. -/
def writeTarget (store : Store) (name : String) : Except EngineError String := do
  match ← store.readTargets name with
  | [target] => .ok target
  | targets =>
    match targets.find? (store.isMarked name) with
    | some target => .ok target
    | none => .error (noWriteIndex name)

/-- The index with a name. -/
def index? (store : Store) (name : String) : Except EngineError StoredIndex :=
  match store.get? name with
  | some index => .ok index
  | none => .error (noSuchIndex name)

/-- The indexes with some names, in the order of the names; a name without one is left out. -/
def indexesOf (store : Store) (names : List String) : List StoredIndex :=
  names.filterMap store.get?

/-- Every index with one of some names changed. -/
def modifyAll (store : Store) (names : List String) (f : StoredIndex → StoredIndex) : Store :=
  names.foldl (fun store name => store.modify name f) store

/-! ## Documents -/

/-- The documents that a reader reaches under a name, by index and then by id. -/
def documents (store : Store) (name : String) : List (String × Json) :=
  match store.readTargets name with
  | .error _ => []
  | .ok targets => (store.indexesOf targets).flatMap fun index => index.documents.entries

end Store

end SiteSearch
