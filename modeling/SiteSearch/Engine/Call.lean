import SiteSearch.Engine.Error
import SiteSearch.Json.Basic
import SiteSearch.Query.Ranking

/-!
# Engine calls

Everything that is asked of a search engine, and what it answers. Where a call takes an index, an
alias will mostly do; bodies and settings have the shape that the engine's own interface has.
-/
namespace SiteSearch

/-- A document to be written or deleted as part of a bulk request. -/
inductive BulkOperation where
  | index (index id : String) (document : Json)
  | delete (index id : String)
  deriving DecidableEq, Repr

/-- An index and the aliases bound to it. -/
structure IndexDescription where
  name : String
  aliases : List String
  deriving DecidableEq, Repr

/-- What came of a copy from one index to another. -/
structure ReindexReply where
  /-- Milliseconds. -/
  took : UInt64
  /-- Documents that were looked at. -/
  total : UInt64
  failures : List Json
  deriving DecidableEq, Repr

/-- What came of a bulk request: one item for each operation. -/
structure BulkReply where
  /-- Milliseconds. -/
  took : UInt64
  errors : Bool
  items : List Json
  deriving DecidableEq, Repr

/-- What a search found. -/
structure SearchReply where
  /-- Milliseconds. -/
  took : UInt64
  /-- Matching documents, also those beyond the window. -/
  total : UInt64
  hits : List SearchHit
  deriving DecidableEq, Repr

/-- How much an index holds. -/
structure IndexStats where
  index : String
  documents : UInt64
  bytes : UInt64
  deriving DecidableEq, Repr

/-- A row of the list of aliases. -/
structure AliasRow where
  aliasName : String
  index : String
  deriving DecidableEq, Repr

/-- A row of the list of indexes. -/
structure IndexRow where
  health : String
  status : String
  index : String
  documents : Option String
  size : Option String
  deriving DecidableEq, Repr

/-- A token that an analyzer makes of a text, with its place in bytes. -/
structure AnalyzedToken where
  token : String
  start : UInt64
  stop : UInt64
  kind : String
  position : UInt64
  deriving DecidableEq, Repr

/-- A call to the engine. -/
inductive EngineCall where
  /-- Whether the engine is there. -/
  | ping
  | createIndex (name : String) (body : Json)
  | deleteIndex (name : String)
  /-- The indexes under a name or under a pattern that ends in a star. -/
  | getIndices (pattern : String)
  | aliasExists (aliasName : String)
  /-- The indexes that an alias is bound to; there is always one. -/
  | getAlias (aliasName : String)
  | putAlias (index aliasName : String)
  | deleteAlias (index aliasName : String)
  | putSettings (index : String) (settings : Json)
  /-- The settings of an index, their names written in full. -/
  | getSettings (index : String)
  /-- The properties of the mapping of an index. -/
  | getMapping (index : String)
  /-- Adds properties to the mapping of an index. -/
  | putMapping (index : String) (properties : Json)
  /-- Copies an index as it stands; it has to be blocked for writing. -/
  | cloneIndex (source target : String) (body : Json)
  /-- Copies documents from index to index. -/
  | reindex (body : Json)
  | indexDocument (index id : String) (document : Json)
  | deleteDocument (index id : String)
  | getSource (index id : String)
  | bulk (operations : List BulkOperation)
  | search (index : String) (body : Json)
  | indexStats (index : String)
  | catAliases
  | catIndices
  | analyze (index : String) (body : Json)
  deriving DecidableEq, Repr

/-- What a call is answered with when it succeeds. -/
@[reducible]
def EngineCall.Answer : EngineCall → Type
  | aliasExists _ => Bool
  | getIndices _ => List IndexDescription
  | getAlias _ => List String
  | getSettings _ | getMapping _ | getSource _ _ => Json
  | reindex _ => ReindexReply
  | bulk _ => BulkReply
  | search _ _ => SearchReply
  | indexStats _ => IndexStats
  | catAliases => List AliasRow
  | catIndices => List IndexRow
  | analyze _ _ => List AnalyzedToken
  | ping | createIndex _ _ | deleteIndex _ | putAlias _ _ | deleteAlias _ _ | putSettings _ _
  | putMapping _ _ | cloneIndex _ _ _ | indexDocument _ _ _ | deleteDocument _ _ => Unit

/-- How a call ends: with its answer, or refused. -/
abbrev EngineCall.Outcome (call : EngineCall) : Type := Except EngineError call.Answer

/-- An engine with a state: how it answers each call. -/
abbrev Engine (σ : Type) := (call : EngineCall) → σ → call.Outcome × σ

end SiteSearch
