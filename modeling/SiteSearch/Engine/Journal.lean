import SiteSearch.Engine.Call

/-!
# Engine calls in writing

The name of each kind of call, and calls, replies and rows as JSON, for a journal of what was asked.
-/
namespace SiteSearch

/-! ## Calls -/

/-- The name of a kind of call. -/
def EngineCall.name : EngineCall → String
  | ping => "ping"
  | createIndex _ _ => "create_index"
  | deleteIndex _ => "delete_index"
  | getIndices _ => "get_indices"
  | aliasExists _ => "alias_exists"
  | getAlias _ => "get_alias"
  | putAlias _ _ => "put_alias"
  | deleteAlias _ _ => "delete_alias"
  | putSettings _ _ => "put_settings"
  | getSettings _ => "get_settings"
  | getMapping _ => "get_mapping"
  | putMapping _ _ => "put_mapping"
  | cloneIndex _ _ _ => "clone_index"
  | reindex _ => "reindex"
  | indexDocument _ _ _ => "index_document"
  | deleteDocument _ _ => "delete_document"
  | getSource _ _ => "get_source"
  | bulk _ => "bulk"
  | search _ _ => "search"
  | indexStats _ => "index_stats"
  | catAliases => "cat_aliases"
  | catIndices => "cat_indices"
  | analyze _ _ => "analyze"

/-- An operation of a bulk request: what is done, and to what. -/
def BulkOperation.toJson : BulkOperation → Json
  | index name id document => .array [.string "index", .string name, .string id, document]
  | delete name id => .array [.string "delete", .string name, .string id]

/-- What is passed along with a call. -/
def EngineCall.arguments : EngineCall → List Json
  | ping | catAliases | catIndices => []
  | createIndex name body | search name body | analyze name body | putSettings name body
  | putMapping name body => [.string name, body]
  | deleteIndex name | getIndices name | aliasExists name | getAlias name | getSettings name
  | getMapping name | indexStats name => [.string name]
  | putAlias index name | deleteAlias index name | deleteDocument index name
  | getSource index name => [.string index, .string name]
  | cloneIndex source target body => [.string source, .string target, body]
  | reindex body => [body]
  | indexDocument index id document => [.string index, .string id, document]
  | bulk operations => [.array (operations.map BulkOperation.toJson)]

/-- A call: its name and what is passed along. -/
def EngineCall.toJson (call : EngineCall) : Json :=
  .array [.string call.name, .array call.arguments]

/-! ## Answers -/

/-- An index with its aliases. -/
def IndexDescription.toJson (index : IndexDescription) : Json :=
  .ofFields [("name", .string index.name), ("aliases", .strings index.aliases)]

/-- What came of a copy. -/
def ReindexReply.toJson (reply : ReindexReply) : Json :=
  .ofFields
    [ ("took", .word reply.took), ("total", .word reply.total), ("failures", .array reply.failures) ]

/-- What came of a bulk request. -/
def BulkReply.toJson (reply : BulkReply) : Json :=
  .ofFields
    [ ("took", .word reply.took), ("errors", .bool reply.errors), ("items", .array reply.items) ]

/-- How much an index holds. -/
def IndexStats.toJson (stats : IndexStats) : Json :=
  .ofFields
    [ ("index", .string stats.index), ("docs_count", .word stats.documents),
      ("store_size_bytes", .word stats.bytes) ]

/-- A row of the list of aliases. -/
def AliasRow.toJson (row : AliasRow) : Json :=
  .ofFields [("alias", .string row.aliasName), ("index", .string row.index)]

/-- A row of the list of indexes. -/
def IndexRow.toJson (row : IndexRow) : Json :=
  .ofFields
    [ ("health", .string row.health), ("status", .string row.status), ("index", .string row.index),
      ("docs.count", .ofOption .string row.documents), ("store.size", .ofOption .string row.size) ]

/-- A token with its place. -/
def AnalyzedToken.toJson (token : AnalyzedToken) : Json :=
  .ofFields
    [ ("token", .string token.token), ("start_offset", .word token.start),
      ("end_offset", .word token.stop), ("type", .string token.kind),
      ("position", .word token.position) ]

end SiteSearch
