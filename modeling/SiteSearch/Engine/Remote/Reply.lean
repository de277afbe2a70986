import SiteSearch.Engine.Call
import SiteSearch.Json.Fields
import SiteSearch.Json.Printer
import SiteSearch.Json.Reader
import SiteSearch.Text.Utf8

/-!
# Replies of a remote engine

What a reply says: its status decides whether the call succeeded, and its body is read as the answer
of the call. A refusal is told by the status, its reason by the body if that has one. Where an
answer is looked up inside the body, what is missing counts as nothing; where the body is the answer
as a whole, it has to have the right shape.
-/
namespace SiteSearch.Remote

/-- A reply. -/
structure Reply where
  status : Nat
  body : Text.Bytes
  deriving DecidableEq, Repr

namespace Reply

/-! ## Refusals -/

/-- The reason inside the body of a refusal. -/
def reason? (body : Json) : Option String :=
  (body.field? "error").map fun error =>
    match error with
    | .string reason => reason
    | error =>
      let part (name fallback : String) : String :=
        ((error.field? name).bind Json.string?).getD fallback
      part "type" "error" ++ ": " ++ part "reason" ""

/-- The text of the body; bytes that make no sense are replaced. -/
def text (reply : Reply) : List Char :=
  Text.readUtf8Lossy reply.body

/-- The reason of a refusal: from the body, or else the status with the whole body. -/
def reason (reply : Reply) : String :=
  ((Json.parse? reply.text).bind reason?).getD
    ("HTTP " ++ String.ofList (Text.decimal reply.status) ++ ": " ++ String.ofList reply.text)

/-- The error that a refusal means. -/
def refusal (reply : Reply) : EngineError :=
  match reply.status with
  | 400 => .badRequest reply.reason
  | 401 => .configuration ("Authentication rejected: " ++ reply.reason)
  | 403 => .forbidden reply.reason
  | 404 => .notFound reply.reason
  | 409 => .conflict reply.reason
  | _ => .backend reply.reason

/-- Whether the status tells of success. -/
def isSuccess (reply : Reply) : Bool :=
  200 ≤ reply.status && reply.status < 300

/-- The value in the body of a success; an empty body is null. -/
def value (reply : Reply) : Except EngineError Json :=
  if !reply.isSuccess then .error reply.refusal
  else if reply.body.isEmpty then .ok .null
  else
    match (Text.readUtf8? reply.body).bind Json.parse? with
    | some value => .ok value
    | none => .error (.backend "Failed to parse response: the body is no JSON text")

/-! ## Answers -/

/-- A whole number somewhere in a body; zero where there is none. -/
def wordAt (path : List String) (body : Json) : UInt64 :=
  ((body.path? path).bind Json.word?).getD 0

/-- The names of the fields of an object. -/
def fieldNames (body : Json) : List String :=
  (body.object?.getD []).map (·.1)

/-- The indexes that a body describes, by name. -/
def indexDescriptions (body : Json) : List IndexDescription :=
  (body.object?.getD []).map fun (name, index) =>
    ⟨name, fieldNames (index.fieldD "aliases")⟩

/-- The indexes that an alias is bound to; there has to be one. -/
def aliasTargets (aliasName : String) (body : Json) : Except EngineError (List String) :=
  match fieldNames body with
  | [] => .error (.notFound ("alias [" ++ aliasName ++ "] missing"))
  | names => .ok names

/-- The settings of an index. -/
def settings (index : String) (body : Json) : Except EngineError Json :=
  match body.path? [index, "settings"] with
  | some settings => .ok settings
  | none => .error (.notFound ("no settings for [" ++ index ++ "]"))

/-- The properties of the mapping of the first index in a body. -/
def properties (body : Json) : Json :=
  match body with
  | .object ((_, index) :: _) => (index.path? ["mappings", "properties"]).getD (.ofFields [])
  | _ => .ofFields []

/-- The number of matching documents: a number, or an object with one. -/
def totalHits (body : Json) : UInt64 :=
  match body.path? ["hits", "total"] with
  | some (.number n) => ((Json.number n).word?).getD 0
  | _ => wordAt ["hits", "total", "value"] body

/-- A hit; one without an id is none. -/
def searchHit? (hit : Json) : Option SearchHit :=
  ((hit.field? "_id").bind Json.string?).map fun id =>
    ⟨id, (hit.field? "_score").bind Json.real?, hit.field? "_source"⟩

/-- What a search found. -/
def searchReply (body : Json) : SearchReply where
  took := wordAt ["took"] body
  total := totalHits body
  hits := (((body.path? ["hits", "hits"]).bind Json.array?).getD []).filterMap searchHit?

/-- The size of the first index in a body. -/
def stats (index : String) (body : Json) : Except EngineError IndexStats :=
  match body.field? "indices" with
  | some (.object ((name, stats) :: _)) =>
    .ok ⟨name, wordAt ["total", "docs", "count"] stats, wordAt ["total", "store", "size_in_bytes"] stats⟩
  | _ => .error (.notFound ("no stats for [" ++ index ++ "]"))

/-! ## Whole bodies -/

/-- A value of the right shape, or the error that it has another one. -/
def shaped {α : Type} (what : String) (read : Json → Option α) (body : Json) :
    Except EngineError α :=
  match read body with
  | some a => .ok a
  | none => .error (.backend ("Unexpected " ++ what ++ " response: the shape is another one"))

/-- What came of a copy. -/
def reindexReply? (body : Json) : Option ReindexReply := do
  if !body.holdsFields 3 then none
  else
    let took ← body.fieldOr? "took" 0 Json.word? 0
    let total ← body.fieldOr? "total" 1 Json.word? 0
    let failures ← body.fieldOr? "failures" 2 Json.array? []
    some ⟨took, total, failures⟩

/-- What came of a bulk request. -/
def bulkReply? (body : Json) : Option BulkReply := do
  if !body.holdsFields 3 then none
  else
    let took ← body.fieldOr? "took" 0 Json.word? 0
    let errors ← body.fieldOr? "errors" 1 Json.bool? false
    let items ← body.fieldOr? "items" 2 Json.array? []
    some ⟨took, errors, items⟩

/-- A row of the list of aliases. -/
def aliasRow? (row : Json) : Option AliasRow := do
  if !row.holdsFields 2 then none
  else
    let aliasName ← row.need? "alias" 0 Json.string?
    let index ← row.need? "index" 1 Json.string?
    some ⟨aliasName, index⟩

/-- A row of the list of indexes. -/
def indexRow? (row : Json) : Option IndexRow := do
  if !row.holdsFields 5 then none
  else
    let health ← row.fieldOr? "health" 0 Json.string? ""
    let status ← row.fieldOr? "status" 1 Json.string? ""
    let index ← row.need? "index" 2 Json.string?
    let documents ← row.fieldOr? "docs.count" 3 (Json.nullable? Json.string?) none
    let size ← row.fieldOr? "store.size" 4 (Json.nullable? Json.string?) none
    some ⟨health, status, index, documents, size⟩

/-- A token of an analyzer. -/
def analyzedToken? (token : Json) : Option AnalyzedToken := do
  if !token.holdsFields 5 then none
  else
    let text ← token.need? "token" 0 Json.string?
    let start ← token.need? "start_offset" 1 Json.word?
    let stop ← token.need? "end_offset" 2 Json.word?
    let kind ← token.fieldOr? "type" 3 Json.string? ""
    let position ← token.need? "position" 4 Json.word?
    some ⟨text, start, stop, kind, position⟩

/-- The tokens of an analyzer. -/
def analyzedTokens (body : Json) : Except EngineError (List AnalyzedToken) :=
  shaped "_analyze" (Json.listOf? analyzedToken?) ((body.field? "tokens").getD (.array []))

/-! ## Calls -/

/-- Whether an alias is there, which only the status tells. -/
def existence (reply : Reply) : Except EngineError Bool :=
  match reply.status with
  | 200 => .ok true
  | 404 => .ok false
  | _ => .error reply.refusal

/-- How a call ends with a reply. -/
def outcome (reply : Reply) : (call : EngineCall) → call.Outcome
  | .aliasExists _ => reply.existence
  | .getIndices _ => reply.value.map indexDescriptions
  | .getAlias aliasName => reply.value.bind (aliasTargets aliasName)
  | .getSettings index => reply.value.bind (settings index)
  | .getMapping _ => reply.value.map properties
  | .getSource _ _ => reply.value
  | .reindex _ => reply.value.bind (shaped "reindex" reindexReply?)
  | .bulk _ => reply.value.bind (shaped "bulk" bulkReply?)
  | .search _ _ => reply.value.map searchReply
  | .indexStats index => reply.value.bind (stats index)
  | .catAliases => reply.value.bind (shaped "_cat" (Json.listOf? aliasRow?))
  | .catIndices => reply.value.bind (shaped "_cat" (Json.listOf? indexRow?))
  | .analyze _ _ => reply.value.bind analyzedTokens
  | .ping | .createIndex _ _ | .deleteIndex _ | .putAlias _ _ | .deleteAlias _ _
  | .putSettings _ _ | .putMapping _ _ | .cloneIndex _ _ _ | .indexDocument _ _ _
  | .deleteDocument _ _ => reply.value.map fun _ => ()

end Reply

end SiteSearch.Remote
