import SiteSearch.Binary64.Text
import SiteSearch.Engine.Memory.Clause
import SiteSearch.Engine.Memory.Glob
import SiteSearch.Json.Printer

/-!
# Conditions of a search

The body of a search holds a condition: all documents, documents with given ids, a combination of
conditions, or a query string. `Condition.ofJson` reads it, and `Condition.score` says how well a
document meets it, or that it does not. What cannot be read is refused only when a document is
looked at, so that a search in an empty index is never refused.
-/
namespace SiteSearch

/-- How much a match in a field counts; the name `*` means every field. -/
structure FieldWeight where
  field : String
  weight : Binary64
  deriving DecidableEq, Repr

/-- What a document has to meet. -/
inductive Condition where
  /-- Every document. -/
  | all
  /-- Documents with one of the ids. -/
  | ids (values : List Json)
  /-- All conditions of the first two lists and none of the third; the first list scores. -/
  | combined (must filter mustNot : List Condition)
  /-- The clauses of a query string. -/
  | queryString (query : String) (weights : List FieldWeight)
  /-- A condition that cannot be read. -/
  | malformed (error : EngineError)

namespace Condition

/-! ## Reading -/

/-- A value as a list: an array as its items, anything else as the only one. -/
def asList : Option Json → List Json
  | none => []
  | some (.array items) => items
  | some j => [j]

/-- The weight that a field name with a caret gives to the field. -/
def weightOf (text : String) : FieldWeight :=
  match Text.cutAt (· = '^') text.toList with
  | some (field, weight) => ⟨String.ofList field, (Binary64.read? weight).getD (.ofNat 1)⟩
  | none => ⟨text, .ofNat 1⟩

/-- A condition that does not hold others. -/
def simple (kind : String) (spec : Json) : Condition :=
  if kind = "match_all" then .all
  else if kind = "ids" then .ids (asList (spec.field? "values"))
  else if kind = "query_string" then
    .queryString (((spec.field? "query").bind Json.string?).getD "")
      (((asList (spec.field? "fields")).filterMap Json.string?).map weightOf)
  else .malformed (.badRequest ("unknown query [" ++ kind ++ "]"))

/-- What is no object is no condition. -/
def notAnObject : Condition := .malformed (.badRequest "query must be an object")

mutual

/-- The condition under the first name of an object. -/
def ofFields : List (String × Json) → Condition
  | [] => .malformed (.badRequest "empty query")
  | (kind, spec) :: _ => if kind = "bool" then ofCombined spec else simple kind spec

/-- The conditions that a combination puts together. -/
def ofCombined : Json → Condition
  | .object fields => .combined (under "must" fields) (under "filter" fields) (under "must_not" fields)
  | _ => .combined [] [] []

/-- The conditions under a name. -/
def under (name : String) : List (String × Json) → List Condition
  | [] => []
  | (other, value) :: rest => if other = name then ofList value else under name rest

/-- The conditions of a list, or a single one. -/
def ofList : Json → List Condition
  | .array items => ofItems items
  | .object fields => [ofFields fields]
  | _ => [notAnObject]

/-- The conditions of the items of a list. -/
def ofItems : List Json → List Condition
  | [] => []
  | .object fields :: rest => ofFields fields :: ofItems rest
  | _ :: rest => notAnObject :: ofItems rest

end

/-- The condition that a value writes. -/
def ofJson : Json → Condition
  | .object fields => ofFields fields
  | _ => notAnObject

/-! ## Query strings -/

/-- The words of a text, in lowercase. -/
def wordsOf (text : List Char) : List (List Char) :=
  Text.words (Text.lowercase text)

/-- Whether some words stand one after another in a list of words. -/
def hasRun (run : List (List Char)) : List (List Char) → Bool
  | [] => run.isEmpty
  | word :: words => run.isPrefixOf (word :: words) || hasRun run words

/-- Whether a text meets a clause, apart from its sign and field. -/
def textMeets (clause : Clause) (text : String) : Bool :=
  let words := wordsOf text.toList
  if clause.phrase then
    let run := wordsOf clause.text
    !run.isEmpty && hasRun run words
  else words.any (Glob.covers clause.text)

/-- The fields of a document that hold text. -/
def textFields (document : Json) : List (String × String) :=
  (document.object?.getD []).filterMap fun (name, value) => value.string?.map fun text => (name, text)

/-- The highest of the weights that apply to a field. -/
def weightFor (weights : List FieldWeight) (field : String) : Binary64 :=
  (weights.filter fun w => w.field = field || w.field = "*").foldl (fun top w => top.max w.weight)
    .zero

/-- How well a document meets a clause: the highest weight of a field that does. A field that is
asked for by name counts at least once. -/
def clauseScore (weights : List FieldWeight) (fields : List (String × String)) (clause : Clause) :
    Option Binary64 :=
  let least : Binary64 := if clause.field.isSome then .ofNat 1 else .zero
  let found := fields.filter fun (name, text) =>
    (match clause.field with
      | some field => field = name
      | none => true) && textMeets clause text
  found.foldl
    (fun top (name, _) =>
      let weight := (weightFor weights name).max least
      some (match top with
        | none => weight
        | some top => top.max weight))
    none

/-- The sum of the scores so far, and whether a clause that may be met was. -/
structure Tally where
  total : Binary64
  anyShould : Bool
  deriving DecidableEq, Repr

/-- The tally with one more clause; nothing when the clause rules the document out. -/
def Tally.add? (score : Clause → Option Binary64) (tally : Tally) (clause : Clause) :
    Option Tally :=
  match clause.occur, score clause with
  | .must, some s => some { tally with total := tally.total.add s }
  | .must, none => none
  | .mustNot, some _ => none
  | .mustNot, none => some tally
  | .should, some s => some ⟨tally.total.add s, true⟩
  | .should, none => some tally

/-- How well a document meets some clauses. Without a clause that must be met, one that may be met
has to be; no clause at all is met by nothing. -/
def scoreClauses (weights : List FieldWeight) (document : Json) (clauses : List Clause) :
    Option Binary64 := do
  let fields := textFields document
  let tally ← clauses.foldlM (Tally.add? (clauseScore weights fields)) ⟨.zero, false⟩
  let hasMust := clauses.any (·.occur = .must)
  let hasShould := clauses.any (·.occur = .should)
  if clauses.isEmpty || (!hasMust && hasShould && !tally.anyShould) then none
  else some tally.total

/-! ## Scores -/

/-- Whether a value of a list of ids names a document: a string by itself, any other value by its
text. -/
def namesDocument (id : String) : Json → Bool
  | .string s => s = id
  | j => j.compact = id

mutual

/-- How well a document meets a condition; nothing when it does not. -/
def score (id : String) (document : Json) : Condition → Except EngineError (Option Binary64)
  | .all => .ok (some (.ofNat 1))
  | .ids values => .ok (if values.any (namesDocument id) then some .zero else none)
  | .combined must filter mustNot => do
    match ← sumScores id document .zero must with
    | none => .ok none
    | some total =>
      if !(← meetsAll id document filter) then .ok none
      else if ← meetsAny id document mustNot then .ok none
      else .ok (some total)
  | .queryString query weights => do
    let clauses ← Clause.readAll query
    .ok (scoreClauses weights document clauses)
  | .malformed error => .error error

/-- The sum of the scores of conditions that all have to be met; the first that is not ends it. -/
def sumScores (id : String) (document : Json) (total : Binary64) :
    List Condition → Except EngineError (Option Binary64)
  | [] => .ok (some total)
  | condition :: rest => do
    match ← score id document condition with
    | none => .ok none
    | some s => sumScores id document (total.add s) rest

/-- Whether all conditions are met; the first that is not ends it. -/
def meetsAll (id : String) (document : Json) : List Condition → Except EngineError Bool
  | [] => .ok true
  | condition :: rest => do
    match ← score id document condition with
    | none => .ok false
    | some _ => meetsAll id document rest

/-- Whether any condition is met; the first that is ends it. -/
def meetsAny (id : String) (document : Json) : List Condition → Except EngineError Bool
  | [] => .ok false
  | condition :: rest => do
    match ← score id document condition with
    | none => meetsAny id document rest
    | some _ => .ok true

end

end Condition

end SiteSearch
