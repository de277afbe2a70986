import SiteSearch.Engine.Memory.Store
import SiteSearch.Text.Alphanumeric
import SiteSearch.Text.LetterCase

/-!
# Analysis in memory

The analyzer of the engine in memory makes a token of every longest run of letters and digits. The
place of a token is told in bytes.
-/
namespace SiteSearch

/-- A run of letters and digits with the byte it starts at; its characters are held last first. -/
structure OpenRun where
  start : Nat
  text : List Char
  deriving DecidableEq, Repr

/-- The token of a run that ends at a byte. -/
def OpenRun.token (run : OpenRun) (stop position : Nat) : AnalyzedToken where
  token := String.ofList (Text.lowercase run.text.reverse)
  start := UInt64.ofNat run.start
  stop := UInt64.ofNat stop
  kind := "<ALPHANUM>"
  position := UInt64.ofNat position

/-- The tokens of a text from a byte on, when `position` tokens came before. -/
def analyzeFrom (byte position : Nat) : Option OpenRun → List Char → List AnalyzedToken
  | none, [] => []
  | some run, [] => [run.token byte position]
  | run, c :: rest =>
    let next := byte + c.utf8Size
    match run, Text.isAlphanumeric c with
    | none, true => analyzeFrom next position (some ⟨byte, [c]⟩) rest
    | some run, true => analyzeFrom next position (some ⟨run.start, c :: run.text⟩) rest
    | none, false => analyzeFrom next position none rest
    | some run, false => run.token byte position :: analyzeFrom next (position + 1) none rest

/-- The tokens of a text. -/
def analyzeText (text : String) : List AnalyzedToken :=
  analyzeFrom 0 0 none text.toList

namespace Store

/-- The tokens of the text of a body; the name has to reach an index. -/
def analyze (store : Store) (name : String) (body : Json) :
    Except EngineError (List AnalyzedToken) := do
  let _ ← store.readTargets name
  .ok (analyzeText (((body.field? "text").bind Json.string?).getD ""))

end Store

end SiteSearch
