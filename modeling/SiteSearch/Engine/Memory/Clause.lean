import SiteSearch.Engine.Error
import SiteSearch.Text.Blank
import SiteSearch.Text.LetterCase
import SiteSearch.Text.Quoted

/-!
# Clauses of a query string

The engine reads a query string as a list of clauses, one for each piece between blanks outside
quotation marks. A sign in front says whether a clause must or must not be met; a field name with a
colon limits it to a field; what has a quotation mark is a phrase. Parentheses outside quotation
marks, an open quotation and a clause without text are refused.
-/
namespace SiteSearch

/-- What a clause is for. -/
inductive Occur where
  | must
  | mustNot
  | should
  deriving DecidableEq, Repr

/-- One clause of a query string. -/
structure Clause where
  occur : Occur
  field : Option String
  /-- In lowercase. -/
  text : List Char
  phrase : Bool
  deriving DecidableEq, Repr

namespace Clause

/-- A query string that cannot be read, and why. -/
def refusal (query : String) (reason : String) : EngineError :=
  .badRequest ("parse_exception: Cannot parse '" ++ query ++ "'" ++ reason)

/-- The sign in front of a piece. -/
def readOccur : List Char → Occur × List Char
  | '+' :: rest => (.must, rest)
  | '-' :: rest => (.mustNot, rest)
  | piece => (.should, piece)

/-- Whether a parenthesis stands outside quotation marks. -/
def hasOpenParenthesis : (quoted : Bool) → List Char → Bool
  | _, [] => false
  | quoted, c :: rest =>
    if c = '"' then hasOpenParenthesis (!quoted) rest
    else ((c = '(' || c = ')') && !quoted) || hasOpenParenthesis quoted rest

/-- The field name in front of a piece, before any quotation mark. -/
def readField (piece : List Char) : Option String × List Char :=
  match piece.dropWhile fun c => c != ':' && c != '"' with
  | ':' :: rest => (some (String.ofList (piece.takeWhile fun c => c != ':' && c != '"')), rest)
  | _ => (none, piece)

/-- The clause that a piece writes. -/
def read (query : String) (piece : List Char) : Except EngineError Clause :=
  let (occur, piece) := readOccur piece
  if hasOpenParenthesis false piece then .error (refusal query "")
  else if Text.leavesOpen piece then
    .error (refusal query ": Lexical error, unterminated phrase")
  else
    let phrase := piece.contains '"'
    let (field, text) := readField piece
    let text :=
      if phrase then Text.trimEnd (· = '"') (Text.trimStart (· = '"') text) else text
    if text.isEmpty then .error (refusal query ": Encountered <EOF>")
    else .ok { occur, field, text := Text.lowercase text, phrase }

/-- The clauses of a query string; the first piece that cannot be read refuses the whole. -/
def readAll (query : String) : Except EngineError (List Clause) :=
  (Text.unquotedPieces query.toList).mapM (read query)

end Clause

end SiteSearch
