import SiteSearch.Query.Token
import SiteSearch.Text.Alphanumeric
import SiteSearch.Text.Blank
import SiteSearch.Text.Quoted

/-!
# Reading a query

What a user types is cut at blanks outside quotation marks; an unclosed quotation mark reaches to
the end. Each piece is a term, but for `OR`, which joins the term before it and the term after it
to a group.

| piece          | term                                      |
|----------------|-------------------------------------------|
| `salad`        | the word, with the ends that are preset   |
| `-salad`       | left out                                  |
| `title:salad`  | only in the attribute `title`             |
| `"green salad"`| a phrase                                  |
| `*salad*`      | open at both ends                         |

A term without text is no term, and a joining `OR` then waits for the next one.
-/
namespace SiteSearch.Query

/-! ## Terms -/

/-- A sign in front of a piece; a piece that is the sign alone has none. -/
def readSign : List Char → Bool × List Char
  | '-' :: c :: rest => (true, c :: rest)
  | piece => (false, piece)

/-- A character of a handle. -/
def isHandleChar (c : Char) : Bool :=
  Text.isAlphanumeric c || c = '_'

/-- A handle with a colon in front of a piece, before any quotation mark. A second colon asks for
an exact match, which is no different. -/
def readScope (piece : List Char) : Option (List Char) × List Char :=
  let handle := piece.takeWhile fun c => c != ':' && c != '"'
  match piece.dropWhile fun c => c != ':' && c != '"' with
  | ':' :: rest =>
    if !handle.isEmpty && handle.all isHandleChar then
      (some handle, match rest with
        | ':' :: rest => rest
        | rest => rest)
    else (none, piece)
  | _ => (none, piece)

/-- The text of a phrase: what stands between the quotation marks, without blanks at its ends. -/
def phraseText (piece : List Char) : List Char :=
  Text.trim (Text.trimEnd (· = '"') (Text.trimStart (· = '"') piece))

/-- The text of a term that is no phrase, and whether stars open its ends. -/
def readStars (ends : OpenEnds) (piece : List Char) : List Char × OpenEnds :=
  let left := ends.left || piece.head? = some '*'
  let piece := Text.trimStart (· = '*') piece
  let right := ends.right || piece.getLast? = some '*'
  (Text.trimEnd (· = '*') piece, ⟨left, right⟩)

/-- The term that a piece writes, if it has text. -/
def readTerm? (ends : OpenEnds) (piece : List Char) : Option Term :=
  let (exclude, piece) := readSign piece
  let (scope, piece) := readScope piece
  let scope := scope.map String.ofList
  match piece with
  | '"' :: _ =>
    let text := phraseText piece
    if text.isEmpty then none
    else some { text := String.ofList text, scope, exclude, phrase := true }
  | piece =>
    let (text, ends) := readStars ends piece
    if text.isEmpty then none
    else some
      { text := String.ofList text, scope, exclude, openLeft := ends.left, openRight := ends.right }

/-! ## Tokens -/

/-- The piece that joins two terms. -/
def joiner : List Char := ['O', 'R']

/-- The last token with one more alternative. -/
def joinLast (term : Term) : List Token → List Token
  | [] => [.term term]
  | [.term last] => [.group [last, term]]
  | [.group terms] => [.group (terms ++ [term])]
  | token :: tokens => token :: joinLast term tokens

/-- The tokens so far, and whether the next term joins the last of them. -/
structure Reading where
  tokens : List Token := []
  joining : Bool := false
  deriving DecidableEq, Repr

/-- One piece after the others. -/
def Reading.take (ends : OpenEnds) (reading : Reading) (piece : List Char) : Reading :=
  if piece = joiner then { reading with joining := !reading.tokens.isEmpty }
  else
    match readTerm? ends piece with
    | none => reading
    | some term =>
      if reading.joining then ⟨joinLast term reading.tokens, false⟩
      else ⟨reading.tokens ++ [.term term], false⟩

/-- The tokens of a query text. -/
def read (ends : OpenEnds) (text : String) : List Token :=
  ((Text.unquotedPieces text.toList).foldl (Reading.take ends) {}).tokens

end SiteSearch.Query
