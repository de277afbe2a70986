import SiteSearch.Text.Blank

/-!
# Cutting text at blanks outside quotation marks

What users type and what the engine is sent are both cut at blanks, but not between quotation
marks. Every quotation mark opens or closes a quotation; one that is never closed reaches to the
end.
-/
namespace SiteSearch.Text

/-- Puts a character in front of the first piece. -/
def extendFirst (c : Char) : List (List Char) → List (List Char)
  | [] => [[c]]
  | piece :: pieces => (c :: piece) :: pieces

/-- Cuts a text at the blanks outside quotation marks; where two cuts meet, the piece is empty. -/
def cutUnquoted : (quoted : Bool) → List Char → List (List Char)
  | _, [] => [[]]
  | quoted, c :: rest =>
    if c = '"' then extendFirst c (cutUnquoted (!quoted) rest)
    else if isBlank c && !quoted then [] :: cutUnquoted quoted rest
    else extendFirst c (cutUnquoted quoted rest)

/-- The non-empty pieces of a text. -/
def unquotedPieces (text : List Char) : List (List Char) :=
  (cutUnquoted false text).filter (!·.isEmpty)

/-- Whether a text leaves a quotation open. -/
def leavesOpen (text : List Char) : Bool :=
  text.foldl (fun quoted c => if c = '"' then !quoted else quoted) false

end SiteSearch.Text
