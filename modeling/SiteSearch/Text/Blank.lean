import SiteSearch.Text.CodeRange
import SiteSearch.Text.Pieces

/-!
# Blanks

`isBlank` is the property `White_Space` of Unicode 17. Blanks separate the pieces of a query, the
words of a document field and the hosts of an endpoint list. `trim` takes them off both ends and
`words` splits at them.
-/
namespace SiteSearch.Text

/-- Code points with the property `White_Space`. -/
def blankRanges : CodeRanges :=
  [(0x9, 0xD), (0x20, 0x20), (0x85, 0x85), (0xA0, 0xA0), (0x1680, 0x1680), (0x2000, 0x200A),
   (0x2028, 0x2029), (0x202F, 0x202F), (0x205F, 0x205F), (0x3000, 0x3000)]

/-- A character with the property `White_Space`. -/
def isBlank (c : Char) : Bool :=
  blankRanges.mem c.toNat

/-- The text without the characters of a class at its start. -/
def trimStart (p : Char → Bool) (text : List Char) : List Char :=
  text.dropWhile p

/-- The text without the characters of a class at its end. -/
def trimEnd (p : Char → Bool) (text : List Char) : List Char :=
  (text.reverse.dropWhile p).reverse

/-- The text without blanks at either end. -/
def trim (text : List Char) : List Char :=
  trimEnd isBlank (trimStart isBlank text)

/-- The non-empty pieces between blanks. -/
def words (text : List Char) : List (List Char) :=
  (splitAt isBlank text).filter (fun piece => !piece.isEmpty)

end SiteSearch.Text
