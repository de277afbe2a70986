import SiteSearch.Text.Pieces

/-!
# Words with stars

A pattern is a word in which every star stands for any text, also for none. `Glob.covers` cuts the
pattern at its stars and looks for the parts in the word from the left: the first part has to begin
the word, the last one has to end what is left, and each part between is taken where it occurs
first.
-/
namespace SiteSearch.Glob

/-- What follows the first occurrence of a part in a text. -/
def afterFirst? (part : List Char) : List Char → Option (List Char)
  | [] => if part.isEmpty then some [] else none
  | c :: text =>
    match Text.stripPrefix? part (c :: text) with
    | some rest => some rest
    | none => afterFirst? part text

/-- Whether a text ends with a part. -/
def endsWith (part text : List Char) : Bool :=
  Text.startsWith part.reverse text.reverse

/-- Whether the parts after a first star occur in what is left of a word, the last one at its
end. -/
def coversRest : List (List Char) → List Char → Bool
  | [], _ => true
  | [last], word => endsWith last word
  | part :: next :: parts, word =>
    match afterFirst? part word with
    | some rest => coversRest (next :: parts) rest
    | none => false

/-- Whether a word can be had from a pattern by putting texts in the places of its stars. -/
def covers (pattern word : List Char) : Bool :=
  match Text.splitAt (· = '*') pattern with
  | [] | [_] => pattern = word
  | first :: parts =>
    match Text.stripPrefix? first word with
    | some rest => coversRest parts rest
    | none => false

end SiteSearch.Glob
