/-!
# Cutting and joining text

Text is cut at the characters of a class, at a leading part or at a first occurrence, and put
together again with a separator. `joinWith_splitAt` says that nothing is lost at a single
separator.
-/
namespace SiteSearch.Text

/-- Splits at every character of a class; a separator at an end, or two in a row, leave an empty
piece. There is always at least one piece. -/
def splitAt (p : Char → Bool) : List Char → List (List Char)
  | [] => [[]]
  | c :: rest =>
    match splitAt p rest with
    | [] => [[]]
    | piece :: pieces => if p c then [] :: piece :: pieces else (c :: piece) :: pieces

theorem splitAt_ne_nil (p : Char → Bool) : ∀ text : List Char, splitAt p text ≠ []
  | [] => by simp [splitAt]
  | c :: rest => by
    simp only [splitAt]
    split
    · simp
    · split <;> simp

/-- Pieces put together with a separator between each two. -/
def joinWith (separator : List Char) : List (List Char) → List Char
  | [] => []
  | [piece] => piece
  | piece :: next :: pieces => piece ++ separator ++ joinWith separator (next :: pieces)

theorem joinWith_nil_cons {separator : List Char} {pieces : List (List Char)}
    (h : pieces ≠ []) : joinWith separator ([] :: pieces) = separator ++ joinWith separator pieces := by
  cases pieces with
  | nil => exact absurd rfl h
  | cons next pieces => simp [joinWith]

theorem joinWith_cons_cons (separator : List Char) (c : Char) (piece : List Char) :
    ∀ pieces : List (List Char),
      joinWith separator ((c :: piece) :: pieces) = c :: joinWith separator (piece :: pieces)
  | [] => rfl
  | _ :: _ => by simp [joinWith]

/-- Splitting at one character and joining with it again gives the text back. -/
theorem joinWith_splitAt (separator : Char) :
    ∀ text : List Char, joinWith [separator] (splitAt (· = separator) text) = text
  | [] => rfl
  | c :: rest => by
    have ih := joinWith_splitAt separator rest
    have hne := splitAt_ne_nil (· = separator) rest
    cases hs : splitAt (· = separator) rest with
    | nil => exact absurd hs hne
    | cons piece pieces =>
      rw [hs] at ih
      by_cases hc : c = separator
      · simp [splitAt, hs, hc, joinWith_nil_cons, ih]
      · simp [splitAt, hs, hc, joinWith_cons_cons, ih]

/-- The text after a leading part, if it starts with that part. -/
def stripPrefix? : (start text : List Char) → Option (List Char)
  | [], text => some text
  | _ :: _, [] => none
  | s :: start, c :: text => if s = c then stripPrefix? start text else none

/-- Whether a text starts with a part. -/
def startsWith (start text : List Char) : Bool :=
  (stripPrefix? start text).isSome

/-- The text before and after the first character of a class, if it has one. -/
def cutAt (p : Char → Bool) : List Char → Option (List Char × List Char)
  | [] => none
  | c :: rest => if p c then some ([], rest) else (cutAt p rest).map fun (a, b) => (c :: a, b)

end SiteSearch.Text
