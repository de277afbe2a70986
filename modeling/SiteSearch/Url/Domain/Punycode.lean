import SiteSearch.Text.Pieces

/-!
# Labels beyond ASCII in ASCII

A label of a domain with characters beyond ASCII is written with its ASCII characters first and a
run of digits behind them. Each number in that run says how far to go on, counting places in the
label and code points, to the next character and its place. Numbers have as many digits as they
need; what ends one depends on a bias, which follows the numbers seen so far.
-/
namespace SiteSearch.Url.Punycode

/-! ## Digits -/

/-- The digit of a number below thirty-six: letters first. -/
def digit (n : Nat) : Char :=
  Char.ofNat (if n < 26 then 0x61 + n else 0x16 + n)

/-- The number of a digit. -/
def digitValue? (c : Char) : Option Nat :=
  let n := c.toNat
  if 0x61 ≤ n && n ≤ 0x7A then some (n - 0x61)
  else if 0x41 ≤ n && n ≤ 0x5A then some (n - 0x41)
  else if 0x30 ≤ n && n ≤ 0x39 then some (n - 0x16)
  else none

/-- The least digit at a place that does not end a number; places go up in steps of thirty-six. -/
def threshold (place bias : Nat) : Nat :=
  if place ≤ bias then 1 else min 26 (place - bias)

theorem threshold_pos (place bias : Nat) : 1 ≤ threshold place bias := by
  simp only [threshold]; split <;> omega

theorem threshold_le (place bias : Nat) : threshold place bias ≤ 26 := by
  simp only [threshold]; split <;> omega

/-- How often a number is divided before it is small, counted in steps of thirty-six, and what is
left of it. -/
def shrink (number : Nat) : Nat × Nat :=
  if 455 < number then
    let (steps, left) := shrink (number / 35)
    (steps + 36, left)
  else (0, number)
termination_by number
decreasing_by exact Nat.div_lt_self (by omega) (by omega)

/-- The bias after a number; `size` characters are there by then. -/
def nextBias (number size : Nat) (first : Bool) : Nat :=
  let damped := if first then number / 700 else number / 2
  let (steps, left) := shrink (damped + damped / size)
  steps + 36 * left / (left + 38)

/-! ## Writing -/

/-- The digits of a number. -/
def writeNumber (bias place number : Nat) : List Char :=
  let t := threshold place bias
  if number < t then [digit number]
  else
    digit (t + (number - t) % (36 - t)) :: writeNumber bias (place + 36) ((number - t) / (36 - t))
termination_by number
decreasing_by
  have h1 := threshold_pos place bias
  have h2 := threshold_le place bias
  exact Nat.lt_of_le_of_lt (Nat.div_le_self _ _) (by omega)

/-- How far writing has come. -/
structure Writing where
  digits : List Char := []
  /-- What has been counted since the last number. -/
  count : Nat := 0
  bias : Nat := 72
  /-- Characters that are written. -/
  written : Nat
  /-- Whether no number has been written yet. -/
  first : Bool := true

/-- One character of the label is passed while the characters with a code are written. -/
def Writing.pass (code : Nat) (w : Writing) (c : Char) : Writing :=
  if c.toNat < code then { w with count := w.count + 1 }
  else if c.toNat = code then
    { digits := w.digits ++ writeNumber w.bias 36 w.count
      count := 0
      bias := nextBias w.count (w.written + 1) w.first
      written := w.written + 1
      first := false }
  else w

/-- Writes the characters of a label with each code; `next` is the first code not looked at. -/
def writeCodes (label : List Char) : (next : Nat) → List Nat → Writing → Writing
  | _, [], w => w
  | next, code :: codes, w =>
    let reached := { w with count := w.count + (code - next) * (w.written + 1) }
    let passed := label.foldl (Writing.pass code) reached
    writeCodes label (code + 1) codes { passed with count := passed.count + 1 }

/-- A code put into a rising list, once. -/
def insertCode (code : Nat) : List Nat → List Nat
  | [] => [code]
  | other :: rest =>
    if code < other then code :: other :: rest
    else if code = other then other :: rest
    else other :: insertCode code rest

/-- A label in ASCII. -/
def encode (label : List Char) : List Char :=
  let plain := label.filter fun c => c.toNat < 0x80
  let codes := (label.map Char.toNat).foldr
    (fun code codes => if code < 0x80 then codes else insertCode code codes) []
  let written := writeCodes label 0x80 codes { written := plain.length }
  plain ++ (if plain.isEmpty then [] else ['-']) ++ written.digits

/-! ## Reading -/

/-- Numbers from here on are too large to be read. -/
def numberLimit : Nat := Nat.pow 2 32

/-- Adds the number at the front of some digits to what has been counted. -/
def readNumber? (bias place weight count : Nat) : List Char → Option (Nat × List Char)
  | [] => none
  | c :: rest =>
    match digitValue? c with
    | none => none
    | some d =>
      let total := count + d * weight
      let t := threshold place bias
      if numberLimit ≤ total then none
      else if d < t then some (total, rest)
      else if numberLimit ≤ weight * (36 - t) then none
      else readNumber? bias (place + 36) (weight * (36 - t)) total rest

/-- A number takes a digit at least. -/
theorem length_of_readNumber? {bias place weight count total : Nat} {digits rest : List Char}
    (h : readNumber? bias place weight count digits = some (total, rest)) :
    rest.length < digits.length := by
  induction digits generalizing place weight count with
  | nil => simp [readNumber?] at h
  | cons c tail ih =>
    rw [readNumber?] at h
    split at h
    · simp at h
    · dsimp only at h
      split at h
      · simp at h
      · split at h
        · simp only [Option.some.injEq, Prod.mk.injEq] at h
          simp [← h.2]
        · split at h
          · simp at h
          · have := ih h
            simp only [List.length_cons]
            omega

/-- Puts the characters that digits stand for into a label. -/
def readCodes? (bias code place : Nat) (label : List Char) (digits : List Char) :
    Option (List Char) :=
  if digits.isEmpty then some label
  else
    match _h : readNumber? bias 36 1 place digits with
    | none => none
    | some (total, rest) =>
      let size := label.length + 1
      let code := code + total / size
      if code.isValidChar then
        readCodes? (nextBias (total - place) size (place = 0))
          code (total % size + 1) (label.insertIdx (total % size) (Char.ofNat code)) rest
      else none
termination_by digits.length
decreasing_by exact length_of_readNumber? _h

/-- A text cut at its last hyphen; with nothing before one, all is behind. -/
def cutLastHyphen (text : List Char) : List Char × List Char :=
  let backwards := text.reverse
  let before := ((backwards.dropWhile (· != '-')).drop 1).reverse
  if before.isEmpty then ([], text) else (before, (backwards.takeWhile (· != '-')).reverse)

/-- The label that is written in ASCII. -/
def decode? (text : List Char) : Option (List Char) :=
  let (plain, digits) := cutLastHyphen text
  readCodes? 72 0x80 0 plain digits

end SiteSearch.Url.Punycode
