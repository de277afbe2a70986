import SiteSearch.Binary64.Text
import SiteSearch.Json.Basic
import SiteSearch.Text.Unsigned

/-!
# Reading JSON text

A text is first cut into tokens, then the tokens are put together to a value. Both passes walk
over their input once with a small state, `LexState` and `Partial`, so what is read of a text
depends only on the state that the text before it left.

Of two fields with one name the later one is kept. What number a text writes and how deep values
may be nested are parameters of `Json.readWith?`. In `Json.parse?` values are nested at most 127 deep;
a whole number that fits 64 bits stays whole, and any other number becomes the floating-point number
that its first digits and its power of ten give.
-/
namespace SiteSearch

/-! ## Numbers -/

namespace JsonNumber

/-- Ten to a power, as a floating-point number. -/
def powerOfTen (n : Nat) : Binary64 :=
  Binary64.ofNat (Nat.pow 10 n)

/-- A number as it is being read: its digits so far, as a word, and the power of ten they are to be
multiplied with. Digits that no longer fit the word are left out. -/
structure Digits where
  significand : Nat
  exponent : Int
  deriving DecidableEq, Repr

/-- The largest word. -/
def wordMax : Nat := Nat.pow 2 64 - 1

/-- Takes the digits of the whole part while they fit a word; the others only move the point. -/
def wholeDigits : Digits → List Char → Digits
  | d, [] => d
  | d, c :: rest =>
    let next := d.significand * 10 + (c.toNat - '0'.toNat)
    if d.exponent = 0 && next ≤ wordMax then wholeDigits { d with significand := next } rest
    else wholeDigits { d with exponent := d.exponent + 1 } rest

/-- Takes the digits after the point while they fit a word, and ignores the others. -/
def fractionDigits : Digits → List Char → Digits
  | d, [] => d
  | d, c :: rest =>
    let next := d.significand * 10 + (c.toNat - '0'.toNat)
    if next ≤ wordMax then fractionDigits ⟨next, d.exponent - 1⟩ rest else d

/-- Divides by the largest power of ten there is until the exponent is small or nothing is left;
three divisions leave nothing of any word. -/
def divideDown : Nat → Binary64 → Int → Binary64 × Int
  | 0, x, exponent => (x, exponent)
  | fuel + 1, x, exponent =>
    if exponent < -308 && x.unsignedBits ≠ 0 then
      divideDown fuel (x.div (powerOfTen 308)) (exponent + 308)
    else (x, exponent)

/-- The floating-point number of a significand and a power of ten: one multiplication or division
by that power. It is refused when it is too large. -/
def scaleBy? (d : Digits) : Option Binary64 :=
  let x := Binary64.ofNat d.significand
  if 0 ≤ d.exponent then
    if d.exponent ≤ 308 then
      let product := x.mul (powerOfTen d.exponent.toNat)
      if product.isInfinite then none else some product
    else if d.significand = 0 then some x else none
  else
    let (y, exponent) := divideDown 3 x d.exponent
    if exponent < -308 then some y else some (y.div (powerOfTen (-exponent).toNat))

/-- The bound within which an exponent is kept. -/
def exponentMax : Nat := Nat.pow 2 31 - 1

/-- The exponent that a number ends with added to the one its digits have; past the bound only the
sign of the exponent counts. -/
def withExponent? (d : Digits) (negative : Bool) (n : Nat) : Option Binary64 :=
  if n ≤ exponentMax then
    let exponent := if negative then d.exponent - n else d.exponent + n
    scaleBy? { d with exponent := max (-(exponentMax : Int) - 1) (min exponent exponentMax) }
  else if d.significand ≠ 0 && !negative then none
  else some .zero

/-- The end of a number: nothing, or an exponent with at least one digit. -/
def readEnd? (d : Digits) : List Char → Option Binary64
  | [] => scaleBy? d
  | e :: rest =>
    if e = 'e' || e = 'E' then
      let (negative, digits) := match rest with
        | '-' :: rest => (true, rest)
        | '+' :: rest => (false, rest)
        | rest => (false, rest)
      (Text.digitsValue? digits).bind (withExponent? d negative)
    else none

/-- A whole number with its sign, or the floating-point number it becomes. -/
def ofWhole? (negative : Bool) (d : Digits) : Option JsonNumber :=
  if d.exponent ≠ 0 then
    (scaleBy? d).map fun x => .real (if negative then x.neg else x)
  else if !negative then some (.whole (.ofNat d.significand))
  else if d.significand = 0 || Nat.pow 2 63 < d.significand then
    some (.real (Binary64.ofRatio true d.significand 1))
  else some (.whole (-(d.significand : Int)))

/-- A number without its sign. No zero stands before another digit, and a point has digits on both
sides. -/
def readUnsigned? (negative : Bool) (text : List Char) : Option JsonNumber :=
  let (front, rest) := Binary64.spanDigits text
  if front.isEmpty || (1 < front.length && front.head? = some '0') then none
  else
    let d := wholeDigits ⟨0, 0⟩ front
    let asReal? (x? : Option Binary64) : Option JsonNumber :=
      x?.map fun x => .real (if negative then x.neg else x)
    match rest with
    | [] => ofWhole? negative d
    | '.' :: rest =>
      let (part, rest) := Binary64.spanDigits rest
      if part.isEmpty then none else asReal? (readEnd? (fractionDigits d part) rest)
    | rest => asReal? (readEnd? d rest)

/-- The number that a text writes. -/
def read? : List Char → Option JsonNumber
  | '-' :: text => readUnsigned? true text
  | text => readUnsigned? false text

end JsonNumber

/-! ## Tokens -/

/-- The marks, names and numbers that a JSON text is made of. -/
inductive JsonToken where
  | openArray
  | closeArray
  | openObject
  | closeObject
  | comma
  | colon
  | scalar (value : Json)
  deriving DecidableEq, Repr

namespace JsonToken

/-- Where the lexer stands. What has been collected of a token is held last character first. -/
inductive LexState where
  /-- Between tokens. -/
  | between
  /-- Inside a name such as `true`. -/
  | inWord (letters : List Char)
  /-- Inside a number. -/
  | inNumber (digits : List Char)
  /-- Inside a string. -/
  | inString (text : List Char)
  /-- After a backslash inside a string. -/
  | escaped (text : List Char)
  /-- Inside the four digits of a code; `high` is the first half of a pair that came before. -/
  | inCode (text : List Char) (high : Option Nat) (count : Nat) (code : Nat)
  /-- After the first half of a pair; the second half has to follow. -/
  | afterHigh (text : List Char) (high : Nat)
  /-- After a backslash that begins the second half of a pair. -/
  | afterHighEscape (text : List Char) (high : Nat)
  deriving DecidableEq, Repr

/-- The value of a name. -/
def ofWord? (letters : List Char) : Option JsonToken :=
  let name := String.ofList letters
  if name = "null" then some (.scalar .null)
  else if name = "true" then some (.scalar (.bool true))
  else if name = "false" then some (.scalar (.bool false))
  else none

/-- A character that a number can go on with. -/
def goesOnNumber (c : Char) : Bool :=
  c.isDigit || c = '.' || c = 'e' || c = 'E' || c = '+' || c = '-'

/-- The character that stands for itself or another one after a backslash. -/
def unescape? (c : Char) : Option Char :=
  if c = '"' then some '"'
  else if c = '\\' then some '\\'
  else if c = '/' then some '/'
  else if c = 'b' then some (Char.ofNat 0x08)
  else if c = 'f' then some (Char.ofNat 0x0C)
  else if c = 'n' then some '\n'
  else if c = 'r' then some '\r'
  else if c = 't' then some '\t'
  else none

/-- The value of a hexadecimal digit of either case. -/
def hexValue? (c : Char) : Option Nat :=
  if c.isDigit then some (c.toNat - '0'.toNat)
  else if 'a' ≤ c && c ≤ 'f' then some (c.toNat - 'a'.toNat + 10)
  else if 'A' ≤ c && c ≤ 'F' then some (c.toNat - 'A'.toNat + 10)
  else none

/-- The state after a code of four digits is complete. -/
def closeCode? (text : List Char) (high : Option Nat) (code : Nat) : Option LexState :=
  match high with
  | some first =>
    if 0xDC00 ≤ code && code ≤ 0xDFFF then
      some (.inString (Char.ofNat (0x10000 + (first - 0xD800) * 0x400 + (code - 0xDC00)) :: text))
    else none
  | none =>
    if 0xDC00 ≤ code && code ≤ 0xDFFF then none
    else if 0xD800 ≤ code && code ≤ 0xDBFF then some (.afterHigh text code)
    else some (.inString (Char.ofNat code :: text))

/-- What a character begins between tokens: a token of its own, or a longer one. -/
def start? (c : Char) : Option (LexState × List JsonToken) :=
  if c = ' ' || c = '\n' || c = '\t' || c = '\r' then some (.between, [])
  else if c = '[' then some (.between, [.openArray])
  else if c = ']' then some (.between, [.closeArray])
  else if c = '\x7b' then some (.between, [.openObject])
  else if c = '\x7d' then some (.between, [.closeObject])
  else if c = ',' then some (.between, [.comma])
  else if c = ':' then some (.between, [.colon])
  else if c = '"' then some (.inString [], [])
  else if c = '-' || c.isDigit then some (.inNumber [c], [])
  else if c.isLower then some (.inWord [c], [])
  else none

section

-- the number that a text writes, if it writes one
variable (number? : List Char → Option JsonNumber)

/-- The token that is complete when a state meets the end of a word or number. -/
def finish? : LexState → Option (List JsonToken)
  | .between => some []
  | .inWord letters => (ofWord? letters.reverse).map ([·])
  | .inNumber digits => (number? digits.reverse).map fun n => [.scalar (.number n)]
  | _ => none

/-- One character: the next state, and the tokens that it completes. -/
def step? (state : LexState) (c : Char) : Option (LexState × List JsonToken) :=
  match state with
  | .between => start? c
  | .inWord letters =>
    if c.isLower then some (.inWord (c :: letters), [])
    else do
      let done ← finish? number? (.inWord letters)
      let (next, more) ← start? c
      some (next, done ++ more)
  | .inNumber digits =>
    if goesOnNumber c then some (.inNumber (c :: digits), [])
    else do
      let done ← finish? number? (.inNumber digits)
      let (next, more) ← start? c
      some (next, done ++ more)
  | .inString text =>
    if c = '"' then some (.between, [.scalar (.string (String.ofList text.reverse))])
    else if c = '\\' then some (.escaped text, [])
    else if c.toNat < 0x20 then none
    else some (.inString (c :: text), [])
  | .escaped text =>
    if c = 'u' then some (.inCode text none 0 0, [])
    else (unescape? c).map fun u => (.inString (u :: text), [])
  | .inCode text high count code => do
    let digit ← hexValue? c
    let code := code * 16 + digit
    if count = 3 then (closeCode? text high code).map fun next => (next, [])
    else some (.inCode text high (count + 1) code, [])
  | .afterHigh text high => if c = '\\' then some (.afterHighEscape text high, []) else none
  | .afterHighEscape text high =>
    if c = 'u' then some (.inCode text (some high) 0 0, []) else none

/-- The tokens of a text, from a state on. -/
def lexFrom? : LexState → List Char → Option (List JsonToken)
  | state, [] => finish? number? state
  | state, c :: rest =>
    match step? number? state c with
    | none => none
    | some (next, done) => (lexFrom? next rest).map (done ++ ·)

end

end JsonToken

/-! ## Values -/

namespace Json

/-- An array or object that is not closed yet. -/
inductive Frame where
  /-- Items so far, last one first. -/
  | inArray (items : List Json)
  /-- Fields so far. -/
  | inObject (fields : List (String × Json))
  /-- Fields so far, and the name whose value is being read. -/
  | inField (fields : List (String × Json)) (name : String)
  deriving DecidableEq, Repr

/-- What the next token has to be. -/
inductive Expect where
  /-- A value. -/
  | value
  /-- A value, or the end of an array that has just been opened. -/
  | valueOrClose
  /-- A field name. -/
  | name
  /-- A field name, or the end of an object that has just been opened. -/
  | nameOrClose
  /-- The colon after a field name. -/
  | colon (name : String)
  /-- A comma, a closing bracket or the end of the text, after a value. -/
  | after (value : Json)
  deriving DecidableEq, Repr

/-- A value that is being read: what is open around it, and what has to come next. -/
structure Partial where
  frames : List Frame
  expect : Expect
  deriving DecidableEq, Repr

section

-- how many arrays and objects may be open at a time, if that is limited
variable (limit : Option Nat)

/-- The first token of a value. -/
def Partial.begin? (frames : List Frame) : JsonToken → Option Partial
  | .scalar value => some ⟨frames, .after value⟩
  | .openArray =>
    if limit.all (frames.length < ·) then some ⟨.inArray [] :: frames, .valueOrClose⟩ else none
  | .openObject =>
    if limit.all (frames.length < ·) then some ⟨.inObject [] :: frames, .nameOrClose⟩ else none
  | _ => none

/-- One token after the others. -/
def Partial.step? (p : Partial) (token : JsonToken) : Option Partial :=
  match p.expect, token, p.frames with
  | .valueOrClose, .closeArray, .inArray items :: frames =>
    some ⟨frames, .after (.array items.reverse)⟩
  | .valueOrClose, token, frames => Partial.begin? limit frames token
  | .value, token, frames => Partial.begin? limit frames token
  | .nameOrClose, .closeObject, .inObject fields :: frames =>
    some ⟨frames, .after (.object fields)⟩
  | .nameOrClose, .scalar (.string name), frames => some ⟨frames, .colon name⟩
  | .name, .scalar (.string name), frames => some ⟨frames, .colon name⟩
  | .colon name, .colon, .inObject fields :: frames => some ⟨.inField fields name :: frames, .value⟩
  | .after value, .comma, .inArray items :: frames =>
    some ⟨.inArray (value :: items) :: frames, .value⟩
  | .after value, .closeArray, .inArray items :: frames =>
    some ⟨frames, .after (.array (value :: items).reverse)⟩
  | .after value, .comma, .inField fields name :: frames =>
    some ⟨.inObject (putEntry name value fields) :: frames, .name⟩
  | .after value, .closeObject, .inField fields name :: frames =>
    some ⟨frames, .after (.object (putEntry name value fields))⟩
  | _, _, _ => none

/-- A value that is complete, with nothing open around it. -/
def Partial.result? (p : Partial) : Option Json :=
  match p.frames, p.expect with
  | [], .after value => some value
  | _, _ => none

/-- The value of a list of tokens. -/
def ofTokens? (tokens : List JsonToken) : Option Json :=
  (tokens.foldlM (Partial.step? limit) ⟨[], .value⟩).bind Partial.result?

end

/-- The value that a text writes, if it writes one, by a way to read numbers and within a limit. -/
def readWith? (number? : List Char → Option JsonNumber) (limit : Option Nat) (text : List Char) :
    Option Json :=
  (JsonToken.lexFrom? number? .between text).bind (ofTokens? limit)

/-- How many arrays and objects may be open at a time. -/
def depthLimit : Nat := 127

/-- The value that a text writes, if it writes one. -/
def parse? (text : List Char) : Option Json :=
  readWith? JsonNumber.read? (some depthLimit) text

end Json

end SiteSearch
