import SiteSearch.Binary64.Shortest
import SiteSearch.Json.Basic
import SiteSearch.Text.Unsigned

/-!
# JSON text

`Json.render` writes a value without blanks. In a string, a quotation mark, a backslash and the
control characters are escaped and everything else stands for itself. A floating-point number is
written with the fewest digits that read back and always shows that it is one: by a point, or by
an exponent with its sign where it is far from one.
-/
namespace SiteSearch

/-- The lowercase hexadecimal digit of a number below sixteen. -/
def hexDigit (n : Nat) : Char :=
  Nat.digitChar n

/-- How a character is written inside a string. -/
def JsonText.escape (c : Char) : List Char :=
  if c = '"' then ['\\', '"']
  else if c = '\\' then ['\\', '\\']
  else if c.toNat = 0x08 then ['\\', 'b']
  else if c.toNat = 0x0C then ['\\', 'f']
  else if c = '\n' then ['\\', 'n']
  else if c = '\r' then ['\\', 'r']
  else if c = '\t' then ['\\', 't']
  else if c.toNat < 0x20 then
    ['\\', 'u', '0', '0', hexDigit (c.toNat / 16), hexDigit (c.toNat % 16)]
  else [c]

/-- A string between quotation marks. -/
def JsonText.quoted (s : String) : List Char :=
  '"' :: s.toList.flatMap JsonText.escape ++ ['"']

/-- The text of a decimal that is not zero. A number of at least one thousandth of a hundredth and
below ten to the sixteenth is written out; any other one has one digit before the point and an
exponent, which shows its sign either way. -/
def JsonText.decimal (d : Binary64.Decimal) : List Char :=
  let digits := Text.decimal d.digits
  let place : Int := digits.length + d.exponent
  if 0 ≤ d.exponent && place ≤ 16 then
    digits ++ List.replicate d.exponent.toNat '0' ++ ['.', '0']
  else if 0 < place && place ≤ 16 then
    digits.take place.toNat ++ '.' :: digits.drop place.toNat
  else if -5 < place && place ≤ 0 then
    ['0', '.'] ++ List.replicate (-place).toNat '0' ++ digits
  else
    let exponent : Int := place - 1
    let mantissa := match digits with
      | [] => []
      | [only] => [only]
      | first :: rest => first :: '.' :: rest
    let sign := if exponent < 0 then '-' else '+'
    mantissa ++ 'e' :: sign :: Text.decimal exponent.natAbs

/-- The text of a number. -/
def JsonNumber.render : JsonNumber → List Char
  | .whole (.ofNat n) => Text.decimal n
  | .whole (.negSucc n) => '-' :: Text.decimal (n + 1)
  | .real x =>
    let sign := if x.negative then ['-'] else []
    if x.magnitude = 0 then sign ++ ['0', '.', '0']
    else sign ++ JsonText.decimal (Binary64.shortest .toEven x)

namespace Json

mutual

/-- The compact text of a value. -/
def render : Json → List Char
  | null => ['n', 'u', 'l', 'l']
  | bool true => ['t', 'r', 'u', 'e']
  | bool false => ['f', 'a', 'l', 's', 'e']
  | number n => n.render
  | string s => JsonText.quoted s
  | array items => '[' :: renderItems items ++ [']']
  | object fields => '\x7b' :: renderFields fields ++ ['\x7d']

/-- Items with a comma between each two. -/
def renderItems : List Json → List Char
  | [] => []
  | [item] => render item
  | item :: next :: items => render item ++ ',' :: renderItems (next :: items)

/-- Fields with a comma between each two. -/
def renderFields : List (String × Json) → List Char
  | [] => []
  | [(name, value)] => JsonText.quoted name ++ ':' :: render value
  | (name, value) :: next :: fields =>
    JsonText.quoted name ++ ':' :: render value ++ ',' :: renderFields (next :: fields)

end

/-- The compact text of a value. -/
def compact (j : Json) : String :=
  String.ofList j.render

end Json

end SiteSearch
