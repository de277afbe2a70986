import SiteSearch.Text.Bytes

/-!
# UTF-8

Text as bytes and back. Bytes are read one at a time: a reader stands between two characters or
within one, and then it knows which bytes may follow. A byte that may not follow ends the character
without success and is looked at anew, so what cannot be read is reported once for each longest
start of a character.
-/
namespace SiteSearch.Text

/-- The bytes of a text. -/
def utf8 (text : List Char) : Bytes :=
  text.flatMap String.utf8EncodeChar

/-- The bytes of a string. -/
def utf8Of (text : String) : Bytes := utf8 text.toList

/-- Where a reader of bytes stands. -/
inductive Utf8Place where
  /-- Between two characters. -/
  | between
  /-- Within a character: what its bytes have told so far, the least and the greatest byte that may
  follow, and how many bytes come after that one. -/
  | within (told low high more : Nat)
  deriving DecidableEq, Repr

/-- What the first byte of a character leads to; some bytes cannot be first. -/
def readFirst (b : Nat) : List (Option Char) × Utf8Place :=
  if b < 0x80 then ([some (Char.ofNat b)], .between)
  else if b < 0xC2 then ([none], .between)
  else if b < 0xE0 then ([], .within (b - 0xC0) 0x80 0xBF 0)
  else if b = 0xE0 then ([], .within 0 0xA0 0xBF 1)
  else if b = 0xED then ([], .within 0xD 0x80 0x9F 1)
  else if b < 0xF0 then ([], .within (b - 0xE0) 0x80 0xBF 1)
  else if b = 0xF0 then ([], .within 0 0x90 0xBF 2)
  else if b < 0xF4 then ([], .within (b - 0xF0) 0x80 0xBF 2)
  else if b = 0xF4 then ([], .within 4 0x80 0x8F 2)
  else ([none], .between)

/-- What the next byte leads to. -/
def readByte (place : Utf8Place) (b : Nat) : List (Option Char) × Utf8Place :=
  match place with
  | .between => readFirst b
  | .within told low high more =>
    if low ≤ b && b ≤ high then
      let told := told * 64 + (b - 0x80)
      match more with
      | 0 => ([some (Char.ofNat told)], .between)
      | more + 1 => ([], .within told 0x80 0xBF more)
    else
      let (items, place) := readFirst b
      (none :: items, place)

/-- The characters of some bytes, and `none` for each part that cannot be read. -/
def utf8Items (place : Utf8Place) : Bytes → List (Option Char)
  | [] =>
    match place with
    | .between => []
    | .within _ _ _ _ => [none]
  | b :: rest =>
    let (items, place) := readByte place b.toNat
    items ++ utf8Items place rest

/-- The text of some bytes, with a replacement character for each part that cannot be read. -/
def readUtf8Lossy (bytes : Bytes) : List Char :=
  (utf8Items .between bytes).map fun item => item.getD '\uFFFD'

/-- The text of some bytes, if all of them can be read. -/
def readUtf8? (bytes : Bytes) : Option (List Char) :=
  (utf8Items .between bytes).mapM id

end SiteSearch.Text
