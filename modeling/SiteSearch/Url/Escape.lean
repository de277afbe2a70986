import SiteSearch.Text.Pieces
import SiteSearch.Text.Utf8

/-!
# Escapes

A part of an address may hold only some characters as they are. The bytes of any other character
are written as escapes, a percent sign with two digits each. Which characters those are depends on
the part: controls and everything beyond ASCII always, and a set of others.

A query mostly holds pairs of names and values: pairs are set apart by ampersands, a name from its
value by the first equals sign, and a plus sign stands for a blank.
-/
namespace SiteSearch.Url

open SiteSearch.Text (Bytes)

/-! ## Sets -/

/-- Escaped in a fragment. -/
def fragmentSet : List Char := [' ', '"', '<', '>', '`']

/-- Escaped in a query. -/
def querySet : List Char := [' ', '"', '#', '<', '>']

/-- Escaped in the query of a special scheme. -/
def specialQuerySet : List Char := '\'' :: querySet

/-- Escaped in a path. -/
def pathSet : List Char := ['#', '?', '\x7b', '\x7d'] ++ fragmentSet

/-- Escaped in a name or password. -/
def userSet : List Char := ['/', ':', ';', '=', '@', '[', '\\', ']', '^', '|'] ++ pathSet

/-- Escaped in a segment that is put behind a path. -/
def segmentSet : List Char := ['/', '%'] ++ pathSet

/-- Escaped in a segment that is put behind a path under a special scheme. -/
def specialSegmentSet : List Char := '\\' :: segmentSet

/-! ## Writing -/

/-- A byte as an escape. -/
def escapeByte (b : UInt8) : List Char :=
  ['%', Text.hexDigitUpper (b.toNat / 16), Text.hexDigitUpper (b.toNat % 16)]

/-- Whether a character is escaped. -/
def isEscaped (set : List Char) (c : Char) : Bool :=
  c.toNat < 0x20 || 0x7F ≤ c.toNat || set.contains c

/-- A character, escaped if it has to be. -/
def escapeChar (set : List Char) (c : Char) : List Char :=
  if isEscaped set c then (String.utf8EncodeChar c).flatMap escapeByte else [c]

/-- A text with escapes. -/
def escape (set : List Char) (text : List Char) : List Char :=
  text.flatMap (escapeChar set)

/-! ## Reading -/

/-- The number of a hexadecimal digit. -/
def byteDigit? (b : UInt8) : Option Nat :=
  Text.hexValue? (Char.ofNat b.toNat)

/-- The byte of an escape's two digits. -/
def escapedByte? (high low : UInt8) : Option UInt8 :=
  match byteDigit? high, byteDigit? low with
  | some h, some l => some (UInt8.ofNat (h * 16 + l))
  | _, _ => none

/-- Bytes with every escape replaced by its byte; a percent sign without two digits stays. -/
def unescape : Bytes → Bytes
  | [] => []
  | b :: rest =>
    if b = 0x25 then
      match rest with
      | high :: low :: tail =>
        match escapedByte? high low with
        | some byte => byte :: unescape tail
        | none => b :: unescape (high :: low :: tail)
      | short => b :: short
    else b :: unescape rest
termination_by bytes => bytes.length

/-! ## Pairs in a query -/

/-- The text of a name or value in a query. -/
def readFormPart (part : List Char) : String :=
  let spaced := part.map fun c => if c = '+' then ' ' else c
  String.ofList (Text.readUtf8Lossy (unescape (Text.utf8 spaced)))

/-- The pair of a piece of a query. -/
def readFormPair (piece : List Char) : String × String :=
  let (name, value) := (Text.cutAt (· = '=') piece).getD (piece, [])
  (readFormPart name, readFormPart value)

/-- The pairs of a query; an empty piece has none. -/
def readForm (query : String) : List (String × String) :=
  let pieces := (Text.splitAt (· = '&') query.toList).filter fun piece => !piece.isEmpty
  pieces.map readFormPair

/-- Whether a byte is written as it is in a name or value. -/
def isPlainFormByte (b : UInt8) : Bool :=
  let c := Char.ofNat b.toNat
  c.isAlphanum || c = '*' || c = '-' || c = '.' || c = '_'

/-- A byte of a name or value. -/
def writeFormByte (b : UInt8) : List Char :=
  if isPlainFormByte b then [Char.ofNat b.toNat]
  else if b = 0x20 then ['+']
  else escapeByte b

/-- A name or value for a query. -/
def writeFormPart (part : String) : List Char :=
  (Text.utf8Of part).flatMap writeFormByte

/-- A pair for a query. -/
def writeFormPair (pair : String × String) : List Char :=
  writeFormPart pair.1 ++ '=' :: writeFormPart pair.2

end SiteSearch.Url
