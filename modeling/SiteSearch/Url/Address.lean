import SiteSearch.Text.Bytes
import SiteSearch.Text.Pieces
import SiteSearch.Text.Unsigned

/-!
# Numeric hosts

Hosts that are numbers. An address of version 4 is read in the old ways too: with fewer than four
parts, the last one then filling what is left, and with parts in octal or hexadecimal. An address
of version 6 is eight pieces of sixteen bits, of which one run of zeros may be left out.
-/
namespace SiteSearch.Url

/-! ## Version 4 -/

/-- The number that digits of a base write. -/
def baseValue? (base : Nat) (digits : List Char) : Option Nat :=
  digits.foldlM
    (fun value c => (Text.hexValue? c).bind fun d => if d < base then some (value * base + d) else none)
    0

/-- The number of one part: decimal, octal behind a zero, hexadecimal behind `0x`. -/
def ipv4Number? : List Char → Option Nat
  | [] => none
  | '0' :: 'x' :: digits | '0' :: 'X' :: digits => baseValue? 16 digits
  | '0' :: d :: digits => baseValue? 8 (d :: digits)
  | digits => baseValue? 10 digits

/-- The parts of a host between dots, without an empty one at the end. -/
def dottedParts (host : List Char) : List (List Char) :=
  let parts := Text.splitAt (· = '.') host
  if parts.getLast? = some [] then parts.dropLast else parts

/-- Whether the last part of a host is a number, so that the host has to be an address. -/
def endsInNumber (host : List Char) : Bool :=
  match (dottedParts host).getLast? with
  | none => false
  | some last => (!last.isEmpty && last.all Char.isDigit) || (ipv4Number? last).isSome

/-- The address of some numbers, of which the last fills what the others leave. -/
def ipv4OfNumbers? (numbers : List Nat) : Option Nat :=
  match numbers.getLast? with
  | none => none
  | some last =>
    let leading := numbers.dropLast
    if leading.length ≤ 3 && leading.all (· ≤ 255) && last < Nat.pow 256 (4 - leading.length) then
      some (leading.foldl (fun value n => value * 256 + n) 0 * Nat.pow 256 (4 - leading.length)
        + last)
    else none

/-- Reads an address of version 4. -/
def ipv4? (host : List Char) : Option Nat := do
  let numbers ← (dottedParts host).mapM ipv4Number?
  ipv4OfNumbers? numbers

/-- An address of version 4 as four decimal numbers. -/
def ipv4Text (address : Nat) : List Char :=
  let part (n : Nat) : List Char := Text.decimal (n % 256)
  Text.joinWith ['.']
    [part (address / 16777216), part (address / 65536), part (address / 256), part address]

/-! ## Version 6 -/

/-- A piece: one to four hexadecimal digits. -/
def ipv6Piece? (digits : List Char) : Option Nat :=
  if digits.isEmpty || 4 < digits.length then none else baseValue? 16 digits

/-- A number up to 255 in decimal, without a zero in front. -/
def strictOctet? (digits : List Char) : Option Nat :=
  match digits with
  | '0' :: _ :: _ => none
  | _ => (Text.digitsValue? digits).bind fun n => if n ≤ 255 then some n else none

/-- The two pieces that four decimal numbers fill. -/
def dottedPieces? (text : List Char) : Option (List Nat) := do
  let octets ← (Text.splitAt (· = '.') text).mapM strictOctet?
  match octets with
  | [a, b, c, d] => some [a * 256 + b, c * 256 + d]
  | _ => none

/-- Pieces between colons; decimal numbers may stand for the last two. -/
def ipv6Pieces? : List (List Char) → Option (List Nat)
  | [] => some []
  | [last] =>
    if last.contains '.' then dottedPieces? last else (ipv6Piece? last).map fun piece => [piece]
  | first :: rest => do
    let piece ← ipv6Piece? first
    let pieces ← ipv6Pieces? rest
    some (piece :: pieces)

/-- The pieces on one side of the zeros that are left out. -/
def ipv6Side? (text : List Char) : Option (List Nat) :=
  if text.isEmpty then some [] else ipv6Pieces? (Text.splitAt (· = ':') text)

/-- The text before and after the first two colons in a row. -/
def cutDoubleColon : List Char → Option (List Char × List Char)
  | ':' :: ':' :: rest => some ([], rest)
  | c :: rest => (cutDoubleColon rest).map fun (before, after) => (c :: before, after)
  | [] => none

/-- Reads an address of version 6, without the brackets. -/
def ipv6? (text : List Char) : Option (List Nat) :=
  match cutDoubleColon text with
  | none => (ipv6Side? text).bind fun pieces => if pieces.length = 8 then some pieces else none
  | some (before, after) => do
    if before.contains '.' then none
    else
      let front ← ipv6Side? before
      let back ← ipv6Side? after
      if front.length + back.length ≤ 7 then
        some (front ++ List.replicate (8 - front.length - back.length) 0 ++ back)
      else none

/-- A run of zeros at the front of some pieces. -/
def zeroRun : List Nat → Nat
  | 0 :: rest => zeroRun rest + 1
  | _ => 0

/-- Start and length of the first longest run of zeros among pieces that begin at a place. -/
def longestZeros (start : Nat) : List Nat → Nat × Nat
  | [] => (start, 0)
  | piece :: rest =>
    let here := zeroRun (piece :: rest)
    let later := longestZeros (start + 1) rest
    if later.2 ≤ here then (start, here) else later

/-- Pieces in lowercase hexadecimal with colons between them. -/
def ipv6PiecesText (pieces : List Nat) : List Char :=
  Text.joinWith [':'] (pieces.map fun piece => Nat.toDigits 16 piece)

/-- An address of version 6; two or more zeros in a row are left out where the run is longest. -/
def ipv6Text (pieces : List Nat) : List Char :=
  let (start, length) := longestZeros 0 pieces
  if length < 2 then ipv6PiecesText pieces
  else
    ipv6PiecesText (pieces.take start) ++ [':', ':'] ++ ipv6PiecesText (pieces.drop (start + length))

end SiteSearch.Url
