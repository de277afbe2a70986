import SiteSearch.Text.Bytes

/-!
# SHA-256

The digest of some bytes. The message is padded to whole blocks of sixty-four bytes; each block
changes a state of eight words, and the digest is the last state. Words are big-endian.

`Hmac.code` is the digest of a message under a key: the message is digested behind the key in one
disguise, and that digest behind the key in another.
-/
namespace SiteSearch.Sha256

open SiteSearch.Text (Bytes)

/-- The words that the rounds add: thirty-two bits of the cube roots of the first primes. -/
def roundWords : List UInt32 :=
  [ 0x428a2f98, 0x71374491, 0xb5c0fbcf, 0xe9b5dba5, 0x3956c25b, 0x59f111f1, 0x923f82a4, 0xab1c5ed5,
    0xd807aa98, 0x12835b01, 0x243185be, 0x550c7dc3, 0x72be5d74, 0x80deb1fe, 0x9bdc06a7, 0xc19bf174,
    0xe49b69c1, 0xefbe4786, 0x0fc19dc6, 0x240ca1cc, 0x2de92c6f, 0x4a7484aa, 0x5cb0a9dc, 0x76f988da,
    0x983e5152, 0xa831c66d, 0xb00327c8, 0xbf597fc7, 0xc6e00bf3, 0xd5a79147, 0x06ca6351, 0x14292967,
    0x27b70a85, 0x2e1b2138, 0x4d2c6dfc, 0x53380d13, 0x650a7354, 0x766a0abb, 0x81c2c92e, 0x92722c85,
    0xa2bfe8a1, 0xa81a664b, 0xc24b8b70, 0xc76c51a3, 0xd192e819, 0xd6990624, 0xf40e3585, 0x106aa070,
    0x19a4c116, 0x1e376c08, 0x2748774c, 0x34b0bcb5, 0x391c0cb3, 0x4ed8aa4a, 0x5b9cca4f, 0x682e6ff3,
    0x748f82ee, 0x78a5636f, 0x84c87814, 0x8cc70208, 0x90befffa, 0xa4506ceb, 0xbef9a3f7, 0xc67178f2 ]

/-- The state of eight words. -/
structure State where
  a : UInt32
  b : UInt32
  c : UInt32
  d : UInt32
  e : UInt32
  f : UInt32
  g : UInt32
  h : UInt32
  deriving DecidableEq, Repr

/-- The state before the first block: thirty-two bits of the square roots of the first primes. -/
def State.first : State :=
  ⟨0x6a09e667, 0xbb67ae85, 0x3c6ef372, 0xa54ff53a, 0x510e527f, 0x9b05688c, 0x1f83d9ab, 0x5be0cd19⟩

/-- A word turned to the right by some bits. -/
def rotate (w : UInt32) (n : UInt32) : UInt32 :=
  (w >>> n) ||| (w <<< (32 - n))

/-! ## Message -/

/-- A word as four bytes. -/
def wordBytes (w : UInt32) : Bytes :=
  [(w >>> 24).toUInt8, (w >>> 16).toUInt8, (w >>> 8).toUInt8, w.toUInt8]

/-- A length of sixty-four bits as eight bytes. -/
def lengthBytes (bits : Nat) : Bytes :=
  wordBytes (UInt32.ofNat (bits / Nat.pow 2 32)) ++ wordBytes (UInt32.ofNat bits)

/-- The zeros between the end mark and the length. -/
def paddingZeros (size : Nat) : Nat :=
  (119 - size % 64) % 64

/-- The message with an end mark, zeros and its length in bits. -/
def pad (message : Bytes) : Bytes :=
  message ++ [0x80] ++ List.replicate (paddingZeros message.length) 0
    ++ lengthBytes (message.length * 8)

/-- The padded message has whole blocks. -/
theorem length_pad (message : Bytes) : (pad message).length % 64 = 0 := by
  simp [pad, lengthBytes, wordBytes, paddingZeros]
  omega

/-- The words of some bytes, four bytes each. -/
def words : Bytes → List UInt32
  | a :: b :: c :: d :: rest =>
    ((a.toUInt32 <<< 24) ||| (b.toUInt32 <<< 16) ||| (c.toUInt32 <<< 8) ||| d.toUInt32) :: words rest
  | _ => []

/-- Pieces of a length, the last one perhaps shorter; `steps` is how many there are at most. -/
def chunks {α : Type} (size : Nat) : (steps : Nat) → List α → List (List α)
  | 0, _ => []
  | _, [] => []
  | steps + 1, items => items.take size :: chunks size steps (items.drop size)

/-! ## Rounds -/

/-- The next word of a schedule from its last sixteen. -/
def nextWord : List UInt32 → UInt32
  | [w0, w1, _, _, _, _, _, _, _, w9, _, _, _, _, w14, _] =>
    let s0 := rotate w1 7 ^^^ rotate w1 18 ^^^ (w1 >>> 3)
    let s1 := rotate w14 17 ^^^ rotate w14 19 ^^^ (w14 >>> 10)
    w0 + s0 + w9 + s1
  | _ => 0

/-- One round. -/
def round (s : State) (k w : UInt32) : State :=
  let s1 := rotate s.e 6 ^^^ rotate s.e 11 ^^^ rotate s.e 25
  let choice := (s.e &&& s.f) ^^^ ((~~~ s.e) &&& s.g)
  let t1 := s.h + s1 + choice + k + w
  let s0 := rotate s.a 2 ^^^ rotate s.a 13 ^^^ rotate s.a 22
  let majority := (s.a &&& s.b) ^^^ (s.a &&& s.c) ^^^ (s.b &&& s.c)
  ⟨t1 + (s0 + majority), s.a, s.b, s.c, s.d + t1, s.e, s.f, s.g⟩

/-- The rounds of a block: the window has the next sixteen words of the schedule. -/
def rounds : (roundWords : List UInt32) → (window : List UInt32) → State → State
  | k :: ks, w :: window, s => rounds ks (window ++ [nextWord (w :: window)]) (round s k w)
  | _, _, s => s

/-- The state after a block. -/
def compress (s : State) (block : List UInt32) : State :=
  let t := rounds roundWords block s
  ⟨s.a + t.a, s.b + t.b, s.c + t.c, s.d + t.d, s.e + t.e, s.f + t.f, s.g + t.g, s.h + t.h⟩

/-- The digest of a message. -/
def digest (message : Bytes) : Bytes :=
  let all := words (pad message)
  let s := (chunks 16 all.length all).foldl compress .first
  [s.a, s.b, s.c, s.d, s.e, s.f, s.g, s.h].flatMap wordBytes

/-- A digest has thirty-two bytes. -/
theorem length_digest (message : Bytes) : (digest message).length = 32 := by
  simp [digest, wordBytes]

end SiteSearch.Sha256

/-! ## Keyed digests -/

namespace SiteSearch.Hmac

open SiteSearch.Text (Bytes)

/-- The bytes of a block. -/
def blockSize : Nat := 64

/-- A key as long as a block: a longer one is digested first, a shorter one gets zeros. -/
def blockKey (key : Bytes) : Bytes :=
  let short := if blockSize < key.length then Sha256.digest key else key
  short ++ List.replicate (blockSize - short.length) 0

/-- A key is brought to the length of a block. -/
theorem length_blockKey (key : Bytes) : (blockKey key).length = blockSize := by
  simp only [blockKey]
  split
  · simp [Sha256.length_digest, blockSize]
  · rename_i h
    simp only [List.length_append, List.length_replicate]
    omega

/-- A block with every byte changed by a mask. -/
def masked (mask : UInt8) (block : Bytes) : Bytes :=
  block.map (· ^^^ mask)

/-- The code of a message under a key. -/
def code (key message : Bytes) : Bytes :=
  let block := blockKey key
  Sha256.digest (masked 0x5c block ++ Sha256.digest (masked 0x36 block ++ message))

end SiteSearch.Hmac
