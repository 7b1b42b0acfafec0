import HandleChallenge.Bytes.Basic

/-!
# UTF-8

Text is sent as UTF-8. Decoding runs one byte at a time: a lead byte promises a number of
continuation bytes and bounds the first of them, which rules out overlong forms, surrogates and
numbers above U+10FFFF. A byte that breaks its promise ends one ill-formed sequence and is read
again as a first byte, so each maximal ill-formed part counts once. The strict reading refuses
a text with an ill-formed part, the lossy one puts U+FFFD in its place.
-/

namespace HandleChallenge.Text.Utf8

/-- The bytes of a character. -/
def encodeChar (c : Char) : Bytes :=
  let n := c.toNat
  let tail (unit : Nat) : UInt8 := UInt8.ofNat (0x80 + n / unit % 0x40)
  if n < 0x80 then [UInt8.ofNat n]
  else if n < 0x800 then [UInt8.ofNat (0xC0 + n / 0x40), tail 1]
  else if n < 0x10000 then [UInt8.ofNat (0xE0 + n / 0x1000), tail 0x40, tail 1]
  else [UInt8.ofNat (0xF0 + n / 0x40000), tail 0x1000, tail 0x40, tail 1]

/-- The bytes of a sequence of characters. -/
def encodeList (cs : List Char) : Bytes := cs.flatMap encodeChar

/-- The bytes of a text. -/
def encode (text : String) : Bytes := encodeList text.toList

/-- A character of which the first bytes are read. -/
structure Pending where
  /-- Continuation bytes still owed. -/
  owed : Nat
  /-- The least next byte. -/
  low : UInt8
  /-- The greatest next byte. -/
  high : UInt8
  /-- The bits read so far. -/
  bits : Nat

/-- What one byte yields (a character, an ill-formed part, or nothing yet) and what is pending
after it. -/
abbrev Step := List (Option Char) × Option Pending

/-- A byte between characters. -/
def first (b : UInt8) : Step :=
  let n := b.toNat
  if n < 0x80 then ([some (Char.ofNat n)], none)
  else if n < 0xC2 then ([none], none)
  else if n < 0xE0 then ([], some ⟨1, 0x80, 0xBF, n - 0xC0⟩)
  else if n < 0xF0 then
    let low := if n = 0xE0 then 0xA0 else 0x80
    let high := if n = 0xED then 0x9F else 0xBF
    ([], some ⟨2, low, high, n - 0xE0⟩)
  else if n < 0xF5 then
    let low := if n = 0xF0 then 0x90 else 0x80
    let high := if n = 0xF4 then 0x8F else 0xBF
    ([], some ⟨3, low, high, n - 0xF0⟩)
  else ([none], none)

/-- A byte where a continuation byte is owed. -/
def next (p : Pending) (b : UInt8) : Step :=
  if p.low ≤ b ∧ b ≤ p.high then
    let bits := p.bits * 64 + (b.toNat - 0x80)
    if p.owed ≤ 1 then ([some (Char.ofNat bits)], none)
    else ([], some ⟨p.owed - 1, 0x80, 0xBF, bits⟩)
  else
    let (out, pending) := first b
    (none :: out, pending)

/-- The characters of a byte string, with `none` for each ill-formed part. -/
def scan : Option Pending → Bytes → List (Option Char)
  | none, [] => []
  | some _, [] => [none]
  | none, b :: bytes => (first b).1 ++ scan (first b).2 bytes
  | some p, b :: bytes => (next p b).1 ++ scan (next p b).2 bytes

/-- The text of a byte string; `none` when it is not UTF-8. -/
def decode? (bytes : Bytes) : Option String := ((scan none bytes).mapM id).map String.ofList

/-- The characters of a byte string, with U+FFFD for each ill-formed part. -/
def decodeLossyList (bytes : Bytes) : List Char := (scan none bytes).map (·.getD '\ufffd')

/-- The text of a byte string, with U+FFFD for each ill-formed part. -/
def decodeLossy (bytes : Bytes) : String := String.ofList (decodeLossyList bytes)

end HandleChallenge.Text.Utf8
