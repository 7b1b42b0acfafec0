import HandleChallenge.Bytes.Basic

/-!
# Base64

The standard alphabet with canonical padding. `encode` writes groups of three bytes as four
characters and pads the last group; `decode?` accepts exactly such texts: no blanks, no missing
or misplaced padding, and no bits beyond the last byte.
-/

namespace HandleChallenge.Text.Base64

/-- The character of a value below sixty-four. -/
def digit (n : Nat) : Char :=
  if n < 26 then Char.ofNat (0x41 + n)
  else if n < 52 then Char.ofNat (0x61 + (n - 26))
  else if n < 62 then Char.ofNat (0x30 + (n - 52))
  else if n = 62 then '+'
  else '/'

/-- The value of a character of the alphabet. -/
def value? (c : Char) : Option Nat :=
  if 'A' ≤ c ∧ c ≤ 'Z' then some (c.toNat - 0x41)
  else if 'a' ≤ c ∧ c ≤ 'z' then some (c.toNat - 0x61 + 26)
  else if '0' ≤ c ∧ c ≤ '9' then some (c.toNat - 0x30 + 52)
  else if c = '+' then some 62
  else if c = '/' then some 63
  else none

/-- The characters of a byte string. -/
def encodeList : Bytes → List Char
  | [] => []
  | [a] =>
    let n := a.toNat * 16
    [digit (n / 64), digit (n % 64), '=', '=']
  | [a, b] =>
    let n := (a.toNat * 256 + b.toNat) * 4
    [digit (n / 4096), digit (n / 64 % 64), digit (n % 64), '=']
  | a :: b :: c :: rest =>
    let n := (a.toNat * 256 + b.toNat) * 256 + c.toNat
    digit (n / 262144) :: digit (n / 4096 % 64) :: digit (n / 64 % 64) :: digit (n % 64) ::
      encodeList rest

/-- The base64 text of a byte string. -/
def encode (bytes : Bytes) : String := String.ofList (encodeList bytes)

/-- The byte of a last group of two characters. -/
def lastOne? (a b : Char) : Option Bytes := do
  let n := (← value? a) * 64 + (← value? b)
  if n % 16 = 0 then some (Bytes.ofNat 1 (n / 16)) else none

/-- The bytes of a last group of three characters. -/
def lastTwo? (a b c : Char) : Option Bytes := do
  let n := ((← value? a) * 64 + (← value? b)) * 64 + (← value? c)
  if n % 4 = 0 then some (Bytes.ofNat 2 (n / 4)) else none

/-- The bytes of a full group. -/
def group? (a b c d : Char) : Option Bytes := do
  let n := (((← value? a) * 64 + (← value? b)) * 64 + (← value? c)) * 64 + (← value? d)
  some (Bytes.ofNat 3 n)

/-- The bytes that a sequence of characters writes. -/
def decodeList? : List Char → Option Bytes
  | [] => some []
  | [a, b, '=', '='] => lastOne? a b
  | [a, b, c, '='] => lastTwo? a b c
  | a :: b :: c :: d :: rest => do return (← group? a b c d) ++ (← decodeList? rest)
  | _ => none

/-- The bytes that a base64 text writes. -/
def decode? (text : String) : Option Bytes := decodeList? text.toList

end HandleChallenge.Text.Base64
