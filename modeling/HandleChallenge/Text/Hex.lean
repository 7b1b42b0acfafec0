/-!
# Hexadecimal digits
-/

namespace HandleChallenge.Text.Hex

/-- The capital digit of a value below sixteen. -/
def upperDigit (n : Nat) : Char := Char.ofNat (if n < 10 then 0x30 + n else 0x37 + n)

/-- The small digit of a value below sixteen. -/
def lowerDigit (n : Nat) : Char := Char.ofNat (if n < 10 then 0x30 + n else 0x57 + n)

/-- The value of a digit in either case. -/
def value? (c : Char) : Option Nat :=
  if '0' ≤ c ∧ c ≤ '9' then some (c.toNat - 0x30)
  else if 'A' ≤ c ∧ c ≤ 'F' then some (c.toNat - 0x37)
  else if 'a' ≤ c ∧ c ≤ 'f' then some (c.toNat - 0x57)
  else none

/-- The small digits of a number, without leading zeros. -/
def print (n : Nat) : List Char :=
  if n < 16 then [lowerDigit n] else print (n / 16) ++ [lowerDigit (n % 16)]

/-- The two small digits of a byte. -/
def printByte (b : UInt8) : List Char := [lowerDigit (b.toNat / 16), lowerDigit (b.toNat % 16)]

/-- The byte of two digits. -/
def byte? (high low : Char) : Option UInt8 := do
  return UInt8.ofNat ((← value? high) * 16 + (← value? low))

/-- The small digits of bytes. -/
def printBytes (bytes : List UInt8) : List Char := bytes.flatMap printByte

/-- The bytes of pairs of digits. -/
def readBytes? : List Char → Option (List UInt8)
  | [] => some []
  | high :: low :: rest => do return (← byte? high low) :: (← readBytes? rest)
  | [_] => none

theorem value?_upperDigit {n : Nat} (h : n < 16) : value? (upperDigit n) = some n := by
  have : ∀ m : Fin 16, value? (upperDigit m) = some m.val := by decide
  exact this ⟨n, h⟩

theorem value?_lowerDigit {n : Nat} (h : n < 16) : value? (lowerDigit n) = some n := by
  have : ∀ m : Fin 16, value? (lowerDigit m) = some m.val := by decide
  exact this ⟨n, h⟩

theorem byte?_upperDigit (b : UInt8) :
    byte? (upperDigit (b.toNat / 16)) (upperDigit (b.toNat % 16)) = some b := by
  have hb := b.toNat_lt
  rw [byte?, value?_upperDigit (by omega), value?_upperDigit (by omega)]
  show some (UInt8.ofNat (b.toNat / 16 * 16 + b.toNat % 16)) = some b
  rw [Nat.div_add_mod', UInt8.ofNat_toNat]

end HandleChallenge.Text.Hex
