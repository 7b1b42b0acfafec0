/-!
# Decimal numbers

`Decimal.print` writes a natural number without leading zeros. `Decimal.parse?` reads ASCII
digits, any number of them and with any leading zeros, behind at most one plus sign, and
refuses a number that reaches the bound. Main statement: a number below the bound reads back
from its own text (`parse?_print`).
-/

namespace HandleChallenge.Text.Decimal

def isDigit (c : Char) : Bool := '0' ≤ c && c ≤ '9'

/-- The value of a digit. -/
def value (c : Char) : Nat := c.toNat - '0'.toNat

/-- The digit of a value below ten. -/
def digit (n : Nat) : Char := Char.ofNat ('0'.toNat + n)

/-- The number that a sequence of digits writes. -/
def ofDigits (cs : List Char) : Nat := cs.foldl (fun n c => n * 10 + value c) 0

/-- The decimal digits of a number. -/
def print (n : Nat) : List Char :=
  if n < 10 then [digit n] else print (n / 10) ++ [digit (n % 10)]

/-- The decimal text of a number. -/
def text (n : Nat) : String := String.ofList (print n)

/-- A number below `bound` written in ASCII digits, at least one. -/
def digits? (bound : Nat) (cs : List Char) : Option Nat :=
  if cs ≠ [] ∧ cs.all isDigit ∧ ofDigits cs < bound then some (ofDigits cs) else none

/-- A number below `bound`, with or without a plus sign. -/
def parse? (bound : Nat) : List Char → Option Nat
  | '+' :: cs => digits? bound cs
  | cs => digits? bound cs

theorem value_digit {n : Nat} (h : n < 10) : value (digit n) = n := by
  have : ∀ m : Fin 10, value (digit m) = m := by decide
  exact this ⟨n, h⟩

theorem isDigit_digit {n : Nat} (h : n < 10) : isDigit (digit n) = true := by
  have : ∀ m : Fin 10, isDigit (digit m) = true := by decide
  exact this ⟨n, h⟩

@[simp] theorem ofDigits_append_singleton (cs : List Char) (c : Char) :
    ofDigits (cs ++ [c]) = ofDigits cs * 10 + value c := by
  simp [ofDigits]

@[simp] theorem ofDigits_print (n : Nat) : ofDigits (print n) = n := by
  fun_induction print n with
  | case1 n h => simp [ofDigits, value_digit h]
  | case2 n h ih =>
    rw [ofDigits_append_singleton, ih, value_digit (Nat.mod_lt _ (by decide))]
    omega

theorem print_ne_nil (n : Nat) : print n ≠ [] := by
  unfold print
  split <;> simp

@[simp] theorem all_isDigit_print (n : Nat) : (print n).all isDigit = true := by
  fun_induction print n with
  | case1 n h => simp [isDigit_digit h]
  | case2 n h ih => simp only [List.all_append, ih, List.all_cons, List.all_nil,
      isDigit_digit (Nat.mod_lt n (by decide : 0 < 10)), Bool.and_self]

theorem digits?_print {bound n : Nat} (h : n < bound) : digits? bound (print n) = some n := by
  simp [digits?, print_ne_nil, h]

/-- A number below the bound reads back from its own text. -/
theorem parse?_print {bound n : Nat} (h : n < bound) : parse? bound (print n) = some n := by
  unfold parse?
  split
  · rename_i cs hcs
    have := all_isDigit_print n
    rw [hcs] at this
    simp [isDigit] at this
  · exact digits?_print h

end HandleChallenge.Text.Decimal
