/-!
# Byte strings and big-endian numbers

A byte string is a list of bytes. `Bytes.toNat` reads it as a big-endian number and
`Bytes.ofNat` writes a number in a given width. Main statement: a byte string is the writing of
its own number (`ofNat_toNat`).
-/

namespace HandleChallenge

/-- A string of bytes. -/
abbrev Bytes := List UInt8

namespace Bytes

/-- The number whose base-256 digits, most significant first, are the bytes. -/
def toNat (bytes : Bytes) : Nat := bytes.foldl (fun n b => n * 256 + b.toNat) 0

/-- The `width` low base-256 digits of a number, most significant first. -/
def ofNat : (width : Nat) → Nat → Bytes
  | 0, _ => []
  | width + 1, n => ofNat width (n / 256) ++ [UInt8.ofNat n]

/-- A number without leading zeros; zero is one zero byte. -/
def minimal (n : Nat) : Bytes := ofNat (n.log2 / 8 + 1) n

@[simp] theorem toNat_nil : toNat [] = 0 := rfl

@[simp] theorem toNat_append_singleton (bytes : Bytes) (b : UInt8) :
    toNat (bytes ++ [b]) = toNat bytes * 256 + b.toNat := by
  simp [toNat]

@[simp] theorem length_ofNat (width n : Nat) : (ofNat width n).length = width := by
  induction width generalizing n with
  | zero => rfl
  | succ width ih => simp [ofNat, ih]

/-- A byte string is the writing of its own number in its own width. -/
theorem ofNat_toNat (bytes : Bytes) : ofNat bytes.length (toNat bytes) = bytes := by
  rw [← List.reverse_reverse bytes]
  induction bytes.reverse with
  | nil => rfl
  | cons b r ih =>
    rw [List.reverse_cons, List.length_append, List.length_singleton, toNat_append_singleton,
      ofNat]
    have hb := b.toNat_lt
    have hdiv : (toNat r.reverse * 256 + b.toNat) / 256 = toNat r.reverse := by omega
    rw [hdiv, ih]
    congr 2
    apply UInt8.toNat_inj.1
    simp

end Bytes

end HandleChallenge
