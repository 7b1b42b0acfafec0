/-!
# ASCII letters and case

Keywords, parameter names and algorithm names are compared without regard to ASCII case; every
other character stands for itself.
-/

namespace HandleChallenge.Text

/-- The text with ASCII capitals made small. -/
def lowercase (text : String) : String := String.ofList (text.toList.map Char.toLower)

/-- Equality of character sequences up to ASCII case. -/
def sameIgnoringCase (a b : List Char) : Bool := a.map Char.toLower == b.map Char.toLower

/-- A second pass changes nothing. -/
theorem toLower_toLower (c : Char) : c.toLower.toLower = c.toLower := by
  unfold Char.toLower
  split
  · rename_i h
    split
    · rename_i h'
      simp only [ge_iff_le, UInt32.le_iff_toNat_le, UInt32.toNat_add] at h h'
      have : ('a'.val - 'A'.val).toNat = 32 := by decide
      have : 'A'.val.toNat = 65 := by decide
      have : 'Z'.val.toNat = 90 := by decide
      omega
    · rfl
  · simp

@[simp] theorem toList_lowercase (text : String) :
    (lowercase text).toList = text.toList.map Char.toLower := by
  simp [lowercase]

@[simp] theorem lowercase_lowercase (text : String) :
    lowercase (lowercase text) = lowercase text := by
  have htwice : Char.toLower ∘ Char.toLower = Char.toLower := funext toLower_toLower
  rw [lowercase, toList_lowercase, List.map_map, htwice, lowercase]

@[simp] theorem sameIgnoringCase_iff {a b : List Char} :
    sameIgnoringCase a b = true ↔ a.map Char.toLower = b.map Char.toLower := by
  simp [sameIgnoringCase]

end HandleChallenge.Text
