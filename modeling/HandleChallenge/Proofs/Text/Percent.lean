import HandleChallenge.Proofs.Text.Utf8
import HandleChallenge.Text.Percent

/-!
# Percent escapes undone

Every byte is read back from its escape, and one that stands for itself is no `%`. So a text is
read back from its escaped form, if no `%` is kept in it (`decodeText_encodeList`).
-/

namespace HandleChallenge.Text.Percent

variable {keep : Char → Bool}

/-- A character of ASCII is one byte. -/
theorem encodeChar_ofNat {b : UInt8} (h : b < 0x80) :
    Utf8.encodeChar (Char.ofNat b.toNat) = [b] := by
  have hb : b.toNat < 0x80 := UInt8.lt_iff_toNat_lt.1 h
  have hall : ∀ m : Fin 0x80, (Char.ofNat m).toNat = m.val := by decide
  unfold Utf8.encodeChar
  rw [hall ⟨b.toNat, hb⟩, if_pos hb, UInt8.ofNat_toNat]

/-- A byte is read back from its escape, or from the character that it is. -/
theorem decode_encodeByte (hkeep : keep '%' = false) (b : UInt8) (rest : List Char) :
    decode (encodeByte keep b ++ rest) = b :: decode rest := by
  unfold encodeByte
  split
  · rename_i h
    have hne : Char.ofNat b.toNat ≠ '%' := by
      intro hpercent
      rw [hpercent, hkeep] at h
      cases h.2
    rw [List.singleton_append, decode, encodeChar_ofNat h.1]
    · rfl
    · exact fun high low rest hpercent => absurd hpercent hne
  · show decode ('%' :: _ :: _ :: rest) = _
    rw [decode, Hex.byte?_upperDigit]

/-- The bytes of a text are read back from its escaped form. -/
theorem decode_encodeList (hkeep : keep '%' = false) (cs : List Char) :
    decode (encodeList keep cs) = Utf8.encodeList cs := by
  unfold encodeList
  induction Utf8.encodeList cs with
  | nil => rfl
  | cons b bytes ih => rw [List.flatMap_cons, decode_encodeByte hkeep, ih]

/-- A text is read back from its escaped form. -/
theorem decodeText_encodeList (hkeep : keep '%' = false) (cs : List Char) :
    decodeText (encodeList keep cs) = cs := by
  rw [decodeText, decode_encodeList hkeep, Utf8.decodeLossyList_encodeList]

end HandleChallenge.Text.Percent
