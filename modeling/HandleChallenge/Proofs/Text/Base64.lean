import HandleChallenge.Bytes.Lemmas
import HandleChallenge.Proofs.Text.Fields

/-!
# Base64 is read exactly

Padding is in its place and the bits behind the last byte are zero, so that every group of characters
is the writing of its own bytes. Main statement: a text is read as a byte string exactly if it is
what is written of it (`decodeList?_eq_some_iff`), and no byte string has two texts.
-/

namespace HandleChallenge.Text.Base64

variable {a b c d : Char} {bytes : Bytes}

/-- A character of the alphabet is the digit of its value. -/
theorem digit_of_value? {n : Nat} (h : value? c = some n) : n < 64 ∧ digit n = c := by
  have hback (k : Nat) (hk : k = c.toNat) : Char.ofNat k = c := by rw [hk, Char.ofNat_toNat]
  unfold value? at h
  split at h
  · rename_i hrange
    have hlow : 65 ≤ c.toNat := hrange.1
    have hhigh : c.toNat ≤ 90 := hrange.2
    cases h
    refine ⟨by omega, ?_⟩
    rw [digit, if_pos (by omega), hback _ (by omega)]
  split at h
  · rename_i hrange
    have hlow : 97 ≤ c.toNat := hrange.1
    have hhigh : c.toNat ≤ 122 := hrange.2
    cases h
    refine ⟨by omega, ?_⟩
    rw [digit, if_neg (by omega), if_pos (by omega), hback _ (by omega)]
  split at h
  · rename_i hrange
    have hlow : 48 ≤ c.toNat := hrange.1
    have hhigh : c.toNat ≤ 57 := hrange.2
    cases h
    refine ⟨by omega, ?_⟩
    rw [digit, if_neg (by omega), if_neg (by omega), if_pos (by omega), hback _ (by omega)]
  split at h
  · rename_i hplus
    cases h
    exact ⟨by decide, hplus.symm⟩
  split at h
  · rename_i hslash
    cases h
    exact ⟨by decide, hslash.symm⟩
  · cases h

/-! ### Groups by their number -/

theorem encodeList_one (h : bytes.length = 1) :
    encodeList bytes =
      [digit (Bytes.toNat bytes * 16 / 64), digit (Bytes.toNat bytes * 16 % 64), '=', '='] := by
  obtain ⟨first, rfl⟩ := List.length_eq_one_iff.1 h
  simp [encodeList, Bytes.toNat]

theorem encodeList_two (h : bytes.length = 2) :
    encodeList bytes =
      [digit (Bytes.toNat bytes * 4 / 4096), digit (Bytes.toNat bytes * 4 / 64 % 64),
        digit (Bytes.toNat bytes * 4 % 64), '='] := by
  obtain ⟨first, second, rfl⟩ := List.length_eq_two.1 h
  simp [encodeList, Bytes.toNat]

theorem encodeList_three (h : bytes.length = 3) (more : Bytes) :
    encodeList (bytes ++ more) =
      digit (Bytes.toNat bytes / 262144) :: digit (Bytes.toNat bytes / 4096 % 64) ::
        digit (Bytes.toNat bytes / 64 % 64) :: digit (Bytes.toNat bytes % 64) ::
          encodeList more := by
  obtain ⟨first, second, third, rfl⟩ := List.length_eq_three.1 h
  simp [encodeList, Bytes.toNat]

/-! ### Groups that are read -/

/-- A last group of two characters is the writing of one byte. -/
theorem encodeList_of_lastOne? (h : lastOne? a b = some bytes) :
    encodeList bytes = [a, b, '=', '='] := by
  obtain ⟨x, hx, h⟩ := Option.bind_eq_some_iff.1 h
  obtain ⟨y, hy, h⟩ := Option.bind_eq_some_iff.1 h
  obtain ⟨hbits, hbytes⟩ := Option.ite_none_right_eq_some.1 h
  obtain ⟨hxlt, rfl⟩ := digit_of_value? hx
  obtain ⟨hylt, rfl⟩ := digit_of_value? hy
  generalize hn : x * 64 + y = n at hbits hbytes
  cases hbytes
  rw [encodeList_one (Bytes.length_ofNat 1 _), Bytes.toNat_ofNat (show n / 16 < 256 by omega),
    Nat.div_mul_cancel (Nat.dvd_of_mod_eq_zero hbits), show n / 64 = x by omega,
    show n % 64 = y by omega]

/-- A last group of three characters is the writing of two bytes. -/
theorem encodeList_of_lastTwo? (h : lastTwo? a b c = some bytes) :
    encodeList bytes = [a, b, c, '='] := by
  obtain ⟨x, hx, h⟩ := Option.bind_eq_some_iff.1 h
  obtain ⟨y, hy, h⟩ := Option.bind_eq_some_iff.1 h
  obtain ⟨z, hz, h⟩ := Option.bind_eq_some_iff.1 h
  obtain ⟨hbits, hbytes⟩ := Option.ite_none_right_eq_some.1 h
  obtain ⟨hxlt, rfl⟩ := digit_of_value? hx
  obtain ⟨hylt, rfl⟩ := digit_of_value? hy
  obtain ⟨hzlt, rfl⟩ := digit_of_value? hz
  generalize hn : (x * 64 + y) * 64 + z = n at hbits hbytes
  cases hbytes
  rw [encodeList_two (Bytes.length_ofNat 2 _), Bytes.toNat_ofNat (show n / 4 < 65536 by omega),
    Nat.div_mul_cancel (Nat.dvd_of_mod_eq_zero hbits), show n / 4096 = x by omega,
    show n / 64 % 64 = y by omega, show n % 64 = z by omega]

/-- A full group is the writing of three bytes. -/
theorem encodeList_of_group? (h : group? a b c d = some bytes) (more : Bytes) :
    encodeList (bytes ++ more) = a :: b :: c :: d :: encodeList more := by
  obtain ⟨x, hx, h⟩ := Option.bind_eq_some_iff.1 h
  obtain ⟨y, hy, h⟩ := Option.bind_eq_some_iff.1 h
  obtain ⟨z, hz, h⟩ := Option.bind_eq_some_iff.1 h
  obtain ⟨w, hw, hbytes⟩ := Option.bind_eq_some_iff.1 h
  obtain ⟨hxlt, rfl⟩ := digit_of_value? hx
  obtain ⟨hylt, rfl⟩ := digit_of_value? hy
  obtain ⟨hzlt, rfl⟩ := digit_of_value? hz
  obtain ⟨hwlt, rfl⟩ := digit_of_value? hw
  generalize hn : ((x * 64 + y) * 64 + z) * 64 + w = n at hbytes
  cases hbytes
  rw [encodeList_three (Bytes.length_ofNat 3 _), Bytes.toNat_ofNat (show n < 16777216 by omega),
    show n / 262144 = x by omega, show n / 4096 % 64 = y by omega,
    show n / 64 % 64 = z by omega, show n % 64 = w by omega]

/-! ### Texts that are read -/

/-- A text that is read is what is written of the bytes. -/
theorem encodeList_of_decodeList? {cs : List Char} (h : decodeList? cs = some bytes) :
    encodeList bytes = cs := by
  fun_induction decodeList? cs generalizing bytes with
  | case1 =>
    cases h
    rfl
  | case2 a b => exact encodeList_of_lastOne? h
  | case3 a b c => exact encodeList_of_lastTwo? h
  | case4 a b c d rest hone htwo ih =>
    obtain ⟨group, hgroup, h⟩ := Option.bind_eq_some_iff.1 h
    obtain ⟨others, hothers, h⟩ := Option.bind_eq_some_iff.1 h
    cases h
    rw [encodeList_of_group? hgroup, ih hothers]
  | case5 => cases h

/-- A text is read as a byte string exactly if it is what is written of it. -/
theorem decodeList?_eq_some_iff {cs : List Char} :
    decodeList? cs = some bytes ↔ cs = encodeList bytes := by
  constructor
  · exact fun h => (encodeList_of_decodeList? h).symm
  · rintro rfl
    exact decodeList?_encodeList bytes

end HandleChallenge.Text.Base64
