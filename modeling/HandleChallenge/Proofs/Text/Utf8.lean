import HandleChallenge.Text.Utf8

/-!
# UTF-8 read back

The scanner reads every character from its own bytes (`scan_encodeChar`): the lead byte promises as
many continuation bytes as were written, and its bounds on the first of them hold because a
character is no surrogate, is below U+110000 and is written in its shortest form. So a text is read
back from its bytes (`decodeLossyList_encodeList`, `decode?_encode`). Conversely each character was
read from its own bytes (`startsWith_of_scan`), so that the strict reading undoes the writing and
nothing else (`decode?_eq_some_iff`). A class of bytes agrees with a class of characters if it has
all bytes of a character or none (`Agrees`).
-/

namespace HandleChallenge.Text.Utf8

/-! ### One byte -/

theorem toNat_ofNat {n : Nat} (h : n < 256) : (UInt8.ofNat n).toNat = n :=
  UInt8.toNat_ofNat_of_lt' h

/-- A byte of ASCII is a character. -/
theorem first_of_lt {n : Nat} (h : n < 0x80) :
    first (UInt8.ofNat n) = ([some (Char.ofNat n)], none) := by
  unfold first
  rw [toNat_ofNat (by omega)]
  exact if_pos h

/-- The lead byte of two. -/
theorem first_two {k : Nat} (hlow : 2 ≤ k) (hhigh : k < 0x20) :
    first (UInt8.ofNat (0xC0 + k)) = ([], some ⟨1, 0x80, 0xBF, k⟩) := by
  unfold first
  rw [toNat_ofNat (by omega)]
  simp only [if_neg (show ¬ 0xC0 + k < 0x80 by omega), if_neg (show ¬ 0xC0 + k < 0xC2 by omega),
    if_pos (show 0xC0 + k < 0xE0 by omega), Nat.add_sub_cancel_left]

/-- The lead byte of three. -/
theorem first_three {k : Nat} (h : k < 0x10) :
    first (UInt8.ofNat (0xE0 + k)) =
      ([], some ⟨2, if k = 0 then 0xA0 else 0x80, if k = 0xD then 0x9F else 0xBF, k⟩) := by
  unfold first
  rw [toNat_ofNat (by omega)]
  simp only [if_neg (show ¬ 0xE0 + k < 0x80 by omega), if_neg (show ¬ 0xE0 + k < 0xC2 by omega),
    if_neg (show ¬ 0xE0 + k < 0xE0 by omega), if_pos (show 0xE0 + k < 0xF0 by omega),
    Nat.add_sub_cancel_left, show 0xE0 + k = 0xE0 ↔ k = 0 by omega,
    show 0xE0 + k = 0xED ↔ k = 0xD by omega]

/-- The lead byte of four. -/
theorem first_four {k : Nat} (h : k < 5) :
    first (UInt8.ofNat (0xF0 + k)) =
      ([], some ⟨3, if k = 0 then 0x90 else 0x80, if k = 4 then 0x8F else 0xBF, k⟩) := by
  unfold first
  rw [toNat_ofNat (by omega)]
  simp only [if_neg (show ¬ 0xF0 + k < 0x80 by omega), if_neg (show ¬ 0xF0 + k < 0xC2 by omega),
    if_neg (show ¬ 0xF0 + k < 0xE0 by omega), if_neg (show ¬ 0xF0 + k < 0xF0 by omega),
    if_pos (show 0xF0 + k < 0xF5 by omega), Nat.add_sub_cancel_left,
    show 0xF0 + k = 0xF0 ↔ k = 0 by omega, show 0xF0 + k = 0xF4 ↔ k = 4 by omega]

/-- A continuation byte within the bounds adds its six bits. -/
theorem next_tail {p : Pending} {r : Nat} (h : r < 0x40) (hlow : p.low.toNat ≤ 0x80 + r)
    (hhigh : 0x80 + r ≤ p.high.toNat) :
    next p (UInt8.ofNat (0x80 + r)) =
      if p.owed ≤ 1 then ([some (Char.ofNat (p.bits * 64 + r))], none)
      else ([], some ⟨p.owed - 1, 0x80, 0xBF, p.bits * 64 + r⟩) := by
  have hbounds : p.low ≤ UInt8.ofNat (0x80 + r) ∧ UInt8.ofNat (0x80 + r) ≤ p.high := by
    rw [UInt8.le_iff_toNat_le, UInt8.le_iff_toNat_le, toNat_ofNat (by omega)]
    exact ⟨hlow, hhigh⟩
  unfold next
  rw [if_pos hbounds, toNat_ofNat (by omega), Nat.add_sub_cancel_left]

/-- A lead byte is followed by what it owes. -/
theorem scan_lead {b : UInt8} {p : Pending} (h : first b = ([], some p)) (rest : Bytes) :
    scan none (b :: rest) = scan (some p) rest := by
  rw [scan, h]
  rfl

/-- A continuation byte that is not the last one. -/
theorem scan_tail {owed bits r : Nat} {low high : UInt8} (h : r < 0x40)
    (hlow : low.toNat ≤ 0x80 + r) (hhigh : 0x80 + r ≤ high.toNat) (rest : Bytes) :
    scan (some ⟨owed + 2, low, high, bits⟩) (UInt8.ofNat (0x80 + r) :: rest) =
      scan (some ⟨owed + 1, 0x80, 0xBF, bits * 64 + r⟩) rest := by
  have hnext : next ⟨owed + 2, low, high, bits⟩ (UInt8.ofNat (0x80 + r)) = _ :=
    next_tail h hlow hhigh
  rw [scan, hnext, if_neg (show ¬ owed + 2 ≤ 1 by omega)]
  rfl

/-- The last continuation byte completes the character. -/
theorem scan_last {bits r : Nat} {low high : UInt8} (h : r < 0x40)
    (hlow : low.toNat ≤ 0x80 + r) (hhigh : 0x80 + r ≤ high.toNat) (rest : Bytes) :
    scan (some ⟨1, low, high, bits⟩) (UInt8.ofNat (0x80 + r) :: rest) =
      some (Char.ofNat (bits * 64 + r)) :: scan none rest := by
  have hnext : next ⟨1, low, high, bits⟩ (UInt8.ofNat (0x80 + r)) = _ := next_tail h hlow hhigh
  rw [scan, hnext]
  rfl

/-! ### One character -/

/-- A character is no surrogate and below U+110000. -/
theorem toNat_bounds (c : Char) : c.toNat < 0xD800 ∨ (0xDFFF < c.toNat ∧ c.toNat < 0x110000) :=
  c.valid

/-- The usual bounds hold of every continuation byte. -/
theorem low_le_tail (r : Nat) : (0x80 : UInt8).toNat ≤ 0x80 + r := Nat.le_add_right _ _

theorem tail_le_high {r : Nat} (h : r < 0x40) : 0x80 + r ≤ (0xBF : UInt8).toNat := by
  show 0x80 + r ≤ 191
  omega

/-- The scanner reads a character from its bytes. -/
theorem scan_encodeChar (c : Char) (rest : Bytes) :
    scan none (encodeChar c ++ rest) = some c :: scan none rest := by
  have hc := toNat_bounds c
  have hback := Char.ofNat_toNat c
  unfold encodeChar
  generalize c.toNat = n at hc hback
  subst hback
  have hmod : ∀ k : Nat, k % 0x40 < 0x40 := fun k => Nat.mod_lt k (by decide)
  simp only []
  split
  · rename_i h
    simp [scan, first_of_lt h]
  split
  · simp only [List.cons_append, List.nil_append]
    rw [scan_lead (first_two (by omega) (by omega)),
      scan_last (hmod _) (low_le_tail _) (tail_le_high (hmod _)),
      show n / 0x40 * 64 + n / 1 % 0x40 = n by omega]
  split
  · simp only [List.cons_append, List.nil_append]
    rw [scan_lead (first_three (by omega)), scan_tail (hmod _),
      scan_last (hmod _) (low_le_tail _) (tail_le_high (hmod _)),
      show (n / 0x1000 * 64 + n / 0x40 % 0x40) * 64 + n / 1 % 0x40 = n by omega]
    · split
      · show 0xA0 ≤ _
        omega
      · exact low_le_tail _
    · split
      · show _ ≤ 0x9F
        omega
      · exact tail_le_high (hmod _)
  · simp only [List.cons_append, List.nil_append]
    rw [scan_lead (first_four (by omega)), scan_tail (hmod _),
      scan_tail (hmod _) (low_le_tail _) (tail_le_high (hmod _)),
      scan_last (hmod _) (low_le_tail _) (tail_le_high (hmod _)),
      show ((n / 0x40000 * 64 + n / 0x1000 % 0x40) * 64 + n / 0x40 % 0x40) * 64 + n / 1 % 0x40 = n
        by omega]
    · split
      · show 0x90 ≤ _
        omega
      · exact low_le_tail _
    · split
      · show _ ≤ 0x8F
        omega
      · exact tail_le_high (hmod _)

/-- The scanner reads a text from its bytes. -/
theorem scan_encodeList (cs : List Char) : scan none (encodeList cs) = cs.map some := by
  induction cs with
  | nil => rfl
  | cons c cs ih =>
    rw [encodeList, List.flatMap_cons, scan_encodeChar, List.map_cons, ← ih]
    rfl

/-- A text is read back from its bytes. -/
theorem decodeLossyList_encodeList (cs : List Char) : decodeLossyList (encodeList cs) = cs := by
  rw [decodeLossyList, scan_encodeList, List.map_map]
  exact List.map_id cs

/-- The strict reading finds no fault with it. -/
theorem decode?_encode (text : String) : decode? (encode text) = some text := by
  have hall : ∀ cs : List Char, (cs.map some).mapM id = some cs := by
    intro cs
    induction cs with
    | nil => rfl
    | cons c cs ih => simp [ih]
  rw [decode?, encode, scan_encodeList, hall, Option.map_some, String.ofList_toList]

theorem encode_ne_nil {text : String} (h : text ≠ "") : encode text ≠ [] := by
  intro hnil
  have hdecode := decode?_encode text
  rw [hnil] at hdecode
  exact h (Option.some.inj hdecode).symm

/-! ### The bytes of a character -/

theorem encodeList_append (cs more : List Char) :
    encodeList (cs ++ more) = encodeList cs ++ encodeList more :=
  List.flatMap_append

theorem encodeList_cons (c : Char) (cs : List Char) :
    encodeList (c :: cs) = encodeChar c ++ encodeList cs := rfl

/-- A character of ASCII is one byte. -/
theorem encodeChar_of_lt {c : Char} (h : c.toNat < 0x80) :
    encodeChar c = [UInt8.ofNat c.toNat] := by
  unfold encodeChar
  exact if_pos h

/-- A text of ASCII has a byte for each character. -/
theorem encodeList_of_forall_lt {cs : List Char} (h : ∀ c ∈ cs, c.toNat < 0x80) :
    encodeList cs = cs.map fun c => UInt8.ofNat c.toNat := by
  induction cs with
  | nil => rfl
  | cons c cs ih =>
    obtain ⟨hc, hcs⟩ := List.forall_mem_cons.1 h
    rw [encodeList_cons, encodeChar_of_lt hc, ih hcs]
    rfl

/-- Outside ASCII no byte of a character is of ASCII, and the first one continues none. -/
theorem exists_encodeChar_of_le {c : Char} (h : 0x80 ≤ c.toNat) :
    ∃ first more, encodeChar c = first :: more ∧ 0xC0 ≤ first.toNat ∧
      ∀ byte ∈ more, 0x80 ≤ byte.toNat := by
  have hbounds := toNat_bounds c
  have htail : ∀ k : Nat, 0x80 ≤ (UInt8.ofNat (0x80 + k % 0x40)).toNat := fun k => by
    rw [toNat_ofNat (by omega)]
    omega
  unfold encodeChar
  generalize c.toNat = n at h hbounds
  simp only []
  rw [if_neg (by omega)]
  split
  · refine ⟨_, _, rfl, ?_, by simp only [List.forall_mem_cons, htail]; simp⟩
    rw [toNat_ofNat (by omega)]
    omega
  split
  · refine ⟨_, _, rfl, ?_, by simp only [List.forall_mem_cons, htail]; simp⟩
    rw [toNat_ofNat (by omega)]
    omega
  · refine ⟨_, _, rfl, ?_, by simp only [List.forall_mem_cons, htail]; simp⟩
    rw [toNat_ofNat (by omega)]
    omega

/-- The first byte of a character continues none. -/
theorem exists_encodeChar (c : Char) :
    ∃ first more, encodeChar c = first :: more ∧ (first < 0x80 || 0xC0 ≤ first) = true := by
  by_cases h : c.toNat < 0x80
  · refine ⟨_, [], encodeChar_of_lt h, ?_⟩
    simp only [UInt8.lt_iff_toNat_lt, Bool.or_eq_true, decide_eq_true_iff]
    rw [toNat_ofNat (by omega)]
    exact .inl h
  · obtain ⟨first, more, hchar, hfirst, -⟩ := exists_encodeChar_of_le (Nat.le_of_not_lt h)
    refine ⟨first, more, hchar, ?_⟩
    simp only [UInt8.le_iff_toNat_le, Bool.or_eq_true, decide_eq_true_iff]
    exact .inr hfirst

theorem le_of_mem_encodeChar {c : Char} (h : 0x80 ≤ c.toNat) {byte : UInt8}
    (hbyte : byte ∈ encodeChar c) : 0x80 ≤ byte.toNat := by
  obtain ⟨first, more, hchar, hfirst, hmore⟩ := exists_encodeChar_of_le h
  rw [hchar] at hbyte
  rcases List.mem_cons.1 hbyte with rfl | hbyte
  · omega
  · exact hmore byte hbyte

/-- A byte of ASCII stands for its character alone. -/
theorem byte_beq_eq {k c : Char} (hk : k.toNat < 0x80) {byte : UInt8}
    (hbyte : byte ∈ encodeChar c) : (byte == UInt8.ofNat k.toNat) = (c == k) := by
  have hk' := toNat_ofNat (n := k.toNat) (by omega)
  rw [Bool.eq_iff_iff, beq_iff_eq, beq_iff_eq, ← UInt8.toNat_inj, hk', ← Char.toNat_inj]
  by_cases h : c.toNat < 0x80
  · rw [encodeChar_of_lt h, List.mem_singleton] at hbyte
    rw [hbyte, toNat_ofNat (by omega)]
  · have hhigh := le_of_mem_encodeChar (Nat.le_of_not_lt h) hbyte
    omega

/-- The bytes of a character are of the one class if the character is of the other. -/
def Agrees (q : UInt8 → Bool) (p : Char → Bool) : Prop :=
  ∀ c, ∀ byte ∈ encodeChar c, q byte = p c

/-- A text is of bytes of the one class if it is of characters of the other. -/
theorem all_encodeList {q : UInt8 → Bool} {p : Char → Bool} (h : Agrees q p) (cs : List Char) :
    (encodeList cs).all q = cs.all p := by
  induction cs with
  | nil => rfl
  | cons c cs ih =>
    have hchar : (encodeChar c).all q = p c := by
      obtain ⟨first, more, hbytes, -⟩ := exists_encodeChar c
      have hfirst : first ∈ encodeChar c := hbytes ▸ List.mem_cons_self
      cases hc : p c with
      | true => exact List.all_eq_true.2 fun byte hbyte => (h c byte hbyte).trans hc
      | false =>
        refine List.all_eq_false.2 ⟨first, hfirst, ?_⟩
        rw [h c first hfirst, hc]
        exact Bool.false_ne_true
    rw [encodeList_cons, List.all_append, hchar, ih, List.all_cons]

/-! ### What is read -/

/-- A number that is no surrogate and below U+110000 is that of a character. -/
theorem toNat_char {n : Nat} (h : n.isValidChar) : (Char.ofNat n).toNat = n := by
  rw [Char.ofNat, dif_pos h]
  rfl

/-- The bytes of a character by its bits: two, three and four of them. -/
theorem encodeChar_two {k r : Nat} (hlow : 2 ≤ k) (hhigh : k < 0x20) (hr : r < 0x40) :
    encodeChar (Char.ofNat (k * 64 + r)) = [UInt8.ofNat (0xC0 + k), UInt8.ofNat (0x80 + r)] := by
  unfold encodeChar
  rw [toNat_char (.inl (by omega))]
  simp only []
  rw [if_neg (by omega), if_pos (by omega), show (k * 64 + r) / 0x40 = k by omega,
    show (k * 64 + r) / 1 % 0x40 = r by omega]

theorem encodeChar_three {k r s : Nat} (hk : k < 0x10) (hr : r < 0x40) (hs : s < 0x40)
    (hlow : 0x800 ≤ (k * 64 + r) * 64 + s) (hvalid : ((k * 64 + r) * 64 + s).isValidChar) :
    encodeChar (Char.ofNat ((k * 64 + r) * 64 + s)) =
      [UInt8.ofNat (0xE0 + k), UInt8.ofNat (0x80 + r), UInt8.ofNat (0x80 + s)] := by
  unfold encodeChar
  rw [toNat_char hvalid]
  simp only []
  rw [if_neg (by omega), if_neg (by omega), if_pos (by omega),
    show ((k * 64 + r) * 64 + s) / 0x1000 = k by omega,
    show ((k * 64 + r) * 64 + s) / 0x40 % 0x40 = r by omega,
    show ((k * 64 + r) * 64 + s) / 1 % 0x40 = s by omega]

theorem encodeChar_four {k r s t : Nat} (hr : r < 0x40) (hs : s < 0x40) (ht : t < 0x40)
    (hlow : 0x10000 ≤ ((k * 64 + r) * 64 + s) * 64 + t)
    (hhigh : ((k * 64 + r) * 64 + s) * 64 + t < 0x110000) :
    encodeChar (Char.ofNat (((k * 64 + r) * 64 + s) * 64 + t)) =
      [UInt8.ofNat (0xF0 + k), UInt8.ofNat (0x80 + r), UInt8.ofNat (0x80 + s),
        UInt8.ofNat (0x80 + t)] := by
  unfold encodeChar
  rw [toNat_char (.inr ⟨by omega, hhigh⟩)]
  simp only []
  rw [if_neg (by omega), if_neg (by omega), if_neg (by omega),
    show (((k * 64 + r) * 64 + s) * 64 + t) / 0x40000 = k by omega,
    show (((k * 64 + r) * 64 + s) * 64 + t) / 0x1000 % 0x40 = r by omega,
    show (((k * 64 + r) * 64 + s) * 64 + t) / 0x40 % 0x40 = s by omega,
    show (((k * 64 + r) * 64 + s) * 64 + t) / 1 % 0x40 = t by omega]

section
variable {bytes : Bytes} {cs : List Char}

/-- Where a continuation byte is owed and nothing is ill-formed, the next byte is one. -/
theorem exists_tail {p : Pending} (h : scan (some p) bytes = cs.map some)
    (hlow : 0x80 ≤ p.low.toNat) (hhigh : p.high.toNat ≤ 0xBF) :
    ∃ r rest, r < 0x40 ∧ p.low.toNat ≤ 0x80 + r ∧ 0x80 + r ≤ p.high.toNat ∧
      bytes = UInt8.ofNat (0x80 + r) :: rest := by
  cases bytes with
  | nil => cases cs <;> cases h
  | cons b rest =>
    by_cases hb : p.low ≤ b ∧ b ≤ p.high
    · rw [UInt8.le_iff_toNat_le, UInt8.le_iff_toNat_le] at hb
      refine ⟨b.toNat - 0x80, rest, by omega, by omega, by omega, ?_⟩
      rw [show 0x80 + (b.toNat - 0x80) = b.toNat by omega, UInt8.ofNat_toNat]
    · rw [scan, next, if_neg hb] at h
      cases cs <;> cases h

/-- A continuation byte that is owed before others. -/
theorem exists_scan_tail {owed bits : Nat} {low high : UInt8}
    (h : scan (some ⟨owed + 2, low, high, bits⟩) bytes = cs.map some) (hlow : 0x80 ≤ low.toNat)
    (hhigh : high.toNat ≤ 0xBF) :
    ∃ r rest, r < 0x40 ∧ low.toNat ≤ 0x80 + r ∧ 0x80 + r ≤ high.toNat ∧
      bytes = UInt8.ofNat (0x80 + r) :: rest ∧
      scan (some ⟨owed + 1, 0x80, 0xBF, bits * 64 + r⟩) rest = cs.map some := by
  obtain ⟨r, rest, hr, hrlow, hrhigh, rfl⟩ := exists_tail h hlow hhigh
  exact ⟨r, rest, hr, hrlow, hrhigh, rfl, (scan_tail hr hrlow hrhigh rest).symm.trans h⟩

/-- The last continuation byte, with which the character is complete. -/
theorem exists_scan_last {bits : Nat} (h : scan (some ⟨1, 0x80, 0xBF, bits⟩) bytes = cs.map some) :
    ∃ r rest more, r < 0x40 ∧ bytes = UInt8.ofNat (0x80 + r) :: rest ∧
      cs = Char.ofNat (bits * 64 + r) :: more ∧ scan none rest = more.map some := by
  obtain ⟨r, rest, hr, hrlow, hrhigh, rfl⟩ := exists_tail h (Nat.le_refl 0x80) (Nat.le_refl 0xBF)
  rw [scan_last hr hrlow hrhigh] at h
  cases cs with
  | nil => cases h
  | cons c more =>
    obtain ⟨hc, hrest⟩ := List.cons.inj h
    cases hc
    exact ⟨r, rest, more, hr, rfl, rfl, hrest⟩

/-- The first character was read from its own bytes, and the others from those behind them. -/
def StartsWith (bytes : Bytes) (cs : List Char) : Prop :=
  ∃ c more rest, cs = c :: more ∧ bytes = encodeChar c ++ rest ∧ scan none rest = more.map some

theorem startsWith_one {n : Nat} (hn : n < 0x80)
    (h : scan none (UInt8.ofNat n :: bytes) = cs.map some) :
    StartsWith (UInt8.ofNat n :: bytes) cs := by
  rw [scan, first_of_lt hn] at h
  cases cs with
  | nil => cases h
  | cons c more =>
    obtain ⟨hc, hrest⟩ := List.cons.inj h
    cases hc
    have hnat : (Char.ofNat n).toNat = n := toNat_char (.inl (by omega))
    refine ⟨_, more, bytes, rfl, ?_, hrest⟩
    rw [encodeChar_of_lt (by omega), hnat]
    rfl

theorem startsWith_two {k : Nat} (hlow : 2 ≤ k) (hhigh : k < 0x20)
    (h : scan none (UInt8.ofNat (0xC0 + k) :: bytes) = cs.map some) :
    StartsWith (UInt8.ofNat (0xC0 + k) :: bytes) cs := by
  rw [scan_lead (first_two hlow hhigh)] at h
  obtain ⟨r, rest, more, hr, rfl, rfl, hrest⟩ := exists_scan_last h
  refine ⟨_, more, rest, rfl, ?_, hrest⟩
  rw [encodeChar_two hlow hhigh hr]
  rfl

theorem startsWith_three {k : Nat} (hk : k < 0x10)
    (h : scan none (UInt8.ofNat (0xE0 + k) :: bytes) = cs.map some) :
    StartsWith (UInt8.ofNat (0xE0 + k) :: bytes) cs := by
  rw [scan_lead (first_three hk)] at h
  obtain ⟨r, behind, hr, hrlow, hrhigh, rfl, hbehind⟩ := exists_scan_tail h
    (by split <;> decide) (by split <;> decide)
  obtain ⟨s, rest, more, hs, rfl, rfl, hrest⟩ := exists_scan_last hbehind
  -- the bounds of the first continuation byte rule out overlong forms and surrogates
  have hlow : k = 0 → 0xA0 ≤ 0x80 + r := fun h0 => by rwa [if_pos h0] at hrlow
  have hhigh : k = 0xD → 0x80 + r ≤ 0x9F := fun hD => by rwa [if_pos hD] at hrhigh
  have hvalid : ((k * 64 + r) * 64 + s).isValidChar := by
    show _ ∨ _
    omega
  refine ⟨_, more, rest, rfl, ?_, hrest⟩
  rw [encodeChar_three hk hr hs (by omega) hvalid]
  rfl

theorem startsWith_four {k : Nat} (hk : k < 5)
    (h : scan none (UInt8.ofNat (0xF0 + k) :: bytes) = cs.map some) :
    StartsWith (UInt8.ofNat (0xF0 + k) :: bytes) cs := by
  rw [scan_lead (first_four hk)] at h
  obtain ⟨r, behind, hr, hrlow, hrhigh, rfl, hbehind⟩ := exists_scan_tail h
    (by split <;> decide) (by split <;> decide)
  obtain ⟨s, last, hs, -, -, rfl, hlast⟩ := exists_scan_tail hbehind (Nat.le_refl 0x80)
    (Nat.le_refl 0xBF)
  obtain ⟨t, rest, more, ht, rfl, rfl, hrest⟩ := exists_scan_last hlast
  have hlow : k = 0 → 0x90 ≤ 0x80 + r := fun h0 => by rwa [if_pos h0] at hrlow
  have hhigh : k = 4 → 0x80 + r ≤ 0x8F := fun h4 => by rwa [if_pos h4] at hrhigh
  refine ⟨_, more, rest, rfl, ?_, hrest⟩
  rw [encodeChar_four hr hs ht (by omega) (by omega)]
  rfl

/-- Any other byte starts no character. -/
theorem first_eq_none {b : UInt8}
    (h : (0x80 ≤ b.toNat ∧ b.toNat < 0xC2) ∨ 0xF5 ≤ b.toNat) : first b = ([none], none) := by
  unfold first
  simp only []
  rw [if_neg (by omega)]
  rcases h with h | h
  · rw [if_pos h.2]
  · rw [if_neg (by omega), if_neg (by omega), if_neg (by omega), if_neg (by omega)]

/-- The lead byte tells which bytes a character was read from. -/
theorem startsWith_of_scan {b : UInt8} (h : scan none (b :: bytes) = cs.map some) :
    StartsWith (b :: bytes) cs := by
  obtain ⟨n, hn, rfl⟩ : ∃ n < 256, b = UInt8.ofNat n := ⟨b.toNat, b.toNat_lt, by simp⟩
  by_cases hone : n < 0x80
  · exact startsWith_one hone h
  by_cases htwo : 0xC2 ≤ n ∧ n < 0xE0
  · obtain ⟨k, rfl⟩ := Nat.exists_eq_add_of_le (show 0xC0 ≤ n by omega)
    exact startsWith_two (by omega) (by omega) h
  by_cases hthree : 0xE0 ≤ n ∧ n < 0xF0
  · obtain ⟨k, rfl⟩ := Nat.exists_eq_add_of_le hthree.1
    exact startsWith_three (by omega) h
  by_cases hfour : 0xF0 ≤ n ∧ n < 0xF5
  · obtain ⟨k, rfl⟩ := Nat.exists_eq_add_of_le hfour.1
    exact startsWith_four (by omega) h
  · rw [scan, first_eq_none (by rw [toNat_ofNat hn]; omega)] at h
    cases cs <;> cases h

/-- A byte string without an ill-formed part is that of the characters read from it. -/
theorem eq_encodeList_of_scan (h : scan none bytes = cs.map some) : bytes = encodeList cs := by
  induction cs generalizing bytes with
  | nil =>
    cases bytes with
    | nil => rfl
    | cons b bytes =>
      obtain ⟨c, more, rest, hcs, -⟩ := startsWith_of_scan h
      cases hcs
  | cons c cs ih =>
    cases bytes with
    | nil => cases h
    | cons b bytes =>
      obtain ⟨first, more, rest, hcs, hbytes, hrest⟩ := startsWith_of_scan h
      cases hcs
      rw [hbytes, encodeList_cons, ← ih hrest]

theorem mapM_id_eq_some_iff {l : List (Option Char)} : l.mapM id = some cs ↔ l = cs.map some := by
  induction l generalizing cs with
  | nil => cases cs <;> simp
  | cons first l ih =>
    cases first with
    | none => cases cs <;> simp
    | some c =>
      cases cs with
      | nil => simp [Option.bind_eq_some_iff]
      | cons k cs =>
        rw [List.map_cons, List.cons.injEq, Option.some.injEq, ← ih]
        simpa [Option.bind_eq_some_iff] using and_comm

/-- A byte string is read as a text exactly if it is that of the text. -/
theorem decode?_eq_some_iff {text : String} : decode? bytes = some text ↔ bytes = encode text := by
  constructor
  · intro h
    obtain ⟨cs, hcs, rfl⟩ := Option.map_eq_some_iff.1 h
    rw [encode, String.toList_ofList]
    exact eq_encodeList_of_scan (mapM_id_eq_some_iff.1 hcs)
  · rintro rfl
    exact decode?_encode text

/-- A text without U+FFFD is read from its own bytes alone, even if ill-formed parts are put up with. -/
theorem decodeLossy_eq_iff {text : String} (hplain : '\ufffd' ∉ text.toList) :
    decodeLossy bytes = text ↔ bytes = encode text := by
  constructor
  · rintro rfl
    rw [decodeLossy, String.toList_ofList] at hplain
    have hscan : (decodeLossyList bytes).map some = scan none bytes := by
      rw [decodeLossyList, List.map_map]
      refine (List.map_congr_left fun part hpart => ?_).trans (List.map_id _)
      cases part with
      | none => exact absurd (List.mem_map.2 ⟨none, hpart, rfl⟩) hplain
      | some c => rfl
    rw [decodeLossy, encode, String.toList_ofList]
    exact eq_encodeList_of_scan hscan.symm
  · rintro rfl
    rw [decodeLossy, encode, decodeLossyList_encodeList, String.ofList_toList]

end

end HandleChallenge.Text.Utf8
