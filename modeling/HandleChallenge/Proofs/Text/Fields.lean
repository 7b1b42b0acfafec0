import HandleChallenge.Text.Base64
import HandleChallenge.Text.Blank
import HandleChallenge.Text.Decimal
import Mathlib.Data.List.TakeWhile

/-!
# Bytes and numbers in fields

A field holds bytes in base64 or a number in decimal digits, and blanks around it are dropped.
Neither has blanks of its own, so that each is read back as it was written
(`Base64.decodeList?_trim_encodeList`, `Decimal.parse?_trim_print`). A number is read from every
run of digits that writes it, behind one plus sign or none (`Decimal.parse?_eq_some_iff`).
-/

namespace HandleChallenge.Text

/-! ### Runs of characters -/

theorem dropWhile_eq_self {p : Char → Bool} {cs : List Char}
    (h : ∀ c, cs.head? = some c → p c = false) : cs.dropWhile p = cs := by
  cases cs with
  | nil => rfl
  | cons c cs => exact List.dropWhile_cons_of_neg (by simp [h c rfl])

/-- What is left behind a run starts with another character. -/
theorem head?_dropWhile {p : Char → Bool} {cs : List Char} {c : Char}
    (h : (cs.dropWhile p).head? = some c) : p c = false := by
  have hnot := List.head?_dropWhile_not p cs
  rw [h] at hnot
  simpa using hnot

section
variable {p : Char → Bool} {run rest : List Char} {c : Char}

/-- A run of characters ends at the first other one. -/
theorem takeWhile_append_cons (hrun : ∀ c ∈ run, p c = true) (hc : p c = false) :
    (run ++ c :: rest).takeWhile p = run := by
  rw [List.takeWhile_append_of_pos hrun, List.takeWhile_cons_of_neg (by simp [hc]),
    List.append_nil]

theorem dropWhile_append_cons (hrun : ∀ c ∈ run, p c = true) (hc : p c = false) :
    (run ++ c :: rest).dropWhile p = c :: rest := by
  rw [List.dropWhile_append_of_pos hrun, List.dropWhile_cons_of_neg (by simp [hc])]

/-- A run ends where the rest starts with another character. -/
theorem takeWhile_append_of_head (hrun : ∀ c ∈ run, p c = true)
    (hrest : ∀ c, rest.head? = some c → p c = false) : (run ++ rest).takeWhile p = run := by
  cases rest with
  | nil => rw [List.takeWhile_append_of_pos hrun, List.takeWhile_nil, List.append_nil]
  | cons c rest => exact takeWhile_append_cons hrun (hrest c rfl)

theorem dropWhile_append_of_head (hrun : ∀ c ∈ run, p c = true)
    (hrest : ∀ c, rest.head? = some c → p c = false) : (run ++ rest).dropWhile p = rest := by
  rw [List.dropWhile_append_of_pos hrun, dropWhile_eq_self hrest]

end

/-- A text is cut in front of the first of the signs that it holds. -/
theorem cut_iff {sign : Char} {text front rest : List Char} :
    text.takeWhile (· != sign) = front ∧ text.dropWhile (· != sign) = sign :: rest ↔
      sign ∉ front ∧ text = front ++ sign :: rest := by
  constructor
  · rintro ⟨rfl, hrest⟩
    refine ⟨fun hmem => absurd (List.mem_takeWhile_imp hmem) (by simp), ?_⟩
    rw [← hrest, List.takeWhile_append_dropWhile]
  · rintro ⟨hsign, rfl⟩
    have hrun : ∀ c ∈ front, (c != sign) = true := fun c hc =>
      bne_iff_ne.2 fun heq => hsign (heq ▸ hc)
    exact ⟨takeWhile_append_cons hrun (bne_self_eq_false _),
      dropWhile_append_cons hrun (bne_self_eq_false _)⟩

/-- There is one such cut. -/
theorem append_cons_inj {sign : Char} {front rest front' rest' : List Char} (hfront : sign ∉ front)
    (hfront' : sign ∉ front') (h : front ++ sign :: rest = front' ++ sign :: rest') :
    front = front' ∧ rest = rest' := by
  obtain ⟨hfirst, hbehind⟩ := cut_iff.2 ⟨hfront, rfl⟩
  obtain ⟨hfirst', hbehind'⟩ := cut_iff.2 ⟨hfront', rfl⟩
  rw [h] at hfirst hbehind
  exact ⟨hfirst.symm.trans hfirst', List.tail_eq_of_cons_eq (hbehind.symm.trans hbehind')⟩

/-! ### Blanks -/

/-- No capital letter is a blank. -/
theorem toLower_of_isBlank {c : Char} (h : isBlank c = true) : c.toLower = c := by
  unfold Char.toLower
  split
  · rename_i hcapital
    exfalso
    have hfirst : 'A'.val.toNat = 65 := by decide
    have hlast : 'Z'.val.toNat = 90 := by decide
    have hval : c.toNat = c.val.toNat := rfl
    simp only [ge_iff_le, UInt32.le_iff_toNat_le] at hcapital
    simp only [isBlank, Bool.or_eq_true, Bool.and_eq_true, decide_eq_true_eq, beq_iff_eq] at h
    omega
  · rfl

/-- A text that neither starts nor ends with a blank has nothing to trim. -/
theorem trim_eq_self {cs : List Char} (hfirst : ∀ c, cs.head? = some c → isBlank c = false)
    (hlast : ∀ c, cs.getLast? = some c → isBlank c = false) : trim cs = cs := by
  rw [trim, trimStart, dropWhile_eq_self hfirst, trimEnd, dropWhile_eq_self, List.reverse_reverse]
  intro c hc
  rw [List.head?_reverse] at hc
  exact hlast c hc

/-- A text without blanks has nothing to trim. -/
theorem trim_of_no_blanks {cs : List Char} (h : ∀ c ∈ cs, isBlank c = false) : trim cs = cs :=
  trim_eq_self (fun c hc => h c (List.mem_of_head? hc)) fun c hc => h c (List.mem_of_getLast? hc)

/-- Nothing but blanks. -/
def AllBlank (cs : List Char) : Prop := ∀ c ∈ cs, isBlank c = true

theorem AllBlank.append {cs more : List Char} (h : AllBlank cs) (hmore : AllBlank more) :
    AllBlank (cs ++ more) :=
  fun c hc => (List.mem_append.1 hc).elim (h c) (hmore c)

/-- Blanks at the front are dropped. -/
theorem trim_append_of_allBlank {before : List Char} (h : AllBlank before) (cs : List Char) :
    trim (before ++ cs) = trim cs := by
  rw [trim, trimStart, List.dropWhile_append_of_pos h, trim, trimStart]

theorem trim_cons_of_isBlank {c : Char} (h : isBlank c = true) (cs : List Char) :
    trim (c :: cs) = trim cs :=
  trim_append_of_allBlank (show AllBlank [c] by simpa [AllBlank] using h) cs

/-- What is dropped around a text is blank. -/
theorem exists_trim_eq (cs : List Char) :
    ∃ before after, AllBlank before ∧ AllBlank after ∧ cs = before ++ trim cs ++ after := by
  have hrun : ∀ cs : List Char, AllBlank (cs.takeWhile isBlank) := fun cs =>
    List.all_eq_true.1 List.all_takeWhile
  refine ⟨cs.takeWhile isBlank, ((trimStart cs).reverse.takeWhile isBlank).reverse, hrun cs,
    fun c hc => hrun _ c (List.mem_reverse.1 hc), ?_⟩
  have hback : trim cs ++ ((trimStart cs).reverse.takeWhile isBlank).reverse = trimStart cs := by
    rw [trim, trimEnd, ← List.reverse_append, List.takeWhile_append_dropWhile,
      List.reverse_reverse]
  rw [List.append_assoc, hback, trimStart, List.takeWhile_append_dropWhile]

/-- Blanks around a text that neither starts nor ends with one are dropped. -/
theorem trim_append_blanks {before core after : List Char} (hbefore : AllBlank before)
    (hafter : AllBlank after) (hne : core ≠ [])
    (hfirst : ∀ c, core.head? = some c → isBlank c = false)
    (hlast : ∀ c, core.getLast? = some c → isBlank c = false) :
    trim (before ++ core ++ after) = core := by
  have hfront : trimStart (core ++ after) = core ++ after := by
    obtain ⟨first, others, rfl⟩ := List.exists_cons_of_ne_nil hne
    exact dropWhile_eq_self fun c hc => hfirst c hc
  have hback : ∀ c ∈ after.reverse, isBlank c = true := fun c hc => hafter c (List.mem_reverse.1 hc)
  rw [List.append_assoc, trim_append_of_allBlank hbefore, trim, hfront, trimEnd,
    List.reverse_append, List.dropWhile_append_of_pos hback, dropWhile_eq_self,
    List.reverse_reverse]
  intro c hc
  exact hlast c (List.head?_reverse ▸ hc)

namespace Base64

/-! ### Base64 -/

theorem value?_digit {n : Nat} (h : n < 64) : value? (digit n) = some n := by
  have hall : ∀ m : Fin 64, value? (digit m) = some m.val := by decide
  exact hall ⟨n, h⟩

/-- A character of the alphabet is no padding. -/
theorem digit_ne_pad {n : Nat} (h : n < 64) : digit n ≠ '=' := by
  have hall : ∀ m : Fin 64, digit m ≠ '=' := by decide
  exact hall ⟨n, h⟩

theorem isBlank_digit {n : Nat} (h : n < 64) : isBlank (digit n) = false := by
  have hall : ∀ m : Fin 64, isBlank (digit m) = false := by decide
  exact hall ⟨n, h⟩

theorem decodeList?_lastTwo {a b c : Char} (h : c ≠ '=') :
    decodeList? [a, b, c, '='] = lastTwo? a b c := by
  rw [decodeList?]
  exact h

theorem decodeList?_group {a b c d : Char} {rest : List Char} {bytes more : Bytes} (h : d ≠ '=')
    (hgroup : group? a b c d = some bytes) (hrest : decodeList? rest = some more) :
    decodeList? (a :: b :: c :: d :: rest) = some (bytes ++ more) := by
  rw [decodeList?, hgroup, hrest]
  · rfl
  · intro _ hd
    exact absurd hd h
  · exact fun hd => absurd hd h

/-- The last byte is read back. -/
theorem lastOne?_digit {n : Nat} (h : n < 256) :
    lastOne? (digit (n * 16 / 64)) (digit (n * 16 % 64)) = some (Bytes.ofNat 1 n) := by
  unfold lastOne?
  rw [value?_digit (by omega), value?_digit (by omega)]
  simp only [Option.bind_eq_bind, Option.bind_some]
  rw [show n * 16 / 64 * 64 + n * 16 % 64 = n * 16 by omega, if_pos (by omega),
    Nat.mul_div_cancel n (by decide)]

/-- The last two bytes are read back. -/
theorem lastTwo?_digit {n : Nat} (h : n < 65536) :
    lastTwo? (digit (n * 4 / 4096)) (digit (n * 4 / 64 % 64)) (digit (n * 4 % 64)) =
      some (Bytes.ofNat 2 n) := by
  unfold lastTwo?
  rw [value?_digit (by omega), value?_digit (by omega), value?_digit (by omega)]
  simp only [Option.bind_eq_bind, Option.bind_some]
  rw [show (n * 4 / 4096 * 64 + n * 4 / 64 % 64) * 64 + n * 4 % 64 = n * 4 by omega,
    if_pos (by omega), Nat.mul_div_cancel n (by decide)]

/-- A group of three bytes is read back. -/
theorem group?_digit {n : Nat} (h : n < 16777216) :
    group? (digit (n / 262144)) (digit (n / 4096 % 64)) (digit (n / 64 % 64)) (digit (n % 64)) =
      some (Bytes.ofNat 3 n) := by
  unfold group?
  rw [value?_digit (by omega), value?_digit (by omega), value?_digit (by omega),
    value?_digit (by omega)]
  simp only [Option.bind_eq_bind, Option.bind_some]
  rw [show ((n / 262144 * 64 + n / 4096 % 64) * 64 + n / 64 % 64) * 64 + n % 64 = n by omega]

/-- The bytes with the given number. -/
theorem ofNat_eq {bytes : Bytes} {width n : Nat} (hwidth : bytes.length = width)
    (hn : Bytes.toNat bytes = n) : Bytes.ofNat width n = bytes := by
  rw [← hwidth, ← hn, Bytes.ofNat_toNat]

/-- A byte string is read back from its base64 text. -/
theorem decodeList?_encodeList (bytes : Bytes) : decodeList? (encodeList bytes) = some bytes := by
  fun_induction encodeList bytes with
  | case1 => rfl
  | case2 a n =>
    have ha := a.toNat_lt
    have hback : Bytes.ofNat 1 a.toNat = [a] := ofNat_eq rfl (by simp [Bytes.toNat])
    rw [← hback]
    exact lastOne?_digit ha
  | case3 a b n =>
    have ha := a.toNat_lt
    have hb := b.toNat_lt
    have hback : Bytes.ofNat 2 (a.toNat * 256 + b.toNat) = [a, b] :=
      ofNat_eq rfl (by simp [Bytes.toNat])
    rw [decodeList?_lastTwo (digit_ne_pad (by omega)), ← hback]
    exact lastTwo?_digit (by omega)
  | case4 a b c rest n ih =>
    have ha := a.toNat_lt
    have hb := b.toNat_lt
    have hc := c.toNat_lt
    have hback : Bytes.ofNat 3 n = [a, b, c] := ofNat_eq rfl (by simp [Bytes.toNat, n])
    have hgroup := group?_digit (show n < 16777216 by omega)
    rw [hback] at hgroup
    exact decodeList?_group (digit_ne_pad (by omega)) hgroup ih

/-- What holds of the alphabet and of the padding holds of every character. -/
theorem forall_mem_encodeList {P : Char → Prop} (hdigit : ∀ n < 64, P (digit n)) (hpad : P '=')
    (bytes : Bytes) : ∀ c ∈ encodeList bytes, P c := by
  fun_induction encodeList bytes with
  | case1 => simp
  | case2 a n =>
    have ha := a.toNat_lt
    simp only [List.forall_mem_cons, List.not_mem_nil, false_imp_iff, implies_true, and_true]
    exact ⟨hdigit _ (by omega), hdigit _ (by omega), hpad, hpad⟩
  | case3 a b n =>
    have ha := a.toNat_lt
    have hb := b.toNat_lt
    simp only [List.forall_mem_cons, List.not_mem_nil, false_imp_iff, implies_true, and_true]
    exact ⟨hdigit _ (by omega), hdigit _ (by omega), hdigit _ (by omega), hpad⟩
  | case4 a b c rest n ih =>
    have ha := a.toNat_lt
    have hb := b.toNat_lt
    have hc := c.toNat_lt
    simp only [List.forall_mem_cons]
    exact ⟨hdigit _ (by omega), hdigit _ (by omega), hdigit _ (by omega), hdigit _ (by omega), ih⟩

/-- Base64 has no blanks. -/
theorem isBlank_encodeList (bytes : Bytes) : ∀ c ∈ encodeList bytes, isBlank c = false :=
  forall_mem_encodeList (P := fun c => isBlank c = false) (fun _ h => isBlank_digit h) rfl bytes

/-- So a byte string is read back with blanks dropped around its text. -/
theorem decodeList?_trim_encodeList (bytes : Bytes) :
    decodeList? (trim (encodeList bytes)) = some bytes := by
  rw [trim_of_no_blanks (isBlank_encodeList bytes), decodeList?_encodeList]

theorem encode_ne_empty {bytes : Bytes} (h : bytes ≠ []) : encode bytes ≠ "" := by
  intro hempty
  have hback := decodeList?_encodeList bytes
  rw [String.ofList_eq_empty_iff.1 hempty] at hback
  exact h (Option.some.inj hback).symm

end Base64

/-! ### Decimal digits -/

namespace Decimal

/-- A run of digits, at least one. -/
def IsNumber (cs : List Char) : Prop := cs ≠ [] ∧ ∀ c ∈ cs, isDigit c = true

theorem isNumber_print (n : Nat) : IsNumber (print n) :=
  ⟨print_ne_nil n, List.all_eq_true.1 (all_isDigit_print n)⟩

/-- A number that is not zero starts with another digit. -/
theorem head?_print_ne {n : Nat} (h : n ≠ 0) : (print n).head? ≠ some '0' := by
  fun_induction print n with
  | case1 n hn =>
    intro hzero
    have hvalue : value (digit n) = value '0' := by rw [Option.some.inj hzero]
    rw [value_digit hn] at hvalue
    exact h hvalue
  | case2 n hn ih =>
    have hfront : n / 10 ≠ 0 := by omega
    obtain ⟨first, others, hprint⟩ := List.exists_cons_of_ne_nil (print_ne_nil (n / 10))
    rw [hprint] at ih ⊢
    exact ih hfront

/-- Digits write their number, if it is below the bound. -/
theorem digits?_of_isNumber {cs : List Char} (h : IsNumber cs) (bound : Nat) :
    digits? bound cs = if ofDigits cs < bound then some (ofDigits cs) else none := by
  have hall : cs.all isDigit = true := List.all_eq_true.2 h.2
  simp only [digits?, h.1, hall, ne_eq, not_false_eq_true, true_and]

theorem digits?_eq_some_iff {bound n : Nat} {cs : List Char} :
    digits? bound cs = some n ↔ IsNumber cs ∧ ofDigits cs = n ∧ n < bound := by
  simp only [digits?, IsNumber, List.all_eq_true, Option.ite_none_right_eq_some,
    Option.some.injEq]
  constructor
  · rintro ⟨⟨hne, hdigits, hlt⟩, rfl⟩
    exact ⟨⟨hne, hdigits⟩, rfl, hlt⟩
  · rintro ⟨⟨hne, hdigits⟩, rfl, hlt⟩
    exact ⟨⟨hne, hdigits, hlt⟩, rfl⟩

/-- A number in digits, behind one plus sign or none. -/
inductive Writes : List Char → Nat → Prop
  | plain {digits : List Char} (h : IsNumber digits) : Writes digits (ofDigits digits)
  | signed {digits : List Char} (h : IsNumber digits) : Writes ('+' :: digits) (ofDigits digits)

theorem writes_print (n : Nat) : Writes (print n) n := by
  have h := Writes.plain (isNumber_print n)
  rwa [ofDigits_print] at h

/-- A sign is no digit. -/
theorem not_isNumber_signed {digits : List Char} : ¬ IsNumber ('+' :: digits) := fun h =>
  absurd (h.2 '+' List.mem_cons_self) (by decide)

/-- Nothing writes two numbers. -/
theorem Writes.unique {cs : List Char} {n m : Nat} (hn : Writes cs n) (hm : Writes cs m) :
    n = m := by
  cases hn with
  | plain h =>
    cases hm with
    | plain => rfl
    | signed => exact absurd h not_isNumber_signed
  | signed =>
    cases hm with
    | plain h => exact absurd h not_isNumber_signed
    | signed => rfl

/-- A number is read from what writes it, if it is below the bound. -/
theorem parse?_eq_some_iff {bound n : Nat} {cs : List Char} :
    parse? bound cs = some n ↔ Writes cs n ∧ n < bound := by
  unfold parse?
  split
  · rw [digits?_eq_some_iff]
    constructor
    · rintro ⟨hnumber, rfl, hlt⟩
      exact ⟨.signed hnumber, hlt⟩
    · rintro ⟨hwrites, hlt⟩
      cases hwrites with
      | plain hnumber => exact absurd hnumber not_isNumber_signed
      | signed hnumber => exact ⟨hnumber, rfl, hlt⟩
  · rename_i hsign
    rw [digits?_eq_some_iff]
    constructor
    · rintro ⟨hnumber, rfl, hlt⟩
      exact ⟨.plain hnumber, hlt⟩
    · rintro ⟨hwrites, hlt⟩
      cases hwrites with
      | plain hnumber => exact ⟨hnumber, rfl, hlt⟩
      | signed hnumber => exact absurd rfl (hsign _)

/-- A digit is no blank. -/
theorem isBlank_of_isDigit {c : Char} (h : isDigit c = true) : isBlank c = false := by
  obtain ⟨hlow, hhigh⟩ := Bool.and_eq_true_iff.1 h
  have hlow : 48 ≤ c.toNat := of_decide_eq_true hlow
  have hhigh : c.toNat ≤ 57 := of_decide_eq_true hhigh
  unfold isBlank
  generalize c.toNat = n at hlow hhigh
  simp only [Bool.or_eq_false_iff, Bool.and_eq_false_iff, decide_eq_false_iff_not,
    beq_eq_false_iff_ne]
  omega

/-- What writes a number has no blanks. -/
theorem Writes.isBlank {cs : List Char} {n : Nat} (h : Writes cs n) :
    cs ≠ [] ∧ ∀ c ∈ cs, isBlank c = false := by
  cases h with
  | plain h => exact ⟨h.1, fun c hc => isBlank_of_isDigit (h.2 c hc)⟩
  | signed h =>
    refine ⟨List.cons_ne_nil _ _, fun c hc => ?_⟩
    rcases List.mem_cons.1 hc with rfl | hc
    · decide
    · exact isBlank_of_isDigit (h.2 c hc)

theorem Writes.trim_append {cs before after : List Char} {n : Nat} (h : Writes cs n)
    (hbefore : AllBlank before) (hafter : AllBlank after) : trim (before ++ cs ++ after) = cs := by
  obtain ⟨hne, hblank⟩ := h.isBlank
  exact trim_append_blanks hbefore hafter hne (fun c hc => hblank c (List.mem_of_head? hc))
    fun c hc => hblank c (List.mem_of_getLast? hc)

/-- It ends in a digit. -/
theorem Writes.isDigit_getLast? {cs : List Char} {n : Nat} {c : Char} (h : Writes cs n)
    (hc : cs.getLast? = some c) : isDigit c = true := by
  cases h with
  | plain h => exact h.2 c (List.mem_of_getLast? hc)
  | signed h =>
    obtain ⟨first, others, rfl⟩ := List.exists_cons_of_ne_nil h.1
    exact h.2 c (List.mem_of_getLast? hc)

/-- A number is read back with blanks dropped around its digits. -/
theorem parse?_trim_print {bound n : Nat} (h : n < bound) :
    parse? bound (trim (print n)) = some n := by
  have hblank : ∀ c ∈ print n, isBlank c = false := fun c hc =>
    isBlank_of_isDigit (List.all_eq_true.1 (all_isDigit_print n) c hc)
  rw [trim_of_no_blanks hblank, parse?_print h]

theorem text_ne_empty (n : Nat) : text n ≠ "" :=
  fun hempty => print_ne_nil n (String.ofList_eq_empty_iff.1 hempty)

end Decimal

end HandleChallenge.Text
