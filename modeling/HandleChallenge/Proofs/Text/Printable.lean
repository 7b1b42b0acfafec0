import HandleChallenge.Http.Headers
import HandleChallenge.Proofs.Text.Fields
import HandleChallenge.Proofs.Text.Utf8
import HandleChallenge.Text.Percent
import HandleChallenge.Text.Quoted

/-!
# Printable text

Quotes, base64 and percent escapes add nothing to a text but printable ASCII. They are therefore
within every class of characters that has all of it. A text of printable ASCII can be a value of a
field, and is read back from it (`textOf?_encode`).
-/

namespace HandleChallenge.Text

/-- Whether a character is printable ASCII. -/
def isPrintable (c : Char) : Bool := 0x20 ≤ c.toNat && c.toNat < 0x7F

theorem isPrintable_iff {c : Char} : isPrintable c = true ↔ 0x20 ≤ c.toNat ∧ c.toNat < 0x7F := by
  simp [isPrintable]

/-- Of printable ASCII the space alone is a blank. -/
theorem isBlank_of_isPrintable {c : Char} (h : isPrintable c = true) (hspace : c ≠ ' ') :
    isBlank c = false := by
  obtain ⟨hlow, hhigh⟩ := isPrintable_iff.1 h
  have hne : c.toNat ≠ 0x20 := fun heq => hspace (Char.toNat_inj.1 heq)
  rw [← Bool.not_eq_true]
  intro hblank
  simp only [isBlank, Bool.or_eq_true, Bool.and_eq_true, decide_eq_true_eq, beq_iff_eq] at hblank
  omega

section

variable {allowed : Char → Bool}

/-- A quoted string is of allowed characters if what it quotes is. -/
theorem all_quoted (hquote : allowed '"' = true) (hbackslash : allowed '\\' = true)
    (cs : List Char) : (Quoted.write cs).all allowed = cs.all allowed := by
  have hescape : (Quoted.escape cs).all allowed = cs.all allowed := by
    induction cs with
    | nil => rfl
    | cons c cs ih =>
      unfold Quoted.escape
      split
      · rw [List.all_cons, List.all_cons, List.all_cons, ih, hbackslash, Bool.true_and]
      · rw [List.all_cons, List.all_cons, ih]
  rw [Quoted.write, List.all_append, List.all_cons, hescape, List.all_cons, List.all_nil, hquote,
    Bool.true_and, Bool.and_self, Bool.and_true]

variable (hallowed : ∀ c, isPrintable c = true → allowed c = true)

include hallowed

theorem all_of_printable {cs : List Char} (h : cs.all isPrintable = true) :
    cs.all allowed = true :=
  List.all_eq_true.2 fun c hc => hallowed c (List.all_eq_true.1 h c hc)

theorem all_base64 (bytes : Bytes) : (Base64.encodeList bytes).all allowed = true := by
  have hdigit : ∀ n : Fin 64, isPrintable (Base64.digit n) = true := by decide
  exact List.all_eq_true.2 (Base64.forall_mem_encodeList (P := fun c => allowed c = true)
    (fun n hn => hallowed _ (hdigit ⟨n, hn⟩)) (hallowed _ rfl) bytes)

/-- Escapes are allowed, and so is what needs none. -/
theorem all_percent {keep : Char → Bool} (hkeep : ∀ c, keep c = true → allowed c = true)
    (cs : List Char) : (Percent.encodeList keep cs).all allowed = true := by
  have hdigit : ∀ n : Fin 16, isPrintable (Hex.upperDigit n) = true := by decide
  refine List.all_eq_true.2 fun c hc => ?_
  obtain ⟨byte, -, hbyte⟩ := List.mem_flatMap.1 hc
  unfold Percent.encodeByte at hbyte
  split at hbyte
  · rename_i hkept
    rw [List.mem_singleton.1 hbyte]
    exact hkeep _ hkept.2
  · have hlt := byte.toNat_lt
    simp only [List.mem_cons, List.not_mem_nil, or_false] at hbyte
    rcases hbyte with rfl | rfl | rfl
    · exact hallowed _ rfl
    · exact hallowed _ (hdigit ⟨byte.toNat / 16, by omega⟩)
    · exact hallowed _ (hdigit ⟨byte.toNat % 16, Nat.mod_lt _ (by decide)⟩)

end

/-- A text of printable ASCII is read back from the value of a field. -/
theorem textOf?_encode {text : String} (h : text.toList.all isPrintable = true) :
    Http.textOf? (Utf8.encode text) = some text := by
  have hascii : ∀ c ∈ text.toList, 0x20 ≤ c.toNat ∧ c.toNat < 0x7F :=
    fun c hc => isPrintable_iff.1 (List.all_eq_true.1 h c hc)
  have hbytes : Utf8.encode text = text.toList.map fun c => UInt8.ofNat c.toNat :=
    Utf8.encodeList_of_forall_lt fun c hc => Nat.lt_trans (hascii c hc).2 (by decide)
  have htext : ∀ n : Fin 0x7F, 0x20 ≤ n.val → Http.isTextByte (UInt8.ofNat n) = true := by decide
  have hall : (Utf8.encode text).all Http.isTextByte = true := by
    rw [hbytes, List.all_map]
    exact List.all_eq_true.2 fun c hc => htext ⟨c.toNat, (hascii c hc).2⟩ (hascii c hc).1
  have hback : (Utf8.encode text).map (fun b => Char.ofNat b.toNat) = text.toList := by
    rw [hbytes, List.map_map]
    refine List.map_congr_left (fun c hc => ?_) |>.trans (List.map_id _)
    have hrange := hascii c hc
    rw [Function.comp_apply, Utf8.toNat_ofNat (by omega), Char.ofNat_toNat, id_eq]
  rw [Http.textOf?, if_pos hall, hback, String.ofList_toList]

end HandleChallenge.Text
