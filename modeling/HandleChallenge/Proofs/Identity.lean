import HandleChallenge.Identity
import HandleChallenge.Proofs.Text.Fields

/-!
# Identities read back

A number and a colon at the front of a text are an index (`StartsWithIndex`), and any other text is a
handle as it stands. `Names` says which identity a text names, and a text is read exactly as the
identity that it names (`parse_eq_ok_iff`). So an identity that names an index is read back from its
text (`parse_text`), whatever its handle is, if it has one: the index ends at the first colon, and
the handle may hold digits and colons. An identity without an index is read back unless its handle
starts with an index itself (`text_survives_exactly`).
-/

namespace HandleChallenge.Identity

open Text (takeWhile_append_cons dropWhile_append_cons)
open Text.Decimal (IsNumber ofDigits)

variable {identity : Identity}

theorem text_ne_empty (h : identity.handle ≠ "") : identity.text ≠ "" := by
  rw [text, Ne, String.ofList_eq_empty_iff, chars]
  split
  · simp
  · exact fun hchars => h (String.toList_eq_nil_iff.1 hchars)

/-! ### The index at the front -/

/-- A number and a colon stand at the front. -/
def StartsWithIndex (cs : List Char) : Prop :=
  ∃ digits rest, IsNumber digits ∧ cs = digits ++ ':' :: rest

/-- A number fits into an index, or is out of range. -/
theorem exists_index_or (n : Nat) : (∃ index : UInt32, n = index.toNat) ∨ UInt32.size ≤ n := by
  by_cases h : n < UInt32.size
  · exact .inl ⟨UInt32.ofNat n, (UInt32.toNat_ofNat_of_lt' h).symm⟩
  · exact .inr (Nat.le_of_not_lt h)

section
variable {digits : List Char} (hdigits : IsNumber digits)
include hdigits

/-- A number in front of a colon is taken for an index. -/
theorem splitIndexChars_append (rest : List Char) :
    splitIndexChars (digits ++ ':' :: rest) =
      match Text.Decimal.digits? UInt32.size digits with
      | some index => .ok (UInt32.ofNat index, rest)
      | none => .error (.indexOutOfRange (String.ofList digits)) := by
  unfold splitIndexChars
  simp only [takeWhile_append_cons hdigits.2 (rfl : Text.Decimal.isDigit ':' = false),
    dropWhile_append_cons hdigits.2 (rfl : Text.Decimal.isDigit ':' = false)]
  obtain ⟨first, more, rfl⟩ := List.exists_cons_of_ne_nil hdigits.1
  rfl

/-- An index that fits is split off. -/
theorem splitIndexChars_of_index {index : UInt32} (hindex : ofDigits digits = index.toNat)
    (rest : List Char) : splitIndexChars (digits ++ ':' :: rest) = .ok (index, rest) := by
  rw [splitIndexChars_append hdigits, Text.Decimal.digits?_of_isNumber hdigits, hindex,
    if_pos index.toNat_lt]
  simp only [UInt32.ofNat_toNat]

theorem splitIndexChars_of_size_le (hlarge : UInt32.size ≤ ofDigits digits) (rest : List Char) :
    splitIndexChars (digits ++ ':' :: rest) =
      .error (.indexOutOfRange (String.ofList digits)) := by
  rw [splitIndexChars_append hdigits, Text.Decimal.digits?_of_isNumber hdigits,
    if_neg (Nat.not_lt.2 hlarge)]

end

/-- Without an index at the front nothing is split off. -/
theorem splitIndexChars_of_not_startsWithIndex {cs : List Char} (h : ¬ StartsWithIndex cs) :
    splitIndexChars cs = .ok (0, cs) := by
  unfold splitIndexChars
  simp only
  split
  · rename_i first more rest hdigits hrest
    refine absurd ⟨first :: more, rest, ⟨List.cons_ne_nil _ _, ?_⟩, ?_⟩ h
    · exact fun c hc => List.all_eq_true.1 List.all_takeWhile c (hdigits ▸ hc)
    · rw [← hdigits, ← hrest, List.takeWhile_append_dropWhile]
  · rfl

/-- The index is split off, and the handle is left. -/
theorem splitIndexChars_print (index : UInt32) (handle : List Char) :
    splitIndexChars (Text.Decimal.print index.toNat ++ ':' :: handle) = .ok (index, handle) :=
  splitIndexChars_of_index (Text.Decimal.isNumber_print _) (Text.Decimal.ofDigits_print _) handle

/-! ### What a text is read as -/

/-- The identity of an index and a handle, if there is one. -/
def ofHandle (index : UInt32) (handle : List Char) : Except ParseError Identity :=
  if handle = [] then .error .emptyHandle else .ok ⟨String.ofList handle, index⟩

theorem ofHandle_eq_ok_iff {index : UInt32} {handle : List Char} :
    ofHandle index handle = .ok identity ↔
      handle ≠ [] ∧ identity = ⟨String.ofList handle, index⟩ := by
  unfold ofHandle
  split
  · simp_all
  · simp_all [eq_comm]

theorem ofHandle_eq_error_iff {index : UInt32} {handle : List Char} {error : ParseError} :
    ofHandle index handle = .error error ↔ handle = [] ∧ error = .emptyHandle := by
  unfold ofHandle
  split
  · simp_all [eq_comm]
  · simp_all

/-- A text is read by what is left of it behind the index. -/
theorem parse_eq (text : String) :
    parse text = match splitIndexChars text.toList with
      | .error error => .error error
      | .ok (index, handle) => ofHandle index handle := by
  unfold parse splitIndex
  rcases splitIndexChars text.toList with error | ⟨index, handle⟩
  · rfl
  · simp only [bind, Except.bind, pure, Except.pure, String.ofList_eq_empty_iff]
    unfold ofHandle
    split <;> rfl

/-- A text is split into an index and a handle in one of three ways: an index that fits is at its
front, or one that does not, or none. -/
theorem split_cases (cs : List Char) :
    (∃ digits index rest, IsNumber digits ∧ ofDigits digits = UInt32.toNat index ∧
        cs = digits ++ ':' :: rest ∧ splitIndexChars cs = .ok (index, rest)) ∨
      (∃ digits rest, IsNumber digits ∧ UInt32.size ≤ ofDigits digits ∧
        cs = digits ++ ':' :: rest ∧
          splitIndexChars cs = .error (.indexOutOfRange (String.ofList digits))) ∨
      (¬ StartsWithIndex cs ∧ splitIndexChars cs = .ok (0, cs)) := by
  by_cases hstart : StartsWithIndex cs
  · obtain ⟨digits, rest, hdigits, rfl⟩ := hstart
    rcases exists_index_or (ofDigits digits) with ⟨index, hindex⟩ | hlarge
    · exact .inl ⟨digits, index, rest, hdigits, hindex, rfl,
        splitIndexChars_of_index hdigits hindex rest⟩
    · exact .inr (.inl ⟨digits, rest, hdigits, hlarge, rfl,
        splitIndexChars_of_size_le hdigits hlarge rest⟩)
  · exact .inr (.inr ⟨hstart, splitIndexChars_of_not_startsWithIndex hstart⟩)

/-- The text names the identity: the digits of the index, a colon and the handle, or the handle
alone, unless it starts with an index itself. -/
inductive Names : List Char → Identity → Prop
  | indexed {digits handle : List Char} {index : UInt32} (hdigits : IsNumber digits)
      (hindex : ofDigits digits = index.toNat) (hhandle : handle ≠ []) :
      Names (digits ++ ':' :: handle) ⟨String.ofList handle, index⟩
  | bare {handle : List Char} (hhandle : handle ≠ []) (hplain : ¬ StartsWithIndex handle) :
      Names handle ⟨String.ofList handle, 0⟩

theorem Names.handle_ne {cs : List Char} (h : Names cs identity) : identity.handle ≠ "" := by
  cases h with
  | indexed _ _ hhandle => exact fun hempty => hhandle (String.ofList_eq_empty_iff.1 hempty)
  | bare hhandle _ => exact fun hempty => hhandle (String.ofList_eq_empty_iff.1 hempty)

/-- Behind an index less is left than the whole text. -/
theorem Names.length_handle_lt {cs : List Char} (h : Names cs identity) (hstart : StartsWithIndex cs) :
    identity.handle.toList.length < cs.length := by
  cases h with
  | indexed _ _ _ =>
    simp only [String.toList_ofList, List.length_append, List.length_cons]
    omega
  | bare _ hplain => exact absurd hstart hplain

/-- A text is read exactly as the identity that it names. -/
theorem parse_eq_ok_iff {text : String} :
    parse text = .ok identity ↔ Names text.toList identity := by
  rw [parse_eq]
  generalize text.toList = cs
  constructor
  · intro h
    rcases split_cases cs with ⟨digits, index, rest, hdigits, hindex, rfl, hsplit⟩ |
      ⟨digits, rest, hdigits, hlarge, rfl, hsplit⟩ | ⟨hplain, hsplit⟩
    · rw [hsplit] at h
      obtain ⟨hrest, rfl⟩ := ofHandle_eq_ok_iff.1 h
      exact .indexed hdigits hindex hrest
    · rw [hsplit] at h
      cases h
    · rw [hsplit] at h
      obtain ⟨hne, rfl⟩ := ofHandle_eq_ok_iff.1 h
      exact .bare hne hplain
  · intro h
    cases h with
    | indexed hdigits hindex hhandle =>
      rw [splitIndexChars_of_index hdigits hindex]
      exact ofHandle_eq_ok_iff.2 ⟨hhandle, rfl⟩
    | bare hhandle hplain =>
      rw [splitIndexChars_of_not_startsWithIndex hplain]
      exact ofHandle_eq_ok_iff.2 ⟨hhandle, rfl⟩

/-- An index is out of range exactly if its digits are at the front and do not fit. -/
theorem parse_eq_indexOutOfRange_iff {text digits : String} :
    parse text = .error (.indexOutOfRange digits) ↔
      IsNumber digits.toList ∧ UInt32.size ≤ ofDigits digits.toList ∧
        ∃ rest, text.toList = digits.toList ++ ':' :: rest := by
  rw [parse_eq]
  constructor
  · intro h
    rcases split_cases text.toList with
      ⟨found, index, rest, hfound, hindex, htext, hsplit⟩ |
      ⟨found, rest, hfound, hlarge, htext, hsplit⟩ | ⟨hplain, hsplit⟩
    · rw [hsplit] at h
      exact nomatch (ofHandle_eq_error_iff.1 h).2
    · rw [hsplit] at h
      cases h
      rw [String.toList_ofList]
      exact ⟨hfound, hlarge, rest, htext⟩
    · rw [hsplit] at h
      exact nomatch (ofHandle_eq_error_iff.1 h).2
  · rintro ⟨hdigits, hlarge, rest, htext⟩
    rw [htext, splitIndexChars_of_size_le hdigits hlarge, String.ofList_toList]

/-- A handle is missing exactly if there is no text, or none behind an index that fits. -/
theorem parse_eq_emptyHandle_iff {text : String} :
    parse text = .error .emptyHandle ↔
      text = "" ∨ ∃ digits, IsNumber digits ∧ ofDigits digits < UInt32.size ∧
        text.toList = digits ++ [':'] := by
  rw [parse_eq]
  constructor
  · intro h
    rcases split_cases text.toList with
      ⟨digits, index, rest, hdigits, hindex, htext, hsplit⟩ |
      ⟨digits, rest, hdigits, hlarge, htext, hsplit⟩ | ⟨hplain, hsplit⟩
    · rw [hsplit] at h
      obtain ⟨rfl, -⟩ := ofHandle_eq_error_iff.1 h
      exact .inr ⟨digits, hdigits, hindex ▸ index.toNat_lt, htext⟩
    · rw [hsplit] at h
      cases h
    · rw [hsplit] at h
      exact .inl (String.toList_eq_nil_iff.1 (ofHandle_eq_error_iff.1 h).1)
  · rintro (rfl | ⟨digits, hdigits, hfits, htext⟩)
    · rfl
    · obtain ⟨index, hindex⟩ | hlarge := exists_index_or (ofDigits digits)
      · rw [htext, splitIndexChars_of_index hdigits hindex]
        exact ofHandle_eq_error_iff.2 ⟨rfl, rfl⟩
      · exact absurd hfits (Nat.not_lt.2 hlarge)

/-! ### Identities and their texts -/

theorem toList_text (hindex : identity.index ≠ 0) :
    identity.text.toList =
      Text.Decimal.print identity.index.toNat ++ ':' :: identity.handle.toList := by
  rw [text, String.toList_ofList, chars, if_pos (by simpa [hasIndex] using hindex)]

theorem text_of_no_index (hindex : identity.index = 0) : identity.text = identity.handle := by
  rw [text, chars, if_neg (by simpa [hasIndex] using hindex), String.ofList_toList]

/-- An identity with an index and a handle is read back from its text. -/
theorem parse_text (hindex : identity.hasIndex = true) (hhandle : identity.handle ≠ "") :
    parse identity.text = .ok identity := by
  rw [parse_eq, toList_text (bne_iff_ne.1 hindex), splitIndexChars_print]
  refine ofHandle_eq_ok_iff.2 ⟨fun hnil => hhandle (String.toList_eq_nil_iff.1 hnil), ?_⟩
  rw [String.ofList_toList]

/-- An identity without an index is read back if its handle does not start with one. -/
theorem parse_handle_eq_ok_iff (hindex : identity.index = 0) :
    parse identity.handle = .ok identity ↔
      identity.handle ≠ "" ∧ ¬ StartsWithIndex identity.handle.toList := by
  constructor
  · intro h
    have hnames := parse_eq_ok_iff.1 h
    refine ⟨hnames.handle_ne, ?_⟩
    rintro ⟨digits, rest, hdigits, htext⟩
    -- of a handle behind an index less is left than the whole
    rw [htext] at hnames
    have hlength := hnames.length_handle_lt ⟨digits, rest, hdigits, rfl⟩
    rw [htext] at hlength
    exact Nat.lt_irrefl _ hlength
  · rintro ⟨hhandle, hplain⟩
    rw [parse_eq, splitIndexChars_of_not_startsWithIndex hplain]
    refine ofHandle_eq_ok_iff.2 ⟨fun hnil => hhandle (String.toList_eq_nil_iff.1 hnil), ?_⟩
    rw [String.ofList_toList, ← hindex]

/-- An identity is read back from its text exactly if it has a handle and either has an index or
has a handle that does not start with one. Of every text it is told which identity it names, whether
its index is out of range (and by which digits), and whether it has no handle. -/
theorem text_survives_exactly :
    (∀ identity : Identity, parse identity.text = .ok identity ↔
      identity.handle ≠ "" ∧
        (identity.index ≠ 0 ∨ ¬ StartsWithIndex identity.handle.toList)) ∧
    ∀ text : String,
      (∀ identity, parse text = .ok identity ↔ Names text.toList identity) ∧
      (∀ digits, parse text = .error (.indexOutOfRange digits) ↔
        IsNumber digits.toList ∧ UInt32.size ≤ ofDigits digits.toList ∧
          ∃ rest, text.toList = digits.toList ++ ':' :: rest) ∧
      (parse text = .error .emptyHandle ↔
        text = "" ∨ ∃ digits, IsNumber digits ∧ ofDigits digits < UInt32.size ∧
          text.toList = digits ++ [':']) := by
  refine ⟨fun identity => ?_, fun text => ⟨fun identity => parse_eq_ok_iff,
    fun digits => parse_eq_indexOutOfRange_iff, parse_eq_emptyHandle_iff⟩⟩
  by_cases hindex : identity.index = 0
  · rw [text_of_no_index hindex, parse_handle_eq_ok_iff hindex]
    simp only [hindex, ne_eq, not_true_eq_false, false_or]
  · simp only [ne_eq, hindex, not_false_eq_true, true_or, and_true]
    exact ⟨fun h => (parse_eq_ok_iff.1 h).handle_ne, parse_text (bne_iff_ne.2 hindex)⟩

end HandleChallenge.Identity
