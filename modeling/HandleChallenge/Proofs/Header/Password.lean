import HandleChallenge.Header.Password
import HandleChallenge.Proofs.Header.Scheme
import HandleChallenge.Proofs.Identity
import HandleChallenge.Proofs.Text.Base64
import HandleChallenge.Proofs.Text.Utf8

/-!
# The format of passwords

A header of the scheme `Basic` carries a text in base64 (`Carries`), and the text says an identity and
a password (`Says`). A header is read exactly as what the text that it carries says
(`parse?_eq_some_iff`), so that no two readings compete: a number in front of the first colon is always
an index. A client writes its identity and password in this way. The same identity is read back and the
bytes of the same password (`parse?_write`), whatever the password: only a handle with a colon would be
cut short.
-/

namespace HandleChallenge.Header

namespace PasswordClaim

open Text.Decimal (IsNumber ofDigits)

/-! ### The format -/

/-- The text says an identity and a password: handle and password are around a colon, behind the
digits of an index and a colon or, if the handle is no number itself, without an index. -/
inductive Says : List Char → PasswordClaim → Prop
  | indexed {digits handle password : List Char} {index : UInt32} (hdigits : IsNumber digits)
      (hindex : ofDigits digits = index.toNat) (hhandle : handle ≠ []) (hcolon : ':' ∉ handle) :
      Says (digits ++ ':' :: (handle ++ ':' :: password))
        ⟨⟨String.ofList handle, index⟩, Text.Utf8.encodeList password⟩
  | bare {handle password : List Char} (hhandle : handle ≠ []) (hcolon : ':' ∉ handle)
      (hplain : ¬ IsNumber handle) :
      Says (handle ++ ':' :: password)
        ⟨⟨String.ofList handle, 0⟩, Text.Utf8.encodeList password⟩

/-- The header carries the text: trimmed, it is the keyword of the scheme in any case, an ASCII blank
and the base64 of the text, around which there may be blanks. -/
def Carries (raw : String) (text : List Char) : Prop :=
  ∃ (word : List Char) (first : Char) (rest : List Char),
    Text.trim raw.toList = word ++ first :: rest ∧
    word.map Char.toLower = ['b', 'a', 's', 'i', 'c'] ∧
    first ∈ [' ', '\t', '\n', '\x0c', '\r'] ∧
    Text.trim rest = Text.Base64.encodeList (Text.Utf8.encodeList text)

/-! ### What a text is read as -/

/-- No number has a colon. -/
theorem colon_not_mem_of_isNumber {digits : List Char} (h : IsNumber digits) : ':' ∉ digits :=
  fun hmem => absurd (h.2 ':' hmem) (by decide)

/-- Behind the index a handle and a password are read, around the first colon. -/
theorem ofChars?_of_split {cs rest : List Char} {index : UInt32} {claim : PasswordClaim}
    (h : Identity.splitIndexChars cs = .ok (index, rest)) :
    ofChars? cs = some claim ↔ ∃ handle password, rest = handle ++ ':' :: password ∧ handle ≠ [] ∧
      ':' ∉ handle ∧ claim = ⟨⟨String.ofList handle, index⟩, Text.Utf8.encodeList password⟩ := by
  unfold ofChars?
  rw [h]
  simp only [Except.toOption, Option.bind_eq_bind, Option.bind_some]
  constructor
  · intro hread
    split at hread
    · cases hread
    · cases hread
    · rename_i colon password hbehind hne
      cases hread
      obtain rfl : colon = ':' := by
        simpa using Text.head?_dropWhile (congrArg List.head? hbehind)
      obtain ⟨hcolon, htext⟩ := Text.cut_iff.1 ⟨rfl, hbehind⟩
      exact ⟨_, password, htext, hne, hcolon, rfl⟩
  · rintro ⟨handle, password, rfl, hhandle, hcolon, rfl⟩
    obtain ⟨hfront, hbehind⟩ := Text.cut_iff.2 ⟨hcolon, rfl⟩
    rw [hfront, hbehind]
    obtain ⟨first, more, rfl⟩ := List.exists_cons_of_ne_nil hhandle
    rfl

/-- A text is read exactly as the identity and password that it says. -/
theorem ofChars?_eq_some_iff {cs : List Char} {claim : PasswordClaim} :
    ofChars? cs = some claim ↔ Says cs claim := by
  constructor
  · intro h
    rcases Identity.split_cases cs with ⟨digits, index, rest, hdigits, hindex, rfl, hsplit⟩ |
      ⟨digits, rest, hdigits, hlarge, rfl, hsplit⟩ | ⟨hplain, hsplit⟩
    · obtain ⟨handle, password, rfl, hhandle, hcolon, rfl⟩ := (ofChars?_of_split hsplit).1 h
      exact .indexed hdigits hindex hhandle hcolon
    · rw [ofChars?, hsplit] at h
      cases h
    · obtain ⟨handle, password, rfl, hhandle, hcolon, rfl⟩ := (ofChars?_of_split hsplit).1 h
      exact .bare hhandle hcolon fun hnumber => hplain ⟨handle, password, hnumber, rfl⟩
  · intro h
    cases h with
    | indexed hdigits hindex hhandle hcolon =>
      exact (ofChars?_of_split (Identity.splitIndexChars_of_index hdigits hindex _)).2
        ⟨_, _, rfl, hhandle, hcolon, rfl⟩
    | @bare handle password hhandle hcolon hplain =>
      have hstart : ¬ Identity.StartsWithIndex (handle ++ ':' :: password) := by
        rintro ⟨digits, rest, hdigits, htext⟩
        obtain ⟨rfl, -⟩ := Text.append_cons_inj hcolon (colon_not_mem_of_isNumber hdigits) htext
        exact hplain hdigits
      exact (ofChars?_of_split (Identity.splitIndexChars_of_not_startsWithIndex hstart)).2
        ⟨_, _, rfl, hhandle, hcolon, rfl⟩

/-! ### What a header is read as -/

/-- The letters of the keyword are no blanks. -/
theorem isAsciiBlank_keyword : ∀ c ∈ scheme.toList, Text.isAsciiBlank c.toLower = false := by
  simp [scheme, Text.isAsciiBlank]

/-- What a header carries stands behind its keyword. -/
theorem carries_iff {raw : String} {text : List Char} :
    Carries raw text ↔ ∃ encoded, restOfScheme? scheme raw = some encoded ∧
      Text.trim encoded = Text.Base64.encodeList (Text.Utf8.encodeList text) := by
  have htrim {first : Char} (hfirst : first ∈ [' ', '\t', '\n', '\x0c', '\r'])
      (rest : List Char) : Text.trim (first :: rest) = Text.trim rest :=
    Text.trim_cons_of_isBlank (Text.isBlank_of_isAsciiBlank (isAsciiBlank_iff.2 hfirst)) rest
  constructor
  · rintro ⟨word, first, rest, hraw, hword, hfirst, hrest⟩
    exact ⟨first :: rest, (restOfScheme?_eq_some_iff isAsciiBlank_keyword).2
      ⟨word, hraw, hword, first, rest, rfl, hfirst⟩, (htrim hfirst rest).trans hrest⟩
  · rintro ⟨encoded, hencoded, htext⟩
    obtain ⟨word, hraw, hword, first, rest, rfl, hfirst⟩ :=
      (restOfScheme?_eq_some_iff isAsciiBlank_keyword).1 hencoded
    exact ⟨word, first, rest, hraw, hword, hfirst, (htrim hfirst rest).symm.trans htext⟩

/-- A header is read exactly as what the text that it carries says. -/
theorem parse?_eq_some_iff {raw : String} {claim : PasswordClaim} :
    parse? raw = some claim ↔ ∃ text, Carries raw text ∧ Says text claim := by
  constructor
  · intro h
    simp only [parse?, Option.bind_eq_bind, Option.bind_eq_some_iff] at h
    obtain ⟨encoded, hencoded, bytes, hbytes, text, htext, hchars⟩ := h
    obtain rfl := Text.Utf8.decode?_eq_some_iff.1 htext
    refine ⟨text.toList, carries_iff.2 ⟨encoded, hencoded, ?_⟩, ofChars?_eq_some_iff.1 hchars⟩
    exact Text.Base64.decodeList?_eq_some_iff.1 hbytes
  · rintro ⟨text, hcarries, hsays⟩
    obtain ⟨encoded, hencoded, htext⟩ := carries_iff.1 hcarries
    have hbytes : Text.Utf8.decode? (Text.Utf8.encodeList text) = some (String.ofList text) :=
      Text.Utf8.decode?_eq_some_iff.2 (by rw [Text.Utf8.encode, String.toList_ofList])
    unfold parse?
    simp only [hencoded, htext, Text.Base64.decodeList?_encodeList, hbytes, String.toList_ofList,
      Option.bind_eq_bind, Option.bind_some, ofChars?_eq_some_iff.2 hsays]

/-- A header carries one text. -/
theorem Carries.unique {raw : String} {text other : List Char} (h : Carries raw text)
    (hother : Carries raw other) : text = other := by
  obtain ⟨encoded, hencoded, htext⟩ := carries_iff.1 h
  obtain ⟨encoded', hencoded', hother⟩ := carries_iff.1 hother
  cases hencoded.symm.trans hencoded'
  have hbytes : Text.Utf8.encodeList text = Text.Utf8.encodeList other :=
    Option.some.inj ((Text.Base64.decodeList?_eq_some_iff.2 htext).symm.trans
      (Text.Base64.decodeList?_eq_some_iff.2 hother))
  have hchars := congrArg Text.Utf8.decodeLossyList hbytes
  rwa [Text.Utf8.decodeLossyList_encodeList, Text.Utf8.decodeLossyList_encodeList] at hchars

/-! ### Headers as clients write them -/

/-- The header that carries a text. -/
def headerOf (text : String) : String :=
  scheme ++ " " ++ Text.Base64.encode (Text.Utf8.encode text)

theorem headerOf_eq (text : String) :
    headerOf text = String.ofList (scheme.toList ++ ' ' ::
      Text.Base64.encodeList (Text.Utf8.encode text)) := by
  apply String.toList_inj.1
  simp [headerOf, Text.Base64.encode]

theorem isBlank_scheme : ∀ c ∈ scheme.toList, (!Text.isBlank c) = true :=
  List.all_eq_true.1 (by decide)

theorem carries_headerOf {text : String} (h : text ≠ "") : Carries (headerOf text) text.toList := by
  have hblanks := Text.Base64.isBlank_encodeList (Text.Utf8.encode text)
  obtain ⟨first, more, hencoded⟩ := List.exists_cons_of_ne_nil fun hnil =>
    Text.Base64.encode_ne_empty (Text.Utf8.encode_ne_nil h) (String.ofList_eq_empty_iff.2 hnil)
  refine carries_iff.2 ⟨' ' :: Text.Base64.encodeList (Text.Utf8.encode text), ?_, ?_⟩
  · rw [headerOf_eq]
    refine restOfScheme?_append (by decide) isBlank_scheme fun c hc => hblanks c ?_
    rw [hencoded, List.getLast?_cons_cons, ← hencoded] at hc
    exact List.mem_of_getLast? hc
  · rw [Text.trim_cons_of_isBlank (by decide), Text.trim_of_no_blanks hblanks, Text.Utf8.encode]

/-- The header of a text that says nothing is refused. -/
theorem parse?_eq_none_of_carries {raw : String} {text : List Char} (hcarries : Carries raw text)
    (hnothing : ∀ claim, ¬ Says text claim) : parse? raw = none := by
  refine Option.eq_none_iff_forall_ne_some.2 fun claim h => ?_
  obtain ⟨other, hother, hsays⟩ := parse?_eq_some_iff.1 h
  exact hnothing claim (hcarries.unique hother ▸ hsays)

/-- The text of an identity and a password in which the index stands even if it is zero. -/
def indexedText (identity : Identity) (password : String) : String :=
  Text.Decimal.text identity.index.toNat ++ ":" ++ identity.handle ++ ":" ++ password

theorem toList_indexedText (identity : Identity) (password : String) :
    (indexedText identity password).toList = Text.Decimal.print identity.index.toNat ++
      ':' :: (identity.handle.toList ++ ':' :: password.toList) := by
  simp [indexedText, Text.Decimal.text]

/-- The text of an identity with a password. -/
def text (identity : Identity) (password : String) : String :=
  identity.text ++ ":" ++ password

/-- The header of a client with a password. -/
def write (identity : Identity) (password : String) : String :=
  scheme ++ " " ++ Text.Base64.encode (Text.Utf8.encode (text identity password))

/-- It is no header with parameters. -/
theorem namesScheme_write (identity : Identity) (password : String) :
    namesScheme (write identity password) = false := by
  rw [write, ← headerOf, headerOf_eq, namesScheme_append (by decide) isBlank_scheme]
  decide

section Clients

variable {identity : Identity} (hindex : identity.hasIndex = true) (hhandle : identity.handle ≠ "")
  (hcolon : ':' ∉ identity.handle.toList)

include hhandle hcolon

/-- The handle ends at the first colon behind the index. -/
theorem says_indexedText (password : String) :
    Says (indexedText identity password).toList ⟨identity, Text.Utf8.encode password⟩ := by
  have hsays : Says (indexedText identity password).toList
      ⟨⟨String.ofList identity.handle.toList, identity.index⟩, Text.Utf8.encode password⟩ := by
    rw [toList_indexedText]
    exact .indexed (Text.Decimal.isNumber_print _) (Text.Decimal.ofDigits_print _)
      (fun hnil => hhandle (String.toList_eq_nil_iff.1 hnil)) hcolon
  rwa [String.ofList_toList] at hsays

/-- The identity and the bytes of the password are read back, also if the index is zero. -/
theorem parse?_headerOf_indexedText (password : String) :
    parse? (headerOf (indexedText identity password)) =
      some ⟨identity, Text.Utf8.encode password⟩ := by
  have hne : indexedText identity password ≠ "" := by
    intro hempty
    have hchars := toList_indexedText identity password
    rw [hempty] at hchars
    exact List.append_ne_nil_of_right_ne_nil _ (List.cons_ne_nil _ _) hchars.symm
  exact parse?_eq_some_iff.2 ⟨_, carries_headerOf hne, says_indexedText hhandle hcolon password⟩

include hindex in
/-- The identity and the bytes of the password are read back. -/
theorem parse?_write (password : String) :
    parse? (write identity password) = some { identity, password := Text.Utf8.encode password } := by
  have htext : text identity password = indexedText identity password := by
    apply String.toList_inj.1
    rw [text, toList_indexedText, String.toList_append, String.toList_append,
      Identity.toList_text (bne_iff_ne.1 hindex)]
    simp
  rw [write, ← headerOf, htext]
  exact parse?_headerOf_indexedText hhandle hcolon password

end Clients

/-! ### The two together -/

/-- A number in front of a colon is an index, even if nothing is read then. -/
theorem Says.indexed_of_isNumber {digits rest : List Char} {claim : PasswordClaim}
    (h : Says (digits ++ ':' :: rest) claim) (hdigits : IsNumber digits) :
    ofDigits digits < UInt32.size ∧ ':' ∈ rest := by
  generalize htext : digits ++ ':' :: rest = text at h
  cases h with
  | @indexed digits' handle password index hdigits' hindex =>
    obtain ⟨rfl, rfl⟩ := Text.append_cons_inj (colon_not_mem_of_isNumber hdigits)
      (colon_not_mem_of_isNumber hdigits') htext
    exact ⟨hindex ▸ index.toNat_lt, by simp⟩
  | bare _ hcolon hplain =>
    obtain ⟨rfl, -⟩ := Text.append_cons_inj (colon_not_mem_of_isNumber hdigits) hcolon htext
    exact absurd hdigits hplain

/-- A header is read exactly as what the text that it carries says. So each identity and password comes
back from the text in which the index stands, and a text with a number in front of its first colon is
refused if the number is no index or if no handle ends behind it, rather than read in another way. -/
theorem read_exactly_in_format :
    (∀ raw claim, parse? raw = some claim ↔ ∃ text, Carries raw text ∧ Says text claim) ∧
    (∀ (identity : Identity) (password : String), identity.handle ≠ "" →
      ':' ∉ identity.handle.toList →
      parse? (headerOf (indexedText identity password)) =
        some ⟨identity, Text.Utf8.encode password⟩) ∧
    ∀ raw digits rest, IsNumber digits → Carries raw (digits ++ ':' :: rest) →
      UInt32.size ≤ ofDigits digits ∨ ':' ∉ rest → parse? raw = none := by
  refine ⟨fun _ _ => parse?_eq_some_iff, fun _ password hhandle hcolon =>
    parse?_headerOf_indexedText hhandle hcolon password,
    fun raw digits rest hdigits hcarries hbad => ?_⟩
  refine parse?_eq_none_of_carries hcarries fun claim hsays => ?_
  obtain ⟨hfits, hcolon⟩ := hsays.indexed_of_isNumber hdigits
  exact hbad.elim (Nat.not_le.2 hfits) fun hnone => hnone hcolon

/-- A handle of digits is read behind the index zero, with a password of which a colon is part. A
number that is too large and a number as the handle of nothing are refused. -/
theorem read_exactly_in_format_of_digits :
    parse? (headerOf "0:123:a:b") = some ⟨⟨"123", 0⟩, Text.Utf8.encode "a:b"⟩ ∧
      parse? (headerOf "4294967296:h:w") = none ∧ parse? (headerOf "12:34") = none := by
  have htext : indexedText ⟨"123", 0⟩ "a:b" = "0:123:a:b" := by
    rw [indexedText, Text.Decimal.text, Text.Decimal.print]
    decide
  refine ⟨?_, ?_, ?_⟩
  · rw [← htext]
    exact read_exactly_in_format.2.1 ⟨"123", 0⟩ "a:b" (by decide) (by decide)
  · exact read_exactly_in_format.2.2 _ "4294967296".toList "h:w".toList
      ⟨by decide, List.all_eq_true.1 (by decide)⟩
      (carries_headerOf (by decide : "4294967296:h:w" ≠ "")) (.inl (by decide))
  · exact read_exactly_in_format.2.2 _ "12".toList "34".toList
      ⟨by decide, List.all_eq_true.1 (by decide)⟩
      (carries_headerOf (by decide : "12:34" ≠ "")) (.inr (by decide))

end PasswordClaim

end HandleChallenge.Header
