import HandleChallenge.Authentication.Request
import HandleChallenge.Proofs.Header.Grammar

/-!
# The scheme of a header

Three readings look for the scheme of a header. Parameters and passwords stand behind a keyword that
ends at the first ASCII blank of the trimmed header, and whether a header is of the scheme with
parameters is told by its first word, which ends at any blank of Unicode (`namesScheme_iff`). As no
keyword has a blank of either set, a keyword that was found is the first word
(`firstWord?_of_restOfScheme?`), and the three readings agree (`header_taken_one_way`).
-/

namespace HandleChallenge

namespace Text

/-- The first word stands behind blanks or nothing, has none itself and ends at one or at the end. -/
theorem firstWord?_eq_some_iff {cs word : List Char} :
    firstWord? cs = some word ↔
      word ≠ [] ∧ (∀ c ∈ word, isBlank c = false) ∧ ∃ before behind,
        cs = before ++ word ++ behind ∧ AllBlank before ∧
        ∀ c, behind.head? = some c → isBlank c = true := by
  have hfound : firstWord? cs = some word ↔
      word ≠ [] ∧ (trimStart cs).takeWhile (!isBlank ·) = word := by
    unfold firstWord?
    split
    · rename_i hnil
      rw [hnil]
      refine ⟨fun h => ?_, fun h => absurd h.2.symm h.1⟩
      cases h
    · rename_i hne
      rw [Option.some.injEq]
      exact ⟨fun h => ⟨h ▸ hne, h⟩, And.right⟩
  rw [hfound]
  constructor
  · rintro ⟨hne, rfl⟩
    refine ⟨hne, fun c hc => by simpa using List.mem_takeWhile_imp hc, cs.takeWhile isBlank,
      (trimStart cs).dropWhile (!isBlank ·), ?_, fun c hc => List.mem_takeWhile_imp hc,
      fun c hc => by simpa using head?_dropWhile hc⟩
    rw [List.append_assoc, List.takeWhile_append_dropWhile, trimStart,
      List.takeWhile_append_dropWhile]
  · rintro ⟨hne, hword, before, behind, rfl, hbefore, hbehind⟩
    have hrun : ∀ c ∈ word, (!isBlank c) = true := fun c hc => by rw [hword c hc, Bool.not_false]
    have hstart : trimStart (before ++ word ++ behind) = word ++ behind := by
      obtain ⟨first, others, rfl⟩ := List.exists_cons_of_ne_nil hne
      rw [trimStart, List.append_assoc, List.dropWhile_append_of_pos hbefore]
      exact List.dropWhile_cons_of_neg (by simp [hword first List.mem_cons_self])
    refine ⟨hne, ?_⟩
    rw [hstart]
    exact takeWhile_append_of_head hrun fun c hc => by rw [hbehind c hc, Bool.not_true]

end Text

namespace Header

/-! ### The first word and the keyword -/

/-- The first word of a header is its keyword. -/
theorem namesScheme_append {keyword : String} (hne : keyword ≠ "")
    (hkeyword : ∀ c ∈ keyword.toList, (!Text.isBlank c) = true) (body : List Char) :
    namesScheme (String.ofList (keyword.toList ++ ' ' :: body)) =
      Text.sameIgnoringCase keyword.toList scheme.toList := by
  have hfirst : Text.firstWord? (keyword.toList ++ ' ' :: body) = some keyword.toList := by
    refine Text.firstWord?_eq_some_iff.2 ⟨fun hnil => hne (String.toList_eq_nil_iff.1 hnil),
      fun c hc => by simpa using hkeyword c hc, [], ' ' :: body, rfl, by simp [Text.AllBlank], ?_⟩
    rintro c ⟨⟩
    rfl
  rw [namesScheme, String.toList_ofList, hfirst]
  rfl

/-- A keyword that was found is the first word of its header. -/
theorem firstWord?_of_restOfScheme? {keyword raw : String} {rest : List Char}
    (hne : keyword ≠ "") (hkeyword : ∀ c ∈ keyword.toList, Text.isBlank c.toLower = false)
    (h : restOfScheme? keyword raw = some rest) :
    ∃ word, Text.firstWord? raw.toList = some word ∧
      word.map Char.toLower = keyword.toList.map Char.toLower := by
  obtain ⟨word, hsplit, hword⟩ := restOfScheme?_iff_splitScheme?.1 h
  obtain ⟨htrim, -, first, more, rfl, hfirst⟩ := splitScheme?_eq_some_iff.1 hsplit
  obtain ⟨before, after, hbefore, -, hraw⟩ := Text.exists_trim_eq raw.toList
  have hword_ne : word ≠ [] := by
    rintro rfl
    exact hne (String.toList_eq_nil_iff.1 (List.map_eq_nil_iff.1 hword.symm))
  refine ⟨word, Text.firstWord?_eq_some_iff.2 ⟨hword_ne, forall_of_keyword id hkeyword hword,
    before, first :: more ++ after, ?_, hbefore, ?_⟩, hword⟩
  · rw [hraw, htrim]
    simp
  · rintro c ⟨⟩
    exact Text.isBlank_of_isAsciiBlank hfirst

/-- So a header with a keyword is of the scheme with parameters exactly if the keyword is. -/
theorem namesScheme_of_restOfScheme? {keyword raw : String} {rest : List Char}
    (hne : keyword ≠ "") (hkeyword : ∀ c ∈ keyword.toList, Text.isBlank c.toLower = false)
    (h : restOfScheme? keyword raw = some rest) :
    namesScheme raw = Text.sameIgnoringCase keyword.toList scheme.toList := by
  obtain ⟨word, hfirst, hword⟩ := firstWord?_of_restOfScheme? hne hkeyword h
  rw [namesScheme, hfirst, Option.any_some, Text.sameIgnoringCase, hword]
  rfl

theorem isBlank_toLower_scheme : ∀ c ∈ scheme.toList, Text.isBlank c.toLower = false := by
  simp [scheme, Text.isBlank]

theorem PasswordClaim.isBlank_toLower_scheme :
    ∀ c ∈ PasswordClaim.scheme.toList, Text.isBlank c.toLower = false := by
  simp [scheme, Text.isBlank]

/-- A header is of the scheme with parameters if its first word is the keyword in any case. -/
theorem namesScheme_iff {raw : String} :
    namesScheme raw = true ↔ ∃ before word behind, raw.toList = before ++ word ++ behind ∧
      Text.AllBlank before ∧ word.map Char.toLower = ['h', 'a', 'n', 'd', 'l', 'e'] ∧
      ∀ c, behind.head? = some c → Text.isBlank c = true := by
  have hscheme : scheme.toList.map Char.toLower = ['h', 'a', 'n', 'd', 'l', 'e'] := by decide
  rw [namesScheme, Option.any_eq_true]
  constructor
  · rintro ⟨word, hfirst, hword⟩
    obtain ⟨-, -, before, behind, hraw, hbefore, hbehind⟩ := Text.firstWord?_eq_some_iff.1 hfirst
    exact ⟨before, word, behind, hraw, hbefore, (Text.sameIgnoringCase_iff.1 hword).trans hscheme,
      hbehind⟩
  · rintro ⟨before, word, behind, hraw, hbefore, hword, hbehind⟩
    have hne : word ≠ [] := by
      rintro rfl
      cases hword
    have hsame := hword.trans hscheme.symm
    exact ⟨word, Text.firstWord?_eq_some_iff.2 ⟨hne,
      forall_of_keyword id isBlank_toLower_scheme hsame, before, behind, hraw, hbefore, hbehind⟩,
      Text.sameIgnoringCase_iff.2 hsame⟩

/-! ### Parameters and passwords -/

/-- A header that is read is of the scheme with parameters. -/
theorem namesScheme_of_parse? {raw : String} {params : Params} (h : parse? raw = some params) :
    namesScheme raw = true := by
  obtain ⟨rest, hrest, -⟩ := Option.bind_eq_some_iff.1 h
  rw [namesScheme_of_restOfScheme? (by decide) isBlank_toLower_scheme hrest]
  decide

/-- A header with a password is of another scheme. -/
theorem namesScheme_of_password {raw : String} {claim : PasswordClaim}
    (h : PasswordClaim.parse? raw = some claim) : namesScheme raw = false := by
  obtain ⟨encoded, hencoded, -⟩ := Option.bind_eq_some_iff.1 h
  rw [namesScheme_of_restOfScheme? (by decide) PasswordClaim.isBlank_toLower_scheme hencoded]
  decide

/-- So it has no parameters. -/
theorem parse?_eq_none_of_password {raw : String} {claim : PasswordClaim}
    (h : PasswordClaim.parse? raw = some claim) : parse? raw = none := by
  refine Option.eq_none_iff_forall_ne_some.2 fun params hparams => ?_
  cases (namesScheme_of_parse? hparams).symm.trans (namesScheme_of_password h)

end Header

namespace Authentication

open Header

/-- A header has one scheme in all its readings: its first word, which ends at any blank of Unicode, is
the keyword if the header has parameters that are read, and is not if the header has a password. So a
request with the header is taken in one way. What is read is not refused and comes without a password, a
password comes in no header of the scheme with parameters, and a header of that scheme that cannot be
read hides none. -/
theorem header_taken_one_way (raw : String) :
    (namesScheme raw = true ↔ ∃ before word behind, raw.toList = before ++ word ++ behind ∧
      Text.AllBlank before ∧ word.map Char.toLower = ['h', 'a', 'n', 'd', 'l', 'e'] ∧
      ∀ c, behind.head? = some c → Text.isBlank c = true) ∧
    (∀ params, parse? raw = some params → namesScheme raw = true) ∧
    (∀ claim, PasswordClaim.parse? raw = some claim → namesScheme raw = false) ∧
    (parse? raw = none ∨ PasswordClaim.parse? raw = none) ∧
    ∀ (allowPasswords : Bool) (request : Request), request.authorization = some raw →
      let reading := Reading.ofRequest allowPasswords request
      (∀ params, parse? raw = some params →
        reading.header = some params ∧ reading.unparseable = false ∧ reading.password = none) ∧
      (∀ claim, PasswordClaim.parse? raw = some claim →
        reading.header = none ∧ reading.unparseable = false ∧
          reading.password = if allowPasswords then some claim else none) ∧
      (reading.unparseable = true → PasswordClaim.parse? raw = none) := by
  have hone : parse? raw = none ∨ PasswordClaim.parse? raw = none := by
    cases hpassword : PasswordClaim.parse? raw with
    | none => exact .inr rfl
    | some claim => exact .inl (parse?_eq_none_of_password hpassword)
  refine ⟨namesScheme_iff, fun _ => namesScheme_of_parse?, fun _ => namesScheme_of_password, hone,
    fun allowPasswords request hraw => ?_⟩
  simp only [Reading.ofRequest, hraw, Option.bind_some, Option.any_some]
  refine ⟨fun params hparams => ?_, fun claim hclaim => ?_, fun hunparseable => ?_⟩
  · have hnone : PasswordClaim.parse? raw = none :=
      hone.resolve_left (by rw [hparams]; exact Option.some_ne_none params)
    simp [hparams, hnone]
  · simp [parse?_eq_none_of_password hclaim, namesScheme_of_password hclaim, hclaim]
  · refine Option.eq_none_iff_forall_ne_some.2 fun claim hclaim => ?_
    rw [namesScheme_of_password hclaim] at hunparseable
    cases hunparseable

/-- Blanks of other kinds in front of a keyword change nothing, and behind it only an ASCII blank lets
anything be read: a vertical tab behind the keyword leaves a header of the scheme, whatever follows. -/
theorem header_taken_one_way_of_blanks :
    (∃ params, parse? "\u00a0\x0bhANDLE\x0cid=20.1000/7" = some params ∧
      (Reading.ofRequest true
        ⟨"s", some "\u00a0\x0bhANDLE\x0cid=20.1000/7", []⟩).header = some params) ∧
    (∃ claim, PasswordClaim.parse? "\u3000bAsIc\tMTpoOnc=\u2028" = some claim ∧
      (Reading.ofRequest true ⟨"s", some "\u3000bAsIc\tMTpoOnc=\u2028", []⟩).password =
        some claim) ∧
    (Reading.ofRequest true ⟨"s", some "Handle\x0bBasic MTpoOnc=", []⟩).unparseable = true ∧
      PasswordClaim.parse? "Handle\x0bBasic MTpoOnc=" = none := by
  obtain ⟨params, hparams⟩ : ∃ params,
      parse? "\u00a0\x0bhANDLE\x0cid=20.1000/7" = some params :=
    Option.isSome_iff_exists.1 (by decide +kernel)
  obtain ⟨claim, hclaim⟩ : ∃ claim,
      PasswordClaim.parse? "\u3000bAsIc\tMTpoOnc=\u2028" = some claim :=
    Option.isSome_iff_exists.1 (by decide +kernel)
  have hunparseable :
      (Reading.ofRequest true ⟨"s", some "Handle\x0bBasic MTpoOnc=", []⟩).unparseable = true := by
    decide +kernel
  obtain ⟨-, -, -, -, hread⟩ := header_taken_one_way "\u00a0\x0bhANDLE\x0cid=20.1000/7"
  obtain ⟨-, -, -, -, hpassword⟩ := header_taken_one_way "\u3000bAsIc\tMTpoOnc=\u2028"
  obtain ⟨-, -, -, -, hrefused⟩ := header_taken_one_way "Handle\x0bBasic MTpoOnc="
  exact ⟨⟨params, hparams, ((hread true _ rfl).1 params hparams).1⟩,
    ⟨claim, hclaim, ((hpassword true _ rfl).2.1 claim hclaim).2.2⟩, hunparseable,
    (hrefused true _ rfl).2.2 hunparseable⟩

end Authentication

end HandleChallenge
