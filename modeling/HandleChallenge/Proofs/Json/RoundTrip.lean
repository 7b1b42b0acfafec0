import HandleChallenge.Json.Printer
import HandleChallenge.Json.Reader
import HandleChallenge.Proofs.Text.Fields
import Mathlib.Data.List.Forall2

/-!
# Documents that are read back

A written document is read back as what it was written from, whatever stands behind it as long as
no number goes on there (`Spells`). This holds of strings of any characters, of natural numbers
and of truth values, and of objects whose members are read back themselves (`spells_writeObject`),
so that objects may be nested to any depth: the length of the text bounds the nesting that the
reader has to follow (`parse?_of_spells`).
-/

namespace HandleChallenge.Json

open Text.Decimal (IsNumber isDigit print)

variable {written digits rest : List Char} {json : Json}

theorem skipBlanks_cons {c : Char} (h : isBlank c = false) (cs : List Char) :
    skipBlanks (c :: cs) = c :: cs :=
  List.dropWhile_cons_of_neg (by simp [h])

/-! ### Strings -/

theorem readPieces?_escape {letter c : Char} (h : letterEscape? letter = some c) (cs : List Char) :
    readPieces? ('\\' :: letter :: cs) =
      (readPieces? cs).map fun read => (.char c :: read.1, read.2) := by
  have hletter : letter ≠ 'u' := by
    rintro rfl
    cases h
  rw [readPieces?, h]
  · cases readPieces? cs <;> rfl
  · simp [hletter]

theorem readPieces?_unit {a b c d : Char} {n : Nat} (h : unit? a b c d = some n)
    (cs : List Char) :
    readPieces? ('\\' :: 'u' :: a :: b :: c :: d :: cs) =
      (readPieces? cs).map fun read => (.unit n :: read.1, read.2) := by
  rw [readPieces?, h]
  cases readPieces? cs <;> rfl

theorem readPieces?_plain {c : Char} (hcontrol : ¬ c.toNat < 0x20) (hquote : c ≠ '"')
    (hescape : c ≠ '\\') (cs : List Char) :
    readPieces? (c :: cs) = (readPieces? cs).map fun read => (.char c :: read.1, read.2) := by
  rw [readPieces?, if_neg (by simp [hcontrol, hescape])]
  · cases readPieces? cs <;> rfl
  · exact hquote
  · simp [hescape]
  · simp [hescape]

/-- A control character is written as its number. -/
theorem unit?_control {c : Char} (h : c.toNat < 0x20) :
    ∃ high low, Text.Hex.printByte (UInt8.ofNat c.toNat) = [high, low] ∧
      unit? '0' '0' high low = some c.toNat := by
  have hbyte : (UInt8.ofNat c.toNat).toNat = c.toNat := by
    rw [UInt8.toNat_ofNat']
    omega
  refine ⟨_, _, rfl, ?_⟩
  rw [hbyte, unit?, Text.Hex.value?_lowerDigit (by omega), Text.Hex.value?_lowerDigit (by omega)]
  show some (((0 * 16 + 0) * 16 + c.toNat / 16) * 16 + c.toNat % 16) = some c.toNat
  rw [Nat.zero_mul, Nat.zero_add, Nat.div_add_mod']

/-- A character is one piece of a string, whichever way it is written. -/
theorem exists_readPieces?_writeChar (c : Char) :
    ∃ piece,
      (∀ cs, readPieces? (writeChar c ++ cs) =
        (readPieces? cs).map fun read => (piece :: read.1, read.2)) ∧
      ∀ pieces, joinPieces? (piece :: pieces) = (joinPieces? pieces).map (c :: ·) := by
  unfold writeChar
  split
  · exact ⟨.char '"', readPieces?_escape rfl, fun _ => rfl⟩
  · exact ⟨.char '\\', readPieces?_escape rfl, fun _ => rfl⟩
  · exact ⟨.char '\x08', readPieces?_escape rfl, fun _ => rfl⟩
  · exact ⟨.char '\x0c', readPieces?_escape rfl, fun _ => rfl⟩
  · exact ⟨.char '\n', readPieces?_escape rfl, fun _ => rfl⟩
  · exact ⟨.char '\r', readPieces?_escape rfl, fun _ => rfl⟩
  · exact ⟨.char '\t', readPieces?_escape rfl, fun _ => rfl⟩
  · split
    · rename_i hcontrol
      obtain ⟨high, low, hbyte, hunit⟩ := unit?_control hcontrol
      refine ⟨.unit c.toNat, ?_, fun pieces => ?_⟩
      · rw [hbyte]
        exact readPieces?_unit hunit
      · -- no control character is half of a pair
        rw [joinPieces?.eq_def]
        simp only
        rw [if_neg (by omega), Char.ofNat_toNat]
    · rename_i hquote hescape _ _ _ _ _ hcontrol
      exact ⟨.char c, readPieces?_plain hcontrol hquote hescape, fun _ => rfl⟩

theorem writeString_append (text : String) (rest : List Char) :
    writeString text ++ rest = '"' :: (text.toList.flatMap writeChar ++ '"' :: rest) := by
  simp [writeString]

/-- The characters of a string are read up to its closing quote. -/
theorem exists_readPieces?_write (cs rest : List Char) :
    ∃ pieces, readPieces? (cs.flatMap writeChar ++ '"' :: rest) = some (pieces, rest) ∧
      joinPieces? pieces = some cs := by
  induction cs with
  | nil => exact ⟨[], rfl, rfl⟩
  | cons c cs ih =>
    obtain ⟨pieces, hread, hjoin⟩ := ih
    obtain ⟨piece, hpiece, hchar⟩ := exists_readPieces?_writeChar c
    refine ⟨piece :: pieces, ?_, ?_⟩
    · rw [List.flatMap_cons, List.append_assoc, hpiece, hread]
      rfl
    · rw [hchar, hjoin]
      rfl

theorem readName?_writeString (name : String) (rest : List Char) :
    readName? (writeString name ++ ':' :: rest) = some (some name, rest) := by
  obtain ⟨pieces, hread, hjoin⟩ := exists_readPieces?_write name.toList (':' :: rest)
  rw [writeString_append, readName?, skipBlanks_cons rfl]
  simp only [hread, Option.bind_eq_bind, Option.bind_some, hjoin]
  rw [skipBlanks_cons rfl]
  simp

/-! ### Documents behind which something stands -/

/-- A document may end here: no number goes on. -/
def Ends (rest : List Char) : Prop :=
  ∀ c, rest.head? = some c → c = ',' ∨ c = '}'

/-- The characters are read as the document, whatever stands behind them where it may end. -/
def Spells (written : List Char) (json : Json) : Prop :=
  ∀ fuel rest, written.length ≤ fuel → Ends rest →
    readValue? fuel (written ++ rest) = some (json, rest)

/-- The first character leaves the reader a step to take. -/
theorem Spells.of_succ (hne : written ≠ [])
    (h : ∀ fuel rest, written.length ≤ fuel + 1 → Ends rest →
      readValue? (fuel + 1) (written ++ rest) = some (json, rest)) : Spells written json := by
  intro fuel rest hfuel hrest
  cases fuel with
  | zero => exact absurd (List.eq_nil_of_length_eq_zero (Nat.le_zero.1 hfuel)) hne
  | succ fuel => exact h fuel rest hfuel hrest

theorem spells_writeString (text : String) : Spells (writeString text) (string text) := by
  refine .of_succ (List.cons_ne_nil _ _) fun fuel rest _ _ => ?_
  obtain ⟨pieces, hread, hjoin⟩ := exists_readPieces?_write text.toList rest
  rw [writeString_append, readValue?, skipBlanks_cons rfl]
  simp only [readString?, hread]
  simp [hjoin]

/-! ### Numbers and truth values -/

theorem Ends.isDigit (h : Ends rest) (c : Char) (hc : rest.head? = some c) :
    isDigit c = false := by
  rcases h c hc with rfl | rfl <;> rfl

theorem readDigits?_append (hdigits : IsNumber digits) (h : Ends rest) :
    readDigits? (digits ++ rest) = some (digits, rest) := by
  rw [readDigits?, Text.takeWhile_append_of_head hdigits.2 h.isDigit,
    Text.dropWhile_append_of_head hdigits.2 h.isDigit]
  split
  · exact absurd rfl hdigits.1
  · rfl

theorem skipFraction?_of_ends (h : Ends rest) : skipFraction? rest = some rest := by
  unfold skipFraction?
  split
  · rcases h '.' rfl with hc | hc <;> cases hc
  · rfl

theorem skipExponent?_of_ends (h : Ends rest) : skipExponent? rest = some rest := by
  unfold skipExponent?
  simp only
  split
  · rcases h 'e' rfl with hc | hc <;> cases hc
  · rcases h 'E' rfl with hc | hc <;> cases hc
  · rfl

theorem ne_of_isDigit {c other : Char} (h : isDigit c = true) (hother : isDigit other = false) :
    c ≠ other := by
  rintro rfl
  cases h.symm.trans hother

/-- A number is read up to where the document may end. -/
theorem readNumber?_print (n : Nat) (h : Ends rest) :
    readNumber? (print n ++ rest) = some (natural n, rest) := by
  have hdigits := Text.Decimal.isNumber_print n
  have hsign : (print n ++ rest).head? ≠ some '-' := by
    obtain ⟨first, others, hprint⟩ := List.exists_cons_of_ne_nil hdigits.1
    rw [hprint] at hdigits ⊢
    exact fun hhead =>
      ne_of_isDigit (hdigits.2 first List.mem_cons_self) rfl (Option.some.inj hhead)
  have hzero : (print n).length = 1 ∨ (print n).head? ≠ some '0' := by
    by_cases hn : n = 0
    · rw [hn, print]
      exact .inl rfl
    · exact .inr (Text.Decimal.head?_print_ne hn)
  have hguard : (guard ((print n).length = 1 ∨ (print n).head? ≠ some '0') : Option Unit) =
      some () := if_pos hzero
  rw [readNumber?, if_neg hsign, readDigits?_append hdigits h]
  show (guard _ : Option Unit).bind _ = _
  rw [hguard]
  show (skipFraction? rest).bind _ = _
  rw [skipFraction?_of_ends h]
  show (skipExponent? rest).bind _ = _
  rw [skipExponent?_of_ends h]
  show (if _ ∨ rest.length < rest.length then _ else _) = _
  rw [if_neg (not_or.2 ⟨hsign, Nat.lt_irrefl _⟩), Text.Decimal.ofDigits_print]
  rfl

theorem readScalar?_of_isDigit {c : Char} (h : isDigit c = true) (cs : List Char) :
    readScalar? (c :: cs) = readNumber? (c :: cs) := by
  unfold readScalar?
  split
  · next heq => exact absurd (List.cons.inj heq).1 (ne_of_isDigit h rfl)
  · next heq => exact absurd (List.cons.inj heq).1 (ne_of_isDigit h rfl)
  · next heq => exact absurd (List.cons.inj heq).1 (ne_of_isDigit h rfl)
  · rfl

/-- A digit at the front is the start of a number. -/
theorem readValue?_of_isDigit {c : Char} (h : isDigit c = true) (fuel : Nat) (cs : List Char) :
    readValue? (fuel + 1) (c :: cs) = readNumber? (c :: cs) := by
  have hne : ∀ other, isDigit other = false → c ≠ other := fun _ => ne_of_isDigit h
  have hblank : isBlank c = false := by
    simp [isBlank, hne ' ' rfl, hne '\t' rfl, hne '\n' rfl, hne '\r' rfl]
  rw [readValue?, skipBlanks_cons hblank]
  split
  · next heq => exact absurd (List.cons.inj heq).1 (hne _ rfl)
  · next heq => exact absurd (List.cons.inj heq).1 (hne _ rfl)
  · next heq => exact absurd (List.cons.inj heq).1 (hne _ rfl)
  · exact readScalar?_of_isDigit h cs

theorem spells_writeNatural (n : Nat) : Spells (writeNatural n) (natural n) := by
  have hdigits := Text.Decimal.isNumber_print n
  refine .of_succ hdigits.1 fun fuel rest _ hrest => ?_
  obtain ⟨first, others, hprint⟩ := List.exists_cons_of_ne_nil hdigits.1
  have hfirst : isDigit first = true := hdigits.2 first (by simp [hprint])
  rw [← readNumber?_print n hrest, writeNatural, hprint]
  exact readValue?_of_isDigit hfirst fuel _

theorem spells_writeBool (value : Bool) : Spells (writeBool value) (bool value) := by
  cases value with
  | true => exact .of_succ (by decide) fun _ _ _ _ => rfl
  | false => exact .of_succ (by decide) fun _ _ _ _ => rfl

/-! ### Objects -/

theorem ends_nil : Ends [] := nofun

theorem ends_comma (rest : List Char) : Ends (',' :: rest) := fun _ hc =>
  .inl (Option.some.inj hc).symm

theorem ends_brace (rest : List Char) : Ends ('}' :: rest) := fun _ hc =>
  .inr (Option.some.inj hc).symm

section
variable {member : String × List Char} {fuel : Nat}

theorem writeMember_append (member : String × List Char) (rest : List Char) :
    writeMember member ++ rest = writeString member.1 ++ ':' :: (member.2 ++ rest) := by
  simp [writeMember]

theorem length_lt_writeMember (member : String × List Char) :
    member.2.length < (writeMember member).length := by
  simp [writeMember]
  omega

/-- The last member is read up to the closing brace. -/
theorem readMembers?_last (h : Spells member.2 json) (hfuel : member.2.length ≤ fuel)
    (rest : List Char) :
    readMembers? (fuel + 1) (writeMember member ++ '}' :: rest) =
      some ([(some member.1, json)], rest) := by
  rw [writeMember_append, readMembers?, readName?_writeString]
  simp only [Option.bind_eq_bind, Option.bind_some, h fuel _ hfuel (ends_brace rest)]
  rw [skipBlanks_cons rfl]
  rfl

/-- Behind a comma the members go on. -/
theorem readMembers?_next (h : Spells member.2 json) (hfuel : member.2.length ≤ fuel)
    (rest : List Char) :
    readMembers? (fuel + 1) (writeMember member ++ ',' :: rest) =
      (readMembers? fuel rest).map fun read => ((some member.1, json) :: read.1, read.2) := by
  rw [writeMember_append, readMembers?, readName?_writeString]
  simp only [Option.bind_eq_bind, Option.bind_some, h fuel _ hfuel (ends_comma rest)]
  rw [skipBlanks_cons rfl]
  simp only
  cases readMembers? fuel rest <;> rfl

end

/-- An object of which no name is broken. -/
def ofMembers (members : List (String × Json)) : Json :=
  object (members.map fun (name, json) => (some name, json))

theorem object?_ofMembers (members : List (String × Json)) :
    (ofMembers members).object? = some members := by
  show (members.map _).mapM _ = some members
  induction members with
  | nil => rfl
  | cons member members ih =>
    rw [List.map_cons, List.mapM_cons, ih]
    rfl

theorem record?_ofMembers (names : List String) (members : List (String × Json)) :
    (ofMembers members).record? names = some members :=
  object?_ofMembers members

/-- An array is the record with its items under the first names. -/
theorem record?_array {names : List String} {items : List Json}
    (h : items.length ≤ names.length) :
    (array items).record? names = (ofMembers (names.zip items)).record? names := by
  rw [record?_ofMembers, record?, if_pos h]

/-- The members of an object as they are written and as the documents that they are. -/
abbrev SpellsMembers : List (String × List Char) → List (String × Json) → Prop :=
  List.Forall₂ fun member document => member.1 = document.1 ∧ Spells member.2 document.2

/-- Every member takes a step of the reader and more than one character, so that the length of the
members bounds the steps. -/
theorem readMembers?_writeList {members : List (String × List Char)}
    {documents : List (String × Json)} (h : SpellsMembers members documents)
    (hne : members ≠ []) {fuel : Nat}
    (hfuel : (writeList (members.map writeMember)).length < fuel) (rest : List Char) :
    readMembers? fuel (writeList (members.map writeMember) ++ '}' :: rest) =
      some (documents.map fun (name, json) => (some name, json), rest) := by
  induction h generalizing fuel with
  | nil => exact absurd rfl hne
  | @cons member document members documents hhead htail ih =>
    obtain ⟨hname, hvalue⟩ := hhead
    obtain ⟨fuel, rfl⟩ : ∃ more, fuel = more + 1 :=
      Nat.exists_eq_add_one_of_ne_zero (by omega)
    cases htail with
    | nil =>
      simp only [List.map_cons, List.map_nil, writeList] at hfuel ⊢
      rw [readMembers?_last hvalue, hname]
      have hlength := length_lt_writeMember member
      omega
    | @cons next _ members _ hnext htail =>
      have hlength := length_lt_writeMember member
      simp only [List.map_cons, writeList, List.append_assoc, List.cons_append] at hfuel ih ⊢
      rw [List.length_append, List.length_cons] at hfuel
      rw [readMembers?_next hvalue (by omega), ih (by simp) (by omega), hname]
      rfl

/-- The first name starts with its quote. -/
theorem exists_writeList_eq {members : List (String × List Char)} (h : members ≠ []) :
    ∃ others, writeList (members.map writeMember) = '"' :: others := by
  obtain ⟨member, members, rfl⟩ := List.exists_cons_of_ne_nil h
  cases members with
  | nil => exact ⟨_, rfl⟩
  | cons next members => exact ⟨_, rfl⟩

/-- An object is read back if its members are. -/
theorem spells_writeObject {members : List (String × List Char)}
    {documents : List (String × Json)} (h : SpellsMembers members documents) :
    Spells (writeObject members) (ofMembers documents) := by
  refine .of_succ (List.cons_ne_nil _ _) fun fuel rest hfuel _ => ?_
  by_cases hne : members = []
  · subst hne
    cases h
    rfl
  · have hbrace : writeObject members ++ rest =
        '{' :: (writeList (members.map writeMember) ++ '}' :: rest) := by
      simp [writeObject]
    obtain ⟨others, hquote⟩ := exists_writeList_eq hne
    have hlength : (writeList (members.map writeMember)).length < fuel := by
      simp only [writeObject, List.length_append, List.length_cons] at hfuel
      omega
    have hread := readMembers?_writeList h hne hlength rest
    rw [hbrace, readValue?, skipBlanks_cons rfl]
    rw [hquote] at hread ⊢
    simp only [List.cons_append] at hread ⊢
    rw [skipBlanks_cons rfl]
    show (readMembers? fuel _).map _ = _
    rw [hread]
    rfl

/-- A text that spells a document is read as it. -/
theorem parse?_of_spells (h : Spells written json) :
    parse? (String.ofList written) = some json := by
  have hread := h (2 * written.length + 1) [] (by omega) ends_nil
  rw [List.append_nil] at hread
  rw [parse?, String.toList_ofList]
  show (readValue? _ written).bind _ = _
  rw [hread]
  rfl

end HandleChallenge.Json
