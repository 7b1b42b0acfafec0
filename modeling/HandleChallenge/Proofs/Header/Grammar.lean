import HandleChallenge.Proofs.Header.RoundTrip
import HandleChallenge.Table
import Mathlib.Data.List.TakeWhile
import Mathlib.Data.Option.Basic

/-!
# The grammar of authorization headers

A header is the keyword of the scheme in any case, an ASCII blank and a list of items between
commas. Which texts are a name, a value, an item and a list is stated here apart from how they are
read, and so is what a list of items says (`Says`). A header is read exactly if the grammar derives
it, as the parameters that its items say (`parse?_eq_some_iff`). So the names that were read are
names that can be written, and what was read is read back (`parse?_serialize_iff`).
-/

namespace HandleChallenge.Header

namespace Grammar

/-! ### Texts of the grammar -/

/-- Space, tab, carriage return and line feed. -/
def blanks : List Char := [' ', '\t', '\r', '\n']

/-- A run of blanks. -/
def Blanks (text : List Char) : Prop := ∀ c ∈ text, c ∈ blanks

/-- A run of blanks and commas. -/
def Separators (text : List Char) : Prop := ∀ c ∈ text, c ∈ ',' :: blanks

/-- A name. -/
def Name (text : List Char) : Prop := text ≠ [] ∧ ∀ c ∈ text, c ∉ '=' :: ',' :: blanks

/-- A value without quotes. -/
def Token (text : List Char) : Prop :=
  (∀ c ∈ text, c ∉ ',' :: blanks) ∧ text.head? ≠ some '"'

/-- What stands between two quotes, and its value: a backslash makes the next character literal. -/
inductive Quoted : List Char → List Char → Prop
  | nil : Quoted [] []
  | plain {c : Char} {text value : List Char} (hquote : c ≠ '"') (hbackslash : c ≠ '\\')
      (rest : Quoted text value) : Quoted (c :: text) (c :: value)
  | literal (c : Char) {text value : List Char} (rest : Quoted text value) :
      Quoted ('\\' :: c :: text) (c :: value)

/-- A quoted string or a token, and its value. -/
inductive Spells : List Char → List Char → Prop
  | quoted {text value : List Char} (inner : Quoted text value) :
      Spells ('"' :: text ++ ['"']) value
  | token {text : List Char} (run : Token text) : Spells text text

/-- A name, an equals sign and a value, with blanks behind each of them. -/
inductive Assignment : List Char → Item → Prop
  | intro {name behindName behindSign text value behindValue : List Char} (hname : Name name)
      (hbehindName : Blanks behindName) (hbehindSign : Blanks behindSign)
      (hvalue : Spells text value) (hbehindValue : Blanks behindValue) :
      Assignment (name ++ behindName ++ '=' :: behindSign ++ text ++ behindValue) ⟨name, value⟩

/-- Items between commas, with separators in front of each; behind the last one a comma and more
separators may stand. -/
inductive Items : List Char → List Item → Prop
  | last {front text : List Char} {item : Item} (hfront : Separators front)
      (hitem : Assignment text item) : Items (front ++ text) [item]
  | trailing {front text back : List Char} {item : Item} (hfront : Separators front)
      (hitem : Assignment text item) (hback : Separators back) :
      Items (front ++ text ++ ',' :: back) [item]
  | more {front text rest : List Char} {item : Item} {items : List Item}
      (hfront : Separators front) (hitem : Assignment text item) (hrest : Items rest items) :
      Items (front ++ text ++ ',' :: rest) (item :: items)

/-- The text is a header with these items. -/
def IsHeader (raw : String) (items : List Item) : Prop :=
  ∃ (word : List Char) (first : Char) (rest : List Char),
    Text.trim raw.toList = word ++ first :: rest ∧
    word.map Char.toLower = ['h', 'a', 'n', 'd', 'l', 'e'] ∧
    first ∈ [' ', '\t', '\n', '\x0c', '\r'] ∧
    Items (first :: rest) items

/-- A name has the value of the last item that bears it in some case. The value of `id` has its
percent escapes undone, and every other value stands for itself. -/
def Says (items : List Item) (params : Params) : Prop :=
  ∀ name : String, params.get? name =
    ((items.filter (Text.sameIgnoringCase ·.name name.toList)).getLast?).map fun item =>
      String.ofList
        (if Text.lowercase name = "id" then Text.Percent.decodeText item.value else item.value)

end Grammar

open Grammar

/-! ### Classes of characters -/

theorem isSpace_iff {c : Char} : isSpace c = true ↔ c ∈ blanks := by
  simp [isSpace, blanks, or_assoc]

theorem isSeparator_iff {c : Char} : isSeparator c = true ↔ c ∈ ',' :: blanks := by
  simp [isSeparator, isSpace_iff]

theorem isTokenChar_iff {c : Char} : isTokenChar c = true ↔ c ∉ ',' :: blanks := by
  rw [isTokenChar, Bool.not_eq_true', ← Bool.not_eq_true, isSeparator_iff]

theorem isNameChar_iff {c : Char} : isNameChar c = true ↔ c ∉ '=' :: ',' :: blanks := by
  simp [isNameChar, ← Bool.not_eq_true, isSeparator_iff]

/-- The names of the grammar are those that the reading allows. -/
theorem isName_iff {name : List Char} : IsName name ↔ Name name := by
  simp only [IsName, Name, isNameChar_iff]

/-- A blank is a separator. -/
theorem isSeparator_of_isSpace {c : Char} (h : isSpace c = true) : isSeparator c = true := by
  rw [isSeparator, h, Bool.or_true]

/-- No separator stands in a name. -/
theorem isNameChar_of_isSeparator {c : Char} (h : isSeparator c = true) :
    isNameChar c = false := by
  rw [isNameChar, h, Bool.not_true, Bool.and_false]

/-! ### Runs -/

theorem blanks_takeWhile (cs : List Char) : Blanks (cs.takeWhile isSpace) :=
  fun _ hc => isSpace_iff.1 (List.mem_takeWhile_imp hc)

theorem separators_takeWhile (cs : List Char) : Separators (cs.takeWhile isSeparator) :=
  fun _ hc => isSeparator_iff.1 (List.mem_takeWhile_imp hc)

/-! ### Values -/

/-- What is read up to a closing quote is quoted. -/
theorem quoted_of_read? {cs value rest : List Char}
    (h : Text.Quoted.read? cs = some (value, rest)) :
    ∃ text, cs = text ++ '"' :: rest ∧ Quoted text value := by
  fun_induction Text.Quoted.read? cs generalizing value with
  | case1 => cases h
  | case2 cs =>
    cases h
    exact ⟨[], rfl, .nil⟩
  | case3 => cases h
  | case4 c cs ih =>
    obtain ⟨⟨inner, rest⟩, hinner, heq⟩ := Option.map_eq_some_iff.1 h
    cases heq
    obtain ⟨text, rfl, hquoted⟩ := ih hinner
    exact ⟨'\\' :: c :: text, rfl, .literal c hquoted⟩
  | case5 c cs hquote hlone hbackslash ih =>
    obtain ⟨⟨inner, rest⟩, hinner, heq⟩ := Option.map_eq_some_iff.1 h
    cases heq
    obtain ⟨text, rfl, hquoted⟩ := ih hinner
    refine ⟨c :: text, rfl, .plain hquote (fun hc => ?_) hquoted⟩
    -- a backslash in front of a text that goes on makes its next character literal
    cases text with
    | nil => exact hbackslash _ _ hc rfl
    | cons next text => exact hbackslash _ _ hc rfl

/-- What is quoted is read up to the closing quote. -/
theorem read?_of_quoted {text value : List Char} (h : Quoted text value) (rest : List Char) :
    Text.Quoted.read? (text ++ '"' :: rest) = some (value, rest) := by
  induction h with
  | nil => simp [Text.Quoted.read?]
  | plain _ hbackslash _ ih => simp [Text.Quoted.read?, hbackslash, ih]
  | literal c _ ih => simp [Text.Quoted.read?, ih]

/-- A text that does not start with a quote is read up to a separator. -/
theorem readValue?_of_head {cs : List Char} (h : cs.head? ≠ some '"') :
    readValue? cs = some (cs.takeWhile isTokenChar, cs.dropWhile isTokenChar) := by
  unfold readValue?
  split
  · exact absurd rfl h
  · rfl

/-- What is read as a value spells it. -/
theorem spells_of_readValue? {cs value rest : List Char} (h : readValue? cs = some (value, rest)) :
    ∃ text, cs = text ++ rest ∧ Spells text value := by
  by_cases hquote : cs.head? = some '"'
  · obtain ⟨cs, rfl⟩ := List.head?_eq_some_iff.1 hquote
    obtain ⟨text, rfl, hquoted⟩ := quoted_of_read? h
    exact ⟨'"' :: text ++ ['"'], by simp, .quoted hquoted⟩
  · rw [readValue?_of_head hquote] at h
    cases h
    refine ⟨cs.takeWhile isTokenChar, List.takeWhile_append_dropWhile.symm, .token ⟨?_, ?_⟩⟩
    · exact fun c hc => isTokenChar_iff.1 (List.mem_takeWhile_imp hc)
    · rw [List.head?_takeWhile]
      exact fun hhead => hquote (Option.filter_eq_some_iff.1 hhead).1

/-- What spells a value is read, if a separator stands behind it. -/
theorem readValue?_of_spells {text value rest : List Char} (h : Spells text value)
    (hrest : ∀ c, rest.head? = some c → isSeparator c = true) :
    readValue? (text ++ rest) = some (value, rest) := by
  cases h with
  | @quoted text _ hquoted =>
    have htext : '"' :: text ++ ['"'] ++ rest = '"' :: (text ++ '"' :: rest) := by simp
    rw [htext]
    exact read?_of_quoted hquoted rest
  | token htoken =>
    have hchars : ∀ c ∈ text, isTokenChar c = true := fun c hc =>
      isTokenChar_iff.2 (htoken.1 c hc)
    have hstop : ∀ c, rest.head? = some c → isTokenChar c = false := fun c hc => by
      rw [isTokenChar, hrest c hc, Bool.not_true]
    have hquote : (text ++ rest).head? ≠ some '"' := by
      cases text with
      | nil => exact fun hhead => absurd (hrest '"' hhead) (by decide)
      | cons c text => exact htoken.2
    rw [readValue?_of_head hquote, Text.takeWhile_append_of_head hchars hstop,
      Text.dropWhile_append_of_head hchars hstop]

/-! ### Items -/

/-- An item stops at the end or at a comma. -/
theorem stops_iff {rest : List Char} : Stops rest ↔ rest = [] ∨ rest.head? = some ',' := by
  rw [Stops, List.head?_eq_some_iff]

/-- A name and an equals sign are read, then a value, and then the end or a comma is looked for. -/
theorem readItem?_eq (cs : List Char) :
    readItem? cs =
      let name := cs.takeWhile isNameChar
      let sign := (cs.dropWhile isNameChar).dropWhile isSpace
      if name ≠ [] ∧ sign.head? = some '=' then
        (readValue? (sign.tail.dropWhile isSpace)).bind fun (value, left) =>
          let rest := left.dropWhile isSpace
          if rest = [] ∨ rest.head? = some ',' then some (⟨name, value⟩, rest) else none
      else none := by
  unfold readItem?
  simp only
  split
  · rename_i first more behind hname hsign
    rw [if_pos ⟨hname ▸ List.cons_ne_nil _ _, by rw [hsign]; rfl⟩, hsign, List.tail_cons]
    refine Option.bind_congr fun ⟨value, left⟩ _ => ?_
    simp only
    split
    · rename_i hnil
      rw [hnil, if_pos (.inl rfl)]
    · rename_i hcomma
      rw [hcomma, if_pos (.inr rfl)]
    · rename_i hnil hcomma
      rw [if_neg]
      rintro (h | h)
      · exact hnil h
      · obtain ⟨rest, hrest⟩ := List.head?_eq_some_iff.1 h
        exact hcomma rest hrest
  · rename_i hnone
    rw [if_neg]
    rintro ⟨hname, hsign⟩
    obtain ⟨first, more, hfirst⟩ := List.exists_cons_of_ne_nil hname
    obtain ⟨behind, hbehind⟩ := List.head?_eq_some_iff.1 hsign
    exact hnone first more behind hfirst hbehind

/-- An item is read in parts: a name, an equals sign and a value, with blanks between them, up to
the end or a comma. -/
theorem readItem?_eq_some_iff {cs rest : List Char} {item : Item} :
    readItem? cs = some (item, rest) ↔
      cs.takeWhile isNameChar = item.name ∧ item.name ≠ [] ∧ ∃ behind left,
        (cs.dropWhile isNameChar).dropWhile isSpace = '=' :: behind ∧
        readValue? (behind.dropWhile isSpace) = some (item.value, left) ∧
        left.dropWhile isSpace = rest ∧ Stops rest := by
  rw [readItem?_eq]
  dsimp only
  constructor
  · intro h
    split at h
    · rename_i hstart
      obtain ⟨behind, hbehind⟩ := List.head?_eq_some_iff.1 hstart.2
      obtain ⟨⟨value, left⟩, hvalue, h⟩ := Option.bind_eq_some_iff.1 h
      obtain ⟨hstops, hread⟩ := Option.ite_none_right_eq_some.1 h
      cases hread
      rw [hbehind] at hvalue
      exact ⟨rfl, hstart.1, behind, left, hbehind, hvalue, rfl, stops_iff.2 hstops⟩
    · cases h
  · rintro ⟨hname, hne, behind, left, hbehind, hvalue, hrest, hstops⟩
    rw [hname, hbehind, if_pos ⟨hne, rfl⟩, List.tail_cons, hvalue, Option.bind_some]
    dsimp only
    rw [hrest, if_pos (stops_iff.1 hstops)]

/-- What is read as an item is one. -/
theorem assignment_of_readItem? {cs rest : List Char} {item : Item}
    (h : readItem? cs = some (item, rest)) :
    ∃ text, cs = text ++ rest ∧ Assignment text item ∧ Stops rest := by
  obtain ⟨hname, hne, behind, left, hequals, hvalue, rfl, hstops⟩ := readItem?_eq_some_iff.1 h
  obtain ⟨text, htext, hspells⟩ := spells_of_readValue? hvalue
  have hchars : ∀ c ∈ item.name, isNameChar c = true := fun c hc =>
    List.mem_takeWhile_imp (hname ▸ hc)
  have hitem : Assignment (item.name ++ (cs.dropWhile isNameChar).takeWhile isSpace ++
      '=' :: behind.takeWhile isSpace ++ text ++ left.takeWhile isSpace) item :=
    .intro (isName_iff.1 ⟨hne, hchars⟩) (blanks_takeWhile _) (blanks_takeWhile _) hspells
      (blanks_takeWhile _)
  refine ⟨_, ?_, hitem, hstops⟩
  calc cs = item.name ++ ((cs.dropWhile isNameChar).takeWhile isSpace ++
        '=' :: (behind.takeWhile isSpace ++ (text ++ left))) := by
        rw [← htext, List.takeWhile_append_dropWhile, ← hequals,
          List.takeWhile_append_dropWhile, ← hname, List.takeWhile_append_dropWhile]
    _ = item.name ++ ((cs.dropWhile isNameChar).takeWhile isSpace ++
        '=' :: (behind.takeWhile isSpace ++
          (text ++ (left.takeWhile isSpace ++ left.dropWhile isSpace)))) := by
        rw [List.takeWhile_append_dropWhile (p := isSpace) (l := left)]
    _ = _ := by simp

/-- Behind blanks a value starts, or the blanks behind an empty value are gone too. -/
theorem exists_dropWhile_isSpace {front text value back rest : List Char} (hfront : Blanks front)
    (hspells : Spells text value) (hback : Blanks back) (hrest : Stops rest) :
    ∃ left, Blanks left ∧
      (front ++ (text ++ (back ++ rest))).dropWhile isSpace = text ++ (left ++ rest) := by
  have hblanks : ∀ c ∈ front, isSpace c = true := fun c hc => isSpace_iff.2 (hfront c hc)
  rw [List.dropWhile_append_of_pos hblanks]
  cases text with
  | nil =>
    refine ⟨[], by simp [Blanks], ?_⟩
    have hstop : ∀ c, rest.head? = some c → isSpace c = false := by
      rcases hrest with rfl | ⟨more, rfl⟩
      · simp
      · intro c hc
        cases hc
        rfl
    exact Text.dropWhile_append_of_head (fun c hc => isSpace_iff.2 (hback c hc)) hstop
  | cons c text =>
    refine ⟨back, hback, List.dropWhile_cons_of_neg ?_⟩
    rw [isSpace_iff]
    cases hspells with
    | quoted _ => decide
    | token htoken => exact fun hc => htoken.1 c List.mem_cons_self (List.mem_cons_of_mem _ hc)

/-- The start of what stops an item, with or without blanks in front, is a separator. -/
theorem isSeparator_head? {blanks rest : List Char} (hblanks : Blanks blanks) (hrest : Stops rest)
    {c : Char} (h : (blanks ++ rest).head? = some c) : isSeparator c = true := by
  cases blanks with
  | nil =>
    rcases hrest with rfl | ⟨more, rfl⟩
    · cases h
    · cases h
      rfl
  | cons first blanks =>
    cases h
    exact isSeparator_of_isSpace (isSpace_iff.2 (hblanks _ List.mem_cons_self))

/-- An item is read, and what stands behind it is left. -/
theorem readItem?_of_assignment {text rest : List Char} {item : Item} (h : Assignment text item)
    (hrest : Stops rest) : readItem? (text ++ rest) = some (item, rest) := by
  obtain ⟨hname, hbehindName, hbehindSign, hspells, hbehindValue⟩ := h
  rename_i name behindName behindSign spelling value behindValue
  obtain ⟨hne, hchars⟩ := isName_iff.2 hname
  obtain ⟨left, hleft, hdropSign⟩ :=
    exists_dropWhile_isSpace hbehindSign hspells hbehindValue hrest
  generalize hsign : behindSign ++ (spelling ++ (behindValue ++ rest)) = sign at hdropSign
  have htext : name ++ behindName ++ '=' :: behindSign ++ spelling ++ behindValue ++ rest =
      name ++ (behindName ++ '=' :: sign) := by
    simp [← hsign]
  have hstop : ∀ c, (behindName ++ '=' :: sign).head? = some c → isNameChar c = false := by
    intro c hc
    cases behindName with
    | nil =>
      cases hc
      rfl
    | cons first more =>
      cases hc
      exact isNameChar_of_isSeparator
        (isSeparator_of_isSpace (isSpace_iff.2 (hbehindName _ List.mem_cons_self)))
  have hequals : (behindName ++ '=' :: sign).dropWhile isSpace = '=' :: sign :=
    Text.dropWhile_append_cons (fun c hc => isSpace_iff.2 (hbehindName c hc)) rfl
  have hvalue : readValue? (spelling ++ (left ++ rest)) = some (value, left ++ rest) :=
    readValue?_of_spells hspells fun c => isSeparator_head? hleft hrest
  have hlast : (left ++ rest).dropWhile isSpace = rest := by
    refine Text.dropWhile_append_of_head (fun c hc => isSpace_iff.2 (hleft c hc)) fun c hc => ?_
    rcases hrest with rfl | ⟨more, rfl⟩
    · cases hc
    · cases hc
      rfl
  rw [htext, readItem?_eq_some_iff, Text.takeWhile_append_of_head hchars hstop,
    Text.dropWhile_append_of_head hchars hstop]
  exact ⟨rfl, hne, _, _, hequals, hdropSign ▸ hvalue, hlast, hrest⟩

/-- An item starts with no separator. -/
theorem dropWhile_assignment {front text : List Char} {item : Item} (h : Assignment text item)
    (hfront : Separators front) (rest : List Char) :
    ∃ first more, text ++ rest = first :: more ∧
      (front ++ (text ++ rest)).dropWhile isSeparator = first :: more := by
  obtain ⟨hname, -, -, -, -⟩ := h
  rename_i name behindName behindSign spelling value behindValue
  obtain ⟨first, more, rfl⟩ := List.exists_cons_of_ne_nil hname.1
  refine ⟨first, _, rfl, ?_⟩
  refine Text.dropWhile_append_of_head (fun c hc => isSeparator_iff.2 (hfront c hc)) fun c hc => ?_
  cases hc
  rw [← Bool.not_eq_true, isSeparator_iff]
  exact fun hc => hname.2 first List.mem_cons_self (List.mem_cons_of_mem _ hc)

/-- Behind separators an item is read, and then what stands behind it. -/
theorem readItems?_of_assignment {front text rest : List Char} {item : Item}
    (hfront : Separators front) (hitem : Assignment text item) (hrest : Stops rest) :
    readItems? (front ++ text ++ rest) = (readItems? rest).map (item :: ·) := by
  obtain ⟨first, more, htext, hdrop⟩ := dropWhile_assignment hitem hfront rest
  rw [List.append_assoc]
  refine readItems?_of_cons hdrop ?_
  rw [← htext]
  exact readItem?_of_assignment hitem hrest

/-! ### Lists -/

/-- A list is nothing behind separators, or an item and what stands behind it. -/
theorem readItems?_eq (cs : List Char) :
    readItems? cs =
      if cs.dropWhile isSeparator = [] then some []
      else (readItem? (cs.dropWhile isSeparator)).bind fun (item, rest) =>
        (readItems? rest).map (item :: ·) := by
  rw [readItems?]
  split
  · rename_i hnil _
    rw [if_pos hnil]
  · rename_i hcons _
    rw [hcons, if_neg (List.cons_ne_nil _ _)]
    split
    · rename_i hnone
      rw [hnone]
      rfl
    · rename_i hsome
      simp only [hsome, Option.bind_some]

/-- A comma in front changes nothing. -/
theorem readItems?_comma (cs : List Char) : readItems? (',' :: cs) = readItems? cs := by
  have hdrop : (',' :: cs).dropWhile isSeparator = cs.dropWhile isSeparator :=
    List.dropWhile_cons_of_pos rfl
  rw [readItems?_eq, hdrop, ← readItems?_eq]

theorem readItems?_nil : readItems? [] = some [] := readItems?_of_nil rfl

/-- Separators alone hold no items. -/
theorem readItems?_of_separators {cs : List Char} (h : Separators cs) : readItems? cs = some [] :=
  readItems?_of_nil (List.dropWhile_eq_nil_iff.2 fun c hc => isSeparator_iff.2 (h c hc))

/-- Every list of the grammar is read as its items. -/
theorem readItems?_of_items {cs : List Char} {items : List Item} (h : Items cs items) :
    readItems? cs = some items := by
  induction h with
  | @last front text item hfront hitem =>
    have hread := readItems?_of_assignment hfront hitem (.inl rfl)
    rwa [List.append_nil, readItems?_nil] at hread
  | trailing hfront hitem hback =>
    rw [readItems?_of_assignment hfront hitem (.inr ⟨_, rfl⟩), readItems?_comma,
      readItems?_of_separators hback]
    rfl
  | more hfront hitem _ ih =>
    rw [readItems?_of_assignment hfront hitem (.inr ⟨_, rfl⟩), readItems?_comma, ih]
    rfl

/-- What is read is nothing behind separators, or an item and what stands behind it. -/
theorem readItems?_cases {cs : List Char} {items : List Item} (h : readItems? cs = some items) :
    (items = [] ∧ Separators cs) ∨
    ∃ front text rest item others, cs = front ++ text ++ rest ∧ Separators front ∧
      Assignment text item ∧ Stops rest ∧ rest.length < cs.length ∧
      readItems? rest = some others ∧ items = item :: others := by
  have hsplit : cs.takeWhile isSeparator ++ cs.dropWhile isSeparator = cs :=
    List.takeWhile_append_dropWhile
  rw [readItems?_eq] at h
  split at h
  · rename_i hnil
    rw [hnil, List.append_nil] at hsplit
    exact .inl ⟨(Option.some.inj h).symm, hsplit ▸ separators_takeWhile cs⟩
  · obtain ⟨⟨item, rest⟩, hread, h⟩ := Option.bind_eq_some_iff.1 h
    obtain ⟨others, hothers, rfl⟩ := Option.map_eq_some_iff.1 h
    obtain ⟨text, htext, hitem, hstops⟩ := assignment_of_readItem? hread
    have hshort : rest.length < cs.length :=
      Nat.lt_of_lt_of_le (length_lt_of_readItem? hread) (length_dropWhile_le isSeparator cs)
    refine .inr ⟨cs.takeWhile isSeparator, text, rest, item, others, ?_, separators_takeWhile cs,
      hitem, hstops, hshort, hothers, rfl⟩
    rw [List.append_assoc, ← htext, hsplit]

/-- Items that are read are a list of the grammar. -/
theorem items_of_readItems? {cs : List Char} {items : List Item} (hne : items ≠ [])
    (h : readItems? cs = some items) : Items cs items := by
  -- behind a comma the rest of the text is shorter
  induction hlength : cs.length using Nat.strongRecOn generalizing cs items with
  | ind length ih =>
    rcases readItems?_cases h with ⟨hnil, -⟩ | ⟨front, text, rest, item, others, rfl, hfront, hitem,
      hstops, hshort, hothers, rfl⟩
    · exact absurd hnil hne
    rcases hstops with rfl | ⟨rest, rfl⟩
    · rw [readItems?_nil] at hothers
      cases hothers
      rw [List.append_nil]
      exact .last hfront hitem
    · rw [readItems?_comma] at hothers
      by_cases hmore : others = []
      · subst hmore
        rcases readItems?_cases hothers with ⟨-, hback⟩ | ⟨_, _, _, _, _, _, _, _, _, _, _, hcons⟩
        · exact .trailing hfront hitem hback
        · cases hcons
      · refine .more hfront hitem (ih rest.length ?_ hmore hothers rfl)
        rw [← hlength]
        exact Nat.lt_of_succ_lt hshort

/-- A list is read exactly if the grammar derives it. -/
theorem readItems?_eq_some_iff {cs : List Char} {items : List Item} :
    (items ≠ [] ∧ readItems? cs = some items) ↔ Items cs items := by
  refine ⟨fun h => items_of_readItems? h.1 h.2, fun h => ⟨?_, readItems?_of_items h⟩⟩
  cases h with
  | last => exact List.cons_ne_nil _ _
  | trailing => exact List.cons_ne_nil _ _
  | more => exact List.cons_ne_nil _ _

/-! ### The keyword -/

/-- The letters of a keyword are no blanks in either case, if they are none in small. -/
theorem forall_of_keyword {p : Char → Bool} (hp : ∀ {c}, p c = true → Text.isBlank c = true)
    {keyword word : List Char} (hkeyword : ∀ c ∈ keyword, p c.toLower = false)
    (hword : word.map Char.toLower = keyword.map Char.toLower) : ∀ c ∈ word, p c = false := by
  intro c hc
  rw [← Bool.not_eq_true]
  intro hblank
  have hletter : c.toLower ∈ keyword.map Char.toLower := hword ▸ List.mem_map_of_mem hc
  obtain ⟨letter, hmem, hlower⟩ := List.mem_map.1 hletter
  have hno := hkeyword letter hmem
  rw [hlower, Text.toLower_of_isBlank (hp hblank), hblank] at hno
  cases hno

theorem isAsciiBlank_iff {c : Char} :
    Text.isAsciiBlank c = true ↔ c ∈ [' ', '\t', '\n', '\x0c', '\r'] := by
  simp [Text.isAsciiBlank, or_assoc]

/-- A trimmed header is split in front of its first ASCII blank. -/
theorem splitScheme?_eq_some_iff {raw : String} {word rest : List Char} :
    splitScheme? raw = some (word, rest) ↔
      Text.trim raw.toList = word ++ rest ∧ (∀ c ∈ word, Text.isAsciiBlank c = false) ∧
      ∃ first more, rest = first :: more ∧ Text.isAsciiBlank first = true := by
  have hcut : (Text.trim raw.toList).takeWhile (!Text.isAsciiBlank ·) ++
      (Text.trim raw.toList).dropWhile (!Text.isAsciiBlank ·) = Text.trim raw.toList :=
    List.takeWhile_append_dropWhile
  unfold splitScheme?
  constructor
  · intro h
    simp only at h
    split at h
    · cases h
    · rename_i hne
      cases h
      obtain ⟨first, more, hrest⟩ := List.exists_cons_of_ne_nil hne
      refine ⟨hcut.symm, fun c hc => ?_, first, more, hrest, ?_⟩
      · simpa using List.mem_takeWhile_imp hc
      · simpa using Text.head?_dropWhile (congrArg List.head? hrest)
  · rintro ⟨htext, hword, first, more, rfl, hfirst⟩
    have hrun : ∀ c ∈ word, (!Text.isAsciiBlank c) = true := fun c hc => by
      rw [hword c hc, Bool.not_false]
    have hstop : (!Text.isAsciiBlank first) = false := by rw [hfirst, Bool.not_true]
    simp only [htext, Text.takeWhile_append_cons hrun hstop,
      Text.dropWhile_append_cons hrun hstop]

/-- A keyword is the first word in any case. -/
theorem restOfScheme?_iff_splitScheme? {keyword raw : String} {rest : List Char} :
    restOfScheme? keyword raw = some rest ↔ ∃ word, splitScheme? raw = some (word, rest) ∧
      word.map Char.toLower = keyword.toList.map Char.toLower := by
  simp [restOfScheme?, Option.bind_eq_some_iff]

/-- The rest behind a keyword. -/
theorem restOfScheme?_eq_some_iff {keyword raw : String} {rest : List Char}
    (hkeyword : ∀ c ∈ keyword.toList, Text.isAsciiBlank c.toLower = false) :
    restOfScheme? keyword raw = some rest ↔
      ∃ word, Text.trim raw.toList = word ++ rest ∧
        word.map Char.toLower = keyword.toList.map Char.toLower ∧
        ∃ first more, rest = first :: more ∧ first ∈ [' ', '\t', '\n', '\x0c', '\r'] := by
  rw [restOfScheme?_iff_splitScheme?]
  constructor
  · rintro ⟨word, hsplit, hword⟩
    obtain ⟨htext, -, first, more, hrest, hfirst⟩ := splitScheme?_eq_some_iff.1 hsplit
    exact ⟨word, htext, hword, first, more, hrest, isAsciiBlank_iff.1 hfirst⟩
  · rintro ⟨word, htext, hword, first, more, hrest, hfirst⟩
    exact ⟨word, splitScheme?_eq_some_iff.2 ⟨htext, forall_of_keyword
      Text.isBlank_of_isAsciiBlank hkeyword hword, first, more, hrest, isAsciiBlank_iff.2 hfirst⟩, hword⟩

/-- The keyword of headers with parameters. -/
theorem isAsciiBlank_scheme : ∀ c ∈ scheme.toList, Text.isAsciiBlank c.toLower = false := by
  simp [scheme, Text.isAsciiBlank]

/-! ### What items say -/

/-- Of the entries with one name, in any case, the last counts. -/
theorem Params.get?_insertAll (params : Params) (entries : List (String × String)) (name : String) :
    (params.insertAll entries).get? name =
      (((entries.filter (Text.lowercase ·.1 = Text.lowercase name)).getLast?).map Prod.snd).or
        (params.get? name) := by
  induction entries generalizing params with
  | nil => rfl
  | cons first rest ih =>
    show ((params.insert first.1 first.2).insertAll rest).get? name = _
    rw [ih, get?_insert, List.filter_cons]
    by_cases hname : Text.lowercase first.1 = Text.lowercase name
    · rw [if_pos (decide_eq_true hname), if_pos hname.symm, List.getLast?_cons]
      cases (rest.filter (Text.lowercase ·.1 = Text.lowercase name)).getLast? with
      | none => rfl
      | some last => rfl
    · rw [if_neg (Ne.symm hname), if_neg (by simpa using hname)]

/-- The entries are the names with values. -/
theorem Params.mem_entries_iff {params : Params} {entry : String × String} :
    entry ∈ params.entries ↔
      Text.lowercase entry.1 = entry.1 ∧ params.get? entry.1 = some entry.2 := by
  have hdistinct : (params.entries.map Prod.fst).Nodup :=
    List.pairwise_map.2 (params.sorted.imp String.ne_of_lt)
  constructor
  · intro h
    have hname := params.lowered entry h
    rw [get?, hname]
    exact ⟨rfl, (Table.lookup_eq_some_iff hdistinct).2 h⟩
  · rintro ⟨hname, hvalue⟩
    rw [get?, hname] at hvalue
    exact (Table.lookup_eq_some_iff hdistinct).1 hvalue

/-- Parameters that give every name the same value are the same. -/
theorem Params.ext_get? {params other : Params} (h : ∀ name, params.get? name = other.get? name) :
    params = other := by
  have hmem : ∀ entry, entry ∈ params.entries ↔ entry ∈ other.entries := fun entry => by
    rw [mem_entries_iff, mem_entries_iff, h]
  have hnodup : ∀ params : Params, params.entries.Nodup := fun params =>
    params.sorted.imp fun hlt heq => String.ne_of_lt hlt (congrArg Prod.fst heq)
  have hperm : params.entries.Perm other.entries :=
    (List.perm_ext_iff_of_nodup (hnodup params) (hnodup other)).2 hmem
  refine ext_entries (hperm.eq_of_pairwise (fun _ _ _ _ hlt hgt => ?_) params.sorted other.sorted)
  exact absurd hgt (String.lt_asymm hlt)

/-- The name of an item, in any case, is the name that it gives a value. -/
theorem Item.lowercase_entry (item : Item) (name : String) :
    Text.lowercase item.entry.1 = Text.lowercase name ↔
      Text.sameIgnoringCase item.name name.toList = true := by
  rw [Text.sameIgnoringCase_iff, ← String.toList_inj, Text.toList_lowercase, Text.toList_lowercase]
  show (String.ofList item.name).toList.map Char.toLower = _ ↔ _
  rw [String.toList_ofList]

/-- The value that an item gives a name. -/
theorem Item.value_entry {item : Item} {name : String}
    (h : Text.sameIgnoringCase item.name name.toList = true) :
    item.entry.2 = String.ofList
      (if Text.lowercase name = "id" then Text.Percent.decodeText item.value else item.value) := by
  have hid : Text.sameIgnoringCase item.name Known.id.key.toList = true ↔
      Text.lowercase name = "id" := by
    rw [← item.lowercase_entry, (item.lowercase_entry name).2 h, Known.lowercase_key]
    rfl
  unfold Item.entry
  simp only [hid]

/-- The items of a list say its parameters. -/
theorem says_iff {items : List Item} {params : Params} :
    Says items params ↔ params = Params.ofList (items.map Item.entry) := by
  have hmeans : Says items (Params.ofList (items.map Item.entry)) := by
    intro name
    have hfilter : (items.map Item.entry).filter (Text.lowercase ·.1 = Text.lowercase name) =
        (items.filter (Text.sameIgnoringCase ·.name name.toList)).map Item.entry := by
      rw [List.filter_map]
      refine congrArg (List.map Item.entry) (List.filter_congr fun item _ => ?_)
      rw [Function.comp_apply, Bool.eq_iff_iff, decide_eq_true_iff, item.lowercase_entry]
    rw [Params.ofList, Params.get?_insertAll, hfilter, List.getLast?_map, Option.map_map]
    have hempty : Params.empty.get? name = none := rfl
    rw [hempty, Option.or_none]
    refine Option.map_congr fun item hitem => ?_
    exact Item.value_entry (List.mem_filter.1 (List.mem_of_getLast? hitem)).2
  refine ⟨fun h => Params.ext_get? fun name => ?_, fun h => h ▸ hmeans⟩
  rw [h name, hmeans name]

/-! ### Headers -/

/-- A header is read exactly if the grammar derives it, as what its items say. -/
theorem parse?_eq_some_iff {raw : String} {params : Params} :
    parse? raw = some params ↔ ∃ items, IsHeader raw items ∧ Says items params := by
  constructor
  · intro h
    obtain ⟨rest, hrest, h⟩ := Option.bind_eq_some_iff.1 h
    obtain ⟨items, hitems, h⟩ := Option.bind_eq_some_iff.1 h
    obtain ⟨_, hguard, h⟩ := Option.bind_eq_some_iff.1 h
    cases h
    obtain ⟨word, htext, hword, first, more, rfl, hfirst⟩ :=
      (restOfScheme?_eq_some_iff isAsciiBlank_scheme).1 hrest
    have hlist := readItems?_eq_some_iff.1 ⟨(Option.guard_eq_some' _).1 hguard, hitems⟩
    exact ⟨items, ⟨word, first, more, htext, hword, hfirst, hlist⟩, says_iff.2 rfl⟩
  · rintro ⟨items, ⟨word, first, more, htext, hword, hfirst, hlist⟩, hmeans⟩
    have hrest : restOfScheme? scheme raw = some (first :: more) :=
      (restOfScheme?_eq_some_iff isAsciiBlank_scheme).2
        ⟨word, htext, hword, first, more, rfl, hfirst⟩
    obtain ⟨hne, hitems⟩ := readItems?_eq_some_iff.2 hlist
    rw [says_iff.1 hmeans]
    simp [parse?, hrest, hitems, hne]

/-! ### Names that were read -/

/-- A character that is no small letter comes from no other one. -/
theorem eq_of_toLower_eq {c k : Char} (hk : ¬ ('a' ≤ k ∧ k ≤ 'z')) (h : c.toLower = k) : c = k := by
  unfold Char.toLower at h
  split at h
  · rename_i hcapital
    refine absurd ?_ hk
    subst h
    simp only [ge_iff_le, Char.le_def, UInt32.le_iff_toNat_le, UInt32.toNat_add] at hcapital ⊢
    have hshift : ('a'.val - 'A'.val).toNat = 32 := by decide
    have hsmallA : 'a'.val.toNat = 97 := by decide
    have hsmallZ : 'z'.val.toNat = 122 := by decide
    have hcapitalA : 'A'.val.toNat = 65 := by decide
    have hcapitalZ : 'Z'.val.toNat = 90 := by decide
    omega
  · exact h

/-- A name in small letters is a name. -/
theorem name_map_toLower {text : List Char} (h : Name text) : Name (text.map Char.toLower) := by
  refine ⟨by simpa using h.1, fun c hc hmem => ?_⟩
  obtain ⟨given, hgiven, hlower⟩ := List.mem_map.1 hc
  have hsigns : ∀ k ∈ '=' :: ',' :: blanks, ¬ ('a' ≤ k ∧ k ≤ 'z') := by
    intro k hk
    simp only [blanks, List.mem_cons, List.not_mem_nil, or_false] at hk
    rcases hk with rfl | rfl | rfl | rfl | rfl | rfl
    all_goals decide
  rw [← eq_of_toLower_eq (hsigns c hmem) hlower] at hmem
  exact h.2 given hgiven hmem

/-- The items of a list have names. -/
theorem name_of_mem_items {cs : List Char} {items : List Item} (h : Items cs items) :
    ∀ item ∈ items, Name item.name := by
  have hname : ∀ {text : List Char} {item : Item}, Assignment text item → Name item.name := by
    rintro _ _ ⟨hname, -⟩
    exact hname
  induction h with
  | last _ hitem => simpa using hname hitem
  | trailing _ hitem _ => simpa using hname hitem
  | more _ hitem _ ih => exact List.forall_mem_cons.2 ⟨hname hitem, ih⟩

/-- The parameters of a header are not empty, and their names can be written. -/
theorem names_of_parse? {raw : String} {params : Params} (h : parse? raw = some params) :
    params.entries ≠ [] ∧ ∀ e ∈ params.entries, Name e.1.toList := by
  obtain ⟨items, ⟨word, first, rest, -, -, -, hlist⟩, hmeans⟩ := parse?_eq_some_iff.1 h
  constructor
  · intro hnil
    obtain ⟨hne, -⟩ := readItems?_eq_some_iff.2 hlist
    obtain ⟨item, others, rfl⟩ := List.exists_cons_of_ne_nil hne
    have hvalue := hmeans (String.ofList item.name)
    simp [Params.get?, hnil] at hvalue
  · intro e he
    obtain ⟨hlowered, hvalue⟩ := Params.mem_entries_iff.1 he
    rw [hmeans e.1] at hvalue
    obtain ⟨item, hitem, -⟩ := Option.map_eq_some_iff.1 hvalue
    obtain ⟨hmem, hsame⟩ := List.mem_filter.1 (List.mem_of_getLast? hitem)
    have hname : e.1.toList = item.name.map Char.toLower := by
      rw [← hlowered, Text.toList_lowercase, Text.sameIgnoringCase_iff.1 hsame]
    rw [hname]
    exact name_map_toLower (name_of_mem_items hlist item hmem)

/-- Parameters are read back from the header that is written from them exactly if there are any
and their names are names of the grammar, and so exactly if some header is read as them. -/
theorem read_back_iff (params : Params) :
    (parse? (serialize params) = some params ↔
      params.entries ≠ [] ∧ ∀ e ∈ params.entries, Name e.1.toList) ∧
    (parse? (serialize params) = some params ↔ ∃ raw, parse? raw = some params) := by
  have hwritten (hne : params.entries ≠ []) (hnames : ∀ e ∈ params.entries, Name e.1.toList) :
      parse? (serialize params) = some params :=
    parse?_serialize hne fun e he => isName_iff.2 (hnames e he)
  constructor
  · exact ⟨names_of_parse?, fun h => hwritten h.1 h.2⟩
  · refine ⟨fun h => ⟨_, h⟩, fun ⟨raw, h⟩ => ?_⟩
    obtain ⟨hne, hnames⟩ := names_of_parse? h
    exact hwritten hne hnames

end HandleChallenge.Header
