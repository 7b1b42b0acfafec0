import HandleChallenge.Proofs.Header.Grammar
import HandleChallenge.Proofs.Text.Utf8

/-!
# Headers read octet by octet

A header can be read where it stands: a place in its UTF-8 octets moves on, every octet is looked at
by itself, and names and values are cut out between two places. `Parses` states how such a reading
may end; nothing in it says that a reading ends at all, and a cut inside a character is an ending of
its own. On every text the reading has one ending, which is what the characters say, and no
character is cut (`parses_iff`). With the grammar this says what is read and that it is read
(`accepts_exactly_the_grammar`).
-/

namespace HandleChallenge.Header

open Grammar

namespace Cursor

open Text.Utf8 (Agrees encodeChar encodeList encodeList_append encodeList_cons encodeChar_of_lt
  exists_encodeChar byte_beq_eq)

/-! ### The reading -/

/-- Why a reading stops: the text is outside the grammar, or a character is cut. -/
inductive Stop where
  | refused
  | cut
  deriving DecidableEq

/-- The place is inside no character: it is the end, or its octet continues none. -/
def isBoundary (octets : Bytes) (place : Nat) : Bool :=
  match octets[place]? with
  | none => place == octets.length
  | some octet => octet < 0x80 || 0xC0 ≤ octet

/-- The characters between two places. -/
def slice (octets : Bytes) (start stop : Nat) : Except Stop (List Char) :=
  if isBoundary octets start ∧ isBoundary octets stop ∧ start ≤ stop then
    .ok (Text.Utf8.decodeLossyList ((octets.drop start).take (stop - start)))
  else .error .cut

/-- The place behind a run of octets. -/
def skip (p : UInt8 → Bool) (octets : Bytes) (place : Nat) : Nat :=
  if h : place < octets.length then
    if p octets[place] then skip p octets (place + 1) else place
  else place
termination_by octets.length - place

def isSpaceOctet (octet : UInt8) : Bool :=
  octet == 0x20 || octet == 0x09 || octet == 0x0D || octet == 0x0A

def isSeparatorOctet (octet : UInt8) : Bool := octet == 0x2C || isSpaceOctet octet

def isNameOctet (octet : UInt8) : Bool := octet != 0x3D && octet != 0x2C && !isSpaceOctet octet

def isTokenOctet (octet : UInt8) : Bool := octet != 0x2C && !isSpaceOctet octet

/-- The characters up to the closing quote and the place behind it. The characters come with the
place where they stand; `escaped` says that the last one was a backslash. -/
def readQuoted? (escaped : Bool) (place : Nat) (value : List Char) :
    List Char → Option (List Char × Nat)
  | [] => none
  | c :: cs =>
    let next := place + (encodeChar c).length
    if escaped then readQuoted? false next (value ++ [c]) cs
    else if c = '\\' then readQuoted? true next value cs
    else if c = '"' then some (value, place + 1)
    else readQuoted? false next (value ++ [c]) cs

/-- The value at a place and the place behind it. -/
def readValue (octets : Bytes) (place : Nat) : Except Stop (List Char × Nat) :=
  if octets[place]? = some 0x22 then do
    let rest ← slice octets (place + 1) octets.length
    match readQuoted? false (place + 1) [] rest with
    | some read => return read
    | none => throw .refused
  else do
    let behind := skip isTokenOctet octets place
    return (← slice octets place behind, behind)

/-- The item at a place and the place behind it, which is the end or that of a comma. -/
def readItem (octets : Bytes) (start : Nat) : Except Stop (Item × Nat) := do
  let behindName := skip isNameOctet octets start
  let name ← slice octets start behindName
  let sign := skip isSpaceOctet octets behindName
  if name ≠ [] ∧ octets[sign]? = some 0x3D then
    let (value, behindValue) ← readValue octets (skip isSpaceOctet octets (sign + 1))
    let behind := skip isSpaceOctet octets behindValue
    if octets[behind]? = none ∨ octets[behind]? = some 0x2C then return (⟨name, value⟩, behind)
    else throw .refused
  else throw .refused

/-- How the reading of a list from a place ends. -/
inductive ReadsItems (octets : Bytes) : Nat → Except Stop (List Item) → Prop
  | done {place : Nat} (hend : octets[skip isSeparatorOctet octets place]? = none) :
      ReadsItems octets place (.ok [])
  | stopped {place : Nat} {stop : Stop}
      (hmore : octets[skip isSeparatorOctet octets place]? ≠ none)
      (hitem : readItem octets (skip isSeparatorOctet octets place) = .error stop) :
      ReadsItems octets place (.error stop)
  | item {place behind : Nat} {item : Item} {ending : Except Stop (List Item)}
      (hmore : octets[skip isSeparatorOctet octets place]? ≠ none)
      (hitem : readItem octets (skip isSeparatorOctet octets place) = .ok (item, behind))
      (hrest : ReadsItems octets behind ending) :
      ReadsItems octets place (ending.map (item :: ·))

/-- The place of the first ASCII blank. -/
def findBlank? (place : Nat) : List Char → Option Nat
  | [] => none
  | c :: cs =>
    if Text.isAsciiBlank c then some place else findBlank? (place + (encodeChar c).length) cs

/-- The keyword and the rest of a trimmed header, cut apart at the first ASCII blank. -/
def split (raw : String) : Except Stop (List Char × List Char) :=
  let octets := encodeList (Text.trim raw.toList)
  match findBlank? 0 (Text.trim raw.toList) with
  | none => .error .refused
  | some place => do return (← slice octets 0 place, ← slice octets place octets.length)

/-- The ending of a header whose list ends so: a header without items is refused. -/
def conclude : Except Stop (List Item) → Except Stop Params
  | .error stop => .error stop
  | .ok [] => .error .refused
  | .ok items => .ok (Params.ofList (items.map Item.entry))

/-- How the reading of a header ends. -/
inductive Parses (raw : String) : Except Stop Params → Prop
  | unsplit {stop : Stop} (hsplit : split raw = .error stop) : Parses raw (.error stop)
  | otherScheme {word rest : List Char} (hsplit : split raw = .ok (word, rest))
      (hword : Text.sameIgnoringCase word scheme.toList = false) : Parses raw (.error .refused)
  | list {word rest : List Char} {ending : Except Stop (List Item)}
      (hsplit : split raw = .ok (word, rest))
      (hword : Text.sameIgnoringCase word scheme.toList = true)
      (hlist : ReadsItems (encodeList rest) 0 ending) : Parses raw (conclude ending)

/-! ### Octets of a class -/

theorem agrees_isSpace : Agrees isSpaceOctet isSpace := fun c octet h => by
  rw [isSpace, ← byte_beq_eq (k := ' ') (by decide) h, ← byte_beq_eq (k := '\t') (by decide) h,
    ← byte_beq_eq (k := '\r') (by decide) h, ← byte_beq_eq (k := '\n') (by decide) h]
  rfl

theorem agrees_isSeparator : Agrees isSeparatorOctet isSeparator := fun c octet h => by
  rw [isSeparator, ← byte_beq_eq (k := ',') (by decide) h, ← agrees_isSpace c octet h]
  rfl

theorem agrees_isNameChar : Agrees isNameOctet isNameChar := fun c octet h => by
  rw [isNameChar, bne, ← byte_beq_eq (k := '=') (by decide) h, ← agrees_isSeparator c octet h,
    isSeparatorOctet, Bool.not_or, isNameOctet, Bool.and_assoc]
  rfl

theorem agrees_isTokenChar : Agrees isTokenOctet isTokenChar := fun c octet h => by
  rw [isTokenChar, ← agrees_isSeparator c octet h, isSeparatorOctet, Bool.not_or]
  rfl

/-- A run of octets is a run of characters. -/
theorem takeWhile_encodeList {q : UInt8 → Bool} {p : Char → Bool} (h : Agrees q p)
    (cs : List Char) : (encodeList cs).takeWhile q = encodeList (cs.takeWhile p) := by
  induction cs with
  | nil => rfl
  | cons c cs ih =>
    rw [encodeList_cons]
    cases hc : p c with
    | true =>
      rw [List.takeWhile_append_of_pos fun octet hoctet => (h c octet hoctet).trans hc, ih,
        List.takeWhile_cons_of_pos hc, encodeList_cons]
    | false =>
      obtain ⟨first, more, hchar, -⟩ := exists_encodeChar c
      have hfirst : q first = false := (h c first (hchar ▸ List.mem_cons_self)).trans hc
      rw [List.takeWhile_cons_of_neg (by simp [hc]), hchar]
      exact List.takeWhile_cons_of_neg (by simp [hfirst])

/-! ### Places -/

/-- The loop stops behind the run. -/
theorem skip_eq (q : UInt8 → Bool) (octets : Bytes) (place : Nat) :
    skip q octets place = place + ((octets.drop place).takeWhile q).length := by
  fun_induction skip q octets place with
  | case1 place h hq ih =>
    rw [ih, List.drop_eq_getElem_cons h, List.takeWhile_cons_of_pos hq, List.length_cons]
    omega
  | case2 place h hq =>
    rw [List.drop_eq_getElem_cons h, List.takeWhile_cons_of_neg hq]
    rfl
  | case3 place h =>
    rw [List.drop_eq_nil_of_le (Nat.le_of_not_lt h)]
    rfl

/-- At the place stands the given text, to the end. -/
def IsAt (octets : Bytes) (place : Nat) (cs : List Char) : Prop :=
  ∃ front, octets = encodeList (front ++ cs) ∧ place = (encodeList front).length

/-- A text stands at the start of its octets. -/
theorem isAt_zero (cs : List Char) : IsAt (encodeList cs) 0 cs := ⟨[], rfl, rfl⟩

variable {octets : Bytes} {place : Nat} {cs text rest : List Char}

/-- Behind a text stands what follows it. -/
theorem IsAt.behind (h : IsAt octets place (text ++ rest)) :
    IsAt octets (place + (encodeList text).length) rest := by
  obtain ⟨front, rfl, rfl⟩ := h
  exact ⟨front ++ text, by rw [List.append_assoc], by rw [encodeList_append, List.length_append]⟩

/-- The octets from the place on. -/
theorem IsAt.drop_eq (h : IsAt octets place cs) : octets.drop place = encodeList cs := by
  obtain ⟨front, rfl, rfl⟩ := h
  rw [encodeList_append, List.drop_left]

/-- The octet at the place is the first one of the text. -/
theorem IsAt.getElem?_eq (h : IsAt octets place cs) : octets[place]? = (encodeList cs).head? := by
  rw [← h.drop_eq, List.head?_drop]

/-- The end of the octets is the end of the text. -/
theorem IsAt.length_eq (h : IsAt octets place cs) :
    octets.length = place + (encodeList cs).length := by
  obtain ⟨front, rfl, rfl⟩ := h
  rw [encodeList_append, List.length_append]

/-- No character is cut at the place. -/
theorem IsAt.isBoundary_eq (h : IsAt octets place cs) : isBoundary octets place = true := by
  have hlength := h.length_eq
  unfold isBoundary
  rw [h.getElem?_eq]
  cases cs with
  | nil => exact beq_iff_eq.2 hlength.symm
  | cons c cs =>
    obtain ⟨first, more, hchar, hfirst⟩ := exists_encodeChar c
    rw [encodeList_cons, hchar]
    exact hfirst

/-- Between two such places the text can be cut out. -/
theorem IsAt.slice_eq (h : IsAt octets place (text ++ rest)) :
    slice octets place (place + (encodeList text).length) = .ok text := by
  unfold slice
  rw [if_pos ⟨h.isBoundary_eq, h.behind.isBoundary_eq, Nat.le_add_right _ _⟩, h.drop_eq,
    Nat.add_sub_cancel_left, encodeList_append, List.take_left,
    Text.Utf8.decodeLossyList_encodeList]

/-- To the end the whole text can be cut out. -/
theorem IsAt.slice_length (h : IsAt octets place cs) :
    slice octets place octets.length = .ok cs := by
  have hend : IsAt octets place (cs ++ []) := by rwa [List.append_nil]
  rw [h.length_eq]
  exact hend.slice_eq

section
variable {q : UInt8 → Bool} {p : Char → Bool}

theorem IsAt.skip_eq (h : IsAt octets place cs) (hclass : Agrees q p) :
    skip q octets place = place + (encodeList (cs.takeWhile p)).length := by
  rw [Cursor.skip_eq, h.drop_eq, takeWhile_encodeList hclass]

/-- Behind a run of octets stands the text without a run of characters. -/
theorem IsAt.skip (h : IsAt octets place cs) (hclass : Agrees q p) :
    IsAt octets (skip q octets place) (cs.dropWhile p) := by
  rw [h.skip_eq hclass]
  rw [← List.takeWhile_append_dropWhile (p := p) (l := cs)] at h
  exact h.behind

/-- The run itself can be cut out. -/
theorem IsAt.slice_skip (h : IsAt octets place cs) (hclass : Agrees q p) :
    slice octets place (Cursor.skip q octets place) = .ok (cs.takeWhile p) := by
  rw [h.skip_eq hclass]
  rw [← List.takeWhile_append_dropWhile (p := p) (l := cs)] at h
  exact h.slice_eq

end

/-- The octet at the place is that of a sign of ASCII exactly if the text starts with the sign. -/
theorem IsAt.getElem?_eq_some_iff (h : IsAt octets place cs) {k : Char} (hk : k.toNat < 0x80) :
    octets[place]? = some (UInt8.ofNat k.toNat) ↔ cs.head? = some k := by
  rw [h.getElem?_eq]
  cases cs with
  | nil => simp [encodeList]
  | cons c cs =>
    obtain ⟨first, more, hchar, -⟩ := exists_encodeChar c
    have hclass := byte_beq_eq (c := c) hk (hchar ▸ List.mem_cons_self)
    rw [Bool.eq_iff_iff, beq_iff_eq, beq_iff_eq] at hclass
    rw [encodeList_cons, hchar]
    simpa using hclass

/-- There is no octet at the place exactly if the text has ended. -/
theorem IsAt.getElem?_eq_none_iff (h : IsAt octets place cs) :
    octets[place]? = none ↔ cs = [] := by
  rw [h.getElem?_eq]
  cases cs with
  | nil => simp [encodeList]
  | cons c cs =>
    obtain ⟨first, more, hchar, -⟩ := exists_encodeChar c
    rw [encodeList_cons, hchar]
    simp

/-- Behind a sign of ASCII stands the rest. -/
theorem IsAt.succ {k : Char} (h : IsAt octets place (k :: rest)) (hk : k.toNat < 0x80) :
    IsAt octets (place + 1) rest := by
  have hsign : (encodeList [k]).length = 1 := by simp [encodeList, encodeChar_of_lt hk]
  rw [← hsign]
  exact IsAt.behind h

/-! ### What is read -/

/-- The reading at a place comes to what the reading of the text there does. -/
def Mirrors {α : Type} (octets : Bytes) (read : Option (α × List Char))
    (result : Except Stop (α × Nat)) : Prop :=
  match read with
  | none => result = .error .refused
  | some (value, rest) => ∃ behind, result = .ok (value, behind) ∧ IsAt octets behind rest

theorem readQuoted?_plain {c : Char} (hquote : c ≠ '"') (hbackslash : c ≠ '\\') (place : Nat)
    (value cs : List Char) :
    readQuoted? false place value (c :: cs) =
      readQuoted? false (place + (encodeChar c).length) (value ++ [c]) cs := by
  simp [readQuoted?, hquote, hbackslash]

theorem readQuoted?_literal (c : Char) (place : Nat) (value cs : List Char) :
    readQuoted? false place value ('\\' :: c :: cs) =
      readQuoted? false (place + (encodeChar '\\').length + (encodeChar c).length)
        (value ++ [c]) cs := by
  simp [readQuoted?]

/-- A quoted string is read up to its closing quote, behind which the place is. -/
theorem readQuoted?_of_quoted {inner : List Char} (h : Quoted text inner) (rest : List Char)
    (place : Nat) (value : List Char) :
    readQuoted? false place value (text ++ '"' :: rest) =
      some (value ++ inner, place + (encodeList (text ++ ['"'])).length) := by
  induction h generalizing place value with
  | nil => simp [readQuoted?, encodeList, encodeChar]
  | plain hquote hbackslash _ ih =>
    rw [List.cons_append, readQuoted?_plain hquote hbackslash, ih]
    simp [encodeList_cons, Nat.add_assoc]
  | literal c _ ih =>
    rw [List.cons_append, List.cons_append, readQuoted?_literal, ih]
    simp [encodeList_cons, Nat.add_assoc]

/-- A string without a closing quote has none for the cursor. -/
theorem readQuoted?_eq_none (h : Text.Quoted.read? cs = none) (place : Nat)
    (value : List Char) : readQuoted? false place value cs = none := by
  fun_induction Text.Quoted.read? cs generalizing place value with
  | case1 => rfl
  | case2 => cases h
  | case3 => simp [readQuoted?]
  | case4 c cs ih => rw [readQuoted?_literal, ih (Option.map_eq_none_iff.1 h)]
  | case5 c cs hquote hlone hliteral ih =>
    have hbackslash : c ≠ '\\' := fun hc => by
      cases cs with
      | nil => exact hlone hc rfl
      | cons next cs => exact hliteral next cs hc rfl
    rw [readQuoted?_plain hquote hbackslash, ih (Option.map_eq_none_iff.1 h)]

/-- The value at a place is the value of the text. -/
theorem IsAt.readValue (h : IsAt octets place cs) :
    Mirrors octets (readValue? cs) (readValue octets place) := by
  have hquote : octets[place]? = some 0x22 ↔ cs.head? = some '"' :=
    h.getElem?_eq_some_iff (k := '"') (by decide)
  unfold Cursor.readValue
  by_cases hhead : cs.head? = some '"'
  · obtain ⟨cs, rfl⟩ := List.head?_eq_some_iff.1 hhead
    have hinner := h.succ (by decide)
    rw [if_pos (hquote.2 hhead), hinner.slice_length]
    show Mirrors octets (Text.Quoted.read? cs) _
    cases hread : Text.Quoted.read? cs with
    | none =>
      simp only [bind, Except.bind, readQuoted?_eq_none hread]
      rfl
    | some read =>
      obtain ⟨value, rest⟩ := read
      obtain ⟨text, rfl, hquoted⟩ := quoted_of_read? hread
      have hbehind : IsAt octets (place + 1) (text ++ ['"'] ++ rest) := by simpa using hinner
      simp only [bind, Except.bind, readQuoted?_of_quoted hquoted]
      exact ⟨_, rfl, hbehind.behind⟩
  · rw [if_neg fun hoctet => hhead (hquote.1 hoctet), readValue?_of_head hhead]
    simp only [bind, Except.bind, h.slice_skip agrees_isTokenChar]
    exact ⟨_, rfl, h.skip agrees_isTokenChar⟩

/-- The item at a place is the item of the text. -/
theorem IsAt.readItem (h : IsAt octets place cs) :
    Mirrors octets (readItem? cs) (readItem octets place) := by
  have hsign := (h.skip agrees_isNameChar).skip agrees_isSpace
  have hequals : octets[Cursor.skip isSpaceOctet octets (Cursor.skip isNameOctet octets place)]? =
      some 0x3D ↔ ((cs.dropWhile isNameChar).dropWhile isSpace).head? = some '=' :=
    hsign.getElem?_eq_some_iff (k := '=') (by decide)
  rw [readItem?_eq, Cursor.readItem]
  simp only [h.slice_skip agrees_isNameChar, bind, Except.bind]
  by_cases hstart : cs.takeWhile isNameChar ≠ [] ∧
      ((cs.dropWhile isNameChar).dropWhile isSpace).head? = some '='
  · rw [if_pos hstart, if_pos ⟨hstart.1, hequals.2 hstart.2⟩]
    obtain ⟨behind, hbehind⟩ := List.head?_eq_some_iff.1 hstart.2
    rw [hbehind] at hsign ⊢
    have hvalue := ((hsign.succ (by decide)).skip agrees_isSpace).readValue
    rw [List.tail_cons]
    cases hread : readValue? (behind.dropWhile isSpace) with
    | none =>
      rw [hread] at hvalue
      rw [hvalue]
      rfl
    | some read =>
      obtain ⟨value, left⟩ := read
      rw [hread] at hvalue
      obtain ⟨behindValue, hcursor, hleft⟩ := hvalue
      have hrest := hleft.skip agrees_isSpace
      have hend : octets[Cursor.skip isSpaceOctet octets behindValue]? = none ∨
          octets[Cursor.skip isSpaceOctet octets behindValue]? = some 0x2C ↔
          left.dropWhile isSpace = [] ∨ (left.dropWhile isSpace).head? = some ',' :=
        or_congr hrest.getElem?_eq_none_iff (hrest.getElem?_eq_some_iff (k := ',') (by decide))
      rw [hcursor, Option.bind_some]
      dsimp only
      by_cases hstops : left.dropWhile isSpace = [] ∨ (left.dropWhile isSpace).head? = some ','
      · rw [if_pos hstops, if_pos (hend.2 hstops)]
        exact ⟨_, rfl, hrest⟩
      · rw [if_neg hstops, if_neg fun hoctet => hstops (hend.1 hoctet)]
        rfl
  · rw [if_neg hstart, if_neg fun hoctet => hstart ⟨hoctet.1, hequals.1 hoctet.2⟩]
    rfl

/-- The ending that a reading of characters calls for. -/
def endingOf {α : Type} : Option α → Except Stop α
  | some value => .ok value
  | none => .error .refused

/-- The list at a place ends in one way, as the list of the text does. -/
theorem IsAt.readsItems_iff (h : IsAt octets place cs) {ending : Except Stop (List Item)} :
    ReadsItems octets place ending ↔ ending = endingOf (readItems? cs) := by
  -- behind an item less of the text is left
  induction hlength : cs.length using Nat.strongRecOn generalizing place cs ending with
  | ind length ih =>
    have hfirst := h.skip agrees_isSeparator
    rw [readItems?_eq]
    by_cases hnil : cs.dropWhile isSeparator = []
    · have hend := hfirst.getElem?_eq_none_iff.2 hnil
      rw [if_pos hnil]
      constructor
      · rintro (_ | ⟨hmore, -⟩ | ⟨hmore, -, -⟩)
        · rfl
        · exact absurd hend hmore
        · exact absurd hend hmore
      · rintro rfl
        exact .done hend
    · have hmore := fun hend => hnil (hfirst.getElem?_eq_none_iff.1 hend)
      have hitem := hfirst.readItem
      rw [if_neg hnil]
      cases hread : readItem? (cs.dropWhile isSeparator) with
      | none =>
        rw [hread] at hitem
        constructor
        · rintro (hend | ⟨-, hstopped⟩ | ⟨-, hfound, -⟩)
          · exact absurd hend hmore
          · cases hitem.symm.trans hstopped
            rfl
          · cases hitem.symm.trans hfound
        · rintro rfl
          exact .stopped hmore hitem
      | some read =>
        obtain ⟨item, rest⟩ := read
        rw [hread] at hitem
        obtain ⟨behind, hcursor, hbehind⟩ := hitem
        have hshort : rest.length < length := by
          rw [← hlength]
          exact Nat.lt_of_lt_of_le (length_lt_of_readItem? hread) (length_dropWhile_le _ _)
        have hmap : endingOf ((readItems? rest).map (item :: ·)) =
            (endingOf (readItems? rest)).map (item :: ·) := by
          cases readItems? rest <;> rfl
        rw [Option.bind_some, hmap]
        constructor
        · rintro (hend | ⟨-, hstopped⟩ | ⟨-, hfound, hrest⟩)
          · exact absurd hend hmore
          · cases hcursor.symm.trans hstopped
          · cases hcursor.symm.trans hfound
            rw [(ih _ hshort hbehind rfl).1 hrest]
        · rintro rfl
          exact .item hmore hcursor ((ih _ hshort hbehind rfl).2 rfl)

/-! ### The keyword -/

/-- The place of the first ASCII blank is behind the characters in front of it. -/
theorem findBlank?_eq (place : Nat) (cs : List Char) :
    findBlank? place cs =
      if cs.dropWhile (!Text.isAsciiBlank ·) = [] then none
      else some (place + (encodeList (cs.takeWhile (!Text.isAsciiBlank ·))).length) := by
  induction cs generalizing place with
  | nil => rfl
  | cons c cs ih =>
    cases hc : Text.isAsciiBlank c with
    | true => simp [findBlank?, hc, encodeList]
    | false =>
      rw [findBlank?, if_neg (by simp [hc]), ih, List.dropWhile_cons_of_pos (by simp [hc]),
        List.takeWhile_cons_of_pos (by simp [hc]), encodeList_cons, List.length_append,
        Nat.add_assoc]

/-- The header is cut apart as its characters are. -/
theorem split_eq (raw : String) : split raw = endingOf (splitScheme? raw) := by
  unfold split splitScheme?
  rw [findBlank?_eq]
  generalize Text.trim raw.toList = cs
  by_cases hnil : cs.dropWhile (!Text.isAsciiBlank ·) = []
  · rw [if_pos hnil]
    simp only [hnil]
    rfl
  · have hat := isAt_zero cs
    rw [← List.takeWhile_append_dropWhile (p := (!Text.isAsciiBlank ·)) (l := cs)] at hat
    have hword := hat.slice_eq
    have hrest := hat.behind.slice_length
    rw [List.takeWhile_append_dropWhile] at hword hrest
    rw [if_neg hnil]
    simp only [hword, hrest, bind, Except.bind]
    rfl

/-! ### Headers -/

/-- What the characters of a header that is cut apart come to. -/
theorem endingOf_parse? {raw : String} {word rest : List Char}
    (h : splitScheme? raw = some (word, rest)) :
    endingOf (parse? raw) =
      if Text.sameIgnoringCase word scheme.toList = true then conclude (endingOf (readItems? rest))
      else .error .refused := by
  unfold parse? restOfScheme?
  rw [h]
  show endingOf
    ((guard (Text.sameIgnoringCase word scheme.toList = true) >>= fun _ => some rest) >>=
      fun rest => readItems? rest >>= fun items => guard (items ≠ []) >>= fun _ =>
        some (Params.ofList (items.map Item.entry))) = _
  by_cases hword : Text.sameIgnoringCase word scheme.toList = true
  · rw [if_pos hword, guard, if_pos hword]
    show endingOf ((readItems? rest).bind _) = _
    cases readItems? rest with
    | none => rfl
    | some items =>
      cases items with
      | nil => rfl
      | cons item items => rfl
  · rw [if_neg hword, guard, if_neg hword]
    rfl

/-- A header read by octets has one ending, that of its characters. -/
theorem parses_iff {raw : String} {ending : Except Stop Params} :
    Parses raw ending ↔ ending = endingOf (parse? raw) := by
  have hsplit := split_eq raw
  cases hchars : splitScheme? raw with
  | none =>
    have hparse : parse? raw = none := by
      unfold parse? restOfScheme?
      rw [hchars]
      rfl
    rw [hchars] at hsplit
    rw [hparse]
    constructor
    · rintro (hstop | ⟨hcut, -⟩ | ⟨hcut, -, -⟩)
      · cases hsplit.symm.trans hstop
        rfl
      · cases hsplit.symm.trans hcut
      · cases hsplit.symm.trans hcut
    · rintro rfl
      exact .unsplit hsplit
  | some cut =>
    obtain ⟨word, rest⟩ := cut
    rw [hchars] at hsplit
    have hread : ∀ {listed}, ReadsItems (encodeList rest) 0 listed ↔
        listed = endingOf (readItems? rest) := (isAt_zero rest).readsItems_iff
    rw [endingOf_parse? hchars]
    constructor
    · rintro (hstop | ⟨hcut, hother⟩ | ⟨hcut, hsame, hlist⟩)
      · cases hsplit.symm.trans hstop
      · cases hsplit.symm.trans hcut
        rw [if_neg (by simp [hother])]
      · cases hsplit.symm.trans hcut
        rw [if_pos hsame, hread.1 hlist]
    · rintro rfl
      split
      · rename_i hsame
        exact .list hsplit hsame (hread.2 rfl)
      · rename_i hother
        exact .otherScheme hsplit (Bool.eq_false_iff.2 hother)

end Cursor

/-- A header is read exactly if the grammar derives it, as the parameters that its items say; and
read octet by octet it has one ending, which is that answer and cuts no character. -/
theorem accepts_exactly_the_grammar (raw : String) :
    (∀ params, parse? raw = some params ↔ ∃ items, IsHeader raw items ∧ Says items params) ∧
    ∃ ending, (∀ other, Cursor.Parses raw other ↔ other = ending) ∧
      ending ≠ .error .cut ∧
      ∀ params, ending = .ok params ↔ parse? raw = some params := by
  refine ⟨fun params => parse?_eq_some_iff, Cursor.endingOf (parse? raw),
    fun other => Cursor.parses_iff, ?_, fun params => ?_⟩
  · cases parse? raw <;> simp [Cursor.endingOf]
  · cases parse? raw <;> simp [Cursor.endingOf]

end HandleChallenge.Header
