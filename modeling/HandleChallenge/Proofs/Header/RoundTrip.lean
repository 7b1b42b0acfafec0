import HandleChallenge.Header.Printer
import HandleChallenge.Proofs.Header.Merge
import HandleChallenge.Proofs.Text.Fields
import HandleChallenge.Proofs.Text.Percent
import Mathlib.Data.List.Basic

/-!
# Headers read back

A header that is written from parameters is read back as the same parameters
(`parse?_serialize`): a quoted string ends where it was closed, the comma behind it starts the next
item, a name in its usual spelling is the same name, and the escapes of an `id` are undone. The
names have to be such as the grammar allows; the values may be any text.
-/

namespace HandleChallenge.Header

/-! ### Items -/

/-- A name that the grammar allows. -/
def IsName (name : List Char) : Prop := name ≠ [] ∧ ∀ c ∈ name, isNameChar c = true

/-- What may stand behind an item: nothing, or a comma and more. -/
def Stops (rest : List Char) : Prop := rest = [] ∨ ∃ more, rest = ',' :: more

/-- The item at the front is read back, and the rest is left. -/
theorem readItem?_writeItem {name : List Char} (hname : IsName name) (value : List Char)
    {rest : List Char} (hrest : Stops rest) :
    readItem? (writeItem name value ++ rest) = some (⟨name, value⟩, rest) := by
  have htext : writeItem name value ++ rest =
      name ++ '=' :: '"' :: (Text.Quoted.escape value ++ '"' :: rest) := by
    simp [writeItem, Text.Quoted.write]
  have htake : (writeItem name value ++ rest).takeWhile isNameChar = name := by
    rw [htext, Text.takeWhile_append_cons hname.2 rfl]
  have hdrop : (writeItem name value ++ rest).dropWhile isNameChar =
      '=' :: '"' :: (Text.Quoted.escape value ++ '"' :: rest) := by
    rw [htext, Text.dropWhile_append_cons hname.2 rfl]
  have hequals : ('=' :: '"' :: (Text.Quoted.escape value ++ '"' :: rest)).dropWhile isSpace =
      '=' :: '"' :: (Text.Quoted.escape value ++ '"' :: rest) := rfl
  have hquote : ('"' :: (Text.Quoted.escape value ++ '"' :: rest)).dropWhile isSpace =
      '"' :: (Text.Quoted.escape value ++ '"' :: rest) := rfl
  have hvalue : readValue? ('"' :: (Text.Quoted.escape value ++ '"' :: rest)) =
      some (value, rest) := Text.Quoted.read?_write value rest
  unfold readItem?
  simp only [htake, hdrop, hequals]
  cases hcases : name with
  | nil => exact absurd hcases hname.1
  | cons first more =>
    simp only [hquote, hvalue]
    rcases hrest with rfl | ⟨more, rfl⟩
    · rfl
    · rfl

/-- Separators hold no items. -/
theorem readItems?_of_nil {cs : List Char} (h : cs.dropWhile isSeparator = []) :
    readItems? cs = some [] := by
  rw [readItems?]
  split
  · rfl
  · rename_i hcons _
    cases h.symm.trans hcons

/-- Behind the separators an item is read, and then the others. -/
theorem readItems?_of_cons {cs text rest : List Char} {first : Char} {item : Item}
    (h : cs.dropWhile isSeparator = first :: text)
    (hitem : readItem? (first :: text) = some (item, rest)) :
    readItems? cs = (readItems? rest).map (item :: ·) := by
  rw [readItems?]
  split
  · rename_i hnil _
    cases h.symm.trans hnil
  · rename_i hcons _
    cases h.symm.trans hcons
    split
    · rename_i hnone
      cases hitem.symm.trans hnone
    · rename_i hsome
      cases hitem.symm.trans hsome
      rfl

/-- The text of an item. -/
def Item.write (item : Item) : List Char := writeItem item.name item.value

/-- Behind separators an item is read back, and then what stands behind it. -/
theorem readItems?_write {item : Item} (hname : IsName item.name) {front rest : List Char}
    (hfront : ∀ c ∈ front, isSeparator c = true) (hrest : Stops rest) :
    readItems? (front ++ (item.write ++ rest)) = (readItems? rest).map (item :: ·) := by
  have hitem : readItem? (item.write ++ rest) = some (item, rest) :=
    readItem?_writeItem hname item.value hrest
  obtain ⟨hne, hchars⟩ := hname
  obtain ⟨first, more, hfirst⟩ := List.exists_cons_of_ne_nil hne
  have htext : item.write ++ rest =
      first :: (more ++ '=' :: Text.Quoted.write item.value ++ rest) := by
    rw [Item.write, writeItem, hfirst]
    rfl
  have hseparator : isSeparator first = false := by
    have hchar := hchars first (hfirst ▸ List.mem_cons_self)
    simp only [isNameChar, Bool.and_eq_true, Bool.not_eq_true'] at hchar
    exact hchar.2
  rw [htext] at hitem ⊢
  refine readItems?_of_cons ?_ hitem
  rw [List.dropWhile_append_of_pos hfront]
  exact List.dropWhile_cons_of_neg (by simp [hseparator])

/-- Items are read back, whatever separators stand before them. -/
theorem readItems?_joinItems {items : List Item} (hnames : ∀ item ∈ items, IsName item.name)
    {front : List Char} (hfront : ∀ c ∈ front, isSeparator c = true) :
    readItems? (front ++ joinItems (items.map Item.write)) = some items := by
  -- the comma behind an item is a separator in front of the next one
  induction items generalizing front with
  | nil =>
    refine readItems?_of_nil ?_
    rw [List.dropWhile_append_of_pos hfront]
    rfl
  | cons item items ih =>
    obtain ⟨hname, hnames⟩ := List.forall_mem_cons.1 hnames
    cases items with
    | nil =>
      have hlast := readItems?_write hname hfront (.inl rfl)
      have hnil : readItems? [] = some [] := readItems?_of_nil rfl
      rwa [List.append_nil, hnil] at hlast
    | cons next items =>
      have hrest : readItems? ([',', ' '] ++ joinItems ((next :: items).map Item.write)) = _ :=
        ih hnames (List.all_eq_true.1 (by decide))
      show readItems? (front ++ (item.write ++ ',' :: ' ' :: joinItems _)) = _
      rw [readItems?_write hname hfront (.inr ⟨_, rfl⟩)]
      exact congrArg (Option.map (item :: ·)) hrest

/-! ### Entries -/

/-- The usual spelling of a name in small letters is the same name. -/
theorem lowercase_spell {name : String} (h : Text.lowercase name = name) :
    Text.lowercase (spell name) = name := by
  unfold spell
  split
  · rename_i known hknown
    have hkey := List.find?_some hknown
    exact beq_iff_eq.1 hkey
  · exact h

theorem Known.isName_key (known : Known) : IsName known.key.toList := by
  cases known <;> exact ⟨by decide, List.all_eq_true.1 (by decide)⟩

theorem Known.isName_spelling (known : Known) : IsName known.spelling.toList := by
  cases known <;> exact ⟨by decide, List.all_eq_true.1 (by decide)⟩

/-- The usual spelling of a name is a name. -/
theorem isName_spell {name : String} (h : IsName name.toList) : IsName (spell name).toList := by
  unfold spell
  split
  · exact Known.isName_spelling _
  · exact h

/-- The item that an entry is written as. -/
def itemOf (entry : String × String) : Item where
  name := (spell entry.1).toList
  value :=
    if entry.1 = Known.id.key then Text.Percent.encodeList keepsInId entry.2.toList
    else entry.2.toList

/-- An entry is read back from its item, under the usual spelling of its name. -/
theorem entry_itemOf {entry : String × String} (h : Text.lowercase entry.1 = entry.1) :
    (itemOf entry).entry = (spell entry.1, entry.2) := by
  have hid : Text.sameIgnoringCase (spell entry.1).toList Known.id.key.toList = true ↔
      entry.1 = Known.id.key := by
    rw [Text.sameIgnoringCase_iff, ← Text.toList_lowercase, ← Text.toList_lowercase,
      lowercase_spell h, Known.lowercase_key]
    exact String.toList_inj
  unfold Item.entry itemOf
  simp only [hid]
  split
  · rw [Text.Percent.decodeText_encodeList (by decide), String.ofList_toList, String.ofList_toList]
  · rw [String.ofList_toList, String.ofList_toList]

/-! ### Parameters -/

/-- A name behind all others goes to the end. -/
theorem insertEntry_of_forall_lt {name value : String} {entries : List (String × String)}
    (h : ∀ e ∈ entries, e.1 < name) :
    insertEntry name value entries = entries ++ [(name, value)] := by
  induction entries with
  | nil => rfl
  | cons first rest ih =>
    obtain ⟨hfirst, hrest⟩ := List.forall_mem_cons.1 h
    rw [insertEntry, if_neg (String.lt_asymm hfirst), if_neg (String.ne_of_lt hfirst).symm,
      ih hrest]
    rfl

theorem Params.ext_entries {params other : Params} (h : params.entries = other.entries) :
    params = other := by
  cases params
  cases other
  cases h
  rfl

/-- Entries in their order, under any spelling of their names, are put in one behind the other. -/
theorem Params.entries_insertAll {params : Params} {entries : List (String × String)}
    (hlowered : ∀ e ∈ entries, Text.lowercase e.1 = e.1)
    (hsorted : (params.entries ++ entries).Pairwise (·.1 < ·.1)) :
    (params.insertAll (entries.map fun e => (spell e.1, e.2))).entries =
      params.entries ++ entries := by
  induction entries generalizing params with
  | nil => exact (List.append_nil _).symm
  | cons first rest ih =>
    obtain ⟨hfirst, hrest⟩ := List.forall_mem_cons.1 hlowered
    have hlast : ∀ e ∈ params.entries, e.1 < first.1 := fun e he =>
      (List.pairwise_append.1 hsorted).2.2 e he first List.mem_cons_self
    have hinsert : (params.insert (spell first.1) first.2).entries = params.entries ++ [first] := by
      show insertEntry (Text.lowercase (spell first.1)) first.2 params.entries = _
      rw [lowercase_spell hfirst]
      exact insertEntry_of_forall_lt hlast
    have hentries : params.entries ++ first :: rest =
        (params.insert (spell first.1) first.2).entries ++ rest := by
      rw [hinsert, List.append_assoc]
      rfl
    rw [hentries] at hsorted ⊢
    exact ih hrest hsorted

/-- The parameters are those of their entries. -/
theorem Params.ofList_spell (params : Params) :
    ofList (params.entries.map fun e => (spell e.1, e.2)) = params := by
  refine ext_entries ?_
  exact entries_insertAll params.lowered (by simpa [empty] using params.sorted)

/-! ### Headers -/

/-- What stands behind a keyword is read whole, if nothing is trimmed from its end. -/
theorem restOfScheme?_append {keyword : String} {body : List Char} (hne : keyword ≠ "")
    (hkeyword : ∀ c ∈ keyword.toList, (!Text.isBlank c) = true)
    (hlast : ∀ c, (' ' :: body).getLast? = some c → Text.isBlank c = false) :
    restOfScheme? keyword (String.ofList (keyword.toList ++ ' ' :: body)) = some (' ' :: body) := by
  have htrim : Text.trim (keyword.toList ++ ' ' :: body) = keyword.toList ++ ' ' :: body := by
    refine Text.trim_eq_self (fun c hc => ?_) fun c hc => ?_
    · rw [List.head?_append_of_ne_nil _ (by simpa using hne)] at hc
      simpa using hkeyword c (List.mem_of_head? hc)
    · rw [List.getLast?_append_cons] at hc
      exact hlast c hc
  have hword : ∀ c ∈ keyword.toList, (!Text.isAsciiBlank c) = true := by
    intro c hc
    rw [Bool.not_eq_true', ← Bool.not_eq_true]
    intro hblank
    exact absurd (Text.isBlank_of_isAsciiBlank hblank) (by simpa using hkeyword c hc)
  have hdrop : (keyword.toList ++ ' ' :: body).dropWhile (!Text.isAsciiBlank ·) = ' ' :: body :=
    Text.dropWhile_append_cons hword rfl
  have htake : (keyword.toList ++ ' ' :: body).takeWhile (!Text.isAsciiBlank ·) = keyword.toList :=
    Text.takeWhile_append_cons hword rfl
  have hsplit : splitScheme? (String.ofList (keyword.toList ++ ' ' :: body)) =
      some (keyword.toList, ' ' :: body) := by
    unfold splitScheme?
    simp only [String.toList_ofList, htrim, hdrop, htake]
  have hsame : (guard (Text.sameIgnoringCase keyword.toList keyword.toList) : Option Unit) =
      some () := if_pos (Text.sameIgnoringCase_iff.2 rfl)
  rw [restOfScheme?, hsplit]
  show (guard (Text.sameIgnoringCase keyword.toList keyword.toList) >>= fun _ =>
    some (' ' :: body)) = _
  rw [hsame]
  rfl

/-- Items between commas end with a quote. -/
theorem exists_joinItems_eq {items : List Item} (h : items ≠ []) :
    ∃ body, joinItems (items.map Item.write) = body ++ ['"'] := by
  induction items with
  | nil => exact absurd rfl h
  | cons item items ih =>
    cases items with
    | nil => exact ⟨item.name ++ '=' :: '"' :: Text.Quoted.escape item.value, by
        simp [joinItems, Item.write, writeItem, Text.Quoted.write]⟩
    | cons next items =>
      obtain ⟨body, hbody⟩ := ih (List.cons_ne_nil _ _)
      refine ⟨item.write ++ ',' :: ' ' :: body, ?_⟩
      show item.write ++ ',' :: ' ' :: joinItems ((next :: items).map Item.write) = _
      rw [hbody]
      simp

/-- A header of items is read back as what they say. -/
theorem parse?_joinItems {items : List Item} (hne : items ≠ [])
    (hnames : ∀ item ∈ items, IsName item.name) :
    parse? (String.ofList (scheme.toList ++ ' ' :: joinItems (items.map Item.write))) =
      some (Params.ofList (items.map Item.entry)) := by
  obtain ⟨body, hbody⟩ := exists_joinItems_eq hne
  have hread : readItems? (' ' :: (body ++ ['"'])) = some items := by
    have hspace : ∀ c ∈ [' '], isSeparator c = true := List.all_eq_true.1 (by decide)
    rw [← hbody]
    exact readItems?_joinItems hnames hspace
  have hguard : (guard (items ≠ []) : Option Unit) = some () := if_pos hne
  have hrest : restOfScheme? scheme (String.ofList (scheme.toList ++ ' ' :: (body ++ ['"']))) =
      some (' ' :: (body ++ ['"'])) := by
    have hkeyword : ∀ c ∈ scheme.toList, (!Text.isBlank c) = true :=
      List.all_eq_true.1 (by decide)
    refine restOfScheme?_append (by decide) hkeyword fun c hc => ?_
    rw [← List.cons_append, List.getLast?_concat] at hc
    cases hc
    rfl
  unfold parse?
  rw [hbody, hrest]
  show (readItems? _ >>= fun items => guard (items ≠ []) >>= fun _ =>
    some (Params.ofList (items.map Item.entry))) = _
  rw [hread]
  show (guard (items ≠ []) >>= fun _ => some (Params.ofList (items.map Item.entry))) = _
  rw [hguard]
  rfl

/-- A header is read back as the parameters that it was written from. -/
theorem parse?_serialize {params : Params} (hne : params.entries ≠ [])
    (hnames : ∀ e ∈ params.entries, IsName e.1.toList) :
    parse? (serialize params) = some params := by
  have hitems : ∀ item ∈ params.entries.map itemOf, IsName item.name := by
    intro item hitem
    obtain ⟨entry, hentry, rfl⟩ := List.mem_map.1 hitem
    exact isName_spell (hnames entry hentry)
  have htext : serializeList params =
      scheme.toList ++ ' ' :: joinItems ((params.entries.map itemOf).map Item.write) := by
    rw [List.map_map]
    unfold serializeList
    split
    · rename_i hnil
      exact absurd hnil hne
    · rfl
  have hentries : (params.entries.map itemOf).map Item.entry =
      params.entries.map fun e => (spell e.1, e.2) := by
    rw [List.map_map]
    exact List.map_congr_left fun e he => entry_itemOf (params.lowered e he)
  rw [serialize, htext, parse?_joinItems (by simpa using hne) hitems, hentries,
    Params.ofList_spell]

end HandleChallenge.Header
