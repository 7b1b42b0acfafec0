import HandleChallenge.Header.Params
import HandleChallenge.Text.Blank
import HandleChallenge.Text.Percent
import HandleChallenge.Text.Quoted

/-!
# Reading authorization headers

A header is the scheme keyword, a blank and a list of items `name = value` between commas. Blanks
may stand around every sign and commas may be repeated. A value is a quoted string or a run of
characters up to a comma or blank. The value of `id` also has its percent escapes undone. Of
two items with one name the later counts.
-/

namespace HandleChallenge.Header

/-- The keyword of the scheme. -/
def scheme : String := "Handle"

/-- The blanks of a parameter list. -/
def isSpace (c : Char) : Bool := c == ' ' || c == '\t' || c == '\r' || c == '\n'

/-- A comma or a blank. -/
def isSeparator (c : Char) : Bool := c == ',' || isSpace c

/-- The characters of a name. -/
def isNameChar (c : Char) : Bool := c != '=' && !isSeparator c

/-- The characters of a value without quotes. -/
def isTokenChar (c : Char) : Bool := !isSeparator c

/-- An item of a parameter list. -/
structure Item where
  name : List Char
  value : List Char

/-- The value at the front and the rest. -/
def readValue? : List Char → Option (List Char × List Char)
  | '"' :: cs => Text.Quoted.read? cs
  | cs => some (cs.takeWhile isTokenChar, cs.dropWhile isTokenChar)

/-- The item at the front and the rest, which is empty or starts with a comma. -/
def readItem? (cs : List Char) : Option (Item × List Char) :=
  let name := cs.takeWhile isNameChar
  match name, (cs.dropWhile isNameChar).dropWhile isSpace with
  | _ :: _, '=' :: rest => do
    let (value, rest) ← readValue? (rest.dropWhile isSpace)
    match rest.dropWhile isSpace with
    | [] => some (⟨name, value⟩, [])
    | ',' :: rest => some (⟨name, value⟩, ',' :: rest)
    | _ => none
  | _, _ => none

theorem length_dropWhile_le {α : Type} (p : α → Bool) (l : List α) :
    (l.dropWhile p).length ≤ l.length :=
  (List.dropWhile_suffix p).length_le

theorem length_le_of_readValue? {cs value rest : List Char}
    (h : readValue? cs = some (value, rest)) : rest.length ≤ cs.length := by
  unfold readValue? at h
  split at h
  · have := Text.Quoted.length_lt_of_read? h
    simp only [List.length_cons]
    omega
  · simp only [Option.some.injEq, Prod.mk.injEq] at h
    rw [← h.2]
    exact length_dropWhile_le _ _

/-- The rest behind an item is shorter than the text. -/
theorem length_lt_of_readItem? {cs rest : List Char} {item : Item}
    (h : readItem? cs = some (item, rest)) : rest.length < cs.length := by
  unfold readItem? at h
  simp only at h
  split at h
  · rename_i _ _ after _ hsplit
    have hcs := length_dropWhile_le isNameChar cs
    have hsp := length_dropWhile_le isSpace (cs.dropWhile isNameChar)
    rw [hsplit, List.length_cons] at hsp
    obtain ⟨⟨value, after'⟩, hv, h⟩ := Option.bind_eq_some_iff.1 h
    have hval := length_le_of_readValue? hv
    have h1 := length_dropWhile_le isSpace after
    have h2 := length_dropWhile_le isSpace after'
    have hrest : rest.length ≤ (after'.dropWhile isSpace).length := by
      split at h <;> simp_all
    omega
  · simp at h

/-- The items of a parameter list. -/
def readItems? (cs : List Char) : Option (List Item) :=
  match cs.dropWhile isSeparator, length_dropWhile_le isSeparator cs with
  | [], _ => some []
  | c :: cs', hle =>
    match h : readItem? (c :: cs') with
    | none => none
    | some (item, rest) =>
      have : rest.length < cs.length := Nat.lt_of_lt_of_le (length_lt_of_readItem? h) hle
      (readItems? rest).map (item :: ·)
termination_by cs.length

/-- The name and value of an item. -/
def Item.entry (item : Item) : String × String :=
  let value :=
    if Text.sameIgnoringCase item.name Known.id.key.toList then Text.Percent.decodeText item.value
    else item.value
  (String.ofList item.name, String.ofList value)

/-- The keyword and the rest, which starts with an ASCII blank, of a trimmed header. -/
def splitScheme? (raw : String) : Option (List Char × List Char) :=
  let cs := Text.trim raw.toList
  match cs.dropWhile (!Text.isAsciiBlank ·) with
  | [] => none
  | rest => some (cs.takeWhile (!Text.isAsciiBlank ·), rest)

/-- The rest of a header of the given scheme. -/
def restOfScheme? (keyword raw : String) : Option (List Char) := do
  let (word, rest) ← splitScheme? raw
  guard (Text.sameIgnoringCase word keyword.toList)
  return rest

/-- The parameters of a header; `none` for another scheme, for a text outside the grammar and
for an empty list. -/
def parse? (raw : String) : Option Params := do
  let items ← readItems? (← restOfScheme? scheme raw)
  guard (items ≠ [])
  return Params.ofList (items.map Item.entry)

/-- Whether a header's first word is the keyword of the scheme. -/
def namesScheme (raw : String) : Bool :=
  (Text.firstWord? raw.toList).any (Text.sameIgnoringCase · scheme.toList)

end HandleChallenge.Header
