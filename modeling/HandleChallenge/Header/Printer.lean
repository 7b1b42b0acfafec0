import HandleChallenge.Header.Parser

/-!
# Writing authorization headers

Every value is written as a quoted string, known names in their usual spelling, and the value of
`id` with percent escapes.
-/

namespace HandleChallenge.Header

/-- The characters of an `id` that stand for themselves. -/
def keepsInId (c : Char) : Bool :=
  c.isAlphanum || c == '-' || c == '.' || c == '_' || c == '~'

/-- The usual spelling of a name. -/
def spell (name : String) : String :=
  match Known.all.find? (·.key == name) with
  | some known => known.spelling
  | none => name

/-- An item `name="value"`. -/
def writeItem (name value : List Char) : List Char := name ++ '=' :: Text.Quoted.write value

/-- Items between commas. -/
def joinItems : List (List Char) → List Char
  | [] => []
  | [item] => item
  | item :: items => item ++ ',' :: ' ' :: joinItems items

/-- The item of an entry. -/
def writeEntry (entry : String × String) : List Char :=
  let value :=
    if entry.1 = Known.id.key then Text.Percent.encodeList keepsInId entry.2.toList
    else entry.2.toList
  writeItem (spell entry.1).toList value

/-- The characters of a header. -/
def serializeList (params : Params) : List Char :=
  match params.entries with
  | [] => scheme.toList
  | entries => scheme.toList ++ ' ' :: joinItems (entries.map writeEntry)

/-- The text of a header. -/
def serialize (params : Params) : String := String.ofList (serializeList params)

end HandleChallenge.Header
