import HandleChallenge.Text.Ascii
import HandleChallenge.Text.Utf8

/-!
# Header fields

The fields of a message in the order in which they were added. Names are compared without regard
to case, so they are held in small letters; a name may come more than once. A value is bytes, of
which only some are text: one written from a text may hold any character but a control, and one
read as a text must be printable ASCII.
-/

namespace HandleChallenge.Http

/-- The fields of a message. -/
structure Headers where
  fields : List (String × Bytes)
  deriving DecidableEq

/-- Whether a byte may stand in a text value: printable ASCII and the tab. -/
def isTextByte (b : UInt8) : Bool := b == 0x09 || (0x20 ≤ b && b < 0x7F)

/-- The text of a value, when it is nothing else. -/
def textOf? (value : Bytes) : Option String :=
  if value.all isTextByte then some (String.ofList (value.map fun b => Char.ofNat b.toNat))
  else none

/-- Whether a byte may stand in a value: every byte but a control, of which the tab may. -/
def isValueByte (b : UInt8) : Bool := b == 0x09 || (0x20 ≤ b && b != 0x7F)

/-- The value of a text, when it may be one. -/
def valueOf? (text : String) : Option Bytes :=
  let value := Text.Utf8.encode text
  if value.all isValueByte then some value else none

namespace Headers

/-- No fields. -/
def empty : Headers := ⟨[]⟩

/-- The given fields. -/
def ofList (fields : List (String × Bytes)) : Headers :=
  ⟨fields.map fun (name, value) => (Text.lowercase name, value)⟩

/-- The values of a name, in order. -/
def values (headers : Headers) (name : String) : List Bytes :=
  (headers.fields.filter (·.1 == Text.lowercase name)).map Prod.snd

/-- The text of the first value of a name. -/
def text? (headers : Headers) (name : String) : Option String :=
  (headers.values name).head?.bind textOf?

/-- The fields with one value for a name, in the place of all that it had. -/
def set (headers : Headers) (name : String) (value : Bytes) : Headers :=
  ⟨headers.fields.filter (·.1 != Text.lowercase name) ++ [(Text.lowercase name, value)]⟩

/-- The fields with a text for a name. A text that cannot be a value is dropped. -/
def setText (headers : Headers) (name text : String) : Headers :=
  match valueOf? text with
  | some value => headers.set name value
  | none => headers

/-- The fields with a text for a name, where there is one. -/
def setText? (headers : Headers) (name : String) : Option String → Headers
  | some text => headers.setText name text
  | none => headers

theorem values_set (headers : Headers) (name other : String) (value : Bytes) :
    (headers.set name value).values other =
      if Text.lowercase other = Text.lowercase name then [value] else headers.values other := by
  by_cases h : Text.lowercase other = Text.lowercase name
  · have hnone : (headers.fields.filter (·.1 != Text.lowercase name)).filter
        (·.1 == Text.lowercase name) = [] := by
      simp [List.filter_filter]
    simp [values, set, h, List.filter_append, hnone]
  · have hsame : (headers.fields.filter (·.1 != Text.lowercase name)).filter
        (·.1 == Text.lowercase other) = headers.fields.filter (·.1 == Text.lowercase other) := by
      rw [List.filter_filter]
      congr 1
      funext e
      by_cases he : e.1 = Text.lowercase other <;> simp [he, h]
    simp [values, set, h, List.filter_append, hsame, Ne.symm h]

end Headers

end HandleChallenge.Http
