import HandleChallenge.Text.Decimal

/-!
# Identities

An identity is a handle and the index of one of its values. Index zero means that no index was
named: every value of the right type is a candidate. The text of an identity is `index:handle`,
or the handle alone when no index is named.
-/

namespace HandleChallenge

/-- A handle and the index of one of its values; index zero names none. -/
structure Identity where
  handle : String
  index : UInt32
  deriving DecidableEq

namespace Identity

/-- Why a text names no identity. -/
inductive ParseError where
  | emptyHandle
  | indexOutOfRange (digits : String)
  deriving DecidableEq

/-- The wording of a parse error. -/
def ParseError.message : ParseError → String
  | emptyHandle => "Identity has an empty handle"
  | indexOutOfRange digits => "Index out of range: " ++ digits

/-- Whether an index is named. -/
def hasIndex (identity : Identity) : Bool := identity.index != 0

/-- The same handle at another index. -/
def withIndex (identity : Identity) (index : UInt32) : Identity := { identity with index }

/-- The characters of an identity. -/
def chars (identity : Identity) : List Char :=
  if identity.hasIndex then
    Text.Decimal.print identity.index.toNat ++ ':' :: identity.handle.toList
  else identity.handle.toList

/-- The text of an identity. -/
def text (identity : Identity) : String := String.ofList identity.chars

/-- The index and the rest of a text that starts with digits and a colon; index zero and the
whole text otherwise. -/
def splitIndexChars (cs : List Char) : Except ParseError (UInt32 × List Char) :=
  let digits := cs.takeWhile Text.Decimal.isDigit
  match digits, cs.dropWhile Text.Decimal.isDigit with
  | _ :: _, ':' :: rest =>
    match Text.Decimal.digits? UInt32.size digits with
    | some index => .ok (UInt32.ofNat index, rest)
    | none => .error (.indexOutOfRange (String.ofList digits))
  | _, _ => .ok (0, cs)

/-- As `splitIndexChars`, on texts. -/
def splitIndex (text : String) : Except ParseError (UInt32 × String) := do
  let (index, rest) ← splitIndexChars text.toList
  return (index, String.ofList rest)

/-- The identity that a text names. -/
def parse (text : String) : Except ParseError Identity := do
  let (index, handle) ← splitIndex text
  if handle = "" then throw .emptyHandle
  return { handle, index }

end Identity

end HandleChallenge
