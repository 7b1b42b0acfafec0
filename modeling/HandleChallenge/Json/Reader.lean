import HandleChallenge.Json.Basic
import HandleChallenge.Text.Decimal
import HandleChallenge.Text.Hex

/-!
# Reading JSON

A strict reader of RFC 8259: no comments, no trailing commas, nothing behind the document. The
nesting that is read is bounded by the length of the text, which no document exceeds.
-/

namespace HandleChallenge.Json

/-- The blanks of JSON. -/
def isBlank (c : Char) : Bool := c == ' ' || c == '\t' || c == '\n' || c == '\r'

def skipBlanks (cs : List Char) : List Char := cs.dropWhile isBlank

/-- A part of a string: a character, or a UTF-16 unit given by its number. -/
inductive Piece where
  | char (c : Char)
  | unit (n : Nat)

/-- The character of an escape by letter. -/
def letterEscape? (c : Char) : Option Char :=
  match c with
  | '"' => some '"'
  | '\\' => some '\\'
  | '/' => some '/'
  | 'b' => some '\x08'
  | 'f' => some '\x0c'
  | 'n' => some '\n'
  | 'r' => some '\r'
  | 't' => some '\t'
  | _ => none

/-- The number of four hexadecimal digits. -/
def unit? (a b c d : Char) : Option Nat := do
  return (((← Text.Hex.value? a) * 16 + (← Text.Hex.value? b)) * 16 + (← Text.Hex.value? c)) * 16 +
    (← Text.Hex.value? d)

/-- The parts of a string up to its closing quote and the rest. -/
def readPieces? : List Char → Option (List Piece × List Char)
  | [] => none
  | '"' :: cs => some ([], cs)
  | '\\' :: 'u' :: a :: b :: c :: d :: cs => do
    let n ← unit? a b c d
    let (pieces, rest) ← readPieces? cs
    return (.unit n :: pieces, rest)
  | '\\' :: letter :: cs => do
    let c ← letterEscape? letter
    let (pieces, rest) ← readPieces? cs
    return (.char c :: pieces, rest)
  | c :: cs =>
    if c.toNat < 0x20 ∨ c = '\\' then none
    else do
      let (pieces, rest) ← readPieces? cs
      return (.char c :: pieces, rest)

/-- The characters of a string's parts; a surrogate needs its partner. -/
def joinPieces? : List Piece → Option (List Char)
  | [] => some []
  | .char c :: pieces => (joinPieces? pieces).map (c :: ·)
  | .unit n :: pieces =>
    if 0xD800 ≤ n ∧ n < 0xE000 then
      match pieces with
      | .unit low :: pieces =>
        if n < 0xDC00 ∧ 0xDC00 ≤ low ∧ low < 0xE000 then
          (joinPieces? pieces).map
            (Char.ofNat (0x10000 + (n - 0xD800) * 0x400 + (low - 0xDC00)) :: ·)
        else none
      | _ => none
    else (joinPieces? pieces).map (Char.ofNat n :: ·)

/-- The string whose opening quote has been read, and the rest. -/
def readString? (cs : List Char) : Option (Json × List Char) := do
  let (pieces, rest) ← readPieces? cs
  match joinPieces? pieces with
  | some chars => return (string (String.ofList chars), rest)
  | none => return (brokenString, rest)

/-- The digits at the front, at least one, and the rest. -/
def readDigits? (cs : List Char) : Option (List Char × List Char) :=
  match cs.takeWhile Text.Decimal.isDigit with
  | [] => none
  | digits => some (digits, cs.dropWhile Text.Decimal.isDigit)

/-- What follows a fraction, if there is one. -/
def skipFraction? (cs : List Char) : Option (List Char) :=
  match cs with
  | '.' :: cs => (readDigits? cs).map Prod.snd
  | cs => some cs

/-- What follows an exponent, if there is one. -/
def skipExponent? (cs : List Char) : Option (List Char) :=
  let afterSign (cs : List Char) : List Char :=
    match cs with
    | '+' :: cs => cs
    | '-' :: cs => cs
    | cs => cs
  match cs with
  | 'e' :: cs => (readDigits? (afterSign cs)).map Prod.snd
  | 'E' :: cs => (readDigits? (afterSign cs)).map Prod.snd
  | cs => some cs

/-- The number at the front and the rest. -/
def readNumber? (cs : List Char) : Option (Json × List Char) := do
  let negative := cs.head? = some '-'
  let (digits, afterDigits) ← readDigits? (if negative then cs.drop 1 else cs)
  guard (digits.length = 1 ∨ digits.head? ≠ some '0')
  let rest ← skipExponent? (← skipFraction? afterDigits)
  if negative ∨ rest.length < afterDigits.length then return (otherNumber, rest)
  return (natural (Text.Decimal.ofDigits digits), rest)

/-- The literal or number at the front and the rest. -/
def readScalar? : List Char → Option (Json × List Char)
  | 'n' :: 'u' :: 'l' :: 'l' :: cs => some (null, cs)
  | 't' :: 'r' :: 'u' :: 'e' :: cs => some (bool true, cs)
  | 'f' :: 'a' :: 'l' :: 's' :: 'e' :: cs => some (bool false, cs)
  | cs => readNumber? cs

/-- The name of a member, none where it is broken, and what follows its colon. -/
def readName? (cs : List Char) : Option (Option String × List Char) :=
  match skipBlanks cs with
  | '"' :: cs => do
    let (pieces, rest) ← readPieces? cs
    match skipBlanks rest with
    | ':' :: rest => some ((joinPieces? pieces).map String.ofList, rest)
    | _ => none
  | _ => none

mutual

/-- The document at the front and the rest. -/
def readValue? : (fuel : Nat) → List Char → Option (Json × List Char)
  | 0, _ => none
  | fuel + 1, cs =>
    match skipBlanks cs with
    | '"' :: cs => readString? cs
    | '[' :: cs =>
      match skipBlanks cs with
      | ']' :: rest => some (array [], rest)
      | cs => (readItems? fuel cs).map fun (items, rest) => (array items, rest)
    | '{' :: cs =>
      match skipBlanks cs with
      | '}' :: rest => some (object [], rest)
      | cs => (readMembers? fuel cs).map fun (members, rest) => (object members, rest)
    | cs => readScalar? cs

/-- Items, at least one, up to the closing bracket, and the rest. -/
def readItems? : (fuel : Nat) → List Char → Option (List Json × List Char)
  | 0, _ => none
  | fuel + 1, cs => do
    let (item, rest) ← readValue? fuel cs
    match skipBlanks rest with
    | ']' :: rest => some ([item], rest)
    | ',' :: rest => do
      let (items, rest) ← readItems? fuel rest
      return (item :: items, rest)
    | _ => none

/-- Members, at least one, up to the closing brace, and the rest. -/
def readMembers? : (fuel : Nat) → List Char → Option (List (Option String × Json) × List Char)
  | 0, _ => none
  | fuel + 1, cs => do
    let (name, rest) ← readName? cs
    let (value, rest) ← readValue? fuel rest
    match skipBlanks rest with
    | '}' :: rest => some ([(name, value)], rest)
    | ',' :: rest => do
      let (members, rest) ← readMembers? fuel rest
      return ((name, value) :: members, rest)
    | _ => none

end

/-- The document of a text. -/
def parse? (text : String) : Option Json := do
  let cs := text.toList
  let (value, rest) ← readValue? (2 * cs.length + 1) cs
  guard (skipBlanks rest = [])
  return value

end HandleChallenge.Json
