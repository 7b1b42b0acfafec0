import HandleChallenge.Text.Decimal
import HandleChallenge.Text.Hex

/-!
# Writing JSON

Compact documents, without blanks, put together from written parts.
-/

namespace HandleChallenge.Json

/-- A character inside a string. Quotes, backslashes and controls are escaped, by letter where
there is one. -/
def writeChar (c : Char) : List Char :=
  match c with
  | '"' => ['\\', '"']
  | '\\' => ['\\', '\\']
  | '\x08' => ['\\', 'b']
  | '\x0c' => ['\\', 'f']
  | '\n' => ['\\', 'n']
  | '\r' => ['\\', 'r']
  | '\t' => ['\\', 't']
  | c =>
    if c.toNat < 0x20 then ['\\', 'u', '0', '0'] ++ Text.Hex.printByte (UInt8.ofNat c.toNat)
    else [c]

def writeString (text : String) : List Char := '"' :: text.toList.flatMap writeChar ++ ['"']

def writeNatural (n : Nat) : List Char := Text.Decimal.print n

def writeBool (value : Bool) : List Char := (if value then "true" else "false").toList

/-- Written parts between commas. -/
def writeList : List (List Char) → List Char
  | [] => []
  | [part] => part
  | part :: parts => part ++ ',' :: writeList parts

def writeArray (items : List (List Char)) : List Char := '[' :: writeList items ++ [']']

/-- A member of an object. -/
def writeMember (member : String × List Char) : List Char :=
  writeString member.1 ++ ':' :: member.2

def writeObject (members : List (String × List Char)) : List Char :=
  '{' :: writeList (members.map writeMember) ++ ['}']

end HandleChallenge.Json
