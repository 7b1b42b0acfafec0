import HandleChallenge.Text.Hex
import HandleChallenge.Text.Hidden

/-!
# Names shown in messages

A name that a message complains about is shown between quotes, with quotes, backslashes and
characters that would not show escaped, so that it cannot break the line.
-/

namespace HandleChallenge.Text.Literal

/-- A character as shown. -/
def showChar (c : Char) : List Char :=
  if c = '"' then ['\\', '"']
  else if c = '\\' then ['\\', '\\']
  else if c = '\t' then ['\\', 't']
  else if c = '\n' then ['\\', 'n']
  else if c = '\r' then ['\\', 'r']
  else if c.toNat = 0 then ['\\', '0']
  else if Hidden.isHidden c then ['\\', 'u', '{'] ++ Hex.print c.toNat ++ ['}']
  else [c]

/-- A name as shown. -/
def quote (name : String) : String :=
  String.ofList ('"' :: name.toList.flatMap showChar ++ ['"'])

end HandleChallenge.Text.Literal
