import HandleChallenge.Text.Hex
import HandleChallenge.Text.Utf8

/-!
# Percent escapes

`encode` writes the UTF-8 bytes of a text, each as itself where it may stand and as `%XX`
otherwise; a byte outside ASCII is always escaped. `decode` undoes every well-formed escape and
leaves all other characters, a lone `%` too, as they are.
-/

namespace HandleChallenge.Text.Percent

/-- One byte, as itself when it is ASCII and `keep` allows it. -/
def encodeByte (keep : Char → Bool) (b : UInt8) : List Char :=
  if b < 0x80 ∧ keep (Char.ofNat b.toNat) then [Char.ofNat b.toNat]
  else ['%', Hex.upperDigit (b.toNat / 16), Hex.upperDigit (b.toNat % 16)]

/-- The escaped characters of a text. -/
def encodeList (keep : Char → Bool) (cs : List Char) : List Char :=
  (Utf8.encodeList cs).flatMap (encodeByte keep)

/-- The escaped form of a text. -/
def encode (keep : Char → Bool) (text : String) : String :=
  String.ofList (encodeList keep text.toList)

/-- The bytes of a sequence of characters with its escapes undone. -/
def decode : List Char → Bytes
  | [] => []
  | '%' :: high :: low :: rest =>
    match Hex.byte? high low with
    | some b => b :: decode rest
    | none => Utf8.encodeChar '%' ++ decode (high :: low :: rest)
  | c :: rest => Utf8.encodeChar c ++ decode rest

/-- The characters of a sequence with its escapes undone; bytes that are not UTF-8 become
U+FFFD. -/
def decodeText (cs : List Char) : List Char := Utf8.decodeLossyList (decode cs)

end HandleChallenge.Text.Percent
