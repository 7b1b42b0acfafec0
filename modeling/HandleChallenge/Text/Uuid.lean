import HandleChallenge.Bytes.Basic
import HandleChallenge.Text.Hex

/-!
# Random identifiers

A universally unique identifier of version four is sixteen random bytes with six bits set to say
so, written in small hexadecimal digits in five groups.
-/

namespace HandleChallenge.Text.Uuid

/-- Bytes in an identifier. -/
def byteLength : Nat := 16

/-- The bytes with the version in the seventh and the variant in the ninth. -/
def stamp (bytes : Bytes) : Bytes :=
  bytes.mapIdx fun i b =>
    if i = 6 then b &&& 0x0F ||| 0x40 else if i = 8 then b &&& 0x3F ||| 0x80 else b

/-- The digits of a group of bytes. -/
def group (bytes : Bytes) (start length : Nat) : List Char :=
  Hex.printBytes ((bytes.drop start).take length)

/-- The five groups. -/
def write (bytes : Bytes) : List Char :=
  group bytes 0 4 ++ '-' :: group bytes 4 2 ++ '-' :: group bytes 6 2 ++ '-' :: group bytes 8 2 ++
    '-' :: group bytes 10 6

/-- The identifier of random bytes. -/
def ofRandom (bytes : Bytes) : String := String.ofList (write (stamp bytes))

/-- The shape of an identifier: `x` stands for any digit, `y` for one of the variant. -/
def shape : List Char := "xxxxxxxx-xxxx-4xxx-yxxx-xxxxxxxxxxxx".toList

/-- Whether a character may stand where the shape has the given one. -/
def fits (c place : Char) : Bool :=
  if place = 'x' then ('0' ≤ c && c ≤ '9') || ('a' ≤ c && c ≤ 'f')
  else if place = 'y' then c == '8' || c == '9' || c == 'a' || c == 'b'
  else c == place

/-- Whether characters are an identifier in its written form. -/
def isWritten (cs : List Char) : Bool :=
  cs.length == shape.length && (cs.zip shape).all fun (c, place) => fits c place

end HandleChallenge.Text.Uuid
