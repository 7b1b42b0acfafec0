import HandleChallenge.Bytes.Basic

/-!
# Fields of a binary message

Every layout of the protocol is a sequence of fields: big-endian numbers of one, two or four
bytes, blocks (a four-byte length, then that many bytes) and raw bytes. `Field.encode` writes
one field and `Field.encodeAll` a message.
-/

namespace HandleChallenge

/-- One field of a binary message. -/
inductive Field where
  | u8 (value : UInt8)
  | u16 (value : UInt16)
  | u32 (value : UInt32)
  /-- Bytes behind their length. -/
  | block (data : Bytes)
  /-- Bytes alone. -/
  | raw (data : Bytes)
  deriving DecidableEq

namespace Field

/-- The largest length that a block can announce. -/
def maxLength : Nat := UInt32.size - 1

/-- A block's four-byte length. A longer block announces `maxLength`, so that a reader can
tell only that bytes are missing. -/
def lengthBytes (data : Bytes) : Bytes := Bytes.ofNat 4 (min data.length maxLength)

/-- The written form of a field. -/
def encode : Field → Bytes
  | u8 value => [value]
  | u16 value => Bytes.ofNat 2 value.toNat
  | u32 value => Bytes.ofNat 4 value.toNat
  | block data => lengthBytes data ++ data
  | raw data => data

/-- The written form of a message. -/
def encodeAll (fields : List Field) : Bytes := fields.flatMap encode

@[simp] theorem encodeAll_nil : encodeAll [] = [] := rfl

@[simp] theorem encodeAll_cons (field : Field) (fields : List Field) :
    encodeAll (field :: fields) = field.encode ++ encodeAll fields := rfl

@[simp] theorem encodeAll_append (fields more : List Field) :
    encodeAll (fields ++ more) = encodeAll fields ++ encodeAll more := by
  simp [encodeAll]

end Field

end HandleChallenge
