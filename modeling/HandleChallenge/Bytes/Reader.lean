import HandleChallenge.Bytes.Field

/-!
# Reading fields

A reader consumes a byte string from its front. Its state is the bytes not yet read, so it can
neither leave the message nor read a byte twice, and the state survives a failed read: a block
whose bytes are missing has still consumed its length.
-/

namespace HandleChallenge

/-- Why a message does not have the expected layout. -/
inductive LayoutError where
  /-- A field runs past the end. -/
  | truncated (needed available : Nat)
  /-- Bytes are left after the last field. -/
  | trailing (unread : Nat)
  deriving DecidableEq

/-- The wording of a layout error. -/
def LayoutError.message : LayoutError → String
  | .truncated needed available =>
    "Truncated input: needed " ++ toString needed ++ " bytes, " ++ toString available ++
      " available"
  | .trailing unread => "Trailing bytes: " ++ toString unread ++ " unread"

/-- A computation that reads from the front of a message. -/
abbrev Reader := ExceptT LayoutError (StateM Bytes)

namespace Reader

/-- The next `count` bytes; when they are not there, nothing is consumed. -/
def take (count : Nat) : Reader Bytes :=
  ExceptT.mk fun rest =>
    if count ≤ rest.length then (.ok (rest.take count), rest.drop count)
    else (.error (.truncated count rest.length), rest)

def u8 : Reader UInt8 := do return UInt8.ofNat (Bytes.toNat (← take 1))

def u16 : Reader UInt16 := do return UInt16.ofNat (Bytes.toNat (← take 2))

def u32 : Reader UInt32 := do return UInt32.ofNat (Bytes.toNat (← take 4))

/-- The bytes behind a length. -/
def block : Reader Bytes := do take (← u32).toNat

/-- All that is left. -/
def rest : Reader Bytes := ExceptT.mk fun bytes => (.ok bytes, [])

/-- Fails when bytes are left. -/
def finish : Reader Unit :=
  ExceptT.mk fun bytes =>
    match bytes.length with
    | 0 => (.ok (), bytes)
    | unread => (.error (.trailing unread), bytes)

/-- Reads a message from its start and drops what is left. -/
def decode {α : Type} (reader : Reader α) (message : Bytes) : Except LayoutError α :=
  (reader.run message).1

end Reader

end HandleChallenge
