import HandleChallenge.Proofs.Bytes.Reader

/-!
# Messages of many fields

A reader that is asked for the kinds of the fields of a message, in their order, gives these fields
and leaves what comes behind them (`reads_fields`), as long as the length of every block can be
announced. Of a message that stops earlier it tells that bytes are missing (`needs_fields`). A block
that is too long to be announced does not end the message early: it is read as its front, and the
fields behind it are read from the middle of its bytes (`run_block_append`).
-/

namespace HandleChallenge

namespace Field

/-- What a reader can be asked for. -/
inductive Kind where
  | u8
  | u16
  | u32
  | block
  /-- All that is left. -/
  | rest

/-- What a reader is asked for to get a field. -/
def kind : Field → Kind
  | u8 _ => .u8
  | u16 _ => .u16
  | u32 _ => .u32
  | block _ => .block
  | raw _ => .rest

/-- The written form of a field tells where the field ends: it is a number, or a block whose length
can be announced. -/
def Framed : Field → Prop
  | u8 _ => True
  | u16 _ => True
  | u32 _ => True
  | block data => data.length ≤ maxLength
  | raw _ => False

end Field

namespace Reader

/-- The next field of a kind. -/
def field : Field.Kind → Reader Field
  | .u8 => do return .u8 (← u8)
  | .u16 => do return .u16 (← u16)
  | .u32 => do return .u32 (← u32)
  | .block => do return .block (← block)
  | .rest => do return .raw (← rest)

/-- The next fields of the kinds, in order. -/
def fields : List Field.Kind → Reader (List Field)
  | [] => return []
  | kind :: kinds => do return (← field kind) :: (← fields kinds)

variable {data : Bytes}

/-! ### Fields that end where they say -/

theorem reads_field {field : Field} (h : field.Framed) :
    (Reader.field field.kind).Reads field.encode field := by
  cases field with
  | u8 value => exact Reads.map (fun _ => run_u8_eq_ok_iff.2 rfl) Field.u8
  | u16 value => exact Reads.map (fun _ => run_u16_eq_ok_iff.2 rfl) Field.u16
  | u32 value => exact (reads_u32 value).map Field.u32
  | block data => exact (reads_block h).map Field.block
  | raw data => exact h.elim

theorem needs_field {field : Field} (h : field.Framed) :
    (Reader.field field.kind).Needs field.encode := by
  cases field with
  | u8 value => exact (needs_u8 value).map Field.u8
  | u16 value => exact (needs_u16 value).map Field.u16
  | u32 value => exact (needs_u32 value).map Field.u32
  | block data => exact (needs_block h).map Field.block
  | raw data => exact h.elim

/-- Fields are read back in order. -/
theorem reads_fields {message : List Field} (h : ∀ field ∈ message, field.Framed) :
    (fields (message.map Field.kind)).Reads (Field.encodeAll message) message := by
  induction message with
  | nil => exact fun _ => rfl
  | cons first others ih =>
    have hothers := ih fun field hmem => h field (List.mem_cons_of_mem _ hmem)
    exact (reads_field (h first List.mem_cons_self)).bind (hothers.map (first :: ·))

/-- The fields take no less than their written forms. -/
theorem needs_fields {message : List Field} (h : ∀ field ∈ message, field.Framed) :
    (fields (message.map Field.kind)).Needs (Field.encodeAll message) := by
  induction message with
  | nil => exact needs_nil _
  | cons first others ih =>
    have hfirst := h first List.mem_cons_self
    have hothers := ih fun field hmem => h field (List.mem_cons_of_mem _ hmem)
    exact (needs_field hfirst).bind (reads_field hfirst) (hothers.map (first :: ·))

/-- A message of fields that end where they say is read back, whatever bytes stand behind it, and
nothing is left when these are read too or when there are none. Where the message stops within its
fields, one of them lacks bytes. -/
theorem written_message_reads_back (message : List Field) (h : ∀ field ∈ message, field.Framed) :
    (∀ tail, (do
        let read ← fields (message.map Field.kind)
        let left ← rest
        finish
        return (read, left) : Reader (List Field × Bytes)).run
          (Field.encodeAll (message ++ [.raw tail])) = (.ok (message, tail), [])) ∧
      (do
        let read ← fields (message.map Field.kind)
        finish
        return read : Reader (List Field)).run (Field.encodeAll message) = (.ok message, []) ∧
      ∀ cut missing, cut ++ missing = Field.encodeAll message → missing ≠ [] →
        ∃ needed available rest, available < needed ∧
          (fields (message.map Field.kind)).run cut =
            (.error (.truncated needed available), rest) := by
  have hread := reads_fields h
  refine ⟨fun tail => ?_, ?_, needs_fields h⟩
  · rw [Field.encodeAll_append, run_bind (hread _)]
    have htail : Field.encodeAll [.raw tail] = tail := List.append_nil tail
    rw [htail]
    rfl
  · have hend := hread []
    rw [List.append_nil] at hend
    rw [run_bind hend]
    rfl

/-- A name, three bytes and two numbers. -/
def smallMessage : List Field := [.block [83, 72, 65], .u8 1, .block [1, 2, 3], .u16 7, .u32 65536]

theorem smallMessage_reads_back :
    (∀ field ∈ smallMessage, field.Framed) ∧
      (do
        let read ← fields (smallMessage.map Field.kind)
        let left ← rest
        finish
        return (read, left) : Reader (List Field × Bytes)).run
          (Field.encodeAll (smallMessage ++ [.raw [9, 9]])) = (.ok (smallMessage, [9, 9]), []) ∧
      ∃ needed available rest, available < needed ∧
        (fields (smallMessage.map Field.kind)).run ((Field.encodeAll smallMessage).take 13) =
          (.error (.truncated needed available), rest) := by
  have hframed : ∀ field ∈ smallMessage, field.Framed := by
    simp [smallMessage, Field.Framed, Field.maxLength]
  obtain ⟨hread, -, hcut⟩ := written_message_reads_back smallMessage hframed
  exact ⟨hframed, hread [9, 9],
    hcut _ ((Field.encodeAll smallMessage).drop 13) (List.take_append_drop 13 _) (by decide)⟩

/-! ### Blocks that are too long -/

/-- A block is written as one of its front, with the bytes behind that cannot be announced. -/
theorem encode_block_eq (data : Bytes) :
    (Field.block data).encode =
      (Field.block (data.take Field.maxLength)).encode ++ data.drop Field.maxLength := by
  have hlength : Field.lengthBytes (data.take Field.maxLength) = Field.lengthBytes data := by
    rw [Field.lengthBytes, Field.lengthBytes, List.length_take, Nat.min_comm Field.maxLength,
      Nat.min_assoc, Nat.min_self]
  rw [Field.encode, Field.encode, hlength, List.append_assoc, List.take_append_drop]

/-- What can be announced of a block is read, and the bytes behind are left. -/
theorem run_block_append (data behind : Bytes) :
    block.run ((Field.block data).encode ++ behind) =
      (.ok (data.take Field.maxLength), data.drop Field.maxLength ++ behind) := by
  rw [encode_block_eq, List.append_assoc]
  exact reads_block (List.length_take_le _ _) _

/-- A block of any length is read as much of it as can be announced, wherever it stands in a message
and however the fields before it are passed over or read. The bytes that are left of it stand before
the next field. -/
theorem block_read_as_its_front (before after : List Field) (data : Bytes) :
    (do
        let _ ← take (Field.encodeAll before).length
        block : Reader Bytes).run (Field.encodeAll (before ++ .block data :: after)) =
        (.ok (data.take Field.maxLength),
          data.drop Field.maxLength ++ Field.encodeAll after) ∧
      ((∀ field ∈ before, field.Framed) →
        (do
          let read ← fields (before.map Field.kind)
          let last ← block
          return (read, last) : Reader (List Field × Bytes)).run
            (Field.encodeAll (before ++ .block data :: after)) =
          (.ok (before, data.take Field.maxLength),
            data.drop Field.maxLength ++ Field.encodeAll after)) := by
  have hblock := run_block_append data (Field.encodeAll after)
  rw [Field.encodeAll_append, Field.encodeAll_cons]
  refine ⟨?_, fun hbefore => ?_⟩
  · rw [run_bind (reads_take (Field.encodeAll before) _), hblock]
  · rw [run_bind (reads_fields hbefore _), run_bind hblock]
    rfl

/-- One byte more than a block can announce. -/
def overlong : Bytes := List.replicate UInt32.size 0

theorem length_overlong : overlong.length = UInt32.size := List.length_replicate

/-- Its last byte is read as what stands behind it. -/
theorem overlong_read_between :
    (∀ field ∈ [Field.u8 5], field.Framed) ∧
      (do
        let read ← fields ([Field.u8 5].map Field.kind)
        let last ← block
        return (read, last) : Reader (List Field × Bytes)).run
          (Field.encodeAll ([.u8 5] ++ .block overlong :: [.u16 7])) =
        (.ok ([.u8 5], overlong.take Field.maxLength),
          overlong.drop Field.maxLength ++ Field.encodeAll [.u16 7]) := by
  have hframed : ∀ field ∈ [Field.u8 5], field.Framed := by
    rintro field hmem
    cases List.mem_singleton.1 hmem
    trivial
  exact ⟨hframed, (block_read_as_its_front [.u8 5] [.u16 7] overlong).2 hframed⟩

/-- A block that is too long is not noticed: it is read as a shorter one. -/
theorem overlong_block_not_refused :
    Field.maxLength < overlong.length ∧
      block.run (Field.encodeAll [.block overlong]) =
        (.ok (List.replicate Field.maxLength 0), [0]) := by
  have hlong : Field.maxLength < UInt32.size := by decide
  have hfront : overlong.take Field.maxLength = List.replicate Field.maxLength 0 := by
    rw [overlong, List.take_replicate, Nat.min_eq_left (Nat.le_of_lt hlong)]
  have hback : overlong.drop Field.maxLength = [0] := by
    rw [overlong, List.drop_replicate]
    rfl
  have hread := run_block_append overlong []
  rw [hfront, hback] at hread
  exact ⟨length_overlong ▸ hlong, hread⟩

end Reader

end HandleChallenge
