import HandleChallenge.Proofs.Bytes.Message

/-!
# Places in a buffer

A reader has the bytes that it has not read, and no places. A cursor has a place in a buffer that stays
as it is: it cuts out what stands behind the place and moves the place on, and if it looked outside of
the buffer it would have no result. A cursor does what the reader does on the bytes behind its place
(`Follows`), so that places can be told of the reader's calls. What each call comes to at a place is
stated in `Ends`. In any sequence of calls no place is outside of the buffer, and the calls account for
every byte between the first place and the last (`calls_account_for_buffer`).
-/

namespace HandleChallenge

namespace Reader

/-! ### Calls -/

/-- A call to a reader: for the next field of a kind, or to say that nothing is left. -/
inductive Call where
  | next (kind : Field.Kind)
  | finish

/-- The reader that answers a call. A call for a field is answered by that field, and a last call by
none. -/
def Call.reader : Call → Reader (List Field)
  | .next kind => do return [← field kind]
  | .finish => do
    Reader.finish
    return []

/-- An answer to a call. -/
abbrev Reply := Except LayoutError (List Field)

/-- The answers to calls one after the other, whether or not one of them fails, and what is left
after the last. -/
def replies : List Call → Bytes → List Reply × Bytes
  | [], unread => ([], unread)
  | call :: calls, unread =>
    let (reply, left) := call.reader.run unread
    let (others, last) := replies calls left
    (reply :: others, last)

/-! ### Places -/

/-- A computation that reads a buffer from a place on. It has no result if it looks for a byte
outside of the buffer. -/
abbrev Cursor := ExceptT LayoutError (StateT Nat Option)

namespace Cursor

/-- How many bytes stand behind a place; none behind the end. -/
def remaining? (buffer : Bytes) (place : Nat) : Option Nat :=
  if place ≤ buffer.length then some (buffer.length - place) else none

/-- The bytes between two places. -/
def slice? (buffer : Bytes) (start stop : Nat) : Option Bytes :=
  if start ≤ stop ∧ stop ≤ buffer.length then some ((buffer.drop start).take (stop - start))
  else none

/-- The big-endian number of the bytes at the places before the given one. -/
def number? (bytes : Bytes) : Nat → Option Nat
  | 0 => some 0
  | width + 1 => do return (← number? bytes width) * 256 + (← bytes[width]?).toNat

/-- The next bytes; if they are not there, the place stays. -/
def take (buffer : Bytes) (count : Nat) : Cursor Bytes :=
  ExceptT.mk fun place => do
    let left ← remaining? buffer place
    if left < count then return (.error (.truncated count left), place)
    return (.ok (← slice? buffer place (place + count)), place + count)

/-- The next number of a width. -/
def number (buffer : Bytes) (width : Nat) : Cursor Nat := do
  let bytes ← take buffer width
  liftM (number? bytes width)

/-- All bytes behind the place. -/
def rest (buffer : Bytes) : Cursor Bytes :=
  ExceptT.mk fun place => do return (.ok (← slice? buffer place buffer.length), buffer.length)

/-- Fails when bytes stand behind the place. -/
def finish (buffer : Bytes) : Cursor Unit :=
  ExceptT.mk fun place => do
    match ← remaining? buffer place with
    | 0 => return (.ok (), place)
    | unread => return (.error (.trailing unread), place)

def u8 (buffer : Bytes) : Cursor UInt8 := do return UInt8.ofNat (← number buffer 1)

def u16 (buffer : Bytes) : Cursor UInt16 := do return UInt16.ofNat (← number buffer 2)

def u32 (buffer : Bytes) : Cursor UInt32 := do return UInt32.ofNat (← number buffer 4)

/-- The bytes behind a length. -/
def block (buffer : Bytes) : Cursor Bytes := do take buffer (← u32 buffer).toNat

/-- The next field of a kind. -/
def field (buffer : Bytes) : Field.Kind → Cursor Field
  | .u8 => do return .u8 (← u8 buffer)
  | .u16 => do return .u16 (← u16 buffer)
  | .u32 => do return .u32 (← u32 buffer)
  | .block => do return .block (← block buffer)
  | .rest => do return .raw (← rest buffer)

/-- The answer to a call. -/
def call (buffer : Bytes) : Call → Cursor (List Field)
  | .next kind => do return [← field buffer kind]
  | .finish => do
    finish buffer
    return []

/-- A call with its answer and the places before and behind it. -/
structure Step where
  call : Call
  start : Nat
  reply : Reply
  stop : Nat

/-- Calls one after the other from a place on, and the last place. -/
def trace? (buffer : Bytes) : List Call → Nat → Option (List Step × Nat)
  | [], place => some ([], place)
  | call :: calls, start => do
    let (reply, stop) ← (Cursor.call buffer call).run start
    let (steps, last) ← trace? buffer calls stop
    return (⟨call, start, reply, stop⟩ :: steps, last)

/-! ### A cursor and a reader -/

variable {α β : Type} {buffer : Bytes}

/-- From every place within the buffer the cursor comes to a result, which is that of the reader on the
bytes behind the place; it goes no further than the end and never back, and the reader is left with the
bytes behind the place where it stops. -/
def Follows (buffer : Bytes) (cursor : Cursor α) (reader : Reader α) : Prop :=
  ∀ start ≤ buffer.length, ∃ result stop, cursor.run start = some (result, stop) ∧
    start ≤ stop ∧ stop ≤ buffer.length ∧
    reader.run (buffer.drop start) = (result, buffer.drop stop)

theorem follows_pure (value : α) : Follows buffer (pure value) (pure value) :=
  fun start hstart => ⟨.ok value, start, rfl, Nat.le_refl _, hstart, rfl⟩

/-- Readers in sequence are followed by cursors in sequence. -/
theorem Follows.bind {cursor : Cursor α} {reader : Reader α} {nextCursor : α → Cursor β}
    {nextReader : α → Reader β} (h : Follows buffer cursor reader)
    (hnext : ∀ value, Follows buffer (nextCursor value) (nextReader value)) :
    Follows buffer (cursor >>= nextCursor) (reader >>= nextReader) := by
  intro start hstart
  obtain ⟨result, middle, hcursor, hle, hmiddle, hreader⟩ := h start hstart
  cases result with
  | error error =>
    exact ⟨.error error, middle, run_bind_of_pure_error hcursor, hle, hmiddle,
      run_bind_of_error hreader⟩
  | ok value =>
    obtain ⟨result, stop, hfollow, hle', hstop, hread⟩ := hnext value middle hmiddle
    exact ⟨result, stop, (run_bind_of_pure_ok hcursor).trans hfollow, Nat.le_trans hle hle', hstop,
      (run_bind hreader).trans hread⟩

/-- What is made of a value moves nothing. -/
theorem Follows.map {cursor : Cursor α} {reader : Reader α} (h : Follows buffer cursor reader)
    (f : α → β) :
    Follows buffer (do return f (← cursor)) (do return f (← reader)) :=
  h.bind fun value => follows_pure (f value)

theorem remaining?_eq {place : Nat} (h : place ≤ buffer.length) :
    remaining? buffer place = some (buffer.length - place) := if_pos h

theorem slice?_eq {start stop : Nat} (hle : start ≤ stop) (hstop : stop ≤ buffer.length) :
    slice? buffer start stop = some ((buffer.drop start).take (stop - start)) :=
  if_pos ⟨hle, hstop⟩

theorem follows_take (count : Nat) : Follows buffer (take buffer count) (Reader.take count) := by
  intro start hstart
  have hlength : (buffer.drop start).length = buffer.length - start := List.length_drop
  by_cases hshort : buffer.length - start < count
  · refine ⟨.error (.truncated count (buffer.length - start)), start, ?_, Nat.le_refl _, hstart, ?_⟩
    · simp only [take, ExceptT.run, ExceptT.mk, remaining?_eq hstart, Option.bind_eq_bind,
        Option.bind_some, if_pos hshort]
      rfl
    · exact run_take_eq_error_iff.2 ⟨hlength ▸ hshort, by rw [hlength], rfl⟩
  · have hfits : start + count ≤ buffer.length := by omega
    refine ⟨.ok ((buffer.drop start).take count), start + count, ?_, Nat.le_add_right _ _, hfits, ?_⟩
    · simp only [take, ExceptT.run, ExceptT.mk, remaining?_eq hstart, Option.bind_eq_bind,
        Option.bind_some, if_neg hshort, slice?_eq (Nat.le_add_right start count) hfits,
        Nat.add_sub_cancel_left]
      rfl
    · refine run_take_eq_ok_iff.2 ⟨List.length_take_of_le (by omega), ?_⟩
      rw [← List.drop_drop, List.take_append_drop]

/-- Bytes that were taken are all there. -/
theorem number?_append (bytes more : Bytes) :
    number? (bytes ++ more) bytes.length = some (Bytes.toNat bytes) := by
  induction bytes using List.reverseRecOn generalizing more with
  | nil => rfl
  | append_singleton bytes byte ih =>
    have hbyte : (bytes ++ ([byte] ++ more))[bytes.length]? = some byte := by simp
    rw [List.append_assoc, List.length_append, List.length_singleton, number?, ih, hbyte,
      Bytes.toNat_append_singleton]
    rfl

/-- A number of fixed width is made of the bytes that the reader takes. -/
theorem follows_number (width : Nat) (f : Nat → α) :
    Follows buffer (do return f (← number buffer width))
      (do return f (Bytes.toNat (← Reader.take width))) := by
  intro start hstart
  obtain ⟨result, stop, hcursor, hle, hstop, hreader⟩ := follows_take width start hstart
  cases result with
  | error error =>
    have hnumber : (number buffer width).run start = some (.error error, stop) :=
      run_bind_of_pure_error hcursor
    exact ⟨.error error, stop, run_bind_of_pure_error hnumber, hle, hstop, run_bind_of_error hreader⟩
  | ok bytes =>
    obtain ⟨rfl, -⟩ := run_take_eq_ok_iff.1 hreader
    have hall : number? bytes bytes.length = some (Bytes.toNat bytes) := by
      simpa using number?_append bytes []
    have hnumber : (number buffer bytes.length).run start = some (.ok (Bytes.toNat bytes), stop) := by
      rw [number, run_bind_of_pure_ok hcursor, hall]
      rfl
    exact ⟨.ok (f (Bytes.toNat bytes)), stop, run_bind_of_pure_ok hnumber, hle, hstop,
      run_bind hreader⟩

theorem follows_rest : Follows buffer (rest buffer) Reader.rest := by
  intro start hstart
  refine ⟨.ok (buffer.drop start), buffer.length, ?_, hstart, Nat.le_refl _, ?_⟩
  · have hall : (buffer.drop start).take (buffer.length - start) = buffer.drop start :=
      List.take_of_length_le (Nat.le_of_eq List.length_drop)
    simp only [rest, ExceptT.run, ExceptT.mk, slice?_eq hstart (Nat.le_refl _), hall,
      Option.bind_eq_bind, Option.bind_some]
    rfl
  · rw [List.drop_length]
    rfl

theorem follows_finish : Follows buffer (finish buffer) Reader.finish := by
  intro start hstart
  have hlength : (buffer.drop start).length = buffer.length - start := List.length_drop
  cases hleft : buffer.length - start with
  | zero =>
    refine ⟨.ok (), start, ?_, Nat.le_refl _, hstart, ?_⟩
    · simp only [finish, ExceptT.run, ExceptT.mk, remaining?_eq hstart, hleft, Option.bind_eq_bind,
        Option.bind_some]
      rfl
    · rw [List.length_eq_zero_iff.1 (hlength.trans hleft)]
      exact run_finish_nil
  | succ others =>
    refine ⟨.error (.trailing (others + 1)), start, ?_, Nat.le_refl _, hstart, ?_⟩
    · simp only [finish, ExceptT.run, ExceptT.mk, remaining?_eq hstart, hleft, Option.bind_eq_bind,
        Option.bind_some]
      rfl
    · refine run_finish_eq_error_iff.2 ⟨fun hnil => ?_, by rw [hlength, hleft], rfl⟩
      rw [hnil, List.length_nil, hleft] at hlength
      cases hlength

theorem follows_field (kind : Field.Kind) :
    Follows buffer (field buffer kind) (Reader.field kind) := by
  cases kind with
  | u8 => exact (follows_number 1 UInt8.ofNat).map Field.u8
  | u16 => exact (follows_number 2 UInt16.ofNat).map Field.u16
  | u32 => exact (follows_number 4 UInt32.ofNat).map Field.u32
  | block =>
    exact ((follows_number 4 UInt32.ofNat).bind fun length => follows_take length.toNat).map
      Field.block
  | rest => exact follows_rest.map Field.raw

/-- Every call to a reader is followed. -/
theorem follows_call (call : Call) : Follows buffer (Cursor.call buffer call) call.reader := by
  cases call with
  | next kind => exact (follows_field kind).map fun field => [field]
  | finish => exact follows_finish.map fun _ => []

/-! ### What a call does at a place -/

/-- The bytes stand in the buffer between the places. -/
def Between (buffer : Bytes) (start : Nat) (bytes : Bytes) (stop : Nat) : Prop :=
  ∃ front back, buffer = front ++ bytes ++ back ∧ start = front.length ∧
    stop = (front ++ bytes).length

/-- The least number of bytes that a field of a kind takes. -/
def leastWidth : Field.Kind → Nat
  | .u8 => 1
  | .u16 => 2
  | .u32 => 4
  | .block => 4
  | .rest => 0

/-- What a call comes to at a place, and the place where it stops. -/
inductive Ends (buffer : Bytes) : Call → Nat → Reply → Nat → Prop
  /-- The field is written between the places. -/
  | read {start stop : Nat} {field : Field} (hframed : field.Framed)
      (hfield : Between buffer start field.encode stop) :
      Ends buffer (.next field.kind) start (.ok [field]) stop
  /-- All bytes that are left are taken. -/
  | rest {start : Nat} {left : Bytes} (hleft : Between buffer start left buffer.length) :
      Ends buffer (.next .rest) start (.ok [.raw left]) buffer.length
  /-- Nothing is left. -/
  | complete : Ends buffer .finish buffer.length (.ok []) buffer.length
  /-- A number, or the length of a block, is cut short and not touched. -/
  | short {kind : Field.Kind} {start : Nat} {left : Bytes}
      (hleft : Between buffer start left buffer.length) (hshort : left.length < leastWidth kind) :
      Ends buffer (.next kind) start (.error (.truncated (leastWidth kind) left.length)) start
  /-- The length of a block is taken, and the bytes that it announces are not there. -/
  | cut {start stop : Nat} {length : UInt32} {left : Bytes}
      (hlength : Between buffer start (Field.u32 length).encode stop)
      (hleft : Between buffer stop left buffer.length) (hcut : left.length < length.toNat) :
      Ends buffer (.next .block) start (.error (.truncated length.toNat left.length)) stop
  /-- Bytes are left, and stay where they are. -/
  | unread {start : Nat} {left : Bytes} (hleft : Between buffer start left buffer.length)
      (hne : left ≠ []) : Ends buffer .finish start (.error (.trailing left.length)) start

theorem between_of_drop_eq {start stop : Nat} {bytes : Bytes} (hstart : start ≤ buffer.length)
    (hstop : stop ≤ buffer.length) (h : buffer.drop start = bytes ++ buffer.drop stop) :
    Between buffer start bytes stop := by
  have hlength := congrArg List.length h
  simp only [List.length_drop, List.length_append] at hlength
  refine ⟨buffer.take start, buffer.drop stop, ?_, (List.length_take_of_le hstart).symm, ?_⟩
  · rw [List.append_assoc, ← h, List.take_append_drop]
  · rw [List.length_append, List.length_take_of_le hstart]
    omega

theorem between_drop {start : Nat} (h : start ≤ buffer.length) :
    Between buffer start (buffer.drop start) buffer.length :=
  between_of_drop_eq h (Nat.le_refl _) (by simp)

/-- A place is told by what stands behind it. -/
theorem eq_of_drop_eq {start stop : Nat} (hstart : start ≤ buffer.length)
    (hstop : stop ≤ buffer.length) (h : buffer.drop stop = buffer.drop start) : stop = start := by
  have hlength := congrArg List.length h
  simp only [List.length_drop] at hlength
  omega

/-- What is taken for a field is its written form, or all that is left. -/
theorem eq_encode_of_run_field {kind : Field.Kind} {field : Field} {bytes left : Bytes}
    (h : (Reader.field kind).run bytes = (.ok field, left)) :
    field.kind = kind ∧ bytes = field.encode ++ left ∧
      (field.Framed ∨ ∃ data, field = .raw data ∧ left = []) := by
  cases kind with
  | u8 =>
    obtain ⟨value, hread, rfl⟩ := run_map_eq_ok_iff.1 h
    exact ⟨rfl, run_u8_eq_ok_iff.1 hread, .inl trivial⟩
  | u16 =>
    obtain ⟨value, hread, rfl⟩ := run_map_eq_ok_iff.1 h
    exact ⟨rfl, run_u16_eq_ok_iff.1 hread, .inl trivial⟩
  | u32 =>
    obtain ⟨value, hread, rfl⟩ := run_map_eq_ok_iff.1 h
    exact ⟨rfl, run_u32_eq_ok_iff.1 hread, .inl trivial⟩
  | block =>
    obtain ⟨data, hread, rfl⟩ := run_map_eq_ok_iff.1 h
    obtain ⟨hframed, hbytes⟩ := run_block_eq_ok_iff.1 hread
    exact ⟨rfl, hbytes, .inl hframed⟩
  | rest =>
    obtain ⟨data, hread, rfl⟩ := run_map_eq_ok_iff.1 h
    cases hread
    exact ⟨rfl, (List.append_nil bytes).symm, .inr ⟨bytes, rfl, rfl⟩⟩

/-- For a field at least its width is asked, and for a block also what its length announces. -/
theorem run_field_eq_error {kind : Field.Kind} {error : LayoutError} {bytes left : Bytes}
    (h : (Reader.field kind).run bytes = (.error error, left)) :
    (bytes.length < leastWidth kind ∧ error = .truncated (leastWidth kind) bytes.length ∧
      left = bytes) ∨
    (kind = .block ∧ ∃ length : UInt32, bytes = (Field.u32 length).encode ++ left ∧
      left.length < length.toNat ∧ error = .truncated length.toNat left.length) := by
  cases kind with
  | u8 => exact .inl (run_number_eq_error_iff.1 (run_map_eq_error_iff.1 h))
  | u16 => exact .inl (run_number_eq_error_iff.1 (run_map_eq_error_iff.1 h))
  | u32 => exact .inl (run_number_eq_error_iff.1 (run_map_eq_error_iff.1 h))
  | block =>
    exact (run_block_eq_error_iff.1 (run_map_eq_error_iff.1 h)).imp id fun hcut => ⟨rfl, hcut⟩
  | rest =>
    have hrest := run_map_eq_error_iff.1 h
    cases hrest

/-- What the reader does on the bytes between two places. -/
theorem ends_of_run {call : Call} {start stop : Nat} {reply : Reply}
    (hstart : start ≤ buffer.length) (hstop : stop ≤ buffer.length)
    (h : call.reader.run (buffer.drop start) = (reply, buffer.drop stop)) :
    Ends buffer call start reply stop := by
  have hleft := between_drop hstart
  cases call with
  | next kind =>
    cases reply with
    | ok fields =>
      obtain ⟨field, middle, hfield, hfields⟩ := run_bind_eq_ok_iff.1 h
      cases hfields
      obtain ⟨rfl, hbytes, hframed | ⟨data, rfl, hnil⟩⟩ := eq_encode_of_run_field hfield
      · exact .read hframed (between_of_drop_eq hstart hstop hbytes)
      · have hend : stop = buffer.length := Nat.le_antisymm hstop (List.drop_eq_nil_iff.1 hnil)
        rw [hnil, List.append_nil] at hbytes
        subst hend
        rw [hbytes] at hleft
        exact .rest hleft
    | error error =>
      rcases run_field_eq_error (run_map_eq_error_iff.1 h) with ⟨hshort, rfl, hsame⟩ |
        ⟨rfl, length, hbytes, hcut, rfl⟩
      · rw [eq_of_drop_eq hstart hstop hsame]
        exact .short hleft hshort
      · exact .cut (between_of_drop_eq hstart hstop hbytes) (between_drop hstop) hcut
  | finish =>
    cases reply with
    | ok fields =>
      obtain ⟨done, middle, hfinish, hfields⟩ := run_bind_eq_ok_iff.1 h
      cases hfields
      obtain ⟨hnil, hnil'⟩ := run_finish_eq_ok_iff.1 hfinish
      rw [Nat.le_antisymm hstart (List.drop_eq_nil_iff.1 hnil),
        Nat.le_antisymm hstop (List.drop_eq_nil_iff.1 hnil')]
      exact .complete
    | error error =>
      obtain ⟨hne, rfl, hsame⟩ := run_finish_eq_error_iff.1 (run_map_eq_error_iff.1 h)
      rw [eq_of_drop_eq hstart hstop hsame]
      exact .unread hleft hne

/-! ### What is consumed -/

/-- The bytes of a step, as its answer tells them: the written form of what was read, or the length of
a block that is cut short. -/
def Step.consumed (step : Step) : Bytes :=
  match step.reply with
  | .ok fields => Field.encodeAll fields
  | .error (.truncated needed _) => if step.stop = step.start then [] else Bytes.ofNat 4 needed
  | .error (.trailing _) => []

theorem between_nil {start : Nat} (h : start ≤ buffer.length) : Between buffer start [] start :=
  between_of_drop_eq h h rfl

theorem Between.length_eq {start stop : Nat} {bytes : Bytes} (h : Between buffer start bytes stop) :
    stop = start + bytes.length := by
  obtain ⟨front, back, -, rfl, rfl⟩ := h
  exact List.length_append

/-- Bytes that meet at a place stand one behind the other. -/
theorem Between.append {start middle stop : Nat} {bytes more : Bytes}
    (h : Between buffer start bytes middle) (hmore : Between buffer middle more stop) :
    Between buffer start (bytes ++ more) stop := by
  obtain ⟨front, back, hbuffer, rfl, rfl⟩ := h
  obtain ⟨front', back', hbuffer', hmiddle, rfl⟩ := hmore
  have hfront : front ++ bytes = front' := by
    have htake := congrArg (List.take (front ++ bytes).length) (hbuffer.symm.trans hbuffer')
    rw [List.take_left, hmiddle, List.append_assoc, List.take_left] at htake
    exact htake
  subst hfront
  exact ⟨front, back', by rw [hbuffer']; simp, rfl, by simp⟩

/-- A step consumes the bytes between its places. -/
theorem between_consumed {call : Call} {start stop : Nat} {reply : Reply}
    (h : Ends buffer call start reply stop) :
    Between buffer start (Step.consumed ⟨call, start, reply, stop⟩) stop := by
  have hstays {start : Nat} {left : Bytes} (hleft : Between buffer start left buffer.length) :
      Between buffer start [] start :=
    between_nil (hleft.length_eq ▸ Nat.le_add_right _ _)
  cases h with
  | read _ hfield =>
    simp only [Step.consumed, Field.encodeAll_cons, Field.encodeAll_nil, List.append_nil]
    exact hfield
  | rest hleft =>
    simp only [Step.consumed, Field.encodeAll_cons, Field.encodeAll_nil, List.append_nil]
    exact hleft
  | complete => exact between_nil (Nat.le_refl _)
  | short hleft =>
    simp only [Step.consumed, if_true]
    exact hstays hleft
  | @cut _ _ length _ hlength =>
    have hwidth : (Field.u32 length).encode.length = 4 := Bytes.length_ofNat 4 _
    have hmoved : stop ≠ start := by
      have hstop := hlength.length_eq
      omega
    simp only [Step.consumed, if_neg hmoved]
    exact hlength
  | unread hleft => exact hstays hleft

/-! ### Many calls -/

/-- The steps of calls from one place to another. -/
structure Account (buffer : Bytes) (calls : List Call) (start : Nat) (steps : List Step)
    (last : Nat) : Prop where
  /-- There is a step for each call. -/
  calls_eq : steps.map Step.call = calls
  /-- Each step starts where the one before it stopped. -/
  places_eq : steps.map Step.start ++ [last] = start :: steps.map Step.stop
  /-- No step goes back or beyond the end. -/
  within : ∀ step ∈ steps, step.start ≤ step.stop ∧ step.stop ≤ buffer.length
  /-- Each step does what its call does at that place. -/
  ends : ∀ step ∈ steps, Ends buffer step.call step.start step.reply step.stop
  /-- The bytes of the steps, one behind the other, are those between the two places. -/
  consumed : Between buffer start (steps.flatMap Step.consumed) last
  /-- The reader answers in the same way and is left with the rest of the buffer. -/
  replies_eq : replies calls (buffer.drop start) = (steps.map Step.reply, buffer.drop last)

theorem account_nil {place : Nat} (h : place ≤ buffer.length) :
    Account buffer [] place [] place where
  calls_eq := rfl
  places_eq := rfl
  within := by simp
  ends := by simp
  consumed := between_nil h
  replies_eq := rfl

/-- A step goes before the steps from where it stops. -/
theorem Account.cons (step : Step) {calls : List Call} {steps : List Step} {last : Nat}
    (hle : step.start ≤ step.stop) (hstop : step.stop ≤ buffer.length)
    (hread : step.call.reader.run (buffer.drop step.start) = (step.reply, buffer.drop step.stop))
    (h : Account buffer calls step.stop steps last) :
    Account buffer (step.call :: calls) step.start (step :: steps) last := by
  have hends : Ends buffer step.call step.start step.reply step.stop :=
    ends_of_run (Nat.le_trans hle hstop) hstop hread
  exact {
    calls_eq := by rw [List.map_cons, h.calls_eq]
    places_eq := by rw [List.map_cons, List.cons_append, h.places_eq, List.map_cons]
    within := List.forall_mem_cons.2 ⟨⟨hle, hstop⟩, h.within⟩
    ends := List.forall_mem_cons.2 ⟨hends, h.ends⟩
    consumed := (between_consumed hends).append h.consumed
    replies_eq := by simp only [replies, hread, h.replies_eq, List.map_cons] }

/-- From every place within the buffer calls can be made, however they end. -/
theorem exists_account (calls : List Call) {start : Nat} (h : start ≤ buffer.length) :
    ∃ steps last, trace? buffer calls start = some (steps, last) ∧
      Account buffer calls start steps last := by
  induction calls generalizing start with
  | nil => exact ⟨[], start, rfl, account_nil h⟩
  | cons call calls ih =>
    obtain ⟨reply, stop, hcursor, hle, hstop, hread⟩ := follows_call call start h
    obtain ⟨steps, last, htrace, haccount⟩ := ih hstop
    refine ⟨⟨call, start, reply, stop⟩ :: steps, last, ?_,
      .cons ⟨call, start, reply, stop⟩ hle hstop hread haccount⟩
    simp only [trace?, hcursor, htrace, Option.bind_eq_bind, Option.bind_some]
    rfl

/-- Whatever is called, and whether or not a call fails, a reader that knows its place looks for no
byte outside of the buffer, and its steps from the first place on account for every byte up to the last
one. -/
theorem calls_account_for_buffer (buffer : Bytes) (calls : List Call) :
    ∃ steps last, trace? buffer calls 0 = some (steps, last) ∧
      Account buffer calls 0 steps last :=
  exists_account calls (Nat.zero_le _)

-- The length of a block that is cut short stays consumed, and what is called next stands behind it.
example :
    trace? [0, 0, 0, 16, 0xAA, 0xBB] [.next .block, .next .u8, .next .u16, .finish] 0 =
      some ([⟨.next .block, 0, .error (.truncated 16 2), 4⟩, ⟨.next .u8, 4, .ok [.u8 0xAA], 5⟩,
        ⟨.next .u16, 5, .error (.truncated 2 1), 5⟩, ⟨.finish, 5, .error (.trailing 1), 5⟩], 5) :=
  rfl

end Cursor

end Reader

end HandleChallenge
