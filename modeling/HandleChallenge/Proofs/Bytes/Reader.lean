import HandleChallenge.Bytes.Lemmas
import HandleChallenge.Bytes.Reader

/-!
# Reading what was written

`Reads` says that a reader takes a written form from the front of a message, whatever comes behind
it. Each field is read back by its reader, and readers in sequence read written forms in sequence
(`Reads.bind`). Conversely, what a reader takes is the written form of its value:
`run_bind_eq_ok_iff` takes readers in sequence apart, and each field has its own equivalence. So it is
with what a reader refuses and has consumed by then (`run_bind_eq_error_iff`). `Needs` says that a
reader takes nothing less than a written form: of every message that stops within it the reader tells
that bytes are missing.
-/

namespace HandleChallenge.Reader

variable {α β : Type}

/-- The reader takes the bytes from the front of every message that starts with them, and makes the
value of them. -/
def Reads (reader : Reader α) (written : Bytes) (value : α) : Prop :=
  ∀ rest, reader.run (written ++ rest) = (.ok value, rest)

/-! ### Sequences -/

section

variable {ε σ : Type} {m : Type → Type} [Monad m] [LawfulMonad m]
  {first : ExceptT ε (StateT σ m) α} {next : α → ExceptT ε (StateT σ m) β} {state left : σ}

/-- A computation goes on with what the one before it left. -/
theorem run_bind_of_pure_ok {value : α} (h : first.run state = pure (.ok value, left)) :
    (first >>= next).run state = (next value).run left := by
  have hrun : (first >>= next).run state =
      first.run state >>= fun result => ExceptT.bindCont next result.1 result.2 := rfl
  rw [hrun, h, pure_bind]
  rfl

/-- A computation that fails ends the sequence that it is in. -/
theorem run_bind_of_pure_error {error : ε} (h : first.run state = pure (.error error, left)) :
    (first >>= next).run state = pure (.error error, left) := by
  have hrun : (first >>= next).run state =
      first.run state >>= fun result => ExceptT.bindCont next result.1 result.2 := rfl
  rw [hrun, h, pure_bind]
  rfl

end

section

variable {ε : Type} {reader : ExceptT ε (StateM Bytes) α} {next : α → ExceptT ε (StateM Bytes) β}
  {bytes rest : Bytes}

theorem run_bind {value : α} (h : reader.run bytes = (.ok value, rest)) :
    (reader >>= next).run bytes = (next value).run rest :=
  run_bind_of_pure_ok h

theorem run_bind_of_error {error : ε} (h : reader.run bytes = (.error error, rest)) :
    (reader >>= next).run bytes = (.error error, rest) :=
  run_bind_of_pure_error h

/-- Readers in sequence go through if each does, from where the one before it stopped. -/
theorem run_bind_eq_ok_iff {result : β} :
    (reader >>= next).run bytes = (.ok result, rest) ↔
      ∃ value middle, reader.run bytes = (.ok value, middle) ∧
        (next value).run middle = (.ok result, rest) := by
  constructor
  · intro h
    rcases hfirst : reader.run bytes with ⟨error | value, middle⟩
    · cases (run_bind_of_error hfirst).symm.trans h
    · exact ⟨value, middle, rfl, (run_bind hfirst).symm.trans h⟩
  · rintro ⟨value, middle, hfirst, hnext⟩
    rw [run_bind hfirst, hnext]

/-- Readers in sequence fail if the first does, or if the next does from where the first stopped. -/
theorem run_bind_eq_error_iff {error : ε} :
    (reader >>= next).run bytes = (.error error, rest) ↔
      reader.run bytes = (.error error, rest) ∨ ∃ value middle,
        reader.run bytes = (.ok value, middle) ∧ (next value).run middle = (.error error, rest) := by
  rcases hfirst : reader.run bytes with ⟨failure | value, middle⟩
  · rw [run_bind_of_error hfirst]
    constructor
    · intro h
      cases h
      exact .inl rfl
    · rintro (h | ⟨value, middle, h, -⟩)
      · cases h
        rfl
      · cases h
  · rw [run_bind hfirst]
    constructor
    · exact fun h => .inr ⟨value, middle, rfl, h⟩
    · rintro (h | ⟨value, middle, h, hnext⟩)
      · cases h
      · cases h
        exact hnext

theorem run_map_eq_ok_iff {f : α → β} {result : β} :
    (do return f (← reader) : ExceptT ε (StateM Bytes) β).run bytes = (.ok result, rest) ↔
      ∃ value, reader.run bytes = (.ok value, rest) ∧ f value = result := by
  rw [run_bind_eq_ok_iff]
  constructor
  · rintro ⟨value, middle, hread, hvalue⟩
    cases hvalue
    exact ⟨value, hread, rfl⟩
  · rintro ⟨value, hread, rfl⟩
    exact ⟨value, rest, hread, rfl⟩

theorem run_map_eq_error_iff {f : α → β} {error : ε} :
    (do return f (← reader) : ExceptT ε (StateM Bytes) β).run bytes = (.error error, rest) ↔
      reader.run bytes = (.error error, rest) := by
  rw [run_bind_eq_error_iff]
  constructor
  · rintro (h | ⟨value, middle, -, h⟩)
    · exact h
    · cases h
  · exact .inl

end

/-! ### Reading back -/

theorem Reads.bind {reader : Reader α} {next : α → Reader β} {written more : Bytes} {value : α}
    {result : β} (h : reader.Reads written value) (hnext : (next value).Reads more result) :
    (reader >>= next).Reads (written ++ more) result := by
  intro rest
  rw [List.append_assoc, run_bind (h (more ++ rest)), hnext]

/-- What is made of a value is made behind the same bytes. -/
theorem Reads.map {reader : Reader α} {written : Bytes} {value : α}
    (h : reader.Reads written value) (f : α → β) :
    (do return f (← reader) : Reader β).Reads written (f value) :=
  fun rest => run_bind (h rest)

theorem reads_take (bytes : Bytes) : (take bytes.length).Reads bytes bytes := by
  intro rest
  simp [take, ExceptT.run, ExceptT.mk]

theorem reads_u32 (value : UInt32) : u32.Reads (Field.u32 value).encode value := by
  intro rest
  have hvalue := value.toNat_lt
  have htake := reads_take (Bytes.ofNat 4 value.toNat) rest
  rw [Bytes.length_ofNat] at htake
  rw [u32, Field.encode, run_bind htake, Bytes.toNat_ofNat (by omega), UInt32.ofNat_toNat]
  rfl

/-- A length that can be announced is a number of four bytes. -/
theorem toNat_ofNat_length {data : Bytes} (h : data.length ≤ Field.maxLength) :
    (UInt32.ofNat data.length).toNat = data.length :=
  UInt32.toNat_ofNat_of_lt' (Nat.lt_of_le_of_lt h (by decide))

/-- A block is written as its length and its bytes. -/
theorem encode_block {data : Bytes} (h : data.length ≤ Field.maxLength) :
    (Field.block data).encode = (Field.u32 (UInt32.ofNat data.length)).encode ++ data := by
  rw [Field.encode, Field.encode, toNat_ofNat_length h, Field.lengthBytes, Nat.min_eq_left h]

/-- A block is read back if its length can be announced. -/
theorem reads_block {data : Bytes} (h : data.length ≤ Field.maxLength) :
    block.Reads (Field.block data).encode data := by
  have hdata := reads_take data
  rw [← toNat_ofNat_length h] at hdata
  rw [encode_block h]
  exact (reads_u32 (UInt32.ofNat data.length)).bind hdata

/-- After the last field nothing is left. -/
theorem run_finish_nil : finish.run [] = (.ok (), []) := rfl

/-- Bytes that are left are counted. -/
theorem run_finish_of_ne_nil {extra : Bytes} (h : extra ≠ []) :
    finish.run extra = (.error (.trailing extra.length), extra) := by
  cases extra with
  | nil => exact absurd rfl h
  | cons byte others => rfl

/-! ### What a reader takes -/

section

variable {bytes rest : Bytes}

/-- What a message is decoded to is what the reader takes from its front. -/
theorem decode_eq_ok_iff {reader : Reader α} {value : α} :
    reader.decode bytes = .ok value ↔ ∃ rest, reader.run bytes = (.ok value, rest) := by
  unfold decode
  rcases reader.run bytes with ⟨read, rest⟩
  constructor
  · rintro rfl
    exact ⟨rest, rfl⟩
  · rintro ⟨other, h⟩
    exact congrArg Prod.fst h

theorem run_take_eq_ok_iff {count : Nat} {taken : Bytes} :
    (take count).run bytes = (.ok taken, rest) ↔ taken.length = count ∧ bytes = taken ++ rest := by
  constructor
  · intro h
    by_cases hcount : count ≤ bytes.length
    · simp only [take, ExceptT.run, ExceptT.mk, if_pos hcount] at h
      cases h
      exact ⟨List.length_take_of_le hcount, (List.take_append_drop count bytes).symm⟩
    · simp only [take, ExceptT.run, ExceptT.mk, if_neg hcount] at h
      cases h
  · rintro ⟨rfl, rfl⟩
    exact reads_take taken rest

/-- A number of fixed width is taken from the bytes that write it. -/
theorem run_number_eq_ok_iff {width : Nat} {f : Nat → α} {value : α} :
    (do return f (Bytes.toNat (← take width)) : Reader α).run bytes = (.ok value, rest) ↔
      ∃ n < 256 ^ width, bytes = Bytes.ofNat width n ++ rest ∧ f n = value := by
  constructor
  · intro h
    obtain ⟨taken, htake, rfl⟩ :=
      (run_map_eq_ok_iff (f := fun taken => f (Bytes.toNat taken))).1 h
    obtain ⟨rfl, rfl⟩ := run_take_eq_ok_iff.1 htake
    exact ⟨Bytes.toNat taken, Bytes.toNat_lt taken, by rw [Bytes.ofNat_toNat], rfl⟩
  · rintro ⟨n, hn, rfl, rfl⟩
    rw [run_bind (run_take_eq_ok_iff.2 ⟨Bytes.length_ofNat width n, rfl⟩), Bytes.toNat_ofNat hn]
    rfl

theorem run_u8_eq_ok_iff {value : UInt8} :
    u8.run bytes = (.ok value, rest) ↔ bytes = value :: rest := by
  refine run_number_eq_ok_iff.trans ⟨?_, fun h => ⟨value.toNat, value.toNat_lt, ?_, by simp⟩⟩
  · rintro ⟨n, -, rfl, rfl⟩
    rfl
  · rw [h, Bytes.ofNat, UInt8.ofNat_toNat]
    rfl

theorem run_u16_eq_ok_iff {value : UInt16} :
    u16.run bytes = (.ok value, rest) ↔ bytes = (Field.u16 value).encode ++ rest := by
  refine run_number_eq_ok_iff.trans ⟨?_, fun h => ⟨value.toNat, value.toNat_lt, h, by simp⟩⟩
  rintro ⟨n, hn, rfl, rfl⟩
  rw [Field.encode, UInt16.toNat_ofNat_of_lt' hn]

theorem run_u32_eq_ok_iff {value : UInt32} :
    u32.run bytes = (.ok value, rest) ↔ bytes = (Field.u32 value).encode ++ rest := by
  refine run_number_eq_ok_iff.trans ⟨?_, fun h => ⟨value.toNat, value.toNat_lt, h, by simp⟩⟩
  rintro ⟨n, hn, rfl, rfl⟩
  rw [Field.encode, UInt32.toNat_ofNat_of_lt' hn]

/-- A block is taken with the length that it announces. -/
theorem run_block_eq_ok_iff {data : Bytes} :
    block.run bytes = (.ok data, rest) ↔
      data.length ≤ Field.maxLength ∧ bytes = (Field.block data).encode ++ rest := by
  constructor
  · intro h
    obtain ⟨count, middle, hcount, htake⟩ := run_bind_eq_ok_iff.1 h
    obtain rfl := run_u32_eq_ok_iff.1 hcount
    obtain ⟨hlength, rfl⟩ := run_take_eq_ok_iff.1 htake
    have hshort : data.length ≤ Field.maxLength := by
      rw [hlength]
      exact Nat.le_sub_one_of_lt count.toNat_lt
    refine ⟨hshort, ?_⟩
    rw [Field.encode, Field.encode, Field.lengthBytes, Nat.min_eq_left hshort, hlength,
      List.append_assoc]
  · rintro ⟨hshort, rfl⟩
    exact reads_block hshort rest

theorem run_finish_eq_ok_iff {done : Unit} :
    finish.run bytes = (.ok done, rest) ↔ bytes = [] ∧ rest = [] := by
  cases bytes with
  | nil =>
    constructor
    · intro h
      cases h
      exact ⟨rfl, rfl⟩
    · rintro ⟨-, rfl⟩
      exact run_finish_nil
  | cons byte others =>
    constructor
    · intro h
      cases h
    · rintro ⟨h, -⟩
      cases h

end

/-! ### What a reader refuses -/

section

variable {bytes rest : Bytes} {error : LayoutError}

/-- Bytes that are missing are told, and none is consumed. -/
theorem run_take_eq_error_iff {count : Nat} :
    (take count).run bytes = (.error error, rest) ↔
      bytes.length < count ∧ error = .truncated count bytes.length ∧ rest = bytes := by
  simp only [take, ExceptT.run, ExceptT.mk]
  by_cases hcount : count ≤ bytes.length
  · rw [if_pos hcount]
    constructor
    · intro h
      cases h
    · rintro ⟨hshort, -⟩
      exact absurd hcount (Nat.not_le.2 hshort)
  · rw [if_neg hcount]
    constructor
    · intro h
      cases h
      exact ⟨Nat.not_le.1 hcount, rfl, rfl⟩
    · rintro ⟨-, rfl, rfl⟩
      rfl

theorem run_number_eq_error_iff {width : Nat} {f : Nat → α} :
    (do return f (Bytes.toNat (← take width)) : Reader α).run bytes = (.error error, rest) ↔
      bytes.length < width ∧ error = .truncated width bytes.length ∧ rest = bytes :=
  (run_map_eq_error_iff (f := fun taken => f (Bytes.toNat taken))).trans run_take_eq_error_iff

/-- Of a block the length is missing, or bytes behind it are; then the length is consumed. -/
theorem run_block_eq_error_iff :
    block.run bytes = (.error error, rest) ↔
      (bytes.length < 4 ∧ error = .truncated 4 bytes.length ∧ rest = bytes) ∨
      ∃ length : UInt32, bytes = (Field.u32 length).encode ++ rest ∧ rest.length < length.toNat ∧
        error = .truncated length.toNat rest.length := by
  rw [block, run_bind_eq_error_iff]
  refine or_congr run_number_eq_error_iff ⟨?_, ?_⟩
  · rintro ⟨length, middle, hlength, htake⟩
    obtain ⟨hshort, rfl, rfl⟩ := run_take_eq_error_iff.1 htake
    exact ⟨length, run_u32_eq_ok_iff.1 hlength, hshort, rfl⟩
  · rintro ⟨length, hbytes, hshort, rfl⟩
    exact ⟨length, rest, run_u32_eq_ok_iff.2 hbytes, run_take_eq_error_iff.2 ⟨hshort, rfl, rfl⟩⟩

/-- Bytes that are left are counted, and none is consumed. -/
theorem run_finish_eq_error_iff :
    finish.run bytes = (.error error, rest) ↔
      bytes ≠ [] ∧ error = .trailing bytes.length ∧ rest = bytes := by
  cases bytes with
  | nil =>
    constructor
    · intro h
      cases h
    · rintro ⟨h, -⟩
      exact absurd rfl h
  | cons byte others =>
    rw [run_finish_of_ne_nil (List.cons_ne_nil _ _)]
    constructor
    · intro h
      cases h
      exact ⟨List.cons_ne_nil _ _, rfl, rfl⟩
    · rintro ⟨-, rfl, rfl⟩
      rfl

end

/-! ### What a reader misses -/

/-- Of every message that stops within the bytes, the reader tells that bytes are missing. -/
def Needs (reader : Reader α) (written : Bytes) : Prop :=
  ∀ cut missing, cut ++ missing = written → missing ≠ [] →
    ∃ needed available rest, available < needed ∧
      reader.run cut = (.error (.truncated needed available), rest)

/-- No message stops within no bytes. -/
theorem needs_nil (reader : Reader α) : reader.Needs [] := by
  intro cut missing h hmissing
  exact absurd (List.append_eq_nil_iff.1 h).2 hmissing

/-- A message stops within the bytes of the first reader, or behind them and within those of the
next. -/
theorem Needs.bind {reader : Reader α} {next : α → Reader β} {written more : Bytes} {value : α}
    (hfirst : reader.Needs written) (hreads : reader.Reads written value)
    (hnext : (next value).Needs more) : (reader >>= next).Needs (written ++ more) := by
  intro cut missing h hmissing
  have hbehind : ∀ behind, cut = written ++ behind → behind ++ missing = more →
      ∃ needed available rest, available < needed ∧
        (reader >>= next).run cut = (.error (.truncated needed available), rest) := by
    rintro behind rfl hmore
    rw [run_bind (hreads behind)]
    exact hnext behind missing hmore hmissing
  rcases List.append_eq_append_iff.1 h with ⟨within, rfl, hwithin⟩ | ⟨behind, rfl, rfl⟩
  · by_cases hnil : within = []
    · subst hnil
      exact hbehind [] (by simp) (by simpa using hwithin)
    · obtain ⟨needed, available, rest, hlt, hrun⟩ := hfirst cut within rfl hnil
      exact ⟨needed, available, rest, hlt, run_bind_of_error hrun⟩
  · exact hbehind behind rfl rfl

theorem needs_take (written : Bytes) : (take written.length).Needs written := by
  rintro cut missing rfl hmissing
  have hshort : cut.length < (cut ++ missing).length := by
    have hpositive := List.length_pos_iff.2 hmissing
    rw [List.length_append]
    omega
  exact ⟨_, _, cut, hshort, run_take_eq_error_iff.2 ⟨hshort, rfl, rfl⟩⟩

/-- What is made of a value changes nothing of what it takes. -/
theorem Needs.map {reader : Reader α} {written : Bytes} (h : reader.Needs written) (f : α → β) :
    (do return f (← reader) : Reader β).Needs written := by
  intro cut missing hcut hmissing
  obtain ⟨needed, available, rest, hlt, hrun⟩ := h cut missing hcut hmissing
  exact ⟨needed, available, rest, hlt, run_bind_of_error hrun⟩

/-- A number of fixed width takes that many bytes. -/
theorem needs_number {written : Bytes} {width : Nat} (h : written.length = width) (f : Nat → α) :
    (do return f (Bytes.toNat (← take width)) : Reader α).Needs written := by
  subst h
  exact (needs_take written).map fun bytes => f (Bytes.toNat bytes)

theorem needs_u8 (value : UInt8) : u8.Needs (Field.u8 value).encode := needs_number rfl _

theorem needs_u16 (value : UInt16) : u16.Needs (Field.u16 value).encode :=
  needs_number (Bytes.length_ofNat 2 value.toNat) _

theorem needs_u32 (value : UInt32) : u32.Needs (Field.u32 value).encode :=
  needs_number (Bytes.length_ofNat 4 value.toNat) _

theorem needs_block {data : Bytes} (h : data.length ≤ Field.maxLength) :
    block.Needs (Field.block data).encode := by
  have hdata := needs_take data
  rw [← toNat_ofNat_length h] at hdata
  rw [encode_block h]
  exact (needs_u32 _).bind (reads_u32 _) hdata

end HandleChallenge.Reader
