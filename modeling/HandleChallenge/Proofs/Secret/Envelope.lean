import HandleChallenge.Proofs.Bytes.Reader
import HandleChallenge.Proofs.Checks
import HandleChallenge.Secret.Derivation

/-!
# Opening an envelope

An envelope is written in one way, and opened only if it is written so: a byte string that stops
too early lacks bytes, and one that goes on has bytes left. Main statements: what is opened was
written (`Envelope.decode_eq_ok_iff`), and each other byte string around the written one is refused
with what is wrong about its length (`Envelope.decode_exactly_encoding`).
-/

namespace HandleChallenge.Envelope

open Checks (mapError_eq_ok_iff)

variable {bytes : Bytes} {envelope : Envelope}

/-- The lengths of the blocks can be announced. -/
structure Fits (envelope : Envelope) : Prop where
  salt : envelope.derivation.salt.length < UInt32.size
  mac : envelope.mac.length < UInt32.size

theorem Fits.salt_le (h : envelope.Fits) : envelope.derivation.salt.length ≤ Field.maxLength :=
  Nat.le_sub_one_of_lt h.salt

theorem Fits.mac_le (h : envelope.Fits) : envelope.mac.length ≤ Field.maxLength :=
  Nat.le_sub_one_of_lt h.mac

theorem Fits.of_le (hsalt : envelope.derivation.salt.length ≤ Field.maxLength)
    (hmac : envelope.mac.length ≤ Field.maxLength) : envelope.Fits :=
  ⟨Nat.lt_of_le_of_lt hsalt (by decide), Nat.lt_of_le_of_lt hmac (by decide)⟩

/-- Once the fields are read, it remains to see that nothing comes behind them. -/
theorem run_reader (hfits : envelope.Fits) (extra : Bytes) :
    reader.run (envelope.encode ++ extra) =
      (Reader.finish >>= fun _ => (pure envelope : Reader Envelope)).run extra := by
  simp only [reader, encode, Field.encodeAll_cons, Field.encodeAll_nil, List.append_assoc,
    List.nil_append]
  rw [Reader.run_bind (Reader.reads_block hfits.salt_le _),
    Reader.run_bind (Reader.reads_u32 envelope.derivation.iterations _),
    Reader.run_bind (Reader.reads_u32 envelope.derivation.lengthBits _),
    Reader.run_bind (Reader.reads_block hfits.mac_le _)]

/-- An envelope is opened to what was put in, if the lengths of its blocks can be announced. -/
theorem decode_encode (hfits : envelope.Fits) : decode envelope.encode = .ok envelope := by
  have hrun := run_reader hfits []
  rw [List.append_nil, Reader.run_bind Reader.run_finish_nil] at hrun
  exact mapError_eq_ok_iff.2 (Reader.decode_eq_ok_iff.2 ⟨[], hrun⟩)

/-- A byte string is opened to an envelope exactly if it is what is written of the envelope. -/
theorem decode_eq_ok_iff :
    decode bytes = .ok envelope ↔ envelope.Fits ∧ bytes = envelope.encode := by
  constructor
  · intro h
    obtain ⟨rest, hrun⟩ := Reader.decode_eq_ok_iff.1 (mapError_eq_ok_iff.1 h)
    unfold reader at hrun
    obtain ⟨salt, afterSalt, hsalt, hmore⟩ := Reader.run_bind_eq_ok_iff.1 hrun
    obtain ⟨iterations, afterIterations, hiterations, hmore⟩ := Reader.run_bind_eq_ok_iff.1 hmore
    obtain ⟨lengthBits, afterLength, hlength, hmore⟩ := Reader.run_bind_eq_ok_iff.1 hmore
    obtain ⟨mac, afterMac, hmac, hmore⟩ := Reader.run_bind_eq_ok_iff.1 hmore
    obtain ⟨done, afterAll, hdone, hend⟩ := Reader.run_bind_eq_ok_iff.1 hmore
    obtain ⟨hsaltFits, rfl⟩ := Reader.run_block_eq_ok_iff.1 hsalt
    obtain rfl := Reader.run_u32_eq_ok_iff.1 hiterations
    obtain rfl := Reader.run_u32_eq_ok_iff.1 hlength
    obtain ⟨hmacFits, rfl⟩ := Reader.run_block_eq_ok_iff.1 hmac
    obtain ⟨rfl, rfl⟩ := Reader.run_finish_eq_ok_iff.1 hdone
    cases hend
    exact ⟨.of_le hsaltFits hmacFits, rfl⟩
  · rintro ⟨hfits, rfl⟩
    exact decode_encode hfits

/-- What is written of an envelope tells which envelope it is. -/
theorem encode_injective {first second : Envelope} (hfirst : first.Fits) (hsecond : second.Fits)
    (h : first.encode = second.encode) : first = second := by
  have hopened := decode_eq_ok_iff.2 ⟨hsecond, h⟩
  exact Except.ok.inj ((decode_encode hfirst).symm.trans hopened)

/-- The reader takes nothing less than the written form. -/
theorem needs_reader (hfits : envelope.Fits) : reader.Needs envelope.encode :=
  (Reader.needs_block hfits.salt_le).bind (Reader.reads_block hfits.salt_le) <|
    (Reader.needs_u32 _).bind (Reader.reads_u32 envelope.derivation.iterations) <|
      (Reader.needs_u32 _).bind (Reader.reads_u32 envelope.derivation.lengthBits) <|
        (Reader.needs_block hfits.mac_le).bind (Reader.reads_block hfits.mac_le) <|
          Reader.needs_nil _

/-- A byte string that stops within an envelope lacks bytes. -/
theorem decode_of_cut (hfits : envelope.Fits) {cut missing : Bytes}
    (h : cut ++ missing = envelope.encode) (hmissing : missing ≠ []) :
    ∃ needed available, available < needed ∧
      decode cut = .error (Refusal.ofLayout (.truncated needed available)) := by
  obtain ⟨needed, available, rest, hlt, hrun⟩ := needs_reader hfits cut missing h hmissing
  refine ⟨needed, available, hlt, ?_⟩
  rw [decode, Reader.decode, hrun]
  rfl

/-- Bytes behind an envelope are left. -/
theorem decode_append (hfits : envelope.Fits) {extra : Bytes} (h : extra ≠ []) :
    decode (envelope.encode ++ extra) = .error (Refusal.ofLayout (.trailing extra.length)) := by
  rw [decode, Reader.decode, run_reader hfits extra,
    Reader.run_bind_of_error (Reader.run_finish_of_ne_nil h)]
  rfl

/-- A byte string is opened to an envelope exactly if the lengths of salt and MAC can be announced
and it is what is written of the envelope. Of the written form, a byte string that stops early is
refused for the bytes that it lacks, and one that goes on for those that it has too many. -/
theorem decode_exactly_encoding (envelope : Envelope) :
    (∀ bytes, decode bytes = .ok envelope ↔
      (envelope.derivation.salt.length < 2 ^ 32 ∧ envelope.mac.length < 2 ^ 32) ∧
        bytes = envelope.encode) ∧
      (envelope.derivation.salt.length < 2 ^ 32 → envelope.mac.length < 2 ^ 32 →
        (∀ cut missing, cut ++ missing = envelope.encode → missing ≠ [] →
          ∃ needed available, available < needed ∧
            decode cut = .error (Refusal.ofLayout (.truncated needed available))) ∧
        ∀ extra, extra ≠ [] → decode (envelope.encode ++ extra) =
          .error (Refusal.ofLayout (.trailing extra.length))) := by
  refine ⟨fun bytes => ?_, fun hsalt hmac => ?_⟩
  · rw [decode_eq_ok_iff]
    refine and_congr_left fun _ => ⟨fun hfits => ⟨hfits.salt, hfits.mac⟩, ?_⟩
    rintro ⟨hsalt, hmac⟩
    exact ⟨hsalt, hmac⟩
  · have hfits : envelope.Fits := ⟨hsalt, hmac⟩
    exact ⟨fun cut missing h hmissing => decode_of_cut hfits h hmissing,
      fun extra h => decode_append hfits h⟩

/-- An envelope with a salt of two bytes and a MAC of one. -/
def small : Envelope := ⟨⟨[1, 2], 1000, 160⟩, [7]⟩

theorem small_decoded_exactly :
    decode small.encode = .ok small ∧
      (∃ needed available, available < needed ∧
        decode (small.encode.take 7) = .error (Refusal.ofLayout (.truncated needed available))) ∧
      decode (small.encode ++ [0]) = .error (Refusal.ofLayout (.trailing 1)) := by
  obtain ⟨hexact, hwrong⟩ := decode_exactly_encoding small
  obtain ⟨hcut, hextra⟩ := hwrong (by decide) (by decide)
  exact ⟨(hexact _).2 ⟨by decide, rfl⟩,
    hcut _ (small.encode.drop 7) (List.take_append_drop 7 _) (by decide), hextra [0] (by decide)⟩

end HandleChallenge.Envelope
