import HandleChallenge.Proofs.Secret.Mac

/-!
# Which payloads are accepted

A check accepts exactly the payloads that a holder of the secret sends with parameters that are
admitted. Whether a payload can be checked at all is read off the payload, before a key is derived:
the questions of `checking` are the derivations that take place. `verify_accepts_exactly_responses`
puts the parts together.
-/

namespace HandleChallenge.Mac

open Checks (bind_of_error)

variable {algorithm : Algorithm} {secret serverNonce clientNonce payload : Bytes}
  {maxIterations : UInt32}

/-! ### What is sent -/

/-- The parameters with which a payload is admitted: none for a bare MAC, and for a derived key
acceptable ones that an envelope can carry. -/
def Admits (algorithm : Algorithm) (maxIterations : UInt32) : Option Derivation → Prop
  | none => algorithm.method ≠ .pbkdf2
  | some derivation => algorithm.method = .pbkdf2 ∧ derivation.salt.length < UInt32.size ∧
      derivation.validate maxIterations = .ok ()

/-- A bare MAC is sent as it is. -/
theorem respond_none :
    respond algorithm secret serverNonce clientNonce none =
      compute algorithm secret serverNonce clientNonce none := by
  unfold respond
  cases compute algorithm secret serverNonce clientNonce none with
  | error refusal => rfl
  | ok mac => cases algorithm <;> rfl

/-- A MAC under a derived key is sent in its envelope. -/
theorem respond_some_eq_ok_iff (hmethod : algorithm.method = .pbkdf2) {derivation : Derivation} :
    respond algorithm secret serverNonce clientNonce (some derivation) = .ok payload ↔
      ∃ mac, compute algorithm secret serverNonce clientNonce (some derivation) = .ok mac ∧
        Envelope.encode { derivation, mac } = payload := by
  unfold respond
  rw [Checks.bind_eq_ok_iff]
  refine exists_congr fun mac => and_congr_right fun _ => ?_
  simp only [hmethod]
  exact Checks.pure_eq_ok_iff

/-! ### What is accepted -/

/-- A payload where a key is derived is an envelope whose MAC is compared with the one that the
secret gives, or it cannot be checked under any secret. -/
theorem verify_cases (hmethod : algorithm.method = .pbkdf2) (payload : Bytes)
    (maxIterations : UInt32) :
    (∃ envelope : Envelope, envelope.Fits ∧ payload = envelope.encode ∧
        envelope.derivation.validate maxIterations = .ok () ∧
        ∀ secret serverNonce clientNonce,
          verify algorithm secret serverNonce clientNonce payload maxIterations =
            .ok (isGiven algorithm secret serverNonce clientNonce (some envelope.derivation)
              envelope.mac)) ∨
      ∃ refusal, (∀ envelope : Envelope, envelope.Fits → payload = envelope.encode →
          envelope.derivation.validate maxIterations ≠ .ok ()) ∧
        ∀ secret serverNonce clientNonce,
          verify algorithm secret serverNonce clientNonce payload maxIterations =
            .error refusal := by
  cases hdecode : Envelope.decode payload with
  | error refusal =>
    refine .inr ⟨refusal, fun envelope hfits hpayload => ?_,
      fun secret serverNonce clientNonce => ?_⟩
    · cases hdecode.symm.trans (Envelope.decode_eq_ok_iff.2 ⟨hfits, hpayload⟩)
    · rw [verify_of_pbkdf2 hmethod]
      exact bind_of_error hdecode _
  | ok envelope =>
    obtain ⟨hfits, rfl⟩ := Envelope.decode_eq_ok_iff.1 hdecode
    have hsalt := Nat.le_sub_one_of_lt hfits.salt
    have hmac := Nat.le_sub_one_of_lt hfits.mac
    cases hvalid : envelope.derivation.validate maxIterations with
    | ok done =>
      exact .inl ⟨envelope, hfits, rfl, hvalid,
        fun secret serverNonce clientNonce => verify_envelope hmethod hsalt hmac hvalid ..⟩
    | error refusal =>
      refine .inr ⟨refusal, fun other hother hsame => ?_,
        fun secret serverNonce clientNonce =>
          verify_envelope_of_invalid hmethod hsalt hmac hvalid ..⟩
      -- the envelope that the payload is written of is the one that it is opened to
      obtain rfl := Envelope.encode_injective hfits hother hsame
      simp [hvalid]

/-- A payload is accepted exactly if a holder of the secret sends it with parameters that are
admitted. -/
theorem verify_eq_ok_true_iff :
    verify algorithm secret serverNonce clientNonce payload maxIterations = .ok true ↔
      ∃ derivation, Admits algorithm maxIterations derivation ∧
        respond algorithm secret serverNonce clientNonce derivation = .ok payload := by
  by_cases hmethod : algorithm.method = .pbkdf2
  · constructor
    · intro h
      rcases verify_cases hmethod payload maxIterations with
        ⟨envelope, hfits, rfl, hvalid, hverify⟩ | ⟨refusal, -, hverify⟩
      · rw [hverify, Except.ok.injEq, isGiven_iff] at h
        exact ⟨some envelope.derivation, ⟨hmethod, hfits.salt, hvalid⟩,
          (respond_some_eq_ok_iff hmethod).2 ⟨envelope.mac, h, rfl⟩⟩
      · cases (hverify secret serverNonce clientNonce).symm.trans h
    · rintro ⟨derivation | derivation, hadmits, hsent⟩
      · exact absurd hmethod hadmits
      · obtain ⟨-, hsalt, hvalid⟩ := hadmits
        obtain ⟨mac, hcompute, rfl⟩ := (respond_some_eq_ok_iff hmethod).1 hsent
        rw [verify_envelope hmethod (Nat.le_sub_one_of_lt hsalt)
          (Nat.le_sub_one_of_lt (length_of_compute hcompute).2) hvalid, isGiven_iff.2 hcompute]
  · rw [verify_bare hmethod, Except.ok.injEq, isGiven_iff]
    constructor
    · intro hcompute
      exact ⟨none, hmethod, respond_none.trans hcompute⟩
    · rintro ⟨derivation | derivation, hadmits, hsent⟩
      · exact respond_none.symm.trans hsent
      · exact absurd hadmits.1 hmethod

/-- A payload cannot be checked exactly if a key is to be derived and the payload is no envelope
with acceptable parameters. -/
theorem exists_verify_eq_error_iff :
    (∃ refusal, verify algorithm secret serverNonce clientNonce payload maxIterations =
        .error refusal) ↔
      algorithm.method = .pbkdf2 ∧
        ∀ envelope : Envelope, envelope.Fits → payload = envelope.encode →
          envelope.derivation.validate maxIterations ≠ .ok () := by
  by_cases hmethod : algorithm.method = .pbkdf2
  · rw [and_iff_right hmethod]
    rcases verify_cases hmethod payload maxIterations with
      ⟨envelope, hfits, rfl, hvalid, hverify⟩ | ⟨refusal, hinvalid, hverify⟩
    · refine iff_of_false ?_ fun hnone => hnone envelope hfits rfl hvalid
      rintro ⟨refusal, herror⟩
      cases (hverify secret serverNonce clientNonce).symm.trans herror
    · exact iff_of_true ⟨refusal, hverify ..⟩ hinvalid
  · refine iff_of_false ?_ fun h => hmethod h.1
    rintro ⟨refusal, herror⟩
    cases (verify_bare hmethod ..).symm.trans herror

/-- The refusal is read off the payload. -/
theorem verify_eq_error_congr {refusal : Refusal}
    (h : verify algorithm secret serverNonce clientNonce payload maxIterations = .error refusal)
    (otherSecret otherServerNonce otherClientNonce : Bytes) :
    verify algorithm otherSecret otherServerNonce otherClientNonce payload maxIterations =
      .error refusal := by
  by_cases hmethod : algorithm.method = .pbkdf2
  · rcases verify_cases hmethod payload maxIterations with
      ⟨envelope, -, -, -, hverify⟩ | ⟨other, -, hverify⟩
    · cases (hverify secret serverNonce clientNonce).symm.trans h
    · rw [hverify] at h ⊢
      exact h
  · cases (verify_bare hmethod ..).symm.trans h

/-- The parameters are read off the payload. -/
theorem derivation_of_respond {first second : Option Derivation}
    (hfirst : Admits algorithm maxIterations first)
    (hsecond : Admits algorithm maxIterations second)
    (hsent : respond algorithm secret serverNonce clientNonce first = .ok payload)
    (hsame : respond algorithm secret serverNonce clientNonce second = .ok payload) :
    first = second := by
  cases first with
  | none =>
    cases second with
    | none => rfl
    | some other => exact absurd hsecond.1 hfirst
  | some derivation =>
    cases second with
    | none => exact absurd hfirst.1 hsecond
    | some other =>
      obtain ⟨mac, hmac, hpayload⟩ := (respond_some_eq_ok_iff hfirst.1).1 hsent
      obtain ⟨otherMac, hotherMac, hotherPayload⟩ := (respond_some_eq_ok_iff hfirst.1).1 hsame
      have hfits : Envelope.Fits { derivation, mac } :=
        ⟨hfirst.2.1, (length_of_compute hmac).2⟩
      have hotherFits : Envelope.Fits { derivation := other, mac := otherMac } :=
        ⟨hsecond.2.1, (length_of_compute hotherMac).2⟩
      have hsameEnvelope :=
        Envelope.encode_injective hfits hotherFits (hpayload.trans hotherPayload.symm)
      rw [Envelope.mk.injEq] at hsameEnvelope
      exact congrArg some hsameEnvelope.1

/-! ### Which keys are derived -/

/-- A check derives a key where it opens an envelope with acceptable parameters, whatever keys are
given, and this key only. -/
theorem mem_transcript_checking_iff {answer : (asked : KeyDerivation) → Bytes}
    {asked : KeyDerivation} :
    asked ∈ (checking algorithm secret serverNonce clientNonce payload maxIterations).transcript
        answer ↔
      algorithm.method = .pbkdf2 ∧ ∃ envelope, Envelope.decode payload = .ok envelope ∧
        envelope.derivation.validate maxIterations = .ok () ∧
          asked = { derivation := envelope.derivation, secret } := by
  unfold checking computing
  cases hmethod : algorithm.method with
  | digest digest => simp
  | hmac digest => simp
  | pbkdf2 =>
    cases hdecode : Envelope.decode payload with
    | error refusal => simp
    | ok envelope =>
      cases hvalid : envelope.derivation.validate maxIterations with
      | error refusal => simp [hvalid]
      | ok done => simp [hvalid]

/-- What a check does with a payload. It is accepted exactly if it is what a holder of the secret
sends with parameters that are admitted, and these can be read off it. It cannot be checked exactly
if a key is to be derived and it is no envelope with acceptable parameters, and then the refusal is
the same under every secret and all nonces. A key is derived exactly with the parameters of an
envelope, and only if the number of iterations is positive and within the limit and the length is in
whole bytes of at most 1024 bits. -/
theorem verify_accepts_exactly_responses (algorithm : Algorithm)
    (secret serverNonce clientNonce payload : Bytes) (maxIterations : UInt32) :
    (verify algorithm secret serverNonce clientNonce payload maxIterations = .ok true ↔
      ∃ derivation, Admits algorithm maxIterations derivation ∧
        respond algorithm secret serverNonce clientNonce derivation = .ok payload) ∧
    (∀ first second, Admits algorithm maxIterations first → Admits algorithm maxIterations second →
      respond algorithm secret serverNonce clientNonce first = .ok payload →
        respond algorithm secret serverNonce clientNonce second = .ok payload → first = second) ∧
    ((∃ refusal, verify algorithm secret serverNonce clientNonce payload maxIterations =
        .error refusal) ↔
      algorithm.method = .pbkdf2 ∧
        ∀ envelope : Envelope, envelope.Fits → payload = envelope.encode →
          envelope.derivation.validate maxIterations ≠ .ok ()) ∧
    (∀ (otherSecret otherServerNonce otherClientNonce : Bytes) (refusal : Refusal),
      verify algorithm secret serverNonce clientNonce payload maxIterations = .error refusal ↔
        verify algorithm otherSecret otherServerNonce otherClientNonce payload maxIterations =
          .error refusal) ∧
    (checking algorithm secret serverNonce clientNonce payload maxIterations).run
        KeyDerivation.key =
      verify algorithm secret serverNonce clientNonce payload maxIterations ∧
    ∀ answer asked, asked ∈ (checking algorithm secret serverNonce clientNonce payload
        maxIterations).transcript answer ↔
      (algorithm.method = .pbkdf2 ∧ asked.secret = secret ∧
        ∃ envelope : Envelope, envelope.Fits ∧ payload = envelope.encode ∧
          asked.derivation = envelope.derivation) ∧
      (asked.derivation.iterations ≠ 0 ∧ asked.derivation.iterations ≤ maxIterations) ∧
        asked.derivation.lengthBits ≠ 0 ∧ asked.derivation.lengthBits % 8 = 0 ∧
          asked.derivation.lengthBits ≤ 1024 := by
  refine ⟨verify_eq_ok_true_iff, fun first second => derivation_of_respond,
    exists_verify_eq_error_iff, fun otherSecret otherServerNonce otherClientNonce refusal => ?_,
    rfl, fun answer asked => ?_⟩
  · constructor
    · intro herror
      exact verify_eq_error_congr herror ..
    · intro herror
      exact verify_eq_error_congr herror ..
  · rw [mem_transcript_checking_iff, ← Derivation.maxLengthBits, ← Derivation.validate_eq_ok_iff]
    constructor
    · rintro ⟨hmethod, envelope, hdecode, hvalid, rfl⟩
      obtain ⟨hfits, hpayload⟩ := Envelope.decode_eq_ok_iff.1 hdecode
      exact ⟨⟨hmethod, rfl, envelope, hfits, hpayload, rfl⟩, hvalid⟩
    · rintro ⟨⟨hmethod, hsecret, envelope, hfits, hpayload, hsame⟩, hvalid⟩
      refine ⟨hmethod, envelope, Envelope.decode_eq_ok_iff.2 ⟨hfits, hpayload⟩, hsame ▸ hvalid, ?_⟩
      cases asked
      cases hsecret
      cases hsame
      rfl

end HandleChallenge.Mac
