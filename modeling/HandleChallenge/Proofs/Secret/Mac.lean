import HandleChallenge.Proofs.Secret.Envelope
import HandleChallenge.Secret.Mac

/-!
# Checking a MAC

A check compares the MAC in a payload with the one that the secret gives. Where a key is derived,
the MAC is in an envelope with the parameters of the derivation; `Mac.verify_envelope` says that the
check then is the same comparison. A check cannot be made at all where the parameters are not
acceptable.
-/

namespace HandleChallenge

/-- A digest has at least one byte, and no more than thirty-two. -/
theorem Digest.length_hash (digest : Digest) (message : Bytes) :
    0 < (digest.hash message).length ∧ (digest.hash message).length < UInt32.size := by
  cases digest with
  | md5 =>
    rw [Digest.hash, Hash.Md5.length_hash]
    decide
  | sha1 =>
    rw [Digest.hash, Hash.Sha1.length_hash]
    decide
  | sha256 =>
    rw [Digest.hash, Hash.Sha256.length_hash]
    decide

/-- The parameters that are acceptable. -/
theorem Derivation.validate_eq_ok_iff {derivation : Derivation} {maxIterations : UInt32} :
    derivation.validate maxIterations = .ok () ↔
      (derivation.iterations ≠ 0 ∧ derivation.iterations ≤ maxIterations) ∧
        derivation.lengthBits ≠ 0 ∧ derivation.lengthBits % 8 = 0 ∧
          derivation.lengthBits ≤ maxLengthBits := by
  unfold validate
  split
  · rename_i hiterations
    simp only [reduceCtorEq, false_iff]
    rintro ⟨⟨hpositive, hle⟩, -⟩
    rcases hiterations with hzero | hlt
    · exact hpositive hzero
    · exact UInt32.not_lt.2 hle hlt
  · rename_i hiterations
    simp only [not_or, UInt32.not_lt] at hiterations
    split
    · rename_i hlength
      simp only [reduceCtorEq, false_iff]
      rintro ⟨-, hpositive, hwhole, hle⟩
      rcases hlength with hzero | hpart | hlt
      · exact hpositive hzero
      · exact hpart hwhole
      · exact UInt32.not_lt.2 hle hlt
    · rename_i hlength
      simp only [not_or, not_not, UInt32.not_lt] at hlength
      simp only [true_iff]
      exact ⟨hiterations, hlength⟩

/-- Other parameters are refused. -/
theorem Derivation.exists_validate_eq_error {derivation : Derivation} {maxIterations : UInt32}
    (h : derivation.validate maxIterations ≠ .ok ()) :
    ∃ refusal, derivation.validate maxIterations = .error refusal := by
  cases hvalid : derivation.validate maxIterations with
  | ok value => exact absurd hvalid h
  | error refusal => exact ⟨refusal, rfl⟩

/-- Such parameters are told to be malformed. -/
theorem Derivation.exists_reason_of_validate {derivation : Derivation} {maxIterations : UInt32}
    {refusal : Refusal} (h : derivation.validate maxIterations = .error refusal) :
    ∃ reason, refusal = .malformedResponse reason := by
  unfold validate at h
  split at h
  · cases h
    exact ⟨_, rfl⟩
  · split at h
    · cases h
      exact ⟨_, rfl⟩
    · cases h

namespace Mac

open Checks (bind_of_ok bind_of_error)

variable {algorithm : Algorithm} {derivation : Derivation} {mac : Bytes} {maxIterations : UInt32}

/-- The secret gives the MAC. -/
def isGiven (algorithm : Algorithm) (secret serverNonce clientNonce : Bytes)
    (derivation : Option Derivation) (mac : Bytes) : Bool :=
  match compute algorithm secret serverNonce clientNonce derivation with
  | .ok expected => expected == mac
  | .error _ => false

theorem isGiven_iff {secret serverNonce clientNonce : Bytes} {derivation : Option Derivation} :
    isGiven algorithm secret serverNonce clientNonce derivation mac = true ↔
      compute algorithm secret serverNonce clientNonce derivation = .ok mac := by
  unfold isGiven
  cases compute algorithm secret serverNonce clientNonce derivation with
  | error refusal => simp
  | ok expected => simp

/-- A MAC has at least one byte, and few enough to be announced. -/
theorem length_of_compute {secret serverNonce clientNonce : Bytes}
    {derivation : Option Derivation}
    (h : compute algorithm secret serverNonce clientNonce derivation = .ok mac) :
    0 < mac.length ∧ mac.length < UInt32.size := by
  rw [compute_eq] at h
  split at h
  · cases h
    exact Digest.length_hash _ _
  · cases h
    exact Digest.length_hash _ _
  · split at h
    · cases h
      exact Digest.length_hash .sha1 _
    · cases h

/-- A bare MAC is compared with the one that the secret gives. -/
theorem verify_bare (h : algorithm.method ≠ .pbkdf2) (secret serverNonce clientNonce mac : Bytes)
    (maxIterations : UInt32) :
    verify algorithm secret serverNonce clientNonce mac maxIterations =
      .ok (isGiven algorithm secret serverNonce clientNonce none mac) := by
  rw [verify_of_ne_pbkdf2 h, isGiven, compute_eq]
  cases hmethod : algorithm.method with
  | digest digest => rfl
  | hmac digest => rfl
  | pbkdf2 => exact absurd hmethod h

/-- So is the MAC in an envelope whose parameters are acceptable. -/
theorem verify_envelope (hmethod : algorithm.method = .pbkdf2)
    (hsalt : derivation.salt.length ≤ Field.maxLength) (hmac : mac.length ≤ Field.maxLength)
    (hvalid : derivation.validate maxIterations = .ok ()) (secret serverNonce clientNonce : Bytes) :
    verify algorithm secret serverNonce clientNonce (Envelope.encode { derivation, mac })
        maxIterations =
      .ok (isGiven algorithm secret serverNonce clientNonce (some derivation) mac) := by
  have hdecode : Envelope.decode (Envelope.encode { derivation, mac }) = _ :=
    Envelope.decode_encode (.of_le hsalt hmac)
  rw [verify_of_pbkdf2 hmethod, bind_of_ok hdecode, bind_of_ok hvalid, isGiven, compute_eq]
  simp only [hmethod]
  rfl

/-- An envelope whose parameters are not acceptable is not checked. -/
theorem verify_envelope_of_invalid (hmethod : algorithm.method = .pbkdf2)
    (hsalt : derivation.salt.length ≤ Field.maxLength) (hmac : mac.length ≤ Field.maxLength)
    {refusal : Refusal} (hinvalid : derivation.validate maxIterations = .error refusal)
    (secret serverNonce clientNonce : Bytes) :
    verify algorithm secret serverNonce clientNonce (Envelope.encode { derivation, mac })
        maxIterations = .error refusal := by
  have hdecode : Envelope.decode (Envelope.encode { derivation, mac }) = _ :=
    Envelope.decode_encode (.of_le hsalt hmac)
  rw [verify_of_pbkdf2 hmethod, bind_of_ok hdecode, bind_of_error hinvalid]

end Mac

end HandleChallenge
