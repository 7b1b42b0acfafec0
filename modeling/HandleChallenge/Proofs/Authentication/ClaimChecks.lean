import HandleChallenge.Proofs.Authentication.Claim
import HandleChallenge.Proofs.Secret.Mac

/-!
# The checks of a claim in their order

A claim has to pass a list of checks, which is longer where a key is to be derived. `ClaimCheck`
names them, with when each passes and what refusal it fails with. `makes_decode` says that the
decoding of a claim makes them in their order: the claim goes through if all of them pass, and else
is refused as the first that fails says.
-/

namespace HandleChallenge.Authentication

open Checks (Runs)
open Claim (textOf bytesOf numberOf)
open Header (Known Params)

/-- A check that a claim has to pass. -/
inductive ClaimCheck where
  /-- No part of the claim is absent. -/
  | complete
  /-- The kind of credential is known. -/
  | kind
  /-- The name of the algorithm is known. -/
  | algorithm
  /-- The identity can be read. -/
  | identity
  /-- A parameter is base64. -/
  | bytes (known : Known)
  /-- No parameter of a derived key is absent. -/
  | derivationComplete
  /-- A parameter is a number. -/
  | number (known : Known)
  /-- The parameters of a derived key are within the limits. -/
  | limits
  /-- A signature is made with a hash. -/
  | signatureHash

/-- The parts of every claim. -/
def Claim.parts : List Known := [.id, .cnonce, .type, .alg, .signature]

/-- The parameters of a derived key. -/
def Claim.derivationParts : List Known := [.salt, .iterations, .length]

/-- The algorithm is known as one under which a key is derived. -/
def Claim.derivesKey (params : Params) : Bool :=
  (Algorithm.resolve (textOf params .alg)).toOption.any (·.method = .pbkdf2)

namespace ClaimCheck

/-- The checks that are made of a derived key. -/
def derived : List ClaimCheck :=
  [.derivationComplete, .bytes .salt, .number .iterations, .number .length, .limits]

/-- The checks in their order. -/
def order (params : Params) : List ClaimCheck :=
  .complete :: .kind :: .algorithm :: .identity :: .bytes .cnonce :: .bytes .signature ::
    ((if Claim.derivesKey params then derived else []) ++ [.signatureHash])

/-- The claim passes the check. -/
def Passes (maxIterations : UInt32) (params : Params) : ClaimCheck → Prop
  | complete => ∀ known ∈ Claim.parts, params.has known = true
  | kind => ∃ kind : CredentialKind, textOf params .type = kind.tag
  | algorithm => ∃ algorithm, Algorithm.resolve (textOf params .alg) = .ok algorithm
  | identity => ∃ identity, Identity.parse (textOf params .id) = .ok identity
  | bytes known =>
    ∃ bytes, Text.Base64.decodeList? (Text.trim (textOf params known).toList) = some bytes
  | derivationComplete => ∀ known ∈ Claim.derivationParts, params.has known = true
  | number known =>
    ∃ n, Text.Decimal.parse? UInt32.size (Text.trim (textOf params known).toList) = some n
  | limits => ∀ iterations lengthBits, numberOf params .iterations = .ok iterations →
    numberOf params .length = .ok lengthBits →
      (iterations ≠ 0 ∧ iterations ≤ maxIterations) ∧
        lengthBits ≠ 0 ∧ lengthBits % 8 = 0 ∧ lengthBits ≤ 1024
  | signatureHash => textOf params .type = CredentialKind.publicKey.tag →
    ∀ algorithm, Algorithm.resolve (textOf params .alg) = .ok algorithm →
      ∃ digest, algorithm.digest? = some digest

/-- The refusal of a claim that fails the check. -/
def Tells (params : Params) : ClaimCheck → Refusal → Prop
  | complete, refusal => ∃ missing, Claim.parts.find? (!params.has ·) = some missing ∧
    refusal = .incomplete ("missing " ++ missing.key)
  | kind, refusal => refusal = .unsupportedAlgorithm ("credential type " ++ textOf params .type)
  | algorithm, refusal => refusal = .unsupportedAlgorithm (textOf params .alg)
  | identity, refusal => ∃ error, Identity.parse (textOf params .id) = .error error ∧
    refusal = .unresolvable error.message
  | bytes known, refusal => refusal = .malformedResponse (known.key ++ " is not base64")
  | derivationComplete, refusal =>
    refusal = .incomplete "PBKDF2 needs salt, iterations and length"
  | number known, refusal => refusal = .malformedResponse (known.key ++ " is not a number")
  | limits, refusal => ∃ reason, refusal = .malformedResponse reason
  | signatureHash, refusal => ∃ algorithm, Algorithm.resolve (textOf params .alg) = .ok algorithm ∧
    refusal = SignedResponse.notSignatureHash algorithm

/-- The first check in order that the claim fails. -/
structure IsFirstFailure (check : ClaimCheck) (maxIterations : UInt32) (params : Params) :
    Prop where
  earlier_pass : ∃ before after, order params = before ++ check :: after ∧
    ∀ earlier ∈ before, earlier.Passes maxIterations params
  fails : ¬ check.Passes maxIterations params

variable {maxIterations : UInt32} {params : Params} {known : Known}

/-- A computation makes checks of the claim, in their order. -/
abbrev Makes {α : Type} (maxIterations : UInt32) (params : Params) (checks : List ClaimCheck)
    (checked : Except Refusal α) : Prop :=
  Runs (Passes maxIterations params) (Tells params) checks checked

/-! ### One check -/

theorem makes_kindOf : Makes maxIterations params [.kind] (Claim.kindOf (textOf params .type)) := by
  refine .single ?_ fun hfails => ?_
  · rintro ⟨kind, htag⟩
    exact ⟨kind, Claim.kindOf_eq_ok_iff.2 htag⟩
  · unfold Claim.kindOf
    cases htag : CredentialKind.ofTag? (textOf params .type) with
    | none => exact ⟨_, rfl, rfl⟩
    | some kind => exact absurd ⟨kind, CredentialKind.ofTag?_eq_some_iff.1 htag⟩ hfails

theorem makes_resolve :
    Makes maxIterations params [.algorithm] (Algorithm.resolve (textOf params .alg)) := by
  refine .single id fun hfails => ?_
  cases hresolve : Algorithm.resolve (textOf params .alg) with
  | ok algorithm => exact absurd ⟨algorithm, hresolve⟩ hfails
  | error refusal =>
    unfold Algorithm.resolve at hresolve
    split at hresolve
    · cases hresolve
    · cases hresolve
      exact ⟨_, rfl, rfl⟩

theorem makes_identityOf :
    Makes maxIterations params [.identity] (Claim.identityOf (textOf params .id)) := by
  unfold Claim.identityOf
  refine .single ?_ fun hfails => ?_
  · rintro ⟨identity, hparse⟩
    rw [hparse]
    exact ⟨identity, rfl⟩
  · cases hparse : Identity.parse (textOf params .id) with
    | ok identity => exact absurd ⟨identity, hparse⟩ hfails
    | error error => exact ⟨_, ⟨error, hparse, rfl⟩, rfl⟩

theorem makes_bytesOf (known : Known) :
    Makes maxIterations params [.bytes known] (bytesOf params known) := by
  unfold bytesOf
  refine .single ?_ fun hfails => ?_
  · rintro ⟨bytes, hdecode⟩
    rw [hdecode]
    exact ⟨bytes, rfl⟩
  · cases hdecode : Text.Base64.decodeList? (Text.trim (textOf params known).toList) with
    | none => exact ⟨_, rfl, rfl⟩
    | some bytes => exact absurd ⟨bytes, hdecode⟩ hfails

theorem makes_numberOf (known : Known) :
    Makes maxIterations params [.number known] (numberOf params known) := by
  unfold numberOf
  refine .single ?_ fun hfails => ?_
  · rintro ⟨n, hparse⟩
    rw [hparse]
    exact ⟨UInt32.ofNat n, rfl⟩
  · cases hparse : Text.Decimal.parse? UInt32.size (Text.trim (textOf params known).toList) with
    | none => exact ⟨_, rfl, rfl⟩
    | some n => exact absurd ⟨n, hparse⟩ hfails

theorem makes_validate {derivation : Derivation}
    (hiterations : numberOf params .iterations = .ok derivation.iterations)
    (hlength : numberOf params .length = .ok derivation.lengthBits) :
    Makes maxIterations params [.limits] (derivation.validate maxIterations) := by
  refine .single (fun hlimits => ⟨(), ?_⟩) fun hfails => ?_
  · exact Derivation.validate_eq_ok_iff.2 (hlimits _ _ hiterations hlength)
  · cases hvalid : derivation.validate maxIterations with
    | ok done =>
      refine absurd (fun iterations lengthBits hother hotherLength => ?_) hfails
      cases hiterations.symm.trans hother
      cases hlength.symm.trans hotherLength
      exact Derivation.validate_eq_ok_iff.1 hvalid
    | error refusal =>
      obtain ⟨reason, rfl⟩ := Derivation.exists_reason_of_validate hvalid
      exact ⟨_, ⟨reason, rfl⟩, rfl⟩

/-! ### The checks of a derived key -/

/-- Refuses a derived key of which a parameter is absent. -/
def requireDerivation (params : Params) : Except Refusal Unit :=
  if [Known.salt, .iterations, .length].all params.has = false then
    .error (.incomplete "PBKDF2 needs salt, iterations and length")
  else .ok ()

theorem makes_requireDerivation :
    Makes maxIterations params [.derivationComplete] (requireDerivation params) := by
  unfold requireDerivation
  refine .single (fun hhas => ⟨(), if_neg ?_⟩) fun hfails => ⟨_, rfl, if_pos ?_⟩
  · rw [Bool.not_eq_false, List.all_eq_true]
    exact hhas
  · rw [← Bool.not_eq_true, List.all_eq_true]
    exact hfails

theorem derivationOf_eq : Claim.derivationOf maxIterations params = (do
    requireDerivation params
    let salt ← bytesOf params .salt
    let iterations ← numberOf params .iterations
    let lengthBits ← numberOf params .length
    (fun _ => { salt, iterations, lengthBits }) <$>
      Derivation.validate { salt, iterations, lengthBits } maxIterations) := by
  unfold Claim.derivationOf requireDerivation
  split
  · rfl
  · rfl

theorem makes_derivationOf :
    Makes maxIterations params derived (Claim.derivationOf maxIterations params) := by
  rw [derivationOf_eq]
  refine makes_requireDerivation.bind fun _ _ => (makes_bytesOf .salt).bind fun salt hsalt =>
    (makes_numberOf .iterations).bind fun iterations hiterations =>
      (makes_numberOf .length).bind fun lengthBits hlength => ?_
  exact Runs.map (makes_validate hiterations hlength) _

variable {kind : CredentialKind} {algorithm : Algorithm} {derivation : Option Derivation}

theorem makes_derivationFor
    (halgorithm : Algorithm.resolve (textOf params .alg) = .ok algorithm) :
    Makes maxIterations params (if Claim.derivesKey params then derived else [])
      (Claim.derivationFor maxIterations params algorithm) := by
  unfold Claim.derivationFor Claim.derivesKey
  rw [halgorithm]
  by_cases hmethod : algorithm.method = .pbkdf2
  · rw [if_pos hmethod, if_pos (by simpa [Except.toOption] using hmethod)]
    exact Runs.map makes_derivationOf some
  · rw [if_neg hmethod, if_neg (by simpa [Except.toOption] using hmethod)]
    exact Runs.of_ok none

/-! ### The whole claim -/

/-- Refuses a claim of which a part is absent. -/
def requireParts (params : Params) : Except Refusal Unit :=
  match params.missing? with
  | some missing => .error (.incomplete ("missing " ++ missing.key))
  | none => .ok ()

theorem makes_requireParts : Makes maxIterations params [.complete] (requireParts params) := by
  unfold requireParts
  refine .single (fun hhas => ?_) fun hfails => ?_
  · rw [Params.missing?_eq_none_iff.2 hhas]
    exact ⟨(), rfl⟩
  · cases hmissing : params.missing? with
    | none => exact absurd (Params.missing?_eq_none_iff.1 hmissing) hfails
    | some missing => exact ⟨_, ⟨missing, hmissing, rfl⟩, rfl⟩

/-- A MAC is put together with what was read for it. -/
theorem exists_ofParts_secretKey
    (hderivation : Claim.derivationFor maxIterations params algorithm = .ok derivation)
    (raw : Bytes) :
    ∃ response, SignedResponse.ofParts .secretKey algorithm raw derivation = .ok response := by
  unfold SignedResponse.ofParts
  cases hmethod : algorithm.method with
  | digest digest => exact ⟨_, rfl⟩
  | hmac digest => exact ⟨_, rfl⟩
  | pbkdf2 =>
    unfold Claim.derivationFor at hderivation
    rw [if_pos hmethod] at hderivation
    obtain ⟨read, -, rfl⟩ := Checks.map_eq_ok_iff.1 hderivation
    exact ⟨_, rfl⟩

theorem makes_ofParts (hkind : Claim.kindOf (textOf params .type) = .ok kind)
    (halgorithm : Algorithm.resolve (textOf params .alg) = .ok algorithm)
    (hderivation : Claim.derivationFor maxIterations params algorithm = .ok derivation)
    (raw : Bytes) :
    Makes maxIterations params [.signatureHash]
      (SignedResponse.ofParts kind algorithm raw derivation) := by
  have htag := Claim.kindOf_eq_ok_iff.1 hkind
  cases kind with
  | secretKey =>
    refine .single (fun _ => exists_ofParts_secretKey hderivation raw) fun hfails => ?_
    refine absurd (fun hpublic => ?_) hfails
    exact absurd (hpublic.symm.trans htag) (by decide)
  | publicKey =>
    unfold SignedResponse.ofParts SignedResponse.ofSignature Algorithm.isSignatureHash
    refine .single (fun hhash => ?_) fun hfails => ?_
    · obtain ⟨digest, hdigest⟩ := hhash htag algorithm halgorithm
      rw [hdigest]
      exact ⟨_, rfl⟩
    · cases hdigest : algorithm.digest? with
      | none => exact ⟨_, ⟨algorithm, halgorithm, rfl⟩, rfl⟩
      | some digest =>
        refine absurd (fun _ other hother => ?_) hfails
        cases halgorithm.symm.trans hother
        exact ⟨digest, hdigest⟩

theorem decode_eq : Claim.decode maxIterations params = (do
    requireParts params
    let kind ← Claim.kindOf (textOf params .type)
    let algorithm ← Algorithm.resolve (textOf params .alg)
    let identity ← Claim.identityOf (textOf params .id)
    let clientNonce ← bytesOf params .cnonce
    let raw ← bytesOf params .signature
    let derivation ← Claim.derivationFor maxIterations params algorithm
    let response ← SignedResponse.ofParts kind algorithm raw derivation
    return { identity, response, clientNonce }) := by
  unfold Claim.decode requireParts
  cases params.missing? with
  | some missing => exact (Checks.bind_of_error rfl _).trans (Checks.bind_of_error rfl _).symm
  | none =>
    rw [Checks.bind_of_ok rfl]
    simp only [pure_bind, ← Claim.derivationFor_bind]

/-- The checks are made in their order. -/
theorem makes_decode :
    Makes maxIterations params (order params) (Claim.decode maxIterations params) := by
  rw [decode_eq]
  exact makes_requireParts.bind fun _ _ => makes_kindOf.bind fun kind hkind =>
    makes_resolve.bind fun algorithm halgorithm => makes_identityOf.bind fun identity _ =>
      (makes_bytesOf .cnonce).bind fun clientNonce _ => (makes_bytesOf .signature).bind fun raw _ =>
        (makes_derivationFor halgorithm).bind fun derivation hderivation =>
          (makes_ofParts hkind halgorithm hderivation raw).bind fun response _ => .of_ok _

/-- A claim that does not pass every check fails one first. -/
theorem passes_or_exists_isFirstFailure (maxIterations : UInt32) (params : Params) :
    (∀ check ∈ order params, check.Passes maxIterations params) ∨
      ∃ check : ClaimCheck, check.IsFirstFailure maxIterations params := by
  rcases Checks.exists_first_or (fun check => ¬ check.Passes maxIterations params)
    (order params) with ⟨before, check, after, hsplit, hfails, hbefore⟩ | hnone
  · have hpassed : ∀ earlier ∈ before, earlier.Passes maxIterations params :=
      fun earlier hmem => not_not.1 (hbefore earlier hmem)
    exact .inr ⟨check, ⟨before, after, hsplit, hpassed⟩, hfails⟩
  · exact .inl fun check hmem => not_not.1 (hnone check hmem)

/-- A claim is refused as the first check says that it fails. -/
theorem IsFirstFailure.decode {check : ClaimCheck}
    (h : check.IsFirstFailure maxIterations params) :
    ∃ refusal, check.Tells params refusal ∧ Claim.decode maxIterations params = .error refusal := by
  obtain ⟨before, after, horder, hbefore⟩ := h.earlier_pass
  exact makes_decode.error before check after horder hbefore h.fails

end ClaimCheck

end HandleChallenge.Authentication
