import HandleChallenge.Authentication.Claim
import HandleChallenge.Proofs.Checks
import HandleChallenge.Proofs.Header.Merge
import HandleChallenge.Proofs.Text.Fields

/-!
# What a claim is read from

`decode_eq_ok_iff` lists the checks that a claim has to pass. A claim that passes them is complete,
so parameters that say more, without contradiction, make the same claim (`decode_of_extends`).
-/

namespace HandleChallenge.Authentication.Claim

open Checks (bind_eq_ok_iff map_eq_ok_iff pure_eq_ok_iff)
open Header (Known Params)

variable {maxIterations : UInt32} {params more : Params} {claim : Claim}

theorem kindOf_eq_ok_iff {tag : String} {kind : CredentialKind} :
    kindOf tag = .ok kind ↔ tag = kind.tag := by
  rw [← CredentialKind.ofTag?_eq_some_iff]
  unfold kindOf
  cases CredentialKind.ofTag? tag with
  | none => simp
  | some other => simp

theorem textOf_of_extends (h : params.Extends more) {known : Known}
    (hhas : params.has known = true) : textOf more known = textOf params known := by
  rw [textOf, textOf, h.known?_eq hhas]

theorem bytesOf_of_extends (h : params.Extends more) {known : Known}
    (hhas : params.has known = true) : bytesOf more known = bytesOf params known := by
  rw [bytesOf, bytesOf, textOf_of_extends h hhas]

theorem numberOf_of_extends (h : params.Extends more) {known : Known}
    (hhas : params.has known = true) : numberOf more known = numberOf params known := by
  rw [numberOf, numberOf, textOf_of_extends h hhas]

/-- Bytes are read as they were written. -/
theorem bytesOf_of_encode {known : Known} {bytes : Bytes}
    (h : params.known? known = some (Text.Base64.encode bytes)) :
    bytesOf params known = .ok bytes := by
  have htext : (textOf params known).toList = Text.Base64.encodeList bytes := by
    rw [textOf, h]
    exact String.toList_ofList
  rw [bytesOf, htext, Text.Base64.decodeList?_trim_encodeList]

/-- A number is read as it was written. -/
theorem numberOf_of_text {known : Known} {number : UInt32}
    (h : params.known? known = some (Text.Decimal.text number.toNat)) :
    numberOf params known = .ok number := by
  have htext : (textOf params known).toList = Text.Decimal.print number.toNat := by
    rw [textOf, h]
    exact String.toList_ofList
  rw [numberOf, htext, Text.Decimal.parse?_trim_print number.toNat_lt]
  simp only [UInt32.ofNat_toNat]

/-- The parameters of a derived key that are accepted can all be read, and are within the limit. -/
theorem derivationOf_eq_ok_iff {derivation : Derivation} :
    derivationOf maxIterations params = .ok derivation ↔
      (∀ known ∈ [Known.salt, .iterations, .length], params.has known = true) ∧
        bytesOf params .salt = .ok derivation.salt ∧
        numberOf params .iterations = .ok derivation.iterations ∧
        numberOf params .length = .ok derivation.lengthBits ∧
        derivation.validate maxIterations = .ok () := by
  rw [← List.all_eq_true]
  unfold derivationOf
  cases [Known.salt, .iterations, .length].all params.has with
  | false =>
    constructor
    · intro h
      cases h
    · rintro ⟨h, -⟩
      cases h
  | true =>
    simp only [Bool.true_eq_false, if_false, bind_eq_ok_iff, pure_eq_ok_iff, true_and]
    constructor
    · rintro ⟨salt, hsalt, iterations, hiterations, lengthBits, hlength, ⟨⟩, hvalid, rfl⟩
      exact ⟨hsalt, hiterations, hlength, hvalid⟩
    · rintro ⟨hsalt, hiterations, hlength, hvalid⟩
      exact ⟨_, hsalt, _, hiterations, _, hlength, (), hvalid, rfl⟩

theorem derivationOf_of_extends (h : params.Extends more) {derivation : Derivation}
    (hderivation : derivationOf maxIterations params = .ok derivation) :
    derivationOf maxIterations more = .ok derivation := by
  obtain ⟨hhas, hsalt, hiterations, hlength, hvalid⟩ := derivationOf_eq_ok_iff.1 hderivation
  refine derivationOf_eq_ok_iff.2
    ⟨fun known hmem => h.has (hhas known hmem), ?_, ?_, ?_, hvalid⟩
  · rwa [bytesOf_of_extends h (hhas .salt (by simp))]
  · rwa [numberOf_of_extends h (hhas .iterations (by simp))]
  · rwa [numberOf_of_extends h (hhas .length (by simp))]

/-- The derived-key parameters of a claim, which only one method has. -/
def derivationFor (maxIterations : UInt32) (params : Params) (algorithm : Algorithm) :
    Except Refusal (Option Derivation) :=
  if algorithm.method = .pbkdf2 then some <$> derivationOf maxIterations params else pure none

theorem derivationFor_bind {α : Type} (algorithm : Algorithm)
    (rest : Option Derivation → Except Refusal α) :
    (derivationFor maxIterations params algorithm >>= rest) =
      if algorithm.method = .pbkdf2 then
        (some <$> derivationOf maxIterations params) >>= rest
      else rest none := by
  unfold derivationFor
  split
  · rfl
  · rfl

/-- The checks that a claim has to pass. -/
theorem decode_eq_ok_iff :
    decode maxIterations params = .ok claim ↔
      params.missing? = none ∧ ∃ kind algorithm raw derivation,
        kindOf (textOf params .type) = .ok kind ∧
        Algorithm.resolve (textOf params .alg) = .ok algorithm ∧
        identityOf (textOf params .id) = .ok claim.identity ∧
        bytesOf params .cnonce = .ok claim.clientNonce ∧
        bytesOf params .signature = .ok raw ∧
        derivationFor maxIterations params algorithm = .ok derivation ∧
        SignedResponse.ofParts kind algorithm raw derivation = .ok claim.response := by
  unfold decode
  cases params.missing? with
  | some missing =>
    constructor
    · intro h
      cases h
    · rintro ⟨h, -⟩
      cases h
  | none =>
    simp only [pure_bind, ← derivationFor_bind, bind_eq_ok_iff, pure_eq_ok_iff, true_and]
    constructor
    · rintro ⟨kind, hkind, algorithm, halgorithm, identity, hidentity, clientNonce, hnonce, raw,
        hraw, derivation, hderivation, response, hresponse, rfl⟩
      exact ⟨kind, algorithm, raw, derivation, hkind, halgorithm, hidentity, hnonce, hraw,
        hderivation, hresponse⟩
    · rintro ⟨kind, algorithm, raw, derivation, hkind, halgorithm, hidentity, hnonce, hraw,
        hderivation, hresponse⟩
      exact ⟨kind, hkind, algorithm, halgorithm, _, hidentity, _, hnonce, raw, hraw, derivation,
        hderivation, _, hresponse, rfl⟩

/-- The first part of a claim that is absent refuses it. -/
theorem decode_of_missing {missing : Known} (h : params.missing? = some missing) :
    decode maxIterations params = .error (.incomplete ("missing " ++ missing.key)) := by
  unfold decode
  rw [h]
  rfl

/-- A decodable claim is an identity claimed. -/
theorem claimsIdentity_of_decode (h : decode maxIterations params = .ok claim) :
    params.claimsIdentity = true := by
  have hid := Params.missing?_eq_none_iff.1 (decode_eq_ok_iff.1 h).1 .id (by simp)
  exact List.any_eq_true.2 ⟨.id, by simp, hid⟩

theorem derivationFor_of_extends (h : params.Extends more) {algorithm : Algorithm}
    {derivation : Option Derivation}
    (hderivation : derivationFor maxIterations params algorithm = .ok derivation) :
    derivationFor maxIterations more algorithm = .ok derivation := by
  unfold derivationFor at hderivation ⊢
  split at hderivation
  · rename_i hmethod
    obtain ⟨inner, hinner, rfl⟩ := map_eq_ok_iff.1 hderivation
    rw [if_pos hmethod, derivationOf_of_extends h hinner]
    rfl
  · rename_i hmethod
    rw [if_neg hmethod]
    exact hderivation

/-- More parameters make the same claim. -/
theorem decode_of_extends (h : params.Extends more)
    (hdecode : decode maxIterations params = .ok claim) :
    decode maxIterations more = .ok claim := by
  obtain ⟨hmissing, kind, algorithm, raw, derivation, hkind, halgorithm, hidentity, hnonce, hraw,
    hderivation, hresponse⟩ := decode_eq_ok_iff.1 hdecode
  have hhas := Params.missing?_eq_none_iff.1 hmissing
  refine decode_eq_ok_iff.2 ⟨?_, kind, algorithm, raw, derivation, ?_, ?_, ?_, ?_, ?_,
    derivationFor_of_extends h hderivation, hresponse⟩
  · exact Params.missing?_eq_none_iff.2 fun known hmem => h.has (hhas known hmem)
  · rwa [textOf_of_extends h (hhas .type (by simp))]
  · rwa [textOf_of_extends h (hhas .alg (by simp))]
  · rwa [textOf_of_extends h (hhas .id (by simp))]
  · rwa [bytesOf_of_extends h (hhas .cnonce (by simp))]
  · rwa [bytesOf_of_extends h (hhas .signature (by simp))]

end HandleChallenge.Authentication.Claim
