import HandleChallenge.Proofs.Authentication.Claim
import HandleChallenge.Proofs.Credential
import HandleChallenge.Proofs.Secret.Mac

/-!
# What the service hears of a credential

A header is written by a credential, read back and merged before a claim is decoded. No byte string,
number or text is changed on the way, except that a value that is empty is taken for a flag: the
service then hears the value of a flag in its place (`heard`). A MAC or signature is never empty.
-/

namespace HandleChallenge

open Authentication (Claim)
open Header (Known Params)

/-! ### Signatures -/

namespace Signature

theorem Ed25519.sign_ne_nil (seed message : Bytes) : sign seed message ≠ [] := by
  refine List.append_ne_nil_of_right_ne_nil _ (List.ne_nil_of_length_pos ?_)
  rw [List.length_reverse, Bytes.length_ofNat]
  decide

theorem Secp256k1.ne_nil_of_sign? {secret : Nat} {digest signature : Bytes}
    (h : sign? secret digest = some signature) : signature ≠ [] := by
  simp only [sign?, Option.bind_eq_bind, Option.bind_eq_some_iff, Option.pure_def,
    Option.some.injEq] at h
  obtain ⟨nonce, -, point, -, inverse, -, done, -, rfl⟩ := h
  exact List.cons_ne_nil _ _

end Signature

theorem PrivateKey.ne_nil_of_sign {key : PrivateKey} {hash : Digest} {message signature : Bytes}
    (h : key.sign hash message = .ok signature) : signature ≠ [] := by
  revert h
  -- the cases of the function: with the key alone the signature would be computed, not named
  fun_cases PrivateKey.sign key hash message with
  | case1 seed =>
    intro h
    rw [← Except.ok.inj h]
    exact Signature.Ed25519.sign_ne_nil seed message
  | case2 scalar signed hsigned =>
    intro h
    rw [← Except.ok.inj h]
    exact Signature.Secp256k1.ne_nil_of_sign? hsigned
  | case3 scalar hsigned =>
    intro h
    cases h

/-- What a credential sends to prove itself is not empty. -/
theorem Credential.ne_nil_of_sign {credential : Credential} {serverNonce clientNonce raw : Bytes}
    (h : credential.sign serverNonce clientNonce = .ok raw) : raw ≠ [] := by
  obtain ⟨identity, holding⟩ := credential
  cases holding with
  | secret secret algorithm derivation =>
    exact List.ne_nil_of_length_pos (Mac.length_of_compute h).1
  | key key hash => exact PrivateKey.ne_nil_of_sign h

/-! ### Merged values -/

namespace Authentication.Claim

variable {params : Params} {known : Known}

/-- The bytes that are read where the given ones were written: where there were none, those that the
value of a flag spells. -/
def heard (bytes : Bytes) : Bytes := if bytes = [] then [0xb6, 0xbb, 0x9e] else bytes

theorem heard_of_ne_nil {bytes : Bytes} (h : bytes ≠ []) : heard bytes = bytes := if_neg h

theorem bytesOf_of_normalize {bytes : Bytes}
    (h : params.known? known = some (Header.normalize (Text.Base64.encode bytes))) :
    bytesOf params known = .ok (heard bytes) := by
  by_cases hempty : bytes = []
  · subst hempty
    have hflag : params.known? known = some (Text.Base64.encode [0xb6, 0xbb, 0x9e]) := h
    exact bytesOf_of_encode hflag
  · rw [Header.normalize, if_neg (Text.Base64.encode_ne_empty hempty)] at h
    rw [heard_of_ne_nil hempty]
    exact bytesOf_of_encode h

theorem numberOf_of_normalize {number : UInt32}
    (h : params.known? known = some (Header.normalize (Text.Decimal.text number.toNat))) :
    numberOf params known = .ok number := by
  rw [Header.normalize, if_neg (Text.Decimal.text_ne_empty _)] at h
  exact numberOf_of_text h

end Authentication.Claim

/-! ### The header of a credential -/

namespace Credential

variable {credential : Credential} {session : Option String} {serverNonce clientNonce : Bytes}
  {header : String}

/-- What is heard of a header is what the credential wrote, with the value of a flag in the place of
an empty one. -/
theorem known?_merge_authorization
    (h : credential.authorization session serverNonce clientNonce = .ok header) :
    ∃ raw, credential.sign serverNonce clientNonce = .ok raw ∧
      ∀ known, (Header.merge (Header.parse? header) []).known? known =
        ((credential.params session clientNonce raw).known? known).map Header.normalize := by
  obtain ⟨raw, hsign, hheader⟩ := Checks.bind_eq_ok_iff.1 h
  obtain rfl := Checks.pure_eq_ok_iff.1 hheader
  refine ⟨raw, hsign, fun known => ?_⟩
  rw [parse?_serialize_params, Header.known?_merge, List.find?_nil, Option.map_none, Option.or_none,
    Option.getD_some]

/-- The parameters that the service works on say what the credential signed and with which nonce and
parameters, and name the session that it named. Where the client's nonce, the salt or the name of
the session is empty, the value of a flag stands in its place. -/
theorem header_carries_credential
    (h : credential.authorization session serverNonce clientNonce = .ok header) :
    let params := Header.merge (Header.parse? header) []
    (∃ raw, credential.sign serverNonce clientNonce = .ok raw ∧
      Claim.bytesOf params .signature = .ok raw) ∧
    Claim.bytesOf params .cnonce = .ok (Claim.heard clientNonce) ∧
    params.known? .sessionId = session.map Header.normalize ∧
    (∀ derivation, credential.derivation? = some derivation →
      Claim.bytesOf params .salt = .ok (Claim.heard derivation.salt) ∧
      Claim.numberOf params .iterations = .ok derivation.iterations ∧
      Claim.numberOf params .length = .ok derivation.lengthBits) ∧
    (credential.derivation? = none →
      ∀ known ∈ [Known.salt, .iterations, .length], params.known? known = none) := by
  obtain ⟨raw, hsign, hmerged⟩ := known?_merge_authorization h
  have hknown := fun known => (hmerged known).trans <|
    congrArg (Option.map Header.normalize) (known?_params credential session clientNonce raw known)
  refine ⟨⟨raw, hsign, ?_⟩, Claim.bytesOf_of_normalize (hknown .cnonce), hknown .sessionId,
    fun derivation hderivation => ⟨?_, ?_, ?_⟩, fun hderivation known hmem => ?_⟩
  · rw [Claim.bytesOf_of_normalize (hknown .signature),
      Claim.heard_of_ne_nil (ne_nil_of_sign hsign)]
  · refine Claim.bytesOf_of_normalize ((hknown .salt).trans ?_)
    simp only [hderivation, Option.map_some]
  · refine Claim.numberOf_of_normalize ((hknown .iterations).trans ?_)
    simp only [hderivation, Option.map_some]
  · refine Claim.numberOf_of_normalize ((hknown .length).trans ?_)
    simp only [hderivation, Option.map_some]
  · rw [hknown]
    simp only [List.mem_cons, List.not_mem_nil, or_false] at hmem
    rcases hmem with rfl | rfl | rfl
    all_goals simp only [hderivation, Option.map_none]

/-- The credential of a holder who derives a key with the given salt. -/
def saltedKey (salt : Bytes) : Credential :=
  .ofDerivedSecret { handle := "20.1000/7", index := 3 } [1, 2, 3]
    { salt, iterations := 1, lengthBits := 160 }

/-- A header in which nothing is empty carries everything. -/
theorem saltedKey_carried :
    ∃ header, (saltedKey [5]).authorization (some "s") [0] [4] = .ok header ∧
      let params := Header.merge (Header.parse? header) []
      (∃ raw, (saltedKey [5]).sign [0] [4] = .ok raw ∧
        Claim.bytesOf params .signature = .ok raw) ∧
      Claim.bytesOf params .cnonce = .ok [4] ∧ params.known? .sessionId = some "s" ∧
      Claim.bytesOf params .salt = .ok [5] ∧ Claim.numberOf params .iterations = .ok 1 ∧
      Claim.numberOf params .length = .ok 160 := by
  obtain ⟨header, hheader⟩ :
    ∃ header, (saltedKey [5]).authorization (some "s") [0] [4] = .ok header := ⟨_, rfl⟩
  obtain ⟨hsignature, hnonce, hsession, hderived, -⟩ := header_carries_credential hheader
  obtain ⟨hsalt, hiterations, hlength⟩ := hderived _ rfl
  exact ⟨header, hheader, hsignature, hnonce, hsession, hsalt, hiterations, hlength⟩

/-- An empty salt, an empty nonce and an empty name of a session are not carried, although the salt
is acceptable. -/
theorem emptyValues_not_carried :
    Derivation.validate { salt := [], iterations := 1, lengthBits := 160 } 1 = .ok () ∧
    ∃ header, (saltedKey []).authorization (some "") (List.replicate 16 0) [] = .ok header ∧
      let params := Header.merge (Header.parse? header) []
      Claim.bytesOf params .salt ≠ .ok [] ∧ Claim.bytesOf params .cnonce ≠ .ok [] ∧
      params.known? .sessionId ≠ some "" := by
  obtain ⟨header, hheader⟩ : ∃ header,
      (saltedKey []).authorization (some "") (List.replicate 16 0) [] = .ok header := ⟨_, rfl⟩
  obtain ⟨raw, -, hmerged⟩ := known?_merge_authorization hheader
  have hknown := fun known => (hmerged known).trans <|
    congrArg (Option.map Header.normalize) (known?_params (saltedKey []) (some "") [] raw known)
  refine ⟨by decide, header, hheader, ?_, ?_, ?_⟩
  · rw [Claim.bytesOf_of_normalize (hknown .salt)]
    decide
  · rw [Claim.bytesOf_of_normalize (hknown .cnonce)]
    decide
  · have hflag : (Header.merge (Header.parse? header) []).known? .sessionId =
      some Header.flagValue := hknown .sessionId
    rw [hflag]
    decide

end Credential

end HandleChallenge
