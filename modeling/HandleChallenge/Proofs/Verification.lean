import HandleChallenge.KeySource.Delegated
import HandleChallenge.Proofs.KeySource.Local
import HandleChallenge.Proofs.Verification.Search
import Mathlib.Control.Monad.Basic

/-!
# What a verified identity rests on

The answer of a key source may hold anything: values of other types and at other indices, several
at one index, in any order. `verified_identity_backed` says what an identity that is verified has
behind it all the same, whether the source reads a store or asks another server: it is the claimed
one, at the claimed index where there is one, and the credential at its index proves the response.
-/

namespace HandleChallenge

/-- The identity is the claimed one, at the claimed index where the claim names one. -/
structure Identity.Specifies (identity claimed : Identity) : Prop where
  handle_eq : identity.handle = claimed.handle
  index_eq : claimed.index ≠ 0 → identity.index = claimed.index

theorem Identity.hasIndex_iff {identity : Identity} :
    identity.hasIndex = true ↔ identity.index ≠ 0 := by
  simp [hasIndex]

/-- A candidate stands for an identity that the claim allows. -/
theorem Identity.specifies_of_mem_select {claimed : Identity} {family : String}
    {values : List Value} {value : Value} (h : value ∈ claimed.select family values) :
    (claimed.withIndex value.index).Specifies claimed :=
  { handle_eq := rfl
    index_eq := fun hindex => (mem_select.1 h).2.2 (hasIndex_iff.2 hindex) }

namespace VerificationRequest

variable {source : KeySource} {request : VerificationRequest} {algorithm : Algorithm}
  {signature payload : Bytes} {identity : Identity} {values : List Value}

/-! ### Verification under one source -/

/-- The value holds a key under which the signature over the nonce pair verifies. -/
def IsSignedUnder (request : VerificationRequest) (algorithm : Algorithm) (signature : Bytes)
    (value : Value) : Prop :=
  ∃ key, PublicKey.decode value.data = .ok key ∧
    key.verify algorithm (request.serverNonce ++ request.clientNonce) signature = true

/-- An identity that a signature proves is at the index of a candidate that the signature was made
with. -/
theorem exists_of_run_tryKeys
    (h : (request.tryKeys algorithm signature values).run source.answer = .ok identity) :
    ∃ value ∈ values, identity = request.identity.withIndex value.index ∧
      request.IsSignedUnder algorithm signature value := by
  obtain ⟨before, winner, hfirst, rfl⟩ := run_tryKeys_eq_ok_iff.1 h
  obtain ⟨after, rfl⟩ := hfirst.exists_after
  exact ⟨winner, List.mem_append_right _ List.mem_cons_self, rfl, hfirst.signed⟩

/-- The check of a signature ends as the candidates lead to. -/
theorem run_verifySignature (source : KeySource) (request : VerificationRequest)
    (algorithm : Algorithm) (signature : Bytes) :
    (request.verifySignature algorithm signature).run source.answer =
      match source.candidates request.identity with
      | .error refusal => .error refusal
      | .ok [] => .error (.noPublicKey request.identity.text)
      | .ok candidates =>
        (request.tryKeys algorithm signature (Value.sortByIndex candidates)).run source.answer := by
  rw [verifySignature, Dialogue.run_ask]
  generalize hanswer : source.answer (.candidates request.identity) = answer
  rw [show source.candidates request.identity = answer from hanswer]
  rcases answer with refusal | _ | _
  · rfl
  · rfl
  · rfl

/-- The keys in values are the same for every source. -/
theorem run_tryKeys_eq (source other : KeySource) :
    (request.tryKeys algorithm signature values).run source.answer =
      (request.tryKeys algorithm signature values).run other.answer := by
  have hkeys : ∀ value, source.answer (.decode value) = other.answer (.decode value) :=
    fun _ => rfl
  exact (tryKeys_congr hkeys request algorithm signature values).1

/-- Such a candidate is among those that the source names. -/
theorem exists_of_run_verifySignature
    (h : (request.verifySignature algorithm signature).run source.answer = .ok identity) :
    ∃ candidates, source.candidates request.identity = .ok candidates ∧
      ∃ value ∈ candidates, identity = request.identity.withIndex value.index ∧
        request.IsSignedUnder algorithm signature value := by
  rw [run_verifySignature] at h
  rcases hcandidates : source.candidates request.identity with refusal | candidates
  · simp [hcandidates] at h
  · refine ⟨candidates, rfl, ?_⟩
    simp only [hcandidates] at h
    cases candidates with
    | nil => cases h
    | cons first rest =>
      obtain ⟨value, hmem, hvalue⟩ := exists_of_run_tryKeys h
      exact ⟨value, Value.mem_sortByIndex.1 hmem, hvalue⟩

/-- The check of a MAC ends as the source answers. -/
theorem run_verifyMac (source : KeySource) (request : VerificationRequest) (algorithm : Algorithm)
    (payload : Bytes) :
    (request.verifyMac algorithm payload).run source.answer =
      match source.secret (request.challenge algorithm payload) with
      | .ok (some index) => .ok (request.identity.withIndex index)
      | .ok none => .error (.failed .secretKey)
      | .error refusal => .error refusal := by
  rw [verifyMac, Dialogue.run_ask]
  generalize hanswer : source.answer (.secret (request.challenge algorithm payload)) = answer
  rw [show source.secret (request.challenge algorithm payload) = answer from hanswer]
  rcases answer with refusal | _ | index
  · rfl
  · rfl
  · rfl

theorem run_verifyMac_eq_ok_iff :
    (request.verifyMac algorithm payload).run source.answer = .ok identity ↔
      ∃ index, source.secret (request.challenge algorithm payload) = .ok (some index) ∧
        identity = request.identity.withIndex index := by
  rw [run_verifyMac]
  rcases source.secret (request.challenge algorithm payload) with refusal | _ | index
  · simp
  · simp
  · simp [eq_comm]

/-! ### What is behind an identity -/

/-- One of the values is a public key at the index, and the signature was made with it. -/
def HasKeyAt (request : VerificationRequest) (algorithm : Algorithm) (signature : Bytes)
    (index : UInt32) (values : List Value) : Prop :=
  ∃ value ∈ values, value.index = index ∧
    value.inFamily CredentialKind.publicKey.tag = true ∧
      request.IsSignedUnder algorithm signature value

/-- One of the values is a secret at the index, and the MAC is right under it. -/
def HasSecretAt (request : VerificationRequest) (algorithm : Algorithm) (payload : Bytes)
    (maxIterations index : UInt32) (values : List Value) : Prop :=
  ∃ value ∈ values, value.index = index ∧
    value.inFamily CredentialKind.secretKey.tag = true ∧
      Mac.verify algorithm value.data request.serverNonce request.clientNonce payload
        maxIterations = .ok true

/-- The values of a store have a credential at the index that proves the response. -/
def IsBackedBy (request : VerificationRequest) (identity : Identity) (maxIterations : UInt32)
    (stored : List Value) : Prop :=
  match request.response with
  | .publicKey algorithm signature => request.HasKeyAt algorithm signature identity.index stored
  | .secretKey algorithm payload =>
    request.HasSecretAt algorithm payload maxIterations identity.index stored

/-- Another server has such a credential: it sent the public key, in an answer that is vouched for
where it has to be, or it found the MAC right under the secret at the claimed index. -/
def IsBackedRemotely (request : VerificationRequest) (identity : Identity)
    (requireCertified : Bool) (remote : (call : RemoteCall) → call.Answer) : Prop :=
  match request.response with
  | .publicKey algorithm signature =>
    ∃ response : Resolution.Response,
      remote (.resolve (KeySource.Delegated.keyQuery request.identity)) = some (.ok response) ∧
      request.HasKeyAt algorithm signature identity.index response.values ∧
      (request.identity.index = 0 → requireCertified = true → response.certified = true)
  | .secretKey algorithm payload =>
    request.identity.index ≠ 0 ∧
      remote (.check
        { handle := request.identity.handle
          index := request.identity.index
          serverNonce := request.serverNonce
          clientNonce := request.clientNonce
          code := algorithm.wireCode
          mac := payload }) = some (.ok true)

/-- A candidate that the signature was made with is a public key among the values. -/
theorem hasKeyAt_of_mem_select {value : Value}
    (hmem : value ∈ request.identity.select CredentialKind.publicKey.tag values)
    (h : request.IsSignedUnder algorithm signature value) :
    request.HasKeyAt algorithm signature value.index values := by
  obtain ⟨hvalues, hfamily, -⟩ := Identity.mem_select.1 hmem
  exact ⟨value, hvalues, rfl, hfamily, h⟩

end VerificationRequest

namespace KeySource

variable {request : VerificationRequest} {identity : Identity}

/-! ### Values at hand -/

section Store

variable {values : String → Except Resolution.Error (List Value)} {maxIterations : UInt32}

theorem ofStore_backed
    (h : request.verify.run (ofStore values maxIterations).answer = .ok identity) :
    identity.Specifies request.identity ∧
      ∃ stored, values request.identity.handle = .ok stored ∧
        request.IsBackedBy identity maxIterations stored := by
  unfold VerificationRequest.verify at h
  unfold VerificationRequest.IsBackedBy
  cases hresponse : request.response with
  | publicKey algorithm signature =>
    simp only [hresponse] at h ⊢
    obtain ⟨candidates, hcandidates, value, hmem, rfl, hsigned⟩ :=
      VerificationRequest.exists_of_run_verifySignature h
    obtain ⟨stored, hstored, rfl⟩ := localValues_eq_ok_iff.1 hcandidates
    exact ⟨Identity.specifies_of_mem_select hmem, stored, hstored,
      VerificationRequest.hasKeyAt_of_mem_select hmem hsigned⟩
  | secretKey algorithm payload =>
    simp only [hresponse] at h ⊢
    obtain ⟨index, hsecret, rfl⟩ := VerificationRequest.run_verifyMac_eq_ok_iff.1 h
    obtain ⟨stored, hstored, value, hmem, rfl, hverify⟩ := exists_of_secret_ofStore hsecret
    obtain ⟨hvalue, hfamily, -⟩ := Identity.mem_select.1 hmem
    exact ⟨Identity.specifies_of_mem_select hmem, stored, hstored, value, hvalue, rfl, hfamily,
      hverify⟩

end Store

/-! ### Another server -/

section Remote

open Delegated (answered keyQuery keysOf macCheck)

variable {requireCertified : Bool} {remote : (call : RemoteCall) → call.Answer}

theorem Delegated.answered_eq_ok_iff {α : Type} {reply : Option (Except Resolution.Error α)}
    {answer : α} : answered reply = .ok answer ↔ reply = some (.ok answer) := by
  rcases reply with _ | error | other
  · simp [answered]
  · simp [answered]
  · simp [answered]

/-- The public keys in an answer are accepted if it is vouched for where it has to be. -/
theorem Delegated.keysOf_eq_ok_iff {response : Resolution.Response} {candidates : List Value} :
    keysOf requireCertified identity response = .ok candidates ↔
      ((keyQuery identity).certify = true → requireCertified = true →
          response.certified = true) ∧
        identity.select CredentialKind.publicKey.tag response.values = candidates := by
  unfold keysOf
  cases (keyQuery identity).certify
  all_goals cases requireCertified
  all_goals cases response.certified
  all_goals simp

/-- Keys that no index names are asked for in an answer that is vouched for. -/
theorem Delegated.certify_keyQuery (h : identity.index = 0) :
    (keyQuery identity).certify = true := by
  simp [keyQuery, Identity.hasIndex, h, Resolution.Query.certified]

theorem candidates_delegated_eq_ok_iff {candidates : List Value} :
    (delegated requireCertified remote).candidates identity = .ok candidates ↔
      ∃ response, remote (.resolve (keyQuery identity)) = some (.ok response) ∧
        keysOf requireCertified identity response = .ok candidates := by
  have hrun : (delegated requireCertified remote).candidates identity =
      (answered (remote (.resolve (keyQuery identity))) >>= keysOf requireCertified identity) := rfl
  rw [hrun, Checks.bind_eq_ok_iff]
  exact exists_congr fun response => and_congr_left fun _ => Delegated.answered_eq_ok_iff

/-- A MAC is right if it is checked under a named index, and found right. -/
theorem secret_delegated_eq_ok_some_iff {challenge : SecretChallenge} {index : UInt32} :
    (delegated requireCertified remote).secret challenge = .ok (some index) ↔
      challenge.identity.index ≠ 0 ∧ index = challenge.identity.index ∧
        remote (.check (macCheck challenge)) = some (.ok true) := by
  rw [← Identity.hasIndex_iff]
  show (Delegated.secret challenge).run remote = _ ↔ _
  unfold Delegated.secret
  cases challenge.identity.hasIndex with
  | false => simp
  | true =>
    rw [if_pos rfl]
    show ((fun valid => if valid then some challenge.identity.index else none) <$>
      answered (remote (.check (macCheck challenge)))) = _ ↔ _
    rw [Checks.map_eq_ok_iff]
    constructor
    · rintro ⟨valid, hanswered, hindex⟩
      cases valid with
      | false => cases hindex
      | true =>
        exact ⟨rfl, (Option.some.inj hindex).symm, Delegated.answered_eq_ok_iff.1 hanswered⟩
    · rintro ⟨-, rfl, hremote⟩
      exact ⟨true, Delegated.answered_eq_ok_iff.2 hremote, rfl⟩

theorem delegated_backed
    (h : request.verify.run (delegated requireCertified remote).answer = .ok identity) :
    identity.Specifies request.identity ∧
      request.IsBackedRemotely identity requireCertified remote := by
  unfold VerificationRequest.verify at h
  unfold VerificationRequest.IsBackedRemotely
  cases hresponse : request.response with
  | publicKey algorithm signature =>
    simp only [hresponse] at h ⊢
    obtain ⟨candidates, hcandidates, value, hmem, rfl, hsigned⟩ :=
      VerificationRequest.exists_of_run_verifySignature h
    obtain ⟨response, hremote, hkeys⟩ := candidates_delegated_eq_ok_iff.1 hcandidates
    obtain ⟨hcertified, rfl⟩ := Delegated.keysOf_eq_ok_iff.1 hkeys
    exact ⟨Identity.specifies_of_mem_select hmem, response, hremote,
      VerificationRequest.hasKeyAt_of_mem_select hmem hsigned,
      fun hindex => hcertified (Delegated.certify_keyQuery hindex)⟩
  | secretKey algorithm payload =>
    simp only [hresponse] at h ⊢
    obtain ⟨index, hsecret, rfl⟩ := VerificationRequest.run_verifyMac_eq_ok_iff.1 h
    obtain ⟨hindex, rfl, hremote⟩ := secret_delegated_eq_ok_some_iff.1 hsecret
    exact ⟨⟨rfl, fun _ => rfl⟩, hindex, hremote⟩

end Remote

/-- An identity that is verified is the claimed one, and the credential at its index proves the
response, whatever else the source finds or is sent. -/
theorem verified_identity_backed (request : VerificationRequest) (identity : Identity) :
    (∀ values maxIterations,
      request.verify.run (ofStore values maxIterations).answer = .ok identity →
        identity.Specifies request.identity ∧
          ∃ stored, values request.identity.handle = .ok stored ∧
            request.IsBackedBy identity maxIterations stored) ∧
    (∀ requireCertified remote,
      request.verify.run (delegated requireCertified remote).answer = .ok identity →
        identity.Specifies request.identity ∧
          request.IsBackedRemotely identity requireCertified remote) :=
  ⟨fun _ _ => ofStore_backed, fun _ _ => delegated_backed⟩

/-- A signature that claims a handle without an index. -/
def signedClaim : VerificationRequest where
  identity := { handle := "20.1000/7", index := 0 }
  response := .publicKey .sha256 [48, 6, 2, 1, 64, 2, 1, 115]
  serverNonce := List.replicate 16 0
  clientNonce := [5]

/-- The record of a key. -/
def dsaRecord : Bytes :=
  [0, 0, 0, 11, 68, 83, 65, 95, 80, 85, 66, 95, 75, 69, 89, 0, 0, 0, 0, 0, 1, 251, 0, 0, 0, 2, 1,
    247, 0, 0, 0, 1, 4, 0, 0, 0, 2, 1, 32]

/-- A server that vouches for a key among other values: a secret with the same data, and a value
that holds no key. -/
def strayValues : (call : RemoteCall) → call.Answer
  | .resolve _ => some <| .ok
    { values :=
        [{ index := 1, type := "HS_SECKEY", data := dsaRecord },
          { index := 2, type := "HS_PUBKEY", data := [1, 2, 3] },
          { index := 9, type := "HS_PUBKEY", data := dsaRecord }]
      certified := true }
  | .check _ => none

/-- The identity at the index of the key is verified, and the key is behind it. -/
theorem signedClaim_backed :
    signedClaim.verify.run (delegated true strayValues).answer =
        .ok { handle := "20.1000/7", index := 9 } ∧
      signedClaim.IsBackedRemotely { handle := "20.1000/7", index := 9 } true strayValues := by
  let keys : List Value :=
    [{ index := 2, type := "HS_PUBKEY", data := [1, 2, 3] },
      { index := 9, type := "HS_PUBKEY", data := dsaRecord }]
  have hsorted : Value.sortByIndex keys = keys := Value.sortByIndex_of_pairwise (by decide)
  have hcandidates : (delegated true strayValues).candidates signedClaim.identity = .ok keys :=
    congrArg Except.ok hsorted
  have hrun : signedClaim.verify.run (delegated true strayValues).answer =
      .ok { handle := "20.1000/7", index := 9 } := by
    rw [show signedClaim.verify = signedClaim.verifySignature .sha256 [48, 6, 2, 1, 64, 2, 1, 115]
        from rfl, VerificationRequest.run_verifySignature, hcandidates]
    show (signedClaim.tryKeys .sha256 _ (Value.sortByIndex keys)).run _ = _
    rw [hsorted]
    decide +kernel
  exact ⟨hrun, ((verified_identity_backed _ _).2 true strayValues hrun).2⟩

end KeySource

end HandleChallenge
