import HandleChallenge.Proofs.Resolution.Records
import HandleChallenge.Proofs.Verification

/-!
# One verification at two places

The keys and secrets of a handle can be read from records at hand, or asked for from the server
that keeps them. `ofStore_agrees_with_delegated` says that both come to the same: a query selects no
less than what is kept of its answer, and under a named index there is at most one secret, so that
the first one there is the only one to try. Only the wording of a refusal may differ.
-/

namespace HandleChallenge

/-- What an identity cannot use may be dropped before. -/
theorem Identity.select_filter {identity : Identity} {family : String} {keep : Value → Bool}
    (h : ∀ value : Value, value.inFamily family = true →
      (identity.hasIndex = true → value.index = identity.index) → keep value = true)
    (values : List Value) :
    identity.select family (values.filter keep) = identity.select family values := by
  rw [select, select, List.filter_filter]
  congr 2
  funext value
  rw [Bool.and_eq_left_iff_imp, Bool.and_eq_true, Bool.or_eq_true, Bool.not_eq_true']
  rintro ⟨hfamily, hindex⟩
  refine h value hfamily fun hnamed => ?_
  simpa [hnamed] using hindex

namespace KeySource

open Resolution (Authority Edit Query Records)

variable {authority : Authority} {identity : Identity} {challenge : SecretChallenge}
  {requireCertified : Bool}

/-! ### Public keys -/

/-- The question for the keys of an identity selects all that the identity may use. -/
theorem Delegated.selects_keyQuery {value : Value}
    (hfamily : value.inFamily CredentialKind.publicKey.tag = true)
    (hindex : identity.hasIndex = true → value.index = identity.index) :
    (keyQuery identity).selects value = true := by
  unfold keyQuery
  cases hnamed : identity.hasIndex with
  | true => simp [Query.byIndex, Query.selects, hindex hnamed]
  | false => simp [Query.byType, Query.certified, Query.selects, hfamily]

/-- The keys come out of what the server resolves. -/
theorem candidates_delegated (requireCertified : Bool) (authority : Authority)
    (identity : Identity) :
    (delegated requireCertified authority.answer).candidates identity =
      Delegated.answered (some (authority.resolve (Delegated.keyQuery identity))) >>=
        Delegated.keysOf requireCertified identity := rfl

/-- A server that vouches for its answers hands out the keys that are in its records. -/
theorem candidates_delegated_authority (hcertifies : authority.certifies = true)
    (identity : Identity) (maxIterations : UInt32) :
    (delegated requireCertified authority.answer).candidates identity =
      (ofStore authority.records.values maxIterations).candidates identity := by
  have hnear : (ofStore authority.records.values maxIterations).candidates identity =
      localValues authority.records.values identity .publicKey := rfl
  have hhandle : (Delegated.keyQuery identity).handle = identity.handle := by
    unfold Delegated.keyQuery
    split
    · rfl
    · rfl
  rw [candidates_delegated, hnear, Authority.resolve, hhandle, hcertifies, localValues]
  cases authority.records.values identity.handle with
  | error error => rfl
  | ok stored =>
    refine Delegated.keysOf_eq_ok_iff.2 ⟨fun hcertify _ => ?_, ?_⟩
    · simpa using hcertify
    · exact Identity.select_filter (fun _ => Delegated.selects_keyQuery) stored

/-! ### Secrets -/

/-- A value is a secret at the index. -/
def isSecretAt (index : UInt32) (value : Value) : Bool :=
  value.index == index && value.inFamily CredentialKind.secretKey.tag

/-- Whether a secret matches is what the server finds, for a named index. -/
theorem secret_delegated (requireCertified : Bool) (authority : Authority)
    (hindex : challenge.identity.hasIndex = true) :
    (delegated requireCertified authority.answer).secret challenge =
      (fun valid => if valid then some challenge.identity.index else none) <$>
        Delegated.answered (some (authority.check (Delegated.macCheck challenge))) := by
  show (Delegated.secret challenge).run authority.answer = _
  rw [Delegated.secret, if_pos hindex]
  rfl

/-- The server checks a MAC under the first secret at the index, if there is one. -/
theorem check_macCheck (authority : Authority) (challenge : SecretChallenge) :
    authority.check (Delegated.macCheck challenge) =
      authority.records.values challenge.identity.handle >>= fun stored =>
        match stored.find? (isSecretAt challenge.identity.index) with
        | none => .ok false
        | some secret =>
          (verifyUnder challenge authority.maxIterations secret).mapError fun refusal =>
            .malformedResponse refusal.message := by
  have hcode : (Algorithm.ofWireCode (Delegated.macCheck challenge).code).mapError
      (fun refusal => Resolution.Error.unsupported refusal.message) = .ok challenge.algorithm := by
    rw [Delegated.macCheck, Algorithm.ofWireCode_wireCode]
    rfl
  rw [Authority.check, Checks.bind_of_ok hcode]
  rfl

/-- The candidates under a named index are the first secret there. -/
theorem select_secretKey {stored : List Value} (distinct : (stored.map Value.index).Nodup)
    (hindex : identity.hasIndex = true) :
    identity.select CredentialKind.secretKey.tag stored =
      (stored.find? (isSecretAt identity.index)).toList := by
  have htest : (fun value : Value => value.inFamily CredentialKind.secretKey.tag &&
      (!identity.hasIndex || value.index == identity.index)) = isSecretAt identity.index := by
    funext value
    rw [hindex, isSecretAt, Bool.and_comm]
    rfl
  have hat : ∀ value, isSecretAt identity.index value = true → value.index = identity.index := by
    intro value hvalue
    exact beq_iff_eq.1 (Bool.and_eq_true_iff.1 hvalue).1
  rw [Identity.select, htest, Resolution.filter_eq_toList_find? distinct hat]
  refine Value.sortByIndex_of_pairwise ?_
  cases stored.find? (isSecretAt identity.index) with
  | none => exact .nil
  | some secret => exact List.pairwise_singleton _ _

/-- A server finds a MAC right under a named index where the one who reads its records does. -/
theorem toOption_secret_delegated_authority (distinct : authority.records.Distinct)
    (hindex : challenge.identity.hasIndex = true) :
    ((delegated requireCertified authority.answer).secret challenge).toOption =
      ((ofStore authority.records.values authority.maxIterations).secret challenge).toOption := by
  rw [secret_delegated requireCertified authority hindex, check_macCheck,
    secret_ofStore fun _ => hindex, localValues]
  cases hstored : authority.records.values challenge.identity.handle with
  | error error => rfl
  | ok stored =>
    have hselect := select_secretKey
      (distinct _ _ (Records.values_eq_ok_iff.1 hstored)) hindex
    rw [Checks.bind_of_ok rfl, Checks.bind_of_ok rfl, hselect]
    cases hfind : stored.find? (isSecretAt challenge.identity.index) with
    | none => rfl
    | some secret =>
      have hsecret : secret.index = challenge.identity.index := by
        have htest := List.find?_some hfind
        exact beq_iff_eq.1 (Bool.and_eq_true_iff.1 htest).1
      have hmatch : matchSecret challenge authority.maxIterations (some secret).toList =
          verifyUnder challenge authority.maxIterations secret >>= fun right =>
            if right then .ok (some challenge.identity.index) else .ok none := by
        rw [← hsecret]
        rfl
      rw [hmatch]
      simp only
      rcases verifyUnder challenge authority.maxIterations secret with refusal | _ | _
      · rfl
      · rfl
      · rfl

/-! ### Verification -/

/-- Sources that name the same candidates verify the same signatures. -/
theorem run_verifySignature_eq {near far : KeySource} {request : VerificationRequest}
    (h : near.candidates request.identity = far.candidates request.identity)
    (algorithm : Algorithm) (signature : Bytes) :
    (request.verifySignature algorithm signature).run near.answer =
      (request.verifySignature algorithm signature).run far.answer := by
  rw [VerificationRequest.run_verifySignature, VerificationRequest.run_verifySignature, h]
  rcases far.candidates request.identity with refusal | _ | _
  · rfl
  · rfl
  · exact VerificationRequest.run_tryKeys_eq near far

theorem toOption_eq_some_iff {α : Type} {checked : Except Refusal α} {result : α} :
    checked.toOption = some result ↔ checked = .ok result := by
  cases checked with
  | error refusal => simp [Except.toOption]
  | ok value => simp [Except.toOption]

theorem toOption_eq_none_iff {α : Type} {checked : Except Refusal α} :
    checked.toOption = none ↔ ∃ refusal, checked = .error refusal := by
  cases checked with
  | error refusal => simp [Except.toOption]
  | ok value => simp [Except.toOption]

/-- Whether records that were written one value at a time are read at hand or asked for from a
server that vouches for its answers, the same keys are found, the same secrets, and the same
identities are verified. -/
theorem ofStore_agrees_with_delegated (edits : List Edit) (maxIterations : UInt32)
    (requireCertified : Bool) :
    let authority : Authority :=
      { records := Records.ofEdits edits, certifies := true, maxIterations }
    let near := ofStore authority.records.values maxIterations
    let far := delegated requireCertified authority.answer
    (∀ identity, near.candidates identity = far.candidates identity) ∧
    (∀ challenge : SecretChallenge, challenge.identity.index ≠ 0 →
      (∀ found, near.secret challenge = .ok found ↔ far.secret challenge = .ok found) ∧
      ((∃ refusal, near.secret challenge = .error refusal) ↔
        ∃ refusal, far.secret challenge = .error refusal)) ∧
    ∀ request : VerificationRequest,
      request.response.kind = .publicKey ∨ request.identity.index ≠ 0 →
      ∀ identity, request.verify.run near.answer = .ok identity ↔
        request.verify.run far.answer = .ok identity := by
  intro authority near far
  have hcandidates : ∀ identity, near.candidates identity = far.candidates identity :=
    fun identity => (candidates_delegated_authority rfl identity maxIterations).symm
  have hsecret : ∀ challenge : SecretChallenge, challenge.identity.index ≠ 0 →
      (near.secret challenge).toOption = (far.secret challenge).toOption :=
    fun challenge hindex => (toOption_secret_delegated_authority (Records.distinct_ofEdits edits)
      (Identity.hasIndex_iff.2 hindex)).symm
  have hfound : ∀ challenge : SecretChallenge, challenge.identity.index ≠ 0 →
      ∀ found, near.secret challenge = .ok found ↔ far.secret challenge = .ok found := by
    intro challenge hindex found
    rw [← toOption_eq_some_iff, ← toOption_eq_some_iff, hsecret challenge hindex]
  refine ⟨hcandidates, fun challenge hindex => ⟨hfound challenge hindex, ?_⟩,
    fun request hrequest identity => ?_⟩
  · rw [← toOption_eq_none_iff, ← toOption_eq_none_iff, hsecret challenge hindex]
  · unfold VerificationRequest.verify
    cases hresponse : request.response with
    | publicKey algorithm signature =>
      simp only
      rw [run_verifySignature_eq (hcandidates request.identity)]
    | secretKey algorithm payload =>
      have hindex : request.identity.index ≠ 0 := by
        rcases hrequest with hkind | hindex
        · rw [hresponse] at hkind
          cases hkind
        · exact hindex
      simp only
      rw [VerificationRequest.run_verifyMac_eq_ok_iff, VerificationRequest.run_verifyMac_eq_ok_iff]
      exact exists_congr fun index =>
        and_congr_left fun _ => hfound (request.challenge algorithm payload) hindex (some index)

/-- A secret that is written over, and a handle that comes back after it was removed. -/
def rewritten : List Edit :=
  [.put "20.1000/7" { index := 3, type := "HS_SECKEY", data := [9] },
    .put "20.1000/8" { index := 1, type := "HS_SECKEY", data := [1] },
    .remove "20.1000/8",
    .put "20.1000/7" { index := 3, type := "HS_SECKEY", data := [1, 2, 3] },
    .put "20.1000/8" { index := 2, type := "HS_SECKEY", data := [2] }]

/-- A MAC under the later secret. -/
def macClaim : VerificationRequest where
  identity := { handle := "20.1000/7", index := 3 }
  response := .secretKey .md5
    [74, 147, 186, 201, 7, 21, 141, 210, 6, 176, 12, 57, 234, 72, 112, 16]
  serverNonce := List.replicate 16 0
  clientNonce := [0, 0, 0]

/-- The server finds the MAC right, and so does the one who reads its records. -/
theorem macClaim_verified_at_hand :
    macClaim.verify.run (ofStore (Records.ofEdits rewritten).values 10000).answer =
      .ok { handle := "20.1000/7", index := 3 } := by
  have hfar : macClaim.verify.run (delegated true (Authority.answer
      { records := Records.ofEdits rewritten, certifies := true, maxIterations := 10000 })).answer =
        .ok { handle := "20.1000/7", index := 3 } := by decide +kernel
  exact ((ofStore_agrees_with_delegated rewritten 10000 true).2.2 macClaim (.inr (by decide))
    { handle := "20.1000/7", index := 3 }).2 hfar

end KeySource

end HandleChallenge
