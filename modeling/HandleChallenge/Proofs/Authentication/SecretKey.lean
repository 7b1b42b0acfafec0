import HandleChallenge.Proofs.Authentication.Claim
import HandleChallenge.Proofs.Authentication.Provenance
import HandleChallenge.Proofs.Secret.Mac
import HandleChallenge.Proofs.Verification
import HandleChallenge.Resolution.Records

/-!
# Claims by a MAC

Between the parameters of a request and the secrets in a record lie the decoding of a claim, an
envelope, the choice and order of the candidates and the search among them.
`secretKey_claim_accepted_iff` is what they come to: the claim is accepted at an index exactly if
that is the least index of a secret of the claimed identity which gives the MAC, and is refused
otherwise.
-/

namespace HandleChallenge

/-- The values that are stored for a handle. -/
def Resolution.Records.stored (records : Resolution.Records) (handle : String) : List Value :=
  (records.record? handle).getD []

/-- A source finds the values that are stored. -/
theorem KeySource.storedBy_values (records : Resolution.Records) (handle : String) :
    storedBy records.values handle = records.stored handle := by
  unfold storedBy Resolution.Records.values Resolution.Records.stored
  cases records.record? handle with
  | none => rfl
  | some values => rfl

namespace Authentication

open Checks (map_eq_ok_iff pure_eq_ok_iff)
open Header (Known Params)
open Resolution (Records)

/-- A claim by a MAC, with the parameters of the derived key where there is one. -/
structure MacClaim where
  identity : Identity
  algorithm : Algorithm
  clientNonce : Bytes
  mac : Bytes
  derivation : Option Derivation

namespace MacClaim

variable {claim : MacClaim} {maxIterations : UInt32} {params : Params} {stored : List Value}
  {serverNonce : Bytes} {index : UInt32}

/-- Every part of the claim can be read from the parameters, and those of a derived key are within
the limit. -/
structure ReadFrom (claim : MacClaim) (maxIterations : UInt32) (params : Params) : Prop where
  complete : params.missing? = none
  kind : Claim.textOf params .type = CredentialKind.secretKey.tag
  algorithm : Algorithm.resolve (Claim.textOf params .alg) = .ok claim.algorithm
  identity : Identity.parse (Claim.textOf params .id) = .ok claim.identity
  clientNonce : Claim.bytesOf params .cnonce = .ok claim.clientNonce
  mac : Claim.bytesOf params .signature = .ok claim.mac
  derivation : Claim.derivationFor maxIterations params claim.algorithm = .ok claim.derivation
  /-- An envelope can announce the lengths of its blocks. -/
  short : ∀ derivation, claim.derivation = some derivation →
    derivation.salt.length < UInt32.size ∧ claim.mac.length < UInt32.size

/-- A stored value is a secret of the claimed identity, and gives the MAC. -/
structure Matches (claim : MacClaim) (serverNonce : Bytes) (value : Value) : Prop where
  inFamily : value.inFamily CredentialKind.secretKey.tag = true
  index_eq : claim.identity.hasIndex = true → value.index = claim.identity.index
  compute_eq : Mac.compute claim.algorithm value.data serverNonce claim.clientNonce
    claim.derivation = .ok claim.mac

/-- The least index of a stored value that matches. -/
structure IsProvedAt (claim : MacClaim) (stored : List Value) (serverNonce : Bytes)
    (index : UInt32) : Prop where
  exists_matches : ∃ value ∈ stored, claim.Matches serverNonce value ∧ value.index = index
  least : ∀ value ∈ stored, claim.Matches serverNonce value → index ≤ value.index

/-- A source derives a key for the claim: it names an index and asks for no more work than the
source does. Other claims need no derived key. -/
def IsAffordable (claim : MacClaim) (maxIterations : UInt32) : Prop :=
  claim.algorithm.method = .pbkdf2 →
    claim.identity.hasIndex = true ∧
      ∀ derivation, claim.derivation = some derivation → derivation.iterations ≤ maxIterations

/-- The payload of the response: the MAC, in an envelope where a key is derived. -/
def payload (claim : MacClaim) : Bytes :=
  match claim.derivation with
  | some derivation => Envelope.encode { derivation, mac := claim.mac }
  | none => claim.mac

/-- The claim as it is decoded. -/
def decoded (claim : MacClaim) : Claim where
  identity := claim.identity
  response := .secretKey claim.algorithm claim.payload
  clientNonce := claim.clientNonce

/-- What a key source is asked about the claim. -/
def challenge (claim : MacClaim) (serverNonce : Bytes) : SecretChallenge where
  identity := claim.identity
  algorithm := claim.algorithm
  serverNonce := serverNonce
  clientNonce := claim.clientNonce
  payload := claim.payload

/-- A key is derived for one method only, with parameters that were checked. -/
theorem ReadFrom.derivation_cases (h : claim.ReadFrom maxIterations params) :
    (claim.algorithm.method ≠ .pbkdf2 ∧ claim.derivation = none) ∨
      ∃ derivation, claim.algorithm.method = .pbkdf2 ∧ claim.derivation = some derivation ∧
        derivation.validate maxIterations = .ok () := by
  have hderivation := h.derivation
  unfold Claim.derivationFor at hderivation
  split at hderivation
  · rename_i hmethod
    obtain ⟨derivation, hread, hsome⟩ := map_eq_ok_iff.1 hderivation
    obtain ⟨-, -, -, -, hvalid⟩ := Claim.derivationOf_eq_ok_iff.1 hread
    exact .inr ⟨derivation, hmethod, hsome.symm, hvalid⟩
  · rename_i hmethod
    exact .inl ⟨hmethod, (pure_eq_ok_iff.1 hderivation).symm⟩

/-- The claim is decoded from the parameters. -/
theorem ReadFrom.decode (h : claim.ReadFrom maxIterations params) :
    Claim.decode maxIterations params = .ok claim.decoded := by
  refine Claim.decode_eq_ok_iff.2 ⟨h.complete, .secretKey, claim.algorithm, claim.mac,
    claim.derivation, ?_, h.algorithm, ?_, h.clientNonce, h.mac, h.derivation, ?_⟩
  · rw [h.kind]
    rfl
  · rw [Claim.identityOf, h.identity]
    rfl
  · rcases h.derivation_cases with ⟨hmethod, hnone⟩ | ⟨derivation, hmethod, hsome, -⟩
    · unfold SignedResponse.ofParts decoded payload
      rw [hnone]
      cases hcase : claim.algorithm.method with
      | pbkdf2 => exact absurd hcase hmethod
      | digest digest => rfl
      | hmac digest => rfl
    · unfold SignedResponse.ofParts decoded payload
      simp only [hmethod, hsome]

/-! ### What the source answers -/

/-- The MAC can be checked under every secret, or, where too much work is asked for, under none. -/
theorem ReadFrom.verifyUnder_cases (h : claim.ReadFrom maxIterations params)
    (serverNonce : Bytes) (sourceMax : UInt32) :
    ((∀ derivation, claim.derivation = some derivation → derivation.iterations ≤ sourceMax) ∧
        ∀ secret, KeySource.verifyUnder (claim.challenge serverNonce) sourceMax secret =
          .ok (Mac.isGiven claim.algorithm secret.data serverNonce claim.clientNonce
            claim.derivation claim.mac)) ∨
      (claim.algorithm.method = .pbkdf2 ∧
        (∃ derivation, claim.derivation = some derivation ∧ sourceMax < derivation.iterations) ∧
        ∃ refusal, ∀ secret,
          KeySource.verifyUnder (claim.challenge serverNonce) sourceMax secret =
            .error refusal) := by
  rcases h.derivation_cases with ⟨hmethod, hnone⟩ | ⟨derivation, hmethod, hsome, hvalid⟩
  · refine .inl ⟨by simp [hnone], fun secret => ?_⟩
    have hpayload : claim.payload = claim.mac := by simp [payload, hnone]
    rw [hnone]
    show Mac.verify claim.algorithm secret.data serverNonce claim.clientNonce claim.payload _ = _
    rw [hpayload]
    exact Mac.verify_bare hmethod ..
  · have hpayload : claim.payload = Envelope.encode { derivation, mac := claim.mac } := by
      simp [payload, hsome]
    obtain ⟨hsalt, hmac⟩ := h.short derivation hsome
    have hsalt := Nat.le_sub_one_of_lt hsalt
    have hmac := Nat.le_sub_one_of_lt hmac
    have hverify : ∀ secret : Value,
        KeySource.verifyUnder (claim.challenge serverNonce) sourceMax secret =
          Mac.verify claim.algorithm secret.data serverNonce claim.clientNonce
            (Envelope.encode { derivation, mac := claim.mac }) sourceMax := by
      intro secret
      rw [← hpayload]
      rfl
    by_cases hsource : derivation.validate sourceMax = .ok ()
    · refine .inl ⟨fun other hother => ?_, fun secret => ?_⟩
      · rw [hsome] at hother
        cases hother
        exact (Derivation.validate_eq_ok_iff.1 hsource).1.2
      rw [hverify, hsome]
      exact Mac.verify_envelope hmethod hsalt hmac hsource ..
    · obtain ⟨refusal, hrefusal⟩ := Derivation.exists_validate_eq_error hsource
      refine .inr ⟨hmethod, ⟨derivation, hsome, ?_⟩, refusal, fun secret => ?_⟩
      · obtain ⟨⟨hpositive, -⟩, hlength⟩ := Derivation.validate_eq_ok_iff.1 hvalid
        refine UInt32.not_le.1 fun hle => hsource ?_
        exact Derivation.validate_eq_ok_iff.2 ⟨⟨hpositive, hle⟩, hlength⟩
      · rw [hverify]
        exact Mac.verify_envelope_of_invalid hmethod hsalt hmac hrefusal ..

/-- The candidates among stored values are the secrets of the claimed identity. -/
theorem isProvedAt_iff :
    claim.IsProvedAt stored serverNonce index ↔
      (((claim.identity.select CredentialKind.secretKey.tag stored).find? fun value =>
        Mac.isGiven claim.algorithm value.data serverNonce claim.clientNonce claim.derivation
          claim.mac).map Value.index) = some index := by
  have hmatches : ∀ value, claim.Matches serverNonce value ∧ value ∈ stored ↔
      value ∈ claim.identity.select CredentialKind.secretKey.tag stored ∧
        Mac.isGiven claim.algorithm value.data serverNonce claim.clientNonce claim.derivation
          claim.mac = true := by
    intro value
    rw [Identity.mem_select, Mac.isGiven_iff]
    constructor
    · rintro ⟨⟨hfamily, hindex, hgives⟩, hmem⟩
      exact ⟨⟨hmem, hfamily, hindex⟩, hgives⟩
    · rintro ⟨⟨hmem, hfamily, hindex⟩, hgives⟩
      exact ⟨⟨hfamily, hindex, hgives⟩, hmem⟩
  rw [map_find?_eq_some_iff (Identity.pairwise_select ..)]
  constructor
  · rintro ⟨⟨value, hmem, hvalue, hindex⟩, hleast⟩
    obtain ⟨hselected, hgives⟩ := (hmatches value).1 ⟨hvalue, hmem⟩
    refine ⟨⟨value, hselected, hgives, hindex⟩, fun other hother hgiven => ?_⟩
    obtain ⟨hvalue, hmem⟩ := (hmatches other).2 ⟨hother, hgiven⟩
    exact hleast other hmem hvalue
  · rintro ⟨⟨value, hselected, hgives, hindex⟩, hleast⟩
    obtain ⟨hvalue, hmem⟩ := (hmatches value).2 ⟨hselected, hgives⟩
    refine ⟨⟨value, hmem, hvalue, hindex⟩, fun other hother hvalue => ?_⟩
    obtain ⟨hselected, hgives⟩ := (hmatches other).1 ⟨hvalue, hother⟩
    exact hleast other hselected hgives

/-- The source names the index at which the claim is proved, if it derives a key for it. -/
theorem ReadFrom.secret_eq_ok_some_iff (h : claim.ReadFrom maxIterations params)
    (values : String → Except Resolution.Error (List Value)) (serverNonce : Bytes)
    (sourceMax : UInt32) :
    (KeySource.ofStore values sourceMax).secret (claim.challenge serverNonce) =
        .ok (some index) ↔
      claim.IsAffordable sourceMax ∧
        claim.IsProvedAt (KeySource.storedBy values claim.identity.handle) serverNonce index := by
  by_cases hindex : claim.algorithm.method = .pbkdf2 → claim.identity.hasIndex = true
  · rcases h.verifyUnder_cases serverNonce sourceMax with
      ⟨hle, hverify⟩ | ⟨hmethod, ⟨derivation, hsome, hlt⟩, refusal, hverify⟩
    · rw [KeySource.secret_ofStore_eq_ok_some_iff hindex hverify]
      rw [show (claim.challenge serverNonce).identity = claim.identity from rfl, ← isProvedAt_iff]
      exact (and_iff_right fun hmethod => ⟨hindex hmethod, hle⟩).symm
    · -- no MAC can be checked, so that no index is named
      refine iff_of_false (fun hfound => ?_) fun hboth => ?_
      · obtain ⟨-, -, secret, -, -, hright⟩ := KeySource.exists_of_secret_ofStore hfound
        cases (hverify secret).symm.trans hright
      · exact UInt32.not_le.2 hlt ((hboth.1 hmethod).2 derivation hsome)
  · -- a key is to be derived for no index in particular, which the source refuses unseen
    simp only [Classical.not_imp, Bool.not_eq_true] at hindex
    have hsecret : (KeySource.ofStore values sourceMax).secret (claim.challenge serverNonce) = _ :=
      KeySource.secret_ofStore_of_unnamed hindex.1 hindex.2
    rw [hsecret]
    simp only [reduceCtorEq, false_iff, not_and]
    intro haffordable
    rw [(haffordable hindex.1).1] at hindex
    cases hindex.2

end MacClaim

/-! ### What becomes of the claim -/

variable {service : Service} {source : KeySource} {entropy : Entropy} {now : Instant}
  {request : Request} {registry : Registry} {snapshot : Snapshot} {claim : MacClaim}

/-- The request is on its session, and its claim is checked for this request. -/
structure Visit.Attempts (visit : Visit) : Prop where
  isNamedBy : visit.state.isNamedBy visit.reading.params = true
  parseable : visit.reading.unparseable = false
  claims : visit.reading.claims = true
  recalled : visit.recalled? = none

theorem Reading.needsSession_of_claims {reading : Reading} (h : reading.claims = true) :
    reading.needsSession = true := by
  unfold claims at h
  unfold needsSession Params.needsSession
  simp only [Bool.or_eq_true] at h ⊢
  rcases h with (h | h) | h
  · exact .inr (.inl (.inr h))
  · exact .inl (.inr h)
  · exact .inl (.inl (.inr h))

/-- The verdict on a claim that is checked is still open when its request has arrived. -/
theorem receive_of_attempts
    (hread : (service.receive entropy now request registry).2.snapshot? request.sessionId =
      some snapshot)
    (h : (service.visitOf request snapshot).Attempts) :
    service.receive entropy now request registry =
      (.pending (service.visitOf request snapshot)
          (service.verdict (entropy.draw .clientNonce Credential.clientNonceLength)
            (service.visitOf request snapshot)),
        (service.receive entropy now request registry).2) := by
  rcases service.receive_cases entropy now request registry with
    ⟨hneeds, -⟩ | ⟨other, hadmitted, hother⟩
  · cases hneeds.symm.trans (Reading.needsSession_of_claims h.claims)
  · obtain rfl : other = snapshot := Option.some.inj (hother.symm.trans hread)
    rw [Service.admission_of_isNamedBy h.isNamedBy] at hadmitted
    exact Prod.ext hadmitted rfl

/-- It is attempted under the nonce of the session, and then settled. -/
theorem authenticate_of_attempts
    (hread : (service.receive entropy now request registry).2.snapshot? request.sessionId =
      some snapshot)
    (h : (service.visitOf request snapshot).Attempts) (source : KeySource) :
    service.authenticate source entropy now request registry =
      service.settle now (service.visitOf request snapshot)
        { outcome := (attempt service.policy (service.visitOf request snapshot).reading
            snapshot.state.serverNonce
            (entropy.draw .clientNonce Credential.clientNonceLength)).run source.answer
          verified := true }
        (service.receive entropy now request registry).2 := by
  unfold Service.authenticate
  rw [receive_of_attempts hread h]
  simp only [Service.verdict, h.parseable, h.claims, h.recalled, Bool.false_eq_true, if_false,
    if_true, Dialogue.run_bind]
  rfl

namespace MacClaim

variable {policy : Policy} {reading : Reading}

/-- An attempt of the claim alone ends as the source answers. -/
theorem ReadFrom.run_attempt (h : claim.ReadFrom policy.maxIterations reading.params)
    (source : KeySource) (hpassword : reading.password = none) (serverNonce clientNonce : Bytes) :
    (attempt policy reading serverNonce clientNonce).run source.answer =
      match source.secret (claim.challenge serverNonce) with
      | .ok (some index) => .success (claim.identity.withIndex index) .secretKey []
      | .ok none => .failure [.failed .secretKey]
      | .error refusal => .failure [refusal] := by
  have hclaims := Claim.claimsIdentity_of_decode h.decode
  have hverify : (verifyParams policy reading.params serverNonce).run source.answer =
      match source.secret (claim.challenge serverNonce) with
      | .ok (some index) => .ok (claim.identity.withIndex index, .secretKey)
      | .ok none => .error (.failed .secretKey)
      | .error refusal => .error refusal := by
    have hmac : (claim.decoded.request serverNonce).verify.run source.answer =
        match source.secret (claim.challenge serverNonce) with
        | .ok (some index) => .ok (claim.identity.withIndex index)
        | .ok none => .error (.failed .secretKey)
        | .error refusal => .error refusal :=
      VerificationRequest.run_verifyMac source (claim.decoded.request serverNonce) claim.algorithm claim.payload
    simp only [verifyParams, h.decode, Dialogue.run_bind, hmac]
    rcases source.secret (claim.challenge serverNonce) with refusal | _ | index
    · rfl
    · rfl
    · rfl
  simp only [attempt, hclaims, if_true, Dialogue.run_bind, hverify, hpassword]
  rcases source.secret (claim.challenge serverNonce) with refusal | _ | index
  · rfl
  · rfl
  · rfl

/-- So it succeeds at the index that the source finds, or is refused for one reason. -/
theorem ReadFrom.attempt_cases (h : claim.ReadFrom policy.maxIterations reading.params)
    (source : KeySource) (hpassword : reading.password = none) (serverNonce clientNonce : Bytes) :
    (∃ index, source.secret (claim.challenge serverNonce) = .ok (some index) ∧
      (attempt policy reading serverNonce clientNonce).run source.answer =
        .success (claim.identity.withIndex index) .secretKey []) ∨
    (∀ index, source.secret (claim.challenge serverNonce) ≠ .ok (some index)) ∧
      ∃ refusal, (attempt policy reading serverNonce clientNonce).run source.answer =
        .failure [refusal] := by
  have hrun := h.run_attempt source hpassword serverNonce clientNonce
  rcases hanswer : source.secret (claim.challenge serverNonce) with refusal | _ | index
  · rw [hanswer] at hrun
    exact .inr ⟨fun _ => by simp, refusal, hrun⟩
  · rw [hanswer] at hrun
    exact .inr ⟨fun _ => by simp, _, hrun⟩
  · rw [hanswer] at hrun
    exact .inl ⟨index, rfl, hrun⟩

/-- The claim is one of an identity, so that the server is not asked to sign. -/
theorem ReadFrom.has_id (h : claim.ReadFrom policy.maxIterations reading.params) :
    reading.params.has .id = true :=
  Params.missing?_eq_none_iff.1 h.complete .id (by simp)

end MacClaim

/-- The server does not sign for a request that claims an identity. -/
theorem Service.prove?_eq_none_of_has_id {params : Params} (h : params.has .id = true)
    (state : SessionState) : service.prove? params state = none := by
  simp [Service.prove?, Params.asksServerSignature, h]

/-- Who claims an identity is told the verdict alone. -/
theorem outcome_settle_of_has_id {visit : Visit} (hid : visit.reading.params.has .id = true)
    (verdict : Verdict) (registry : Registry) :
    (service.settle now visit verdict registry).1.outcome = verdict.outcome.withSignature none := by
  rw [Service.settle_fst, Service.prove?_eq_none_of_has_id hid]
  rfl

/-- Nothing of a failure is remembered. -/
theorem settle_of_failure {visit : Visit} {verdict : Verdict}
    (hid : visit.reading.params.has .id = true) (h : verdict.outcome.succeeded = false)
    (registry : Registry) : (service.settle now visit verdict registry).2 = registry := by
  refine Service.settle_of_no_successor ?_
  simp [Service.successor?, Service.prove?_eq_none_of_has_id hid, Verdict.isLogin, h]

/-- An attempt that fails is refused, and nothing is remembered of it. -/
theorem authenticate_of_run_failure
    (hread : (service.receive entropy now request registry).2.snapshot? request.sessionId =
      some snapshot)
    (h : (service.visitOf request snapshot).Attempts)
    (hid : (service.visitOf request snapshot).reading.params.has .id = true)
    {refusals : List Refusal}
    (hrun : (attempt service.policy (service.visitOf request snapshot).reading
      snapshot.state.serverNonce (entropy.draw .clientNonce Credential.clientNonceLength)).run
        source.answer = .failure refusals) :
    (service.authenticate source entropy now request registry).1.outcome = .failure refusals ∧
      (service.authenticate source entropy now request registry).2 =
        (service.receive entropy now request registry).2 := by
  rw [authenticate_of_attempts hread h, hrun, outcome_settle_of_has_id hid,
    settle_of_failure hid rfl]
  exact ⟨rfl, rfl⟩

/-- An attempt that succeeds is answered so. -/
theorem authenticate_of_run_success
    (hread : (service.receive entropy now request registry).2.snapshot? request.sessionId =
      some snapshot)
    (h : (service.visitOf request snapshot).Attempts)
    (hid : (service.visitOf request snapshot).reading.params.has .id = true)
    {identity : Identity} {kind : CredentialKind} {refusals : List Refusal}
    (hrun : (attempt service.policy (service.visitOf request snapshot).reading
      snapshot.state.serverNonce (entropy.draw .clientNonce Credential.clientNonceLength)).run
        source.answer = .success identity kind refusals) :
    (service.authenticate source entropy now request registry).1.outcome =
      .success identity kind refusals := by
  rw [authenticate_of_attempts hread h, hrun, outcome_settle_of_has_id hid]
  rfl

/-- A claim by a MAC that is checked under the secrets of a record is accepted at an index exactly
if a source may check it and that is the least index of a secret of the claimed identity that gives
the MAC under the nonce of the session. Otherwise it is refused, for one reason, and nothing is
remembered of it. -/
theorem secretKey_claim_accepted_iff
    (hread : (service.receive entropy now request registry).2.snapshot? request.sessionId =
      some snapshot)
    (hnamed : snapshot.state.isNamedBy (service.visitOf request snapshot).reading.params = true)
    (hparseable : (service.visitOf request snapshot).reading.unparseable = false)
    (hpassword : (service.visitOf request snapshot).reading.password = none)
    (hrecalled : (service.visitOf request snapshot).recalled? = none)
    (hclaim : claim.ReadFrom service.policy.maxIterations
      (service.visitOf request snapshot).reading.params)
    (records : Records) (sourceMax : UInt32) :
    let ended := service.authenticate (KeySource.ofStore records.values sourceMax) entropy now
      request registry
    (∀ index, ended.1.outcome = .success (claim.identity.withIndex index) .secretKey [] ↔
      claim.IsAffordable sourceMax ∧
        claim.IsProvedAt (records.stored claim.identity.handle) snapshot.state.serverNonce index) ∧
    ((∀ index, ¬ (claim.IsAffordable sourceMax ∧
        claim.IsProvedAt (records.stored claim.identity.handle) snapshot.state.serverNonce index)) →
      (∃ refusal, ended.1.outcome = .failure [refusal]) ∧
        ended.2 = (service.receive entropy now request registry).2) := by
  have hattempts : (service.visitOf request snapshot).Attempts :=
    { isNamedBy := hnamed
      parseable := hparseable
      claims := by simp [Reading.claims, Claim.claimsIdentity_of_decode hclaim.decode]
      recalled := hrecalled }
  have hid : (service.visitOf request snapshot).reading.params.has .id = true := hclaim.has_id
  have hsecret : ∀ index, (KeySource.ofStore records.values sourceMax).secret
      (claim.challenge snapshot.state.serverNonce) = .ok (some index) ↔ _ :=
    fun index => hclaim.secret_eq_ok_some_iff records.values snapshot.state.serverNonce sourceMax
  rw [KeySource.storedBy_values] at hsecret
  rcases hclaim.attempt_cases (KeySource.ofStore records.values sourceMax) hpassword
    snapshot.state.serverNonce (entropy.draw .clientNonce Credential.clientNonceLength) with
    ⟨found, hfound, hrun⟩ | ⟨hnone, refusal, hrun⟩
  · have haccepted := authenticate_of_run_success hread hattempts hid hrun
    refine ⟨fun index => ?_, fun hnone => absurd ((hsecret found).1 hfound) (hnone found)⟩
    rw [haccepted, ← hsecret index, hfound]
    constructor
    · intro h
      obtain ⟨hidentity, -⟩ := success_inj h
      exact congrArg (fun identity : Identity => Except.ok (some identity.index)) hidentity
    · rintro ⟨⟩
      rfl
  · obtain ⟨hfailed, hkept⟩ := authenticate_of_run_failure hread hattempts hid hrun
    refine ⟨fun index => ?_, fun _ => ⟨⟨refusal, hfailed⟩, hkept⟩⟩
    rw [hfailed, ← hsecret index]
    exact iff_of_false failure_ne_success (hnone index)

/-- One handle with three secrets, two of them the same. -/
def threeSecrets : Records :=
  Records.empty.putAll
    [("20.1000/7", { index := 5, type := "HS_SECKEY", data := [1, 2, 3] }),
      ("20.1000/7", { index := 2, type := "HS_SECKEY", data := [9] }),
      ("20.1000/7", { index := 3, type := "HS_SECKEY", data := [1, 2, 3] })]

/-- A request that claims the handle without an index, with the MAC under the first nonce. -/
def unindexedClaim : Request where
  sessionId := "s"
  authorization := none
  params := macClaim "SpO6yQcVjdIGsAw56khwEA=="

/-- The first session of a service, as it is opened. -/
def firstSession : Snapshot where
  serial := 0
  state := .ofNonce "s" (List.replicate 16 0)

/-- Of two indices with the secret that gives the MAC, the lesser is accepted. -/
theorem lesser_index_accepted :
    (plainService.authenticate (KeySource.ofStore threeSecrets.values 10000)
      (.ofStreams fun _ _ => 0) 0 unindexedClaim (.ofPolicy .default)).1.outcome =
        .success { handle := "20.1000/7", index := 3 } .secretKey [] := by
  let claim : MacClaim :=
    { identity := { handle := "20.1000/7", index := 0 }
      algorithm := .md5
      clientNonce := [0, 0, 0]
      mac := [74, 147, 186, 201, 7, 21, 141, 210, 6, 176, 12, 57, 234, 72, 112, 16]
      derivation := none }
  have hclaim : claim.ReadFrom plainService.policy.maxIterations
      (plainService.visitOf unindexedClaim firstSession).reading.params :=
    { complete := by decide +kernel
      kind := by decide +kernel
      algorithm := by decide +kernel
      identity := by decide +kernel
      clientNonce := by decide +kernel
      mac := by decide +kernel
      derivation := by decide +kernel
      short := by simp [claim] }
  have hproved : claim.IsProvedAt (threeSecrets.stored claim.identity.handle)
      firstSession.state.serverNonce 3 :=
    { exists_matches := ⟨{ index := 3, type := "HS_SECKEY", data := [1, 2, 3] },
        by decide +kernel,
        { inFamily := by decide +kernel, index_eq := by decide +kernel
          compute_eq := by decide +kernel },
        rfl⟩
      least := by
        intro value hmem hvalue
        have hstored : threeSecrets.stored "20.1000/7" =
            [{ index := 5, type := "HS_SECKEY", data := [1, 2, 3] },
              { index := 2, type := "HS_SECKEY", data := [9] },
              { index := 3, type := "HS_SECKEY", data := [1, 2, 3] }] := by decide +kernel
        rw [show claim.identity.handle = "20.1000/7" from rfl, hstored] at hmem
        simp only [List.mem_cons, List.not_mem_nil, or_false] at hmem
        rcases hmem with rfl | rfl | rfl
        · decide
        · exact absurd hvalue.compute_eq (by decide +kernel)
        · decide }
  exact ((secretKey_claim_accepted_iff (by decide +kernel) (by decide +kernel) (by decide +kernel)
    (by decide +kernel) (by decide +kernel) hclaim threeSecrets 10000).1 3).2
      ⟨by simp [MacClaim.IsAffordable, claim, Algorithm.method], hproved⟩

end Authentication

end HandleChallenge
