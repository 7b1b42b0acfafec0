import HandleChallenge.Proofs.Authentication.ClaimChecks
import HandleChallenge.Proofs.Authentication.Outcomes
import HandleChallenge.Proofs.Authentication.SecretKey

/-!
# When a key source is asked

A verification asks a key source once: for the public keys of the identity, which are then looked
into, or for the index of a secret. `checks_precede_consultation` says that a claim that fails a
check leads to no question, and one that passes them all to this one.
-/

namespace HandleChallenge

open Dialogue (ends_done_iff ends_ask_iff ends_bind_iff)
open Authentication (KeyReply)

/-! ### Verifications -/

namespace VerificationRequest

variable {request : VerificationRequest} {algorithm : Algorithm} {signature payload : Bytes}
  {replies : List KeyReply} {result : Except Refusal Identity}

/-- The replies are to the one question that a verification asks, and to questions which key one of
the candidates holds. -/
inductive AsksOnce (request : VerificationRequest) : List KeyReply → Prop where
  | publicKey {algorithm : Algorithm} {signature : Bytes} (answer : Except Refusal (List Value))
      {decoded : List KeyReply} (hresponse : request.response = .publicKey algorithm signature)
      (hdecoded : ∀ reply ∈ decoded, ∃ candidates, answer = .ok candidates ∧
        ∃ value ∈ candidates, reply.1 = .decode value) :
      AsksOnce request (⟨.candidates request.identity, answer⟩ :: decoded)
  | secretKey {algorithm : Algorithm} {payload : Bytes} (answer : Except Refusal (Option UInt32))
      (hresponse : request.response = .secretKey algorithm payload) :
      AsksOnce request [⟨.secret (request.challenge algorithm payload), answer⟩]

/-- Keys are looked into and nothing else is asked. -/
theorem exists_decode_of_tryKeys {values : List Value}
    (h : (request.tryKeys algorithm signature values).Ends replies result) :
    ∀ reply ∈ replies, ∃ value ∈ values, reply.1 = .decode value := by
  induction values generalizing replies with
  | nil =>
    obtain ⟨rfl, -⟩ := ends_done_iff.1 h
    simp
  | cons value rest ih =>
    obtain ⟨answer, others, rfl, hnext⟩ := ends_ask_iff.1 h
    have hothers : ∀ reply ∈ others, ∃ value ∈ rest, reply.1 = .decode value := by
      split at hnext
      · split at hnext
        · obtain ⟨rfl, -⟩ := ends_done_iff.1 hnext
          simp
        · exact ih hnext
      · exact ih hnext
    intro reply hmem
    rcases List.mem_cons.1 hmem with rfl | hmem
    · exact ⟨value, List.mem_cons_self, rfl⟩
    · obtain ⟨other, hother, hreply⟩ := hothers reply hmem
      exact ⟨other, List.mem_cons_of_mem _ hother, hreply⟩

/-- A verification asks once. -/
theorem asksOnce_of_ends (h : request.verify.Ends replies result) : request.AsksOnce replies := by
  unfold verify at h
  cases hresponse : request.response with
  | publicKey algorithm signature =>
    simp only [hresponse] at h
    obtain ⟨answer, decoded, rfl, hnext⟩ := ends_ask_iff.1 h
    refine .publicKey answer hresponse fun reply hmem => ?_
    change Except Refusal (List Value) at answer
    split at hnext
    · obtain ⟨rfl, -⟩ := ends_done_iff.1 hnext
      cases hmem
    · obtain ⟨rfl, -⟩ := ends_done_iff.1 hnext
      cases hmem
    · rename_i candidates _
      obtain ⟨value, hvalue, hreply⟩ := exists_decode_of_tryKeys hnext reply hmem
      exact ⟨candidates, rfl, value, (Value.mem_sortByIndex).1 hvalue, hreply⟩
  | secretKey algorithm payload =>
    simp only [hresponse] at h
    obtain ⟨answer, others, rfl, hnext⟩ := ends_ask_iff.1 h
    have hothers : others = [] := by
      split at hnext
      all_goals exact (ends_done_iff.1 hnext).1
    rw [hothers]
    exact .secretKey answer hresponse

end VerificationRequest

/-! ### Requests that claim an identity -/

namespace Authentication

open Header (Params)

variable {policy : Policy} {params : Params} {serverNonce : Bytes} {replies : List KeyReply}
  {service : Service} {entropy : Entropy} {now later : Instant} {request : Request}
  {registry : Registry} {handling : Handling} {snapshot : Snapshot}

/-- A claim that is not decoded leads to no question, and one that is to those of its
verification. -/
theorem verifyParams_cases {result : Except Refusal (Identity × CredentialKind)}
    (h : (verifyParams policy params serverNonce).Ends replies result) :
    (∃ refusal, Claim.decode policy.maxIterations params = .error refusal ∧ replies = [] ∧
        result = .error refusal) ∨
      ∃ claim, Claim.decode policy.maxIterations params = .ok claim ∧
        (claim.request serverNonce).AsksOnce replies := by
  unfold verifyParams at h
  cases hdecode : Claim.decode policy.maxIterations params with
  | error refusal =>
    simp only [hdecode] at h
    obtain ⟨rfl, rfl⟩ := ends_done_iff.1 h
    exact .inl ⟨refusal, rfl, rfl, rfl⟩
  | ok claim =>
    simp only [hdecode] at h
    obtain ⟨first, second, verified, rfl, hfirst, hsecond⟩ := ends_bind_iff.1 h
    obtain ⟨rfl, -⟩ := ends_done_iff.1 hsecond
    rw [List.append_nil]
    exact .inr ⟨claim, rfl, VerificationRequest.asksOnce_of_ends hfirst⟩

/-- A claim that is checked for a request comes to the outcome of its attempt, with a signature of
the server where one is due. -/
theorem Handles.attempt_ends
    (hhandles : Handles service entropy now later request registry handling)
    (hread : (service.receive entropy now request registry).2.snapshot? request.sessionId =
      some snapshot)
    (h : (service.visitOf request snapshot).Attempts) :
    ∃ outcome signature,
      (attempt service.policy (service.visitOf request snapshot).reading
        snapshot.state.serverNonce
        (entropy.draw .clientNonce Credential.clientNonceLength)).Ends handling.replies outcome ∧
      handling.answer.outcome = outcome.withSignature signature := by
  obtain ⟨replies, verdict, hends, rfl⟩ :=
    (handles_iff_of_pending (receive_of_attempts hread h)).1 hhandles
  refine ⟨verdict.outcome, _, ?_, congrArg Answer.outcome Service.settle_fst⟩
  clear hhandles
  cases verdict_ends hends with
  | attempted _ _ _ hattempt => exact hattempt
  | unparseable hunparseable => cases hunparseable.symm.trans h.parseable
  | recalled _ _ hrecalled => cases hrecalled.symm.trans h.recalled
  | continued hclaims => cases hclaims.symm.trans h.claims
  | notAttempted hclaims => cases hclaims.symm.trans h.claims

/-- Without a password, all that is tried is to verify what the parameters claim. -/
theorem Tried.exists_verifyParams {reading : Reading} {outcome : Outcome}
    (h : Tried policy reading serverNonce replies outcome) (hpassword : reading.password = none) :
    ∃ result, (verifyParams policy reading.params serverNonce).Ends replies result ∧
      ∀ refusal, result = .error refusal → outcome = .failure [refusal] := by
  cases h with
  | claimAccepted _ hclaim => exact ⟨_, hclaim, by simp⟩
  | claimRefused _ hclaim => exact ⟨_, hclaim, by simp⟩
  | passwordAccepted _ hsome => cases hsome.symm.trans hpassword
  | passwordRefused _ hsome => cases hsome.symm.trans hpassword
  | passwordAcceptedAfter _ _ hsome => cases hsome.symm.trans hpassword
  | bothRefused _ _ hsome => cases hsome.symm.trans hpassword

/-- A claim that comes without a password passes every check, or there is a first one that it fails.
Then it is refused as that check says, and the key source is asked nothing. A claim that passes them
all is decoded, and the key source is asked once about it. -/
theorem checks_precede_consultation
    (hhandles : Handles service entropy now later request registry handling)
    (hread : (service.receive entropy now request registry).2.snapshot? request.sessionId =
      some snapshot)
    (hnamed : snapshot.state.isNamedBy (service.visitOf request snapshot).reading.params = true)
    (hparseable : (service.visitOf request snapshot).reading.unparseable = false)
    (hpassword : (service.visitOf request snapshot).reading.password = none)
    (hrecalled : (service.visitOf request snapshot).recalled? = none)
    (hclaims : (service.visitOf request snapshot).reading.params.claimsIdentity = true) :
    let params := (service.visitOf request snapshot).reading.params
    ((∀ check ∈ ClaimCheck.order params, check.Passes service.policy.maxIterations params) ∨
      ∃ check : ClaimCheck, check.IsFirstFailure service.policy.maxIterations params) ∧
    (∀ check : ClaimCheck, check.IsFirstFailure service.policy.maxIterations params →
      handling.replies = [] ∧ ∃ refusal signature, check.Tells params refusal ∧
        handling.answer.outcome = (Outcome.failure [refusal]).withSignature signature) ∧
    ((∀ check ∈ ClaimCheck.order params, check.Passes service.policy.maxIterations params) →
      ∃ claim, Claim.decode service.policy.maxIterations params = .ok claim ∧
        (claim.request snapshot.state.serverNonce).AsksOnce handling.replies) := by
  intro params
  have hattempts : (service.visitOf request snapshot).Attempts :=
    { isNamedBy := hnamed
      parseable := hparseable
      claims := by simp [Reading.claims, hclaims]
      recalled := hrecalled }
  obtain ⟨outcome, signature, hends, houtcome⟩ := hhandles.attempt_ends hread hattempts
  obtain ⟨result, hresult, hrefused⟩ :=
    (tried_of_ends hparseable hattempts.claims hends).exists_verifyParams hpassword
  refine ⟨ClaimCheck.passes_or_exists_isFirstFailure _ _, fun check hfirst => ?_, fun hpass => ?_⟩
  · obtain ⟨refusal, htold, hdecode⟩ := hfirst.decode
    rcases verifyParams_cases hresult with ⟨other, hother, hnone, herror⟩ | ⟨claim, hclaim, -⟩
    · cases hdecode.symm.trans hother
      rw [hrefused refusal herror] at houtcome
      exact ⟨hnone, refusal, signature, htold, houtcome⟩
    · cases hdecode.symm.trans hclaim
  · obtain ⟨claim, hclaim⟩ := ClaimCheck.makes_decode.ok hpass
    rcases verifyParams_cases hresult with ⟨refusal, hother, -⟩ | ⟨other, hother, hasks⟩
    · cases hclaim.symm.trans hother
    · exact ⟨other, hother, hasks⟩

/-- A request that claims an identity by a signature and names the algorithm of a derived key
without its parameters. -/
def bareDerivedKey : Request where
  sessionId := "s"
  authorization := none
  params :=
    [("id", "20.1000/7"), ("type", "HS_PUBKEY"), ("alg", "PBKDF2-HMAC-SHA1"), ("cnonce", "AAAA"),
      ("signature", "AAAA")]

/-- The parameters that are read of a request. -/
def firstParams (request : Request) : Params :=
  (plainService.visitOf request firstSession).reading.params

/-- The parameters of the derived key are missed first, although the algorithm is not a hash. -/
theorem isFirstFailure_bareDerivedKey :
    ClaimCheck.derivationComplete.IsFirstFailure plainService.policy.maxIterations
      (firstParams bareDerivedKey) where
  earlier_pass := by
    have hderives : Claim.derivesKey (firstParams bareDerivedKey) = true := by decide +kernel
    refine ⟨[.complete, .kind, .algorithm, .identity, .bytes .cnonce, .bytes .signature],
      [.bytes .salt, .number .iterations, .number .length, .limits, .signatureHash], ?_, ?_⟩
    · rw [ClaimCheck.order, if_pos hderives]
      rfl
    · simp only [List.forall_mem_cons, ClaimCheck.Passes]
      exact ⟨by decide +kernel, ⟨.publicKey, by decide +kernel⟩,
        ⟨.pbkdf2HmacSha1, by decide +kernel⟩, ⟨⟨"20.1000/7", 0⟩, by decide +kernel⟩,
        ⟨[0, 0, 0], by decide +kernel⟩, ⟨[0, 0, 0], by decide +kernel⟩, by simp⟩
  fails := by
    simp only [ClaimCheck.Passes]
    decide +kernel

/-- A claim by a digest passes every check. -/
theorem passes_claimRequest :
    ∀ check ∈ ClaimCheck.order (firstParams claimRequest),
      check.Passes plainService.policy.maxIterations (firstParams claimRequest) := by
  have hderives : ¬ Claim.derivesKey (firstParams claimRequest) = true := by decide +kernel
  rw [ClaimCheck.order, if_neg hderives]
  simp only [List.nil_append, List.forall_mem_cons, ClaimCheck.Passes]
  exact ⟨by decide +kernel, ⟨.secretKey, by decide +kernel⟩, ⟨.md5, by decide +kernel⟩,
    ⟨⟨"20.1000/7", 0⟩, by decide +kernel⟩, ⟨[0, 0, 0], by decide +kernel⟩,
    ⟨[0, 0, 0], by decide +kernel⟩, fun hpublic => absurd hpublic (by decide +kernel), by simp⟩

/-- Nothing is asked about the one, and one question about the other. -/
theorem bareDerivedKey_unasked :
    (∃ handling, Handles plainService zeros 0 0 bareDerivedKey (.ofPolicy .default) handling ∧
      handling.replies = [] ∧
      handling.answer.outcome.refusals =
        [.incomplete "PBKDF2 needs salt, iterations and length"]) ∧
    ∃ handling, Handles plainService zeros 0 0 claimRequest (.ofPolicy .default) handling ∧
      VerificationRequest.AsksOnce
        { identity := { handle := "20.1000/7", index := 0 }
          response := .secretKey .md5 [0, 0, 0]
          serverNonce := List.replicate 16 0
          clientNonce := [0, 0, 0] } handling.replies := by
  constructor
  · obtain ⟨handling, hhandles, -⟩ :=
      exists_handles_authenticate plainService noSource zeros 0 bareDerivedKey (.ofPolicy .default)
    have hread : (plainService.receive zeros 0 bareDerivedKey (.ofPolicy .default)).2.snapshot?
        "s" = some firstSession := by decide +kernel
    obtain ⟨hnone, refusal, signature, htold, houtcome⟩ := (checks_precede_consultation hhandles
      hread (by decide +kernel) (by decide +kernel) (by decide +kernel) (by decide +kernel)
      (by decide +kernel)).2.1 _ isFirstFailure_bareDerivedKey
    refine ⟨handling, hhandles, hnone, ?_⟩
    rw [houtcome, show refusal = _ from htold]
    rfl
  · obtain ⟨handling, hhandles, -⟩ :=
      exists_handles_authenticate plainService noSource zeros 0 claimRequest (.ofPolicy .default)
    have hread : (plainService.receive zeros 0 claimRequest (.ofPolicy .default)).2.snapshot?
        "s" = some firstSession := by decide +kernel
    obtain ⟨claim, hclaim, hasks⟩ := (checks_precede_consultation hhandles hread
      (by decide +kernel) (by decide +kernel) (by decide +kernel) (by decide +kernel)
      (by decide +kernel)).2.2 passes_claimRequest
    have hdecode : Claim.decode plainService.policy.maxIterations (firstParams claimRequest) =
        .ok { identity := { handle := "20.1000/7", index := 0 }
              response := .secretKey .md5 [0, 0, 0]
              clientNonce := [0, 0, 0] } := by decide +kernel
    cases hdecode.symm.trans hclaim
    exact ⟨handling, hhandles, hasks⟩

end Authentication

end HandleChallenge
