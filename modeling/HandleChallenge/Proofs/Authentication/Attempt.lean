import HandleChallenge.Authentication.Service
import HandleChallenge.Proofs.Dialogue

/-!
# What an attempt can end with

An attempt asks for at most two verifications, of the claim that the parameters make and of the
password. `attempt_ends` says that it ends with a success only by the identity that one of them
accepted, `proves_iff` with which identity it ends under one source, and `verdict_ends` tells the
ways apart in which a request gets its verdict.
-/

namespace HandleChallenge

/-- What a request that claims nothing finds. -/
def SessionState.continued (state : SessionState) : Outcome :=
  match state.login with
  | some login => .continuation login.identity login.kind
  | none => .notAttempted

namespace Authentication

open Dialogue (ends_done_iff ends_bind_iff)
open Header (Params PasswordClaim)

variable {policy : Policy} {reading : Reading} {serverNonce clientNonce : Bytes}
  {replies : List (Dialogue.Reply KeyQuestion.Answer)} {identity : Identity}
  {kind : CredentialKind}

/-- The verifications that an attempt may ask for, under the server's nonce. -/
inductive Asks (policy : Policy) (reading : Reading) (serverNonce : Bytes) :
    VerificationRequest → Prop where
  /-- Of the claim that the parameters make. -/
  | claim {claim : Claim} (h : Claim.decode policy.maxIterations reading.params = .ok claim) :
      Asks policy reading serverNonce (claim.request serverNonce)
  /-- Of the password, under a nonce that stands for the client's. -/
  | password {claim : PasswordClaim} {clientNonce : Bytes} {request : VerificationRequest}
      (h : reading.password = some claim)
      (hrequest : passwordRequest claim serverNonce clientNonce = .ok request) :
      Asks policy reading serverNonce request

/-- A verification that an attempt asked for accepted the identity, with the last of the replies,
by a response of the kind. -/
def Accepts (policy : Policy) (reading : Reading) (serverNonce : Bytes)
    (replies : List (Dialogue.Reply KeyQuestion.Answer)) (identity : Identity)
    (kind : CredentialKind) : Prop :=
  ∃ request earlier last, Asks policy reading serverNonce request ∧
    request.serverNonce = serverNonce ∧ request.response.kind = kind ∧
    replies = earlier ++ last ∧ request.verify.Ends last (.ok identity)

theorem passwordRequest_ok {claim : PasswordClaim} {request : VerificationRequest}
    (h : passwordRequest claim serverNonce clientNonce = .ok request) :
    ∃ payload, request =
      { identity := claim.identity, response := .secretKey passwordAlgorithm payload,
        serverNonce, clientNonce } := by
  unfold passwordRequest at h
  cases hmac : Mac.respond passwordAlgorithm claim.password serverNonce clientNonce none with
  | error refusal =>
    rw [hmac] at h
    cases h
  | ok payload =>
    rw [hmac] at h
    cases h
    exact ⟨payload, rfl⟩

/-- A verification that is asked for is under the nonce of the session. -/
theorem Asks.serverNonce_eq {request : VerificationRequest}
    (h : Asks policy reading serverNonce request) : request.serverNonce = serverNonce := by
  cases h with
  | claim hdecode => rfl
  | password hpassword hrequest =>
    obtain ⟨payload, rfl⟩ := passwordRequest_ok hrequest
    rfl

/-- The parameters prove an identity by the claim that they make. -/
theorem verifyParams_ends {params : Params}
    (h : (verifyParams policy params serverNonce).Ends replies (.ok (identity, kind))) :
    ∃ claim, Claim.decode policy.maxIterations params = .ok claim ∧
      claim.response.kind = kind ∧
      (claim.request serverNonce).verify.Ends replies (.ok identity) := by
  unfold verifyParams at h
  split at h
  · cases (ends_done_iff.1 h).2
  · rename_i claim hdecode
    obtain ⟨first, second, verified, rfl, hfirst, hsecond⟩ := ends_bind_iff.1 h
    obtain ⟨rfl, hverified⟩ := ends_done_iff.1 hsecond
    cases verified with
    | error refusal => cases hverified
    | ok found =>
      cases hverified
      refine ⟨claim, hdecode, rfl, ?_⟩
      rwa [List.append_nil]

/-- A password proves an identity by the MAC that the server computes under it. -/
theorem verifyPassword_ends {claim : PasswordClaim}
    (h : (verifyPassword claim serverNonce clientNonce).Ends replies (.ok identity)) :
    ∃ request, passwordRequest claim serverNonce clientNonce = .ok request ∧
      request.verify.Ends replies (.ok identity) := by
  unfold verifyPassword at h
  split at h
  · cases (ends_done_iff.1 h).2
  · exact ⟨_, ‹_›, h⟩

/-- A password alone ends with the identity that it proves, or with one more refusal. -/
theorem attemptPassword_ends (policy : Policy) {refusals : List Refusal} {outcome : Outcome}
    (h : (attemptPassword refusals reading.password serverNonce clientNonce).Ends replies
      outcome) :
    (∃ identity, outcome = .success identity .secretKey refusals ∧
        Accepts policy reading serverNonce replies identity .secretKey) ∨
      ∃ more, outcome = .failure (refusals ++ more) := by
  unfold attemptPassword at h
  split at h
  · obtain ⟨rfl, rfl⟩ := ends_done_iff.1 h
    exact .inr ⟨[], by rw [List.append_nil]⟩
  · rename_i claim hpassword
    obtain ⟨first, second, verified, rfl, hfirst, hsecond⟩ := ends_bind_iff.1 h
    cases verified with
    | error refusal =>
      obtain ⟨rfl, rfl⟩ := ends_done_iff.1 hsecond
      exact .inr ⟨[refusal], rfl⟩
    | ok identity =>
      obtain ⟨rfl, rfl⟩ := ends_done_iff.1 hsecond
      obtain ⟨request, hrequest, hverify⟩ := verifyPassword_ends hfirst
      have hasks : Asks policy reading serverNonce request := .password hpassword hrequest
      refine .inl ⟨identity, rfl, request, [], first, hasks, hasks.serverNonce_eq, ?_, by simp,
        hverify⟩
      obtain ⟨payload, rfl⟩ := passwordRequest_ok hrequest
      rfl

theorem Accepts.append {more : List (Dialogue.Reply KeyQuestion.Answer)}
    (h : Accepts policy reading serverNonce replies identity kind) :
    Accepts policy reading serverNonce (more ++ replies) identity kind := by
  obtain ⟨request, earlier, last, hasks, hnonce, hkind, rfl, hends⟩ := h
  exact ⟨request, more ++ earlier, last, hasks, hnonce, hkind, (List.append_assoc ..).symm, hends⟩

/-- An attempt succeeds with an identity that a verification accepted, or fails. -/
theorem attempt_ends {outcome : Outcome}
    (h : (attempt policy reading serverNonce clientNonce).Ends replies outcome) :
    (∃ identity kind refusals, outcome = .success identity kind refusals ∧
        Accepts policy reading serverNonce replies identity kind) ∨
      ∃ refusals, outcome = .failure refusals := by
  have hpassword : ∀ {refusals : List Refusal} {last : List (Dialogue.Reply KeyQuestion.Answer)},
      (attemptPassword refusals reading.password serverNonce clientNonce).Ends last outcome →
      (∃ identity kind refusals, outcome = .success identity kind refusals ∧
          Accepts policy reading serverNonce last identity kind) ∨
        ∃ refusals, outcome = .failure refusals := by
    intro refusals last hends
    rcases attemptPassword_ends policy hends with
      ⟨identity, rfl, haccepts⟩ | ⟨more, rfl⟩
    · exact .inl ⟨identity, .secretKey, refusals, rfl, haccepts⟩
    · exact .inr ⟨_, rfl⟩
  unfold attempt at h
  split at h
  · obtain ⟨first, second, verified, rfl, hfirst, hsecond⟩ := ends_bind_iff.1 h
    rcases verified with refusal | ⟨identity, kind⟩
    · rcases hpassword hsecond with ⟨identity, kind, refusals, rfl, haccepts⟩ | hfailure
      · exact .inl ⟨identity, kind, refusals, rfl, haccepts.append⟩
      · exact .inr hfailure
    · obtain ⟨rfl, rfl⟩ := ends_done_iff.1 hsecond
      obtain ⟨claim, hdecode, hkind, hverify⟩ := verifyParams_ends hfirst
      exact .inl ⟨identity, kind, [], rfl, claim.request serverNonce, [], first, .claim hdecode,
        rfl, hkind, by simp, hverify⟩
  · exact hpassword h

/-! ### Attempts under one source -/

/-- Under a source, an attempt succeeds with the identity. -/
def Proves (policy : Policy) (source : KeySource) (reading : Reading)
    (serverNonce clientNonce : Bytes) (identity : Identity) (kind : CredentialKind) : Prop :=
  ∃ refusals, (attempt policy reading serverNonce clientNonce).run source.answer =
    .success identity kind refusals

variable {source : KeySource}

theorem success_inj {other : Identity} {otherKind : CredentialKind} {refusals more : List Refusal}
    (h : Outcome.success identity kind refusals = .success other otherKind more) :
    identity = other ∧ kind = otherKind ∧ refusals = more := by
  cases h
  exact ⟨rfl, rfl, rfl⟩

theorem failure_ne_success {refusals more : List Refusal} :
    Outcome.failure refusals ≠ .success identity kind more := by
  intro h
  cases h

/-- The parameters prove an identity under a source if their claim can be decoded and verifies. -/
theorem run_verifyParams_eq_ok_iff {params : Params} :
    (verifyParams policy params serverNonce).run source.answer = .ok (identity, kind) ↔
      ∃ claim, Claim.decode policy.maxIterations params = .ok claim ∧
        claim.response.kind = kind ∧
        (claim.request serverNonce).verify.run source.answer = .ok identity := by
  unfold verifyParams
  cases Claim.decode policy.maxIterations params with
  | error refusal =>
    constructor
    · intro h
      cases h
    · rintro ⟨claim, h, -⟩
      cases h
  | ok claim =>
    rw [Dialogue.run_bind]
    cases hverify : (claim.request serverNonce).verify.run source.answer with
    | error refusal =>
      constructor
      · intro h
        cases h
      · rintro ⟨other, h, -, hother⟩
        cases h
        cases hverify.symm.trans hother
    | ok found =>
      constructor
      · intro h
        cases h
        exact ⟨claim, rfl, rfl, hverify⟩
      · rintro ⟨other, h, rfl, hother⟩
        cases h
        cases hverify.symm.trans hother
        rfl

/-- A password alone proves an identity under a source. -/
theorem run_attemptPassword_eq_success_iff {refusals more : List Refusal}
    {password : Option PasswordClaim} :
    (attemptPassword refusals password serverNonce clientNonce).run source.answer =
        .success identity kind more ↔
      kind = .secretKey ∧ refusals = more ∧ ∃ claim, password = some claim ∧
        (verifyPassword claim serverNonce clientNonce).run source.answer = .ok identity := by
  cases password with
  | none =>
    constructor
    · intro h
      cases failure_ne_success h
    · rintro ⟨-, -, claim, h, -⟩
      cases h
  | some claim =>
    rw [attemptPassword, Dialogue.run_bind]
    cases hverify : (verifyPassword claim serverNonce clientNonce).run source.answer with
    | error refusal =>
      constructor
      · intro h
        cases failure_ne_success h
      · rintro ⟨-, -, other, h, hother⟩
        cases h
        cases hverify.symm.trans hother
    | ok found =>
      constructor
      · intro h
        obtain ⟨rfl, rfl, rfl⟩ := success_inj h
        exact ⟨rfl, rfl, claim, rfl, hverify⟩
      · rintro ⟨rfl, rfl, other, h, hother⟩
        cases h
        cases hverify.symm.trans hother
        rfl

/-- An attempt proves an identity by the parameters, or by the password where the parameters prove
none. -/
theorem proves_iff :
    Proves policy source reading serverNonce clientNonce identity kind ↔
      (reading.params.claimsIdentity = true ∧
          (verifyParams policy reading.params serverNonce).run source.answer =
            .ok (identity, kind)) ∨
        ((reading.params.claimsIdentity = true →
            ∃ refusal, (verifyParams policy reading.params serverNonce).run source.answer =
              .error refusal) ∧
          kind = .secretKey ∧ ∃ claim, reading.password = some claim ∧
            (verifyPassword claim serverNonce clientNonce).run source.answer = .ok identity) := by
  unfold Proves attempt
  cases hclaims : reading.params.claimsIdentity with
  | false =>
    simp [run_attemptPassword_eq_success_iff]
  | true =>
    simp only [if_true, Dialogue.run_bind, true_and, forall_const]
    cases (verifyParams policy reading.params serverNonce).run source.answer with
    | error refusal =>
      simp [run_attemptPassword_eq_success_iff]
    | ok found =>
      obtain ⟨found, foundKind⟩ := found
      constructor
      · rintro ⟨refusals, h⟩
        obtain ⟨rfl, rfl, -⟩ := success_inj h
        exact .inl rfl
      · rintro (h | ⟨⟨refusal, h⟩, -⟩)
        · cases h
          exact ⟨[], rfl⟩
        · cases h

/-! ### Verdicts -/

/-- Nothing is asked about a request that claims nothing. -/
theorem Service.verdict_of_not_claims (service : Service) (clientNonce : Bytes) {visit : Visit}
    (h : visit.reading.claims = false) :
    service.verdict clientNonce visit =
      .done { outcome := visit.state.continued, verified := false } := by
  have hparseable : visit.reading.unparseable = false := by
    simp only [Reading.claims, Bool.or_eq_false_iff] at h
    exact h.2
  unfold Service.verdict SessionState.continued
  rw [hparseable, h]
  simp only [Bool.false_eq_true, if_false]
  cases visit.state.login with
  | none => rfl
  | some login => rfl

/-- The ways in which a request gets its verdict. -/
inductive Verdict.Reached (service : Service) (visit : Visit) (clientNonce : Bytes)
    (replies : List (Dialogue.Reply KeyQuestion.Answer)) : Verdict → Prop where
  | unparseable (h : visit.reading.unparseable = true) (hreplies : replies = []) :
      Reached service visit clientNonce replies
        { outcome := .failure [Service.unparseable], verified := false }
  | recalled {outcome : Outcome} (hparseable : visit.reading.unparseable = false)
      (hclaims : visit.reading.claims = true) (h : visit.recalled? = some outcome)
      (hreplies : replies = []) :
      Reached service visit clientNonce replies { outcome, verified := false }
  | attempted {outcome : Outcome} (hparseable : visit.reading.unparseable = false)
      (hclaims : visit.reading.claims = true) (h : visit.recalled? = none)
      (hends : (attempt service.policy visit.reading visit.state.serverNonce clientNonce).Ends
        replies outcome) :
      Reached service visit clientNonce replies { outcome, verified := true }
  | continued {login : Login} (hclaims : visit.reading.claims = false)
      (h : visit.state.login = some login) (hreplies : replies = []) :
      Reached service visit clientNonce replies
        { outcome := .continuation login.identity login.kind, verified := false }
  | notAttempted (hclaims : visit.reading.claims = false) (h : visit.state.login = none)
      (hreplies : replies = []) :
      Reached service visit clientNonce replies { outcome := .notAttempted, verified := false }

/-- A verdict is reached in one of these ways. -/
theorem verdict_ends {service : Service} {visit : Visit} {verdict : Verdict}
    (h : (service.verdict clientNonce visit).Ends replies verdict) :
    verdict.Reached service visit clientNonce replies := by
  unfold Service.verdict at h
  split at h
  · obtain ⟨rfl, rfl⟩ := ends_done_iff.1 h
    exact .unparseable ‹_› rfl
  · rename_i hparseable
    have hparseable := Bool.eq_false_iff.2 hparseable
    split at h
    · rename_i hclaims
      split at h
      · obtain ⟨rfl, rfl⟩ := ends_done_iff.1 h
        exact .recalled hparseable hclaims ‹_› rfl
      · obtain ⟨first, second, outcome, rfl, hfirst, hsecond⟩ := ends_bind_iff.1 h
        obtain ⟨rfl, rfl⟩ := ends_done_iff.1 hsecond
        rw [List.append_nil]
        exact .attempted hparseable hclaims ‹_› hfirst
    · rename_i hclaims
      have hclaims := Bool.eq_false_iff.2 hclaims
      split at h
      · obtain ⟨rfl, rfl⟩ := ends_done_iff.1 h
        exact .continued hclaims ‹_› rfl
      · obtain ⟨rfl, rfl⟩ := ends_done_iff.1 h
        exact .notAttempted hclaims ‹_› rfl

end Authentication

end HandleChallenge
