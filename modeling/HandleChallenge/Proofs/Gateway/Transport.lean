import HandleChallenge.Proofs.Authentication.Claim
import HandleChallenge.Proofs.Authentication.Provenance
import HandleChallenge.Proofs.Gateway.System

/-!
# Requests over an insecure transport

Where a secure transport is required, a request that did not come over one is refused if it has a
header. Its query may still make a claim, which is checked like any other.
`insecure_request_asks_iff` says that this is the only way in which such a request leads to a
question to the key source or to a login.
-/

namespace HandleChallenge

/-- The last login of the session under an id, if there is such a session. -/
def Registry.login? (registry : Registry) (id : String) : Option (Option Login) :=
  (registry.snapshot? id).map fun snapshot => snapshot.state.login

theorem VerificationRequest.isDone_verify (request : VerificationRequest) :
    request.verify.isDone = false := by
  unfold verify
  cases request.response with
  | publicKey algorithm signature => rfl
  | secretKey algorithm payload => rfl

theorem Dialogue.isDone_bind {Question : Type} {Answer : Question → Type} {α β : Type}
    {dialogue : Dialogue Answer α} (h : dialogue.isDone = false) (next : α → Dialogue Answer β) :
    (dialogue >>= next).isDone = false := by
  cases dialogue with
  | done result => cases h
  | ask question rest => rfl

namespace Authentication

variable {service : Service} {entropy : Entropy} {now : Instant} {registry : Registry}
  {request : Request} {verdict : Verdict}

/-! ### Requests without a header -/

/-- Nothing but its parameters is read of a request without a header. -/
theorem Reading.ofRequest_of_no_header (h : request.authorization = none)
    (allowPasswords : Bool) :
    ofRequest allowPasswords request =
      { header := none, unparseable := false, password := none
        params := Header.merge none request.params } := by
  obtain ⟨sessionId, authorization, params⟩ := request
  subst h
  cases allowPasswords with
  | false => rfl
  | true => rfl

theorem Service.reading_of_no_header (h : request.authorization = none) (snapshot : Snapshot) :
    (service.visitOf request snapshot).reading =
      { header := none, unparseable := false, password := none
        params := Header.merge none request.params } :=
  Reading.ofRequest_of_no_header h _

theorem Service.recalled?_of_no_header (h : request.authorization = none) (snapshot : Snapshot) :
    (service.visitOf request snapshot).recalled? = none := by
  show request.authorization.bind _ = none
  rw [h]
  rfl

/-- A whole claim is checked. -/
theorem Service.isDone_verdict_of_claim (h : request.authorization = none) {claim : Claim}
    (hdecode : Claim.decode service.policy.maxIterations (Header.merge none request.params) =
      .ok claim) (clientNonce : Bytes) (snapshot : Snapshot) :
    (service.verdict clientNonce (service.visitOf request snapshot)).isDone = false := by
  have hclaims := Claim.claimsIdentity_of_decode hdecode
  unfold Service.verdict
  rw [reading_of_no_header h, recalled?_of_no_header h]
  simp only [Reading.claims, hclaims, Bool.false_eq_true, if_false, Bool.true_or, if_true]
  refine Dialogue.isDone_bind ?_ _
  unfold attempt verifyParams
  simp only [hclaims, hdecode, if_true]
  exact Dialogue.isDone_bind (Dialogue.isDone_bind (claim.request _).isDone_verify _) _

/-- Without a whole claim nothing is asked, and the verdict is no login. -/
theorem Service.verdict_of_no_claim (h : request.authorization = none) {refusal : Refusal}
    (hdecode : Claim.decode service.policy.maxIterations (Header.merge none request.params) =
      .error refusal) (clientNonce : Bytes) (snapshot : Snapshot) :
    ∃ verdict, service.verdict clientNonce (service.visitOf request snapshot) = .done verdict ∧
      verdict.isLogin = false ∧
      (verdict.outcome.attempted && verdict.outcome.succeeded) = false := by
  cases hclaims : (service.visitOf request snapshot).reading.claims with
  | false =>
    refine ⟨_, service.verdict_of_not_claims clientNonce hclaims, rfl, ?_⟩
    unfold SessionState.continued
    cases (service.visitOf request snapshot).state.login with
    | none => rfl
    | some login => rfl
  | true =>
    refine ⟨{ outcome := .failure [refusal], verified := true }, ?_, rfl, rfl⟩
    rw [reading_of_no_header h] at hclaims
    have hclaims : (Header.merge none request.params).claimsIdentity = true := by
      simpa [Reading.claims] using hclaims
    unfold Service.verdict
    rw [reading_of_no_header h, recalled?_of_no_header h]
    simp only [Reading.claims, hclaims, Bool.false_eq_true, if_false, Bool.true_or, if_true,
      attempt, verifyParams, hdecode, attemptPassword]
    rfl

/-- A question is asked about the request. -/
def Reception.consults : Reception → Bool
  | .answered _ => false
  | .pending _ rest => !rest.isDone

/-- A whole claim on its session, which the parameters of a request make by themselves. -/
def Request.HasClaim (service : Service) (request : Request) : Prop :=
  (∃ claim, Claim.decode service.policy.maxIterations (Header.merge none request.params) =
      .ok claim) ∧
    ((Header.merge none request.params).known? .sessionId).all (· == request.sessionId) = true

theorem sessionId_of_receive (sound : registry.Sound) {id : String} {snapshot : Snapshot}
    (h : (service.receive entropy now request registry).2.snapshot? id = some snapshot) :
    snapshot.state.sessionId = id := by
  rcases Service.snapshot?_receive h with hkept | ⟨-, -, rfl⟩
  · exact sound.sessionId_eq hkept
  · rfl

/-- About a request without a header a question is asked exactly if its parameters make a whole
claim on its session. -/
theorem Service.receive_consults_iff (sound : registry.Sound) (h : request.authorization = none)
    (entropy : Entropy) (now : Instant) :
    (service.receive entropy now request registry).1.consults = true ↔
      request.HasClaim service := by
  constructor
  · intro hconsults
    cases hreceive : service.receive entropy now request registry with
    | mk reception after =>
      rw [hreceive] at hconsults
      cases reception with
      | answered answer => cases hconsults
      | pending visit rest =>
        obtain ⟨snapshot, clientNonce, rfl, hread, hnamed, rfl⟩ := receive_pending hreceive
        cases hdecode : Claim.decode service.policy.maxIterations
            (Header.merge none request.params) with
        | error refusal =>
          obtain ⟨verdict, hverdict, -⟩ := verdict_of_no_claim h hdecode clientNonce snapshot
          rw [hverdict] at hconsults
          cases hconsults
        | ok claim =>
          refine ⟨⟨claim, hdecode⟩, ?_⟩
          have hid : snapshot.state.sessionId = request.sessionId :=
            sessionId_of_receive sound (by rw [hreceive]; exact hread)
          rw [reading_of_no_header h] at hnamed
          rw [← hid]
          exact hnamed
  · rintro ⟨⟨claim, hdecode⟩, hnamed⟩
    have hneeds : (Reading.ofRequest service.policy.allowBasic request).needsSession = true := by
      rw [Reading.ofRequest_of_no_header h]
      simp [Reading.needsSession, Header.Params.needsSession,
        Claim.claimsIdentity_of_decode hdecode]
    -- a request that claims an identity gets a session, so it is no stranger's
    rcases receive_cases service entropy now request registry with
      ⟨hneedless, -⟩ | ⟨snapshot, hadmission, hread⟩
    · rw [hneeds] at hneedless
      cases hneedless
    · have hid := sessionId_of_receive sound hread
      have hmeant : (service.visitOf request snapshot).state.isNamedBy
          (service.visitOf request snapshot).reading.params = true := by
        rw [reading_of_no_header h]
        show ((Header.merge none request.params).known? .sessionId).all
          (· == snapshot.state.sessionId) = true
        rw [hid]
        exact hnamed
      rw [hadmission, admission_of_isNamedBy hmeant]
      show (!(service.verdict _ (service.visitOf request snapshot)).isDone) = true
      rw [isDone_verdict_of_claim h hdecode]
      rfl

/-- The logins are the same after a request, unless it has opened a session: that one has none,
and others may have made room for it. -/
def Service.KeepsLogins (service : Service) (request : Request) (registry after : Registry) : Prop :=
  ∀ id, after.login? id = registry.login? id ∨
    service.opens registry request = true ∧
      (after.login? id = none ∨ id = request.sessionId ∧ after.login? id = some none)

/-- An arriving request changes no login. -/
theorem Service.keepsLogins_receive (service : Service) (entropy : Entropy) (now : Instant)
    (request : Request) (registry : Registry) :
    service.KeepsLogins request registry (service.receive entropy now request registry).2 := by
  intro id
  cases hopens : service.opens registry request with
  | false =>
    left
    rw [Registry.login?, snapshot?_receive_of_not_opens hopens]
    rfl
  | true =>
    cases hread : (service.receive entropy now request registry).2.snapshot? id with
    | none =>
      refine .inr ⟨rfl, .inl ?_⟩
      rw [Registry.login?, hread]
      rfl
    | some snapshot =>
      rw [Registry.login?, hread]
      rcases snapshot?_receive hread with hkept | ⟨-, rfl, rfl⟩
      · left
        rw [Registry.login?, hkept]
      · exact .inr ⟨rfl, .inr ⟨rfl, rfl⟩⟩

/-- A verdict that is no login changes none. -/
theorem Service.login?_settle {allowed : KeyReply → Prop} {call : Call} (hregistry : registry.Sound)
    (sound : call.Sound service allowed registry) (h : verdict.isLogin = false) (now : Instant)
    (id : String) :
    (service.settle now call.visit verdict registry).2.login? id = registry.login? id := by
  cases hstate : service.successor? call.visit verdict with
  | none => rw [settle_of_no_successor hstate]
  | some state =>
    obtain ⟨serial, -, -, hall⟩ := settle_of_successor hregistry hstate
    rw [Registry.login?, hall]
    split
    · rename_i hheld
      obtain ⟨rfl, hholds⟩ := hheld
      rw [Registry.login?, sound.snapshot?_eq hholds]
      show some state.login = some call.visit.state.login
      rw [login_of_successor hstate, call.visit.loginState_of_not_isLogin h]
    · rfl

end Authentication

namespace Gateway

open Authentication (Service Call KeyReply Event sourceAt)

variable {settings : GatewaySettings} {service : Service} {allowed : KeyReply → Prop}
  {request : Http.Request} {registry : Registry} {history : List Event} {system : System}
  {thread : Thread}

/-! ### Insecure requests -/

/-- The calls to the service for a request that is refused for its transport do not authenticate
it. -/
theorem transcript_of_blocked (h : isBlocked settings request = true) (entropy : Entropy)
    (answer : (call : ServiceCall) → call.Answer) :
    ∀ call ∈ (handle settings entropy request).transcript answer, ∃ id, call = .hasSession id := by
  intro call hmem
  rw [handle_eq, Dialogue.transcript_bind, if_pos h, Dialogue.transcript_done,
    List.append_nil] at hmem
  simp only [sessionOf] at hmem
  split at hmem
  · cases hmem
  · exact ⟨_, List.mem_singleton.1 hmem⟩

/-- Of a request without a header and without a whole claim in its query, nothing is asked while it
waits, and its end changes no login. -/
theorem Thread.Admitted.idle (hadmitted : thread.Admitted settings) (hregistry : registry.Sound)
    (sound : thread.call.Sound service allowed registry)
    (h : thread.request.headers.text? "authorization" = none)
    (hclaim : ¬ (authenticationRequest thread.request thread.session).HasClaim service) :
    thread.call.replies = [] ∧ ∃ verdict, thread.call.rest = .done verdict ∧
      ∀ now id, (thread.finish settings service now verdict registry).2.login? id =
        registry.login? id := by
  have hvisit : thread.call.visit =
      service.visitOf (authenticationRequest thread.request thread.session)
        thread.call.visit.snapshot := by
    rw [← hadmitted.request_eq]
    exact sound.visit_eq
  cases hdecode : Authentication.Claim.decode service.policy.maxIterations
      (Header.merge none (authenticationRequest thread.request thread.session).params) with
  | ok claim =>
    -- it names no other session, for it was admitted
    refine absurd ⟨⟨claim, hdecode⟩, ?_⟩ hclaim
    have hreading : thread.call.visit.reading = _ :=
      (congrArg Authentication.Visit.reading hvisit).trans (Service.reading_of_no_header h _)
    have hnamed := sound.isNamedBy
    rw [hreading, SessionState.isNamedBy, sound.sessionId_eq, hadmitted.request_eq] at hnamed
    exact hnamed
  | error refusal =>
    obtain ⟨clientNonce, hfollows⟩ := sound.follows
    obtain ⟨verdict, hverdict, hlogin, hattempted⟩ :=
      Service.verdict_of_no_claim h hdecode clientNonce thread.call.visit.snapshot
    rw [hvisit, hverdict] at hfollows
    obtain ⟨hreplies, hrest⟩ := Dialogue.follows_done_iff.1 hfollows
    refine ⟨hreplies, verdict, hrest, fun now id => ?_⟩
    have hrotates : rotates thread.session
        (service.settle now thread.call.visit verdict registry).1 = false := by
      rw [Service.settle_fst]
      simp only [rotates, Authentication.Visit.answer, Outcome.withSignature, hattempted,
        Bool.false_and]
    show (Gateway.finish ..).2.login? id = registry.login? id
    rw [finish_of_not_rotates hrotates]
    exact Service.login?_settle hregistry sound hlogin now id

theorem isBlocked_of_insecure (hrequire : settings.requireSecure = true)
    (hinsecure : isSecure settings request = false) :
    isBlocked settings request = (request.headers.text? "authorization").isSome := by
  simp [isBlocked, hrequire, hinsecure]

/-- A request without a header and without a whole claim in its query, handled with nothing
between its halves, changes no login. -/
theorem login?_handle_of_no_claim {entropy : Entropy}
    (h : Reaches settings service allowed history system)
    (hheader : request.headers.text? "authorization" = none)
    (hclaim : ¬ (authenticationRequest request
      (sessionIn settings entropy request system.registry)).HasClaim service)
    (source : KeySource) (now : Instant) (id : String) :
    ((handle settings entropy request).interpret (answerCall service source entropy now)
        system.registry).2.login? id =
      (service.receive entropy now (authenticationRequest request
        (sessionIn settings entropy request system.registry)) system.registry).2.login? id := by
  have hblocked : isBlocked settings request = false := isBlocked_of_no_header hheader
  rw [interpret_handle, if_neg (by simp [hblocked])]
  simp only [Service.authenticate]
  cases hreceive : service.receive entropy now (authenticationRequest request
      (sessionIn settings entropy request system.registry)) system.registry with
  | mk reception after =>
    cases reception with
    | answered answer =>
      simp only [finish_of_not_rotates (rotates_of_receive hreceive)]
    | pending visit rest =>
      -- its second half begins where a run with the request in flight has led
      have hnext : Reaches settings service allowed (_ ++ history) _ :=
        h.tail (.admitted hblocked hreceive)
      have hmem := List.mem_append_right system.threads (List.mem_singleton_self
        (Thread.mk entropy request (sessionIn settings entropy request system.registry)
          { visit, replies := [], rest }))
      obtain ⟨-, verdict, hrest, hkeeps⟩ := (hnext.admitted _ hmem).idle hnext.core.sound.registry
        (hnext.core.sound.call _ (List.mem_map_of_mem hmem)) hheader hclaim
      have hrest : rest = .done verdict := hrest
      subst hrest
      exact hkeeps now id

/-- Where a secure transport is required, an insecure request with a header is refused and the
service never hears of it. About one without a header a question is asked exactly if its query makes
a whole claim on its session; else no login changes when it arrives, while it waits or when it
ends, whatever happens in between. -/
theorem insecure_request_asks_iff (hrequire : settings.requireSecure = true)
    (hinsecure : isSecure settings request = false)
    (h : Reaches settings service allowed history system) :
    ((request.headers.text? "authorization").isSome = true → ∀ entropy,
      (∀ answer, ∀ call ∈ (handle settings entropy request).transcript answer,
        ∃ id, call = .hasSession id) ∧
      ∀ source now,
        (handle settings entropy request).interpret (answerCall service source entropy now)
          system.registry = (.refused insecureResponse, system.registry)) ∧
    (request.headers.text? "authorization" = none → ∀ entropy now,
      let asked :=
        authenticationRequest request (sessionIn settings entropy request system.registry)
      let received := service.receive entropy now asked system.registry
      (received.1.consults = true ↔ asked.HasClaim service) ∧
      service.KeepsLogins asked system.registry received.2 ∧
      (¬ asked.HasClaim service → ∀ source,
        service.KeepsLogins asked system.registry
          ((handle settings entropy request).interpret (answerCall service source entropy now)
            system.registry).2)) ∧
    ∀ thread ∈ system.threads, thread.request = request →
      request.headers.text? "authorization" = none ∧
      (¬ (authenticationRequest request thread.session).HasClaim service →
        thread.call.replies = [] ∧ ∃ verdict, thread.call.rest = .done verdict ∧
          ∀ now id, (thread.finish settings service now verdict system.registry).2.login? id =
            system.registry.login? id) := by
  have hblocked := isBlocked_of_insecure hrequire hinsecure
  refine ⟨?_, ?_, ?_⟩
  · intro hheader entropy
    rw [hheader] at hblocked
    refine ⟨transcript_of_blocked hblocked entropy, fun source now => ?_⟩
    rw [interpret_handle, if_pos hblocked]
  · intro hheader entropy now
    refine ⟨Service.receive_consults_iff h.core.sound.registry hheader entropy now,
      service.keepsLogins_receive entropy now _ _, fun hclaim source id => ?_⟩
    rw [login?_handle_of_no_claim h hheader hclaim source now id]
    exact service.keepsLogins_receive entropy now _ _ id
  · rintro thread hmem rfl
    have hadmitted := h.admitted thread hmem
    have hheader : thread.request.headers.text? "authorization" = none := by
      rw [hadmitted.isBlocked_eq] at hblocked
      exact Option.isNone_iff_eq_none.1 (Option.isSome_eq_false_iff.1 hblocked.symm)
    refine ⟨hheader, fun hclaim => ?_⟩
    exact hadmitted.idle h.core.sound.registry
      (h.core.sound.call _ (List.mem_map_of_mem hmem)) hheader hclaim

/-- Settings that require a secure transport. -/
def strict : GatewaySettings := { GatewaySettings.default with requireSecure := true }

/-- Nothing is asked about an insecure request for a signature of the server. -/
theorem insecure_signature_asks_nothing :
    ∃ history,
      Reaches strict signingService (fun _ => True) history
        { registry := openedRegistry, threads := [] } ∧
      (signingService.receive (alike 1) 0
        (authenticationRequest (requestWith "cnonce=BBBB")
          (sessionIn strict (alike 1) (requestWith "cnonce=BBBB") openedRegistry))
        openedRegistry).1.consults = false := by
  have hcookie : strict.cookieName = GatewaySettings.default.cookieName := rfl
  obtain ⟨history, h⟩ := exists_reaches_opened hcookie fun _ => True
  have hinsecure : isSecure strict (requestWith "cnonce=BBBB") = false := by decide +kernel
  obtain ⟨-, hasks, -⟩ := insecure_request_asks_iff rfl hinsecure h
  obtain ⟨hconsults, -⟩ := hasks (header_requestWith _) (alike 1) 0
  refine ⟨history, h, Bool.eq_false_iff.2 fun hconsulted => ?_⟩
  obtain ⟨⟨claim, hdecode⟩, -⟩ := hconsults.1 hconsulted
  have hclaims := Authentication.Claim.claimsIdentity_of_decode hdecode
  have hnone : (Header.merge none (authenticationRequest (requestWith "cnonce=BBBB")
      (sessionIn strict (alike 1) (requestWith "cnonce=BBBB") openedRegistry)).params).claimsIdentity
        = false := by decide +kernel
  rw [hnone] at hclaims
  cases hclaims

/-- The claim in the query of an insecure request is checked, and the session gets its identity. -/
theorem insecure_query_logs_in :
    ∃ history,
      Reaches strict signingService (fun _ => True) history
        { registry := openedRegistry, threads := [] } ∧
      isSecure strict (requestWith wholeQuery) = false ∧
      (signingService.receive (alike 1) 0
        (authenticationRequest (requestWith wholeQuery)
          (sessionIn strict (alike 1) (requestWith wholeQuery) openedRegistry))
        openedRegistry).1.consults = true ∧
      openedRegistry.login? openedSession.id = some none ∧
      ((handle strict (alike 1) (requestWith wholeQuery)).interpret
          (answerCall signingService (sourceAt 3) (alike 1) 0) openedRegistry).2.login?
            (SessionId.mint (alike 1)).id =
        some (some
          { identity := { handle := "20.1000/7", index := 3 }
            kind := .secretKey
            authorization := none
            outcome := .success { handle := "20.1000/7", index := 3 } .secretKey [] }) := by
  have hcookie : strict.cookieName = GatewaySettings.default.cookieName := rfl
  obtain ⟨history, h⟩ := exists_reaches_opened hcookie fun _ => True
  exact ⟨history, h, by decide +kernel, by decide +kernel, by decide +kernel, by decide +kernel⟩

end Gateway

end HandleChallenge
