import HandleChallenge.Proofs.Authentication.Interference
import HandleChallenge.Proofs.Session.Slots

/-!
# Requests handled one at a time

A request is handled with nothing between its two steps: the key source gives some replies, which
need not be those of a function, until a verdict is reached. `handles_iff_of_answered` and
`handles_iff_of_pending` say what can come of it, and `failure_keeps_session` that a session is as
it was before unless the request was accepted by a verification of its own.
-/

namespace HandleChallenge

/-- A snapshot that was made from a held one is held where it was installed. -/
theorem Registry.holds_advance_of_holds {registry : Registry} {id : String} {current : Snapshot}
    (h : registry.Holds id current) (now : Instant) (state : SessionState) :
    (registry.advance now id current state).2.Holds id
      (registry.advance now id current state).1 := by
  rw [holds_iff, snapshot?_advance, if_pos ⟨rfl, h⟩]
  exact ⟨_, rfl, rfl⟩

namespace Authentication

/-- A request that was handled. -/
structure Handling where
  /-- The replies of the key source. -/
  replies : List KeyReply
  /-- The verdict, unless the request was answered as it arrived. -/
  verdict : Option Verdict
  answer : Answer
  /-- The registry afterwards. -/
  registry : Registry

/-- A request is handled with nothing between its steps. -/
inductive Handles (service : Service) (entropy : Entropy) (now later : Instant)
    (request : Request) (registry : Registry) : Handling → Prop where
  | answered {answer : Answer} {after : Registry}
      (h : service.receive entropy now request registry = (.answered answer, after)) :
      Handles service entropy now later request registry
        { replies := [], verdict := none, answer, registry := after }
  | settled {visit : Visit} {rest : Consultation Verdict} {after : Registry}
      {replies : List KeyReply} {verdict : Verdict}
      (h : service.receive entropy now request registry = (.pending visit rest, after))
      (hends : rest.Ends replies verdict) :
      Handles service entropy now later request registry
        { replies, verdict := some verdict
          answer := (service.settle later visit verdict after).1
          registry := (service.settle later visit verdict after).2 }

variable {service : Service} {entropy : Entropy} {now later : Instant} {request : Request}
  {registry after : Registry} {handling : Handling} {visit : Visit} {verdict : Verdict}
  {rest : Consultation Verdict} {answer : Answer} {snapshot : Snapshot}

/-- A request that is answered as it arrives needs no verdict. -/
theorem handles_iff_of_answered
    (h : service.receive entropy now request registry = (.answered answer, after)) :
    Handles service entropy now later request registry handling ↔
      handling = { replies := [], verdict := none, answer, registry := after } := by
  constructor
  · intro hhandles
    cases hhandles with
    | answered hother =>
      cases h.symm.trans hother
      rfl
    | settled hother => cases h.symm.trans hother
  · rintro rfl
    exact .answered h

/-- Any other request is settled with a verdict that replies lead to. -/
theorem handles_iff_of_pending
    (h : service.receive entropy now request registry = (.pending visit rest, after)) :
    Handles service entropy now later request registry handling ↔
      ∃ replies verdict, rest.Ends replies verdict ∧
        handling =
          { replies, verdict := some verdict
            answer := (service.settle later visit verdict after).1
            registry := (service.settle later visit verdict after).2 } := by
  constructor
  · intro hhandles
    cases hhandles with
    | answered hother => cases h.symm.trans hother
    | settled hother hends =>
      cases h.symm.trans hother
      exact ⟨_, _, hends, rfl⟩
  · rintro ⟨replies, verdict, hends, rfl⟩
    exact .settled h hends

/-- To authenticate a request over a source is one way to handle it. -/
theorem exists_handles_authenticate (service : Service) (source : KeySource) (entropy : Entropy)
    (now : Instant) (request : Request) (registry : Registry) :
    ∃ handling, Handles service entropy now now request registry handling ∧
      service.authenticate source entropy now request registry =
        (handling.answer, handling.registry) := by
  cases hreceive : service.receive entropy now request registry with
  | mk reception after =>
    cases reception with
    | answered answer => exact ⟨_, .answered hreceive, by simp only [Service.authenticate, hreceive]⟩
    | pending visit rest =>
      obtain ⟨replies, hends⟩ := rest.exists_ends_run source.answer
      exact ⟨_, .settled hreceive hends, by simp only [Service.authenticate, hreceive]⟩

/-! ### The session of a request -/

namespace Service

/-- The state that a session has after a verdict, where nothing comes in between. -/
def settledState (service : Service) (visit : Visit) (verdict : Verdict) : SessionState :=
  (service.successor? visit verdict).getD visit.state

/-- Where the snapshot that was read is held, the login of a verdict is recorded in its place. -/
theorem recordLogin_of_held
    (hheld : registry.snapshot? visit.request.sessionId = some visit.snapshot) (now : Instant)
    (verdict : Verdict) :
    ((recordLogin registry now visit verdict).2.snapshot? visit.request.sessionId).map
        Snapshot.state = some (visit.loginState verdict) ∧
      (recordLogin registry now visit verdict).2.Holds visit.request.sessionId
        (recordLogin registry now visit verdict).1 := by
  have hholds : registry.Holds visit.request.sessionId visit.snapshot :=
    Registry.holds_iff.2 ⟨visit.snapshot, hheld, rfl⟩
  cases hlogin : verdict.isLogin with
  | true =>
    rw [recordLogin_of_isLogin hlogin, Registry.snapshot?_advance, if_pos ⟨rfl, hholds⟩]
    exact ⟨rfl, Registry.holds_advance_of_holds hholds now _⟩
  | false =>
    rw [recordLogin_of_not_isLogin hlogin, hheld, visit.loginState_of_not_isLogin hlogin]
    exact ⟨rfl, hholds⟩

/-- Where the snapshot that was read is held, the session gets its state. -/
theorem state_settle_of_held (service : Service) (visit : Visit)
    (hheld : registry.snapshot? visit.request.sessionId = some visit.snapshot) (now : Instant)
    (verdict : Verdict) :
    ((service.settle now visit verdict registry).2.snapshot? visit.request.sessionId).map
      Snapshot.state = some (service.settledState visit verdict) := by
  obtain ⟨hstate, hholds⟩ := recordLogin_of_held hheld now verdict
  have hlogin : ((if verdict.isLogin then some (visit.loginState verdict) else none).getD
      visit.state) = visit.loginState verdict := by
    cases h : verdict.isLogin with
    | true => rfl
    | false => exact (visit.loginState_of_not_isLogin h).symm
  rw [settle_snd]
  unfold settledState successor?
  rcases service.prove? visit.reading.params (visit.loginState verdict) with
    _ | ⟨signature, _ | next⟩
  · rw [hlogin]
    exact hstate
  · rw [hlogin]
    exact hstate
  · rw [Registry.snapshot?_advance, if_pos ⟨rfl, hholds⟩]
    rfl

/-- A request that is no login and gets no new signature leaves nothing to remember. -/
theorem successor?_eq_none (hlogin : verdict.isLogin = false)
    (hproof : service.newProof? visit.reading.params visit.state = none) :
    service.successor? visit verdict = none := by
  unfold successor?
  rw [visit.loginState_of_not_isLogin hlogin]
  rcases prove?_eq service visit.reading.params visit.state with ⟨proof, hnew, -⟩ | ⟨-, hprove⟩
  · cases hproof.symm.trans hnew
  · split
    · exact absurd ‹_› (hprove _ _)
    · rw [hlogin]
      rfl

/-- A request that is no login changes no more of its session than the signature that the session
remembers. -/
theorem settledState_of_not_isLogin (service : Service) (visit : Visit)
    (hlogin : verdict.isLogin = false) :
    ∃ proof, service.settledState visit verdict = { visit.state with proof } := by
  unfold settledState
  cases hsuccessor : service.successor? visit verdict with
  | none => exact ⟨visit.state.proof, rfl⟩
  | some state =>
    rcases successor?_cases hsuccessor with ⟨htrue, -⟩ | ⟨clientNonce, signature, rfl⟩
    · cases hlogin.symm.trans htrue
    · rw [visit.loginState_of_not_isLogin hlogin]
      exact ⟨_, rfl⟩

end Service

/-! ### Requests that are no logins -/

/-- The request was accepted, by a verification of its own. -/
def Handling.isLogin (handling : Handling) : Bool := handling.verdict.any Verdict.isLogin

/-- The server made a new signature for the request, which came to a verdict and had read the
state. -/
def Handling.signsAnew (service : Service) (request : Request) (state : SessionState)
    (handling : Handling) : Bool :=
  handling.verdict.isSome &&
    (service.newProof? (Reading.ofRequest service.policy.allowBasic request).params state).isSome

/-- A request that needs no session asks for nothing. -/
theorem Reading.asks_nothing {reading : Reading} (h : reading.needsSession = false) :
    reading.claims = false ∧ reading.params.asksServerSignature = false := by
  simp only [needsSession, Header.Params.needsSession, Bool.or_eq_false_iff] at h
  obtain ⟨⟨⟨-, hparseable⟩, hpassword⟩, ⟨-, hclaims⟩, hasks⟩ := h
  simp [claims, hparseable, hpassword, hclaims, hasks]

/-- The client is told the session wherever it is needed. -/
theorem Handles.requiresSession_eq
    (h : Handles service entropy now later request registry handling)
    (hneeds : (Reading.ofRequest service.policy.allowBasic request).needsSession = true) :
    handling.answer.requiresSession = true := by
  cases h with
  | answered hreceive =>
    rcases Service.receive_answered hreceive with rfl | ⟨snapshot, rfl⟩
    · exact hneeds
    · rfl
  | settled hreceive hends =>
    obtain ⟨snapshot, clientNonce, rfl, -⟩ := Service.receive_pending hreceive
    rw [Service.settle_fst]
    exact hneeds

/-- A request that needs no session changes none. -/
theorem Handles.snapshot?_eq (h : Handles service entropy now later request registry handling)
    (hneeds : (Reading.ofRequest service.policy.allowBasic request).needsSession = false)
    (id : String) : handling.registry.snapshot? id = registry.snapshot? id := by
  have hopens : service.opens registry request = false := by simp [Service.opens, hneeds]
  have hreceived := Service.snapshot?_receive_of_not_opens hopens entropy now id
  cases h with
  | answered hreceive =>
    rw [hreceive] at hreceived
    exact hreceived
  | settled hreceive hends =>
    rw [hreceive] at hreceived
    obtain ⟨snapshot, clientNonce, rfl, -, -, rfl⟩ := Service.receive_pending hreceive
    obtain ⟨hclaims, hasks⟩ := Reading.asks_nothing hneeds
    rw [service.verdict_of_not_claims clientNonce hclaims] at hends
    obtain ⟨-, rfl⟩ := Dialogue.ends_done_iff.1 hends
    have hproof : service.newProof? (service.visitOf request snapshot).reading.params
        (service.visitOf request snapshot).state = none := by
      simp [Service.newProof?, Service.visitOf, hasks]
    rw [Service.settle_of_no_successor (Service.successor?_eq_none rfl hproof)]
    exact hreceived

/-- A request on a session that is there, which is not accepted by a verification of its own, leaves
the session with its nonce and its login, that is, with the identity, the kind of credential, the
header and the outcome; and without a new signature, with the very snapshot. A request whose client
need not be told a session changes no session at all. -/
theorem failure_keeps_session
    (h : Handles service entropy now later request registry handling) :
    (∀ snapshot, registry.snapshot? request.sessionId = some snapshot →
      handling.isLogin = false →
      (∃ after, handling.registry.snapshot? request.sessionId = some after ∧
        after.state.sessionId = snapshot.state.sessionId ∧
        after.state.serverNonce = snapshot.state.serverNonce ∧
        after.state.login = snapshot.state.login) ∧
      (handling.signsAnew service request snapshot.state = false →
        handling.registry.snapshot? request.sessionId = some snapshot)) ∧
    (handling.answer.requiresSession = false →
      ∀ id, handling.registry.snapshot? id = registry.snapshot? id) := by
  refine ⟨fun snapshot hread hlogin => ?_, fun hrequires => h.snapshot?_eq ?_⟩
  · have hused := (registry.snapshot?_get now request.sessionId request.sessionId).trans hread
    cases h with
    | @answered answer after hreceive =>
      rw [Service.receive_of_some hread] at hreceive
      obtain rfl : (registry.get now request.sessionId).2 = after := congrArg Prod.snd hreceive
      exact ⟨⟨snapshot, hused, rfl, rfl, rfl⟩, fun _ => hused⟩
    | @settled visit rest after replies verdict hreceive hends =>
      obtain ⟨read, clientNonce, rfl, hheld, -, rfl⟩ := Service.receive_pending hreceive
      rw [Service.receive_of_some hread] at hreceive
      obtain rfl : (registry.get now request.sessionId).2 = after := congrArg Prod.snd hreceive
      obtain rfl : read = snapshot := Option.some.inj (hheld.symm.trans hused)
      have hverdict : verdict.isLogin = false := hlogin
      refine ⟨?_, fun hsigns => ?_⟩
      · obtain ⟨settled, hsettled, hstate⟩ := Option.map_eq_some_iff.1
          (service.state_settle_of_held (service.visitOf request read) hheld later verdict)
        obtain ⟨proof, hproof⟩ :=
          service.settledState_of_not_isLogin (service.visitOf request read) hverdict
        rw [hproof] at hstate
        refine ⟨settled, hsettled, ?_⟩
        rw [hstate]
        exact ⟨rfl, rfl, rfl⟩
      · have hproof : service.newProof? (Reading.ofRequest service.policy.allowBasic request).params
            read.state = none := by
          simpa [Handling.signsAnew] using hsigns
        rw [Service.settle_of_no_successor (Service.successor?_eq_none hverdict hproof)]
        exact hused
  · cases hneeds : (Reading.ofRequest service.policy.allowBasic request).needsSession with
    | false => rfl
    | true => cases (h.requiresSession_eq hneeds).symm.trans hrequires

/-- A registry with a session that was opened with a login. -/
def loggedInRegistry : Registry :=
  (plainService.settle 0 (firstVisit plainService claimRequest)
    ((firstRest plainService claimRequest).run (sourceAt 3).answer)
    (firstRegistry plainService claimRequest)).2

/-- The source that finds no secret for any MAC. -/
def noSource : KeySource where
  candidates _ := .ok []
  secret _ := .ok none

/-- What is read for a claim in that session. -/
def claimAgain : Visit := plainService.visitOf claimRequest (loggedIn none)

/-- A claim that is refused leaves the session of an earlier login with that login. -/
theorem refused_claim_keeps_login :
    ∃ handling, Handles plainService zeros 1 2 claimRequest loggedInRegistry handling ∧
      handling.answer.outcome = .failure [.failed .secretKey] ∧
      handling.registry.snapshot? "s" = some (loggedIn none) := by
  have hread : loggedInRegistry.snapshot? "s" = some (loggedIn none) := by decide +kernel
  have hnamed : claimAgain.state.isNamedBy claimAgain.reading.params = true := by decide +kernel
  have hreceive : plainService.receive zeros 1 claimRequest loggedInRegistry =
      (plainService.admission zeros claimAgain, _) := Service.receive_of_some hread
  rw [Service.admission_of_isNamedBy hnamed] at hreceive
  obtain ⟨replies, hends⟩ := (plainService.verdict
    (zeros.draw .clientNonce Credential.clientNonceLength) claimAgain).exists_ends_run
      noSource.answer
  have hrefused : (plainService.verdict (zeros.draw .clientNonce Credential.clientNonceLength)
      claimAgain).run noSource.answer =
        { outcome := .failure [.failed .secretKey], verified := true } := by decide +kernel
  rw [hrefused] at hends
  have hhandles : Handles plainService zeros 1 2 claimRequest loggedInRegistry _ :=
    .settled hreceive hends
  obtain ⟨-, hkept⟩ := (failure_keeps_session hhandles).1 _ hread rfl
  exact ⟨_, hhandles, congrArg Answer.outcome Service.settle_fst, hkept rfl⟩

end Authentication

end HandleChallenge
