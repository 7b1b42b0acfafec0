import HandleChallenge.Proofs.Authentication.Attempt
import HandleChallenge.Proofs.Authentication.System

/-!
# Where authenticated identities come from

Whoever is authenticated was once accepted: `Vouched` follows the login of a session back, over
changes of its id, to the settlement in which a verification accepted the identity under the nonce
that was read. `authenticated_identity_vouched` says so for every session that a run leads to, and
for every answer that a request got on the way.
-/

namespace HandleChallenge

/-- What is remembered of a login is a success with its identity, without a signature. -/
def Login.Sound (login : Login) : Prop :=
  ∃ refusals, login.outcome = .success login.identity login.kind refusals

namespace Authentication

variable {service : Service} {allowed : KeyReply → Prop} {history : List Event}
  {system : System} {visit : Visit} {verdict : Verdict} {clientNonce : Bytes}
  {replies : List KeyReply} {id : String} {identity : Identity} {kind : CredentialKind}

/-! ### Logins -/

/-- The login was accepted in the call, and has the header of the request. -/
structure Settlement.Accepted (service : Service) (settlement : Settlement) (login : Login) :
    Prop where
  parseable : settlement.visit.reading.unparseable = false
  claims : settlement.visit.reading.claims = true
  ends : ∃ clientNonce, (attempt service.policy settlement.visit.reading
    settlement.visit.state.serverNonce clientNonce).Ends settlement.replies login.outcome
  accepts : Accepts service.policy settlement.visit.reading settlement.visit.state.serverNonce
    settlement.replies login.identity login.kind
  sound : login.Sound
  authorization_eq : login.authorization = settlement.visit.request.authorization

/-- The login that a call leaves is the one that it has read, or was accepted in it. -/
theorem login_or_accepted {registry : Registry} {settlement : Settlement} {state : SessionState}
    {login : Login}
    (sound : Call.Sound service allowed registry
      { visit := settlement.visit, replies := settlement.replies,
        rest := .done settlement.verdict })
    (hstate : service.successor? settlement.visit settlement.verdict = some state)
    (hlogin : state.login = some login) :
    settlement.visit.state.login = some login ∨ settlement.Accepted service login := by
  obtain ⟨clientNonce, hfollows⟩ := sound.follows
  rw [Service.login_of_successor hstate] at hlogin
  obtain ⟨visit, replies, verdict, held, answer⟩ := settlement
  cases verdict_ends hfollows with
  | unparseable => exact .inl hlogin
  | recalled => exact .inl hlogin
  | continued => exact .inl hlogin
  | notAttempted => exact .inl hlogin
  | attempted hparseable hclaims hrecalled hends =>
    rcases attempt_ends hends with ⟨identity, kind, refusals, rfl, haccepts⟩ | ⟨refusals, rfl⟩
    · cases hlogin
      exact .inr ⟨hparseable, hclaims, ⟨clientNonce, hends⟩, haccepts, ⟨refusals, rfl⟩, rfl⟩
    · exact .inl hlogin

/-- A property of the logins in the registry holds after every run if a login that was accepted has
it, and time, other calls and rotations do not take it away. -/
theorem Reaches.login_induction {P : List Event → String → SessionState → Login → Prop}
    (h : Reaches service allowed history system)
    (kept : ∀ {history event id state login}, event.opens id = false →
      P history id state login → P (event :: history) id state login)
    (carried : ∀ {history settlement state login},
      service.successor? settlement.visit settlement.verdict = some state →
      P history settlement.visit.request.sessionId settlement.visit.state login →
      P (.settled settlement :: history) settlement.visit.request.sessionId state login)
    (accepted : ∀ {history registry settlement state login},
      Call.Sound service allowed registry
        { visit := settlement.visit, replies := settlement.replies,
          rest := .done settlement.verdict } →
      settlement.held = true →
      service.successor? settlement.visit settlement.verdict = some state →
      settlement.Accepted service login →
      P (.settled settlement :: history) settlement.visit.request.sessionId state login)
    (rotated : ∀ {history id newId state nonce login}, P history id state login →
      P (.rotated id newId :: history) newId (state.rotated newId nonce)
        { login with authorization := none })
    {snapshot : Snapshot} {login : Login} (hs : system.registry.snapshot? id = some snapshot)
    (hlogin : snapshot.state.login = some login) : P history id snapshot.state login := by
  refine h.induction
    (P := fun history id state => ∀ login, state.login = some login → P history id state login)
    ?_ ?_ ?_ ?_ hs login hlogin
  · intro history event id state hopens hstate login hlogin
    exact kept hopens (hstate login hlogin)
  · intro _ _ _ _ _ login hlogin
    cases hlogin
  · intro history registry settlement state sound hheld hstate hread login hlogin
    rcases login_or_accepted sound hstate hlogin with hold | haccepted
    · exact carried hstate (hread login hold)
    · exact accepted sound hheld hstate haccepted
  · intro history id newId state nonce hstate login hlogin
    obtain ⟨old, hold, rfl⟩ := Option.map_eq_some_iff.1 hlogin
    exact rotated (hstate old hold)

/-- A request that claims nothing goes on with the login of its session. -/
theorem receive_of_not_claims {registry : Registry} {entropy : Entropy} {now : Instant}
    {asked : Request} {snapshot : Snapshot}
    (hs : registry.snapshot? asked.sessionId = some snapshot)
    (hclaims : (service.visitOf asked snapshot).reading.claims = false)
    (hnamed : snapshot.state.isNamedBy (service.visitOf asked snapshot).reading.params = true) :
    (service.receive entropy now asked registry).1 =
      .pending (service.visitOf asked snapshot)
        (.done { outcome := snapshot.state.continued, verified := false }) := by
  rw [Service.receive_of_some hs, Service.admission_of_isNamedBy hnamed,
    service.verdict_of_not_claims _ hclaims]
  rfl

/-- It is answered so, and maybe with a signature of the server. -/
theorem authenticate_of_not_claims {registry : Registry} {asked : Request} {snapshot : Snapshot}
    (hs : registry.snapshot? asked.sessionId = some snapshot)
    (hclaims : (service.visitOf asked snapshot).reading.claims = false)
    (hnamed : snapshot.state.isNamedBy (service.visitOf asked snapshot).reading.params = true)
    (source : KeySource) (entropy : Entropy) (now : Instant) :
    ∃ signature, (service.authenticate source entropy now asked registry).1.outcome =
      snapshot.state.continued.withSignature signature := by
  have hreceive : service.receive entropy now asked registry =
      (_, (service.receive entropy now asked registry).2) :=
    Prod.ext (receive_of_not_claims hs hclaims hnamed) rfl
  unfold Service.authenticate
  rw [hreceive]
  simp only [Dialogue.run_done, Service.settle_fst]
  exact ⟨_, rfl⟩

/-- Every login in the registry is sound. -/
theorem Reaches.login_sound (h : Reaches service allowed history system) {snapshot : Snapshot}
    {login : Login} (hs : system.registry.snapshot? id = some snapshot)
    (hlogin : snapshot.state.login = some login) : login.Sound := by
  refine h.login_induction (P := fun _ _ _ login => login.Sound) ?_ ?_ ?_ ?_ hs hlogin
  · exact fun _ hsound => hsound
  · exact fun _ hsound => hsound
  · exact fun _ _ _ haccepted => haccepted.sound
  · exact fun hsound => hsound

/-! ### Vouched identities -/

/-- The session under an id, or one that it was rotated from, has had the identity accepted in a
call whose snapshot was still held when it was settled. -/
inductive Vouched (policy : Policy) :
    List Event → String → Identity → CredentialKind → Prop where
  | accepted {history : List Event} {settlement : Settlement} {identity : Identity}
      {kind : CredentialKind} (hheld : settlement.held = true)
      (haccepts : Accepts policy settlement.visit.reading settlement.visit.state.serverNonce
        settlement.replies identity kind) :
      Vouched policy (.settled settlement :: history) settlement.visit.request.sessionId
        identity kind
  | rotated {history : List Event} {id newId : String} {identity : Identity}
      {kind : CredentialKind} (h : Vouched policy history id identity kind) :
      Vouched policy (.rotated id newId :: history) newId identity kind
  | kept {history : List Event} {event : Event} {id : String} {identity : Identity}
      {kind : CredentialKind} (hopens : event.opens id = false)
      (h : Vouched policy history id identity kind) :
      Vouched policy (event :: history) id identity kind

/-- The login of a session is vouched for. -/
theorem Reaches.vouched (h : Reaches service allowed history system) {snapshot : Snapshot}
    {login : Login} (hs : system.registry.snapshot? id = some snapshot)
    (hlogin : snapshot.state.login = some login) :
    Vouched service.policy history id login.identity login.kind := by
  refine h.login_induction
    (P := fun history id _ login => Vouched service.policy history id login.identity login.kind)
    ?_ ?_ ?_ ?_ hs hlogin
  · exact fun hopens hvouched => .kept hopens hvouched
  · exact fun _ hvouched => .kept rfl hvouched
  · exact fun _ hheld _ haccepted => .accepted hheld haccepted.accepts
  · exact fun hvouched => .rotated hvouched

/-- What is recalled is the outcome of the login that was read, whose header the request has. -/
theorem exists_header_of_recalled {outcome : Outcome} (h : visit.recalled? = some outcome) :
    ∃ login authorization, visit.state.login = some login ∧ login.outcome = outcome ∧
      visit.request.authorization = some authorization ∧
      login.authorization = some authorization := by
  obtain ⟨authorization, hrequest, houtcome⟩ := Option.bind_eq_some_iff.1 h
  unfold SessionState.outcomeFor? at houtcome
  split at houtcome
  · rename_i login hlogin
    split at houtcome
    · rename_i hheader
      exact ⟨login, authorization, hlogin, Option.some.inj houtcome, hrequest, hheader⟩
    · cases houtcome
  · cases houtcome

/-- A success tells an identity that was accepted in this call or is the one of the login that
was read. -/
theorem succeeded_of_ends (hread : ∀ login, visit.state.login = some login → login.Sound)
    (h : (service.verdict clientNonce visit).Ends replies verdict)
    (hsucceeded : verdict.outcome.succeeded = true) :
    ∃ identity kind, verdict.outcome.identity = some identity ∧
      verdict.outcome.kind = some kind ∧
      (Accepts service.policy visit.reading visit.state.serverNonce replies identity kind ∨
        ∃ login, visit.state.login = some login ∧ login.identity = identity ∧
          login.kind = kind) := by
  cases verdict_ends h with
  | unparseable => cases hsucceeded
  | recalled hparseable hclaims hrecalled =>
    obtain ⟨login, -, hlogin, rfl, -⟩ := exists_header_of_recalled hrecalled
    obtain ⟨refusals, hsound⟩ := hread login hlogin
    rw [hsound]
    exact ⟨login.identity, login.kind, rfl, rfl, .inr ⟨login, hlogin, rfl, rfl⟩⟩
  | attempted hparseable hclaims hrecalled hends =>
    rcases attempt_ends hends with ⟨identity, kind, refusals, rfl, haccepts⟩ | ⟨refusals, rfl⟩
    · exact ⟨identity, kind, rfl, rfl, .inl haccepts⟩
    · cases hsucceeded
  | @continued login hclaims hlogin hreplies =>
    exact ⟨login.identity, login.kind, rfl, rfl, .inr ⟨login, hlogin, rfl, rfl⟩⟩
  | notAttempted => cases hsucceeded

/-- The session of an attempted success has its identity, once the login is recorded. -/
theorem identity_loginState (hread : ∀ login, visit.state.login = some login → login.Sound)
    (h : (service.verdict clientNonce visit).Ends replies verdict)
    (hattempted : verdict.outcome.attempted = true)
    (hidentity : verdict.outcome.identity = some identity) :
    (visit.loginState verdict).login.map Login.identity = some identity := by
  cases verdict_ends h with
  | unparseable => cases hidentity
  | recalled hparseable hclaims hrecalled =>
    obtain ⟨login, -, hlogin, rfl, -⟩ := exists_header_of_recalled hrecalled
    obtain ⟨refusals, hsound⟩ := hread login hlogin
    rw [hsound] at hidentity
    show visit.state.login.map Login.identity = some identity
    rw [hlogin]
    exact hidentity
  | attempted hparseable hclaims hrecalled hends =>
    rcases attempt_ends hends with ⟨found, kind, refusals, rfl, -⟩ | ⟨refusals, rfl⟩
    · cases hidentity
      rfl
    · cases hidentity
  | continued => cases hattempted
  | notAttempted => cases hidentity

/-- Every identity that is authenticated was accepted. In the registry, the login of a session is
vouched for; and every answer with a success tells an identity that was accepted in that very call
or is the one of the login of the request's session, in the snapshot that was read for it. -/
theorem authenticated_identity_vouched (h : Reaches service allowed history system) :
    (∀ id snapshot login, system.registry.snapshot? id = some snapshot →
      snapshot.state.login = some login →
      Vouched service.policy history id login.identity login.kind) ∧
    (∀ settlement, .settled settlement ∈ history →
      settlement.answer.outcome.succeeded = true →
      ∃ identity kind, settlement.answer.outcome.identity = some identity ∧
        settlement.answer.outcome.kind = some kind ∧
        (Accepts service.policy settlement.visit.reading settlement.visit.state.serverNonce
            settlement.replies identity kind ∨
          WasHeld service allowed history settlement.visit.request.sessionId
              settlement.visit.snapshot ∧
            ∃ login, settlement.visit.state.login = some login ∧ login.identity = identity ∧
              login.kind = kind)) ∧
    (∀ request opened answer, .received request opened (some answer) ∈ history →
      answer.outcome.succeeded = false) := by
  refine ⟨fun id snapshot login => h.vouched, ?_, ?_⟩
  · intro settlement hmem hsucceeded
    obtain ⟨registry, now, sound, hanswer, hheld⟩ := h.settlement hmem
    obtain ⟨clientNonce, hfollows⟩ := sound.follows
    have hread : ∀ login, settlement.visit.state.login = some login → login.Sound := by
      obtain ⟨earlier, before, -, hbefore, hs⟩ := hheld
      intro login hlogin
      exact hbefore.login_sound hs hlogin
    rw [hanswer, Service.settle_fst] at hsucceeded ⊢
    obtain ⟨identity, kind, hidentity, hkind, hfrom⟩ := succeeded_of_ends hread hfollows hsucceeded
    refine ⟨identity, kind, hidentity, hkind, ?_⟩
    rcases hfrom with haccepts | hlogin
    · exact .inl haccepts
    · exact .inr ⟨hheld, hlogin⟩
  · intro request opened answer hmem
    obtain ⟨earlier, before, after, -, -, hstep⟩ := h.exists_step hmem
    cases hstep with
    | answered hreceive =>
      rcases Service.receive_answered hreceive with rfl | ⟨snapshot, rfl⟩
      · rfl
      · rfl

/-- The source that finds a secret for every MAC, at one index. -/
def sourceAt (index : UInt32) : KeySource where
  candidates _ := .ok []
  secret _ := .ok (some index)

/-- A first login by a MAC that a key source accepts is a run. -/
theorem exists_reaches_loggedIn :
    ∃ history system, Reaches plainService (fun _ => True) history system ∧
      system.registry.snapshot? "s" = some (loggedIn none) := by
  have hs : (plainService.authenticate (sourceAt 3) (.ofStreams fun _ _ => 0) 0
      { sessionId := "s", authorization := none, params := macClaim "AAAA" }
      (.ofPolicy .default)).2.snapshot? "s" = some (loggedIn none) := by decide +kernel
  exact exists_reaches_first (fun _ => True) (fun _ => trivial) hs

/-- The identity of that login is vouched for. -/
theorem vouched_of_first_login :
    ∃ history system, Reaches plainService (fun _ => True) history system ∧
      system.registry.snapshot? "s" = some (loggedIn none) ∧
      Vouched .default history "s" { handle := "20.1000/7", index := 3 } .secretKey := by
  obtain ⟨history, system, h, hs⟩ := exists_reaches_loggedIn
  exact ⟨history, system, h, hs,
    (authenticated_identity_vouched h).1 "s" (loggedIn none) _ hs rfl⟩

end Authentication

end HandleChallenge
