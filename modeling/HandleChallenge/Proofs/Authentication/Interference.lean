import HandleChallenge.Proofs.Authentication.Provenance
import HandleChallenge.Proofs.Authentication.ServerProof
import HandleChallenge.Proofs.Header.Merge

/-!
# Requests on one session at a time

While a key source is consulted for one request, anything else may happen to its session: another
request may log in, the server may sign, the session may get a new id, be dropped or begin anew
under its old id. `settle_changes_only_what_was_read` says that nothing of that is overwritten or
undone. The request installs what it found if the snapshot that it read is still the one held, and
else nothing; its answer is the same in both cases.
-/

namespace HandleChallenge

namespace Authentication

open Header (Known Params)

variable {service : Service} {allowed : KeyReply → Prop} {system start next : System}
  {visit : Visit} {verdict : Verdict} {clientNonce : Bytes} {replies : List KeyReply}
  {entropy : Entropy} {now : Instant} {registry begun : Registry} {request : Request}

/-! ### What may happen meanwhile -/

/-- Whatever else a service does: steps of requests and of upkeep, rotations, and sessions that are
loaded, or created, without a request. -/
inductive Meanwhile (service : Service) (allowed : KeyReply → Prop) (start : System) :
    System → Prop where
  | refl : Meanwhile service allowed start start
  | step {system next : System} {event : Event} (h : Meanwhile service allowed start system)
      (hstep : Step service allowed system event next) : Meanwhile service allowed start next
  | loaded {system : System} (entropy : Entropy) (now : Instant) (id : String)
      (h : Meanwhile service allowed start system) :
      Meanwhile service allowed start
        { system with registry := (system.registry.load entropy now id).2 }

theorem Meanwhile.trans (h : Meanwhile service allowed start system)
    (hmore : Meanwhile service allowed system next) : Meanwhile service allowed start next := by
  induction hmore with
  | refl => exact h
  | step _ hstep ih => exact ih.step hstep
  | loaded entropy now id _ ih => exact ih.loaded entropy now id

theorem Meanwhile.of_steps {events : List Event} (h : Steps service allowed start events system) :
    Meanwhile service allowed start system := by
  induction h with
  | refl => exact .refl
  | tail _ hstep ih => exact ih.step hstep

/-- A request on the session that names another one. -/
def strayRequest (id : String) : Request where
  sessionId := id
  authorization := none
  params := [(Known.sessionId.key, id ++ "x")]

theorem needsSession_strayRequest (allowBasic : Bool) (id : String) :
    (Reading.ofRequest allowBasic (strayRequest id)).needsSession = true := by
  have hhas := Header.has_merge_singleton none .sessionId (id ++ "x")
  have hneeds : (Header.merge none [(Known.sessionId.key, id ++ "x")]).needsSession = true := by
    simp [Params.needsSession, hhas]
  show (_ || _ || _ || _) = true
  simp only [Bool.or_eq_true]
  exact .inr hneeds

theorem isNamedBy_strayRequest {state : SessionState} {id : String} (allowBasic : Bool)
    (h : state.sessionId = id) :
    state.isNamedBy (Reading.ofRequest allowBasic (strayRequest id)).params = false := by
  have hname : Known.ofName? Known.sessionId.key = some .sessionId := by decide
  have hother : id ++ "x" ≠ id := by
    intro hid
    simpa using congrArg String.length hid
  have hvalue : (Header.merge none [(Known.sessionId.key, id ++ "x")]).known? .sessionId =
      some (id ++ "x") := by
    simp [Header.known?_merge, Header.normalize, hname]
  show ((Header.merge none [(Known.sessionId.key, id ++ "x")]).known? .sessionId).all _ = false
  simp [hvalue, h, hother]

/-- A session is loaded for a request that names another one, which then has its answer. -/
theorem exists_step_load (allowed : KeyReply → Prop) (system : System) (entropy : Entropy)
    (now : Instant) (id : String) :
    ∃ event, Step service allowed system event
      { system with registry := (system.registry.load entropy now id).2 } := by
  cases hread : system.registry.snapshot? id with
  | some snapshot =>
    rw [Registry.load_of_some hread]
    exact ⟨_, .kept (.used now id)⟩
  | none =>
    rw [Registry.load_of_none hread]
    have habsent : system.registry.contains (strayRequest id).sessionId = false :=
      Registry.contains_eq_false_iff.2 hread
    have hopens : service.opens system.registry (strayRequest id) = true := by
      simp [Service.opens, needsSession_strayRequest, habsent]
    have hreceive : service.receive entropy now (strayRequest id) system.registry = _ :=
      Service.receive_of_opens hopens
    have hstray : (system.registry.firstSnapshot entropy id).state.isNamedBy
        (Reading.ofRequest service.policy.allowBasic (strayRequest id)).params = false :=
      isNamedBy_strayRequest _ rfl
    have hanswered : service.admission entropy (service.visitOf (strayRequest id)
        (system.registry.firstSnapshot entropy id)) = _ :=
      Service.admission_of_not_isNamedBy hstray
    rw [show (strayRequest id).sessionId = id from rfl, hanswered] at hreceive
    exact ⟨_, .answered hreceive⟩

/-- Whatever a service does is steps of requests and of upkeep. -/
theorem Meanwhile.exists_steps (h : Meanwhile service allowed start system) :
    ∃ events, Steps service allowed start events system := by
  induction h with
  | refl => exact ⟨[], .refl _⟩
  | step _ hstep ih =>
    obtain ⟨events, hsteps⟩ := ih
    exact ⟨_, hsteps.tail hstep⟩
  | loaded entropy now id _ ih =>
    obtain ⟨events, hsteps⟩ := ih
    obtain ⟨event, hstep⟩ := exists_step_load allowed _ entropy now id
    exact ⟨_, hsteps.tail hstep⟩

theorem Meanwhile.sound (h : Meanwhile service allowed start system)
    (sound : start.Sound service allowed) : system.Sound service allowed := by
  obtain ⟨events, hsteps⟩ := h.exists_steps
  exact hsteps.sound sound

/-! ### What a request found -/

/-- The signature that the server makes for a request that asks for one, unless the session
remembers one for the same nonce. -/
def Service.newProof? (service : Service) (params : Params) (state : SessionState) :
    Option ServerProof :=
  if params.asksServerSignature && service.policy.serverSigning then do
    let signer ← service.signer
    let clientNonce ← (Claim.bytesOf params .cnonce).toOption
    if state.proof.any (·.clientNonce == clientNonce) then none
    else
      let signature ← (signer.certify (state.serverNonce ++ clientNonce)).toOption
      return { clientNonce, signature }
  else none

/-- A session is left in the state by a request: it remembers the login that the request found where
it succeeded, and the server's signature where that is new, and is as it was read otherwise. -/
structure Visit.Leaves (visit : Visit) (outcome : Outcome) (proof : Option ServerProof)
    (state : SessionState) : Prop where
  sessionId_eq : state.sessionId = visit.state.sessionId
  serverNonce_eq : state.serverNonce = visit.state.serverNonce
  proof_eq : state.proof = proof.or visit.state.proof
  login_of_succeeded : outcome.succeeded = true → ∃ identity kind,
    outcome.identity = some identity ∧ outcome.kind = some kind ∧
      state.login = some { identity, kind, authorization := visit.request.authorization, outcome }
  login_of_failed : outcome.succeeded = false → state.login = visit.state.login

/-- The verdict of an attempt: a success with an identity, or a failure. -/
inductive Verdict.Attempted : Verdict → Prop where
  | success (identity : Identity) (kind : CredentialKind) (refusals : List Refusal) :
      Attempted { outcome := .success identity kind refusals, verified := true }
  | failure (refusals : List Refusal) :
      Attempted { outcome := .failure refusals, verified := true }

theorem Verdict.Attempted.isLogin_eq (h : verdict.Attempted) :
    verdict.isLogin = verdict.outcome.succeeded := by
  cases h with
  | success => rfl
  | failure => rfl

/-- A verdict for which a key source was asked is one of an attempt. -/
theorem attempted_of_not_isDone {other : Bytes}
    (hasks : (service.verdict other visit).isDone = false)
    (hends : (service.verdict clientNonce visit).Ends replies verdict) : verdict.Attempted := by
  cases verdict_ends hends with
  | attempted hparseable hclaims hrecalled hattempt =>
    rcases attempt_ends hattempt with ⟨identity, kind, refusals, rfl, -⟩ | ⟨refusals, rfl⟩
    · exact .success identity kind refusals
    · exact .failure refusals
  | unparseable hunparseable =>
    simp [Service.verdict, hunparseable, Dialogue.isDone] at hasks
  | recalled hparseable hclaims hrecalled =>
    simp [Service.verdict, hparseable, hclaims, hrecalled, Dialogue.isDone] at hasks
  | continued hclaims =>
    rw [service.verdict_of_not_claims other hclaims] at hasks
    cases hasks
  | notAttempted hclaims =>
    rw [service.verdict_of_not_claims other hclaims] at hasks
    cases hasks

theorem newProof?_loginState (params : Params) :
    service.newProof? params (visit.loginState verdict) =
      service.newProof? params visit.state := by
  unfold Visit.loginState
  split
  · rfl
  · rfl

/-- A new signature is remembered and told. -/
theorem prove?_eq (service : Service) (params : Params) (state : SessionState) :
    (∃ proof, service.newProof? params state = some proof ∧
        service.prove? params state =
          some (proof.signature, some { state with proof := some proof })) ∨
      (service.newProof? params state = none ∧
        ∀ signature next, service.prove? params state ≠ some (signature, some next)) := by
  unfold Service.newProof? Service.prove?
  split
  · cases service.signer with
    | none => exact .inr ⟨rfl, fun _ _ h => by cases h⟩
    | some signer =>
      cases (Claim.bytesOf params .cnonce).toOption with
      | none => exact .inr ⟨rfl, fun _ _ h => by cases h⟩
      | some clientNonce =>
        simp only [Option.bind_eq_bind, Option.bind_some, SessionState.prove,
          SessionState.proofMessage]
        cases hremembered : state.proof.any (·.clientNonce == clientNonce) with
        | true =>
          obtain ⟨proof, hproof, hnonce⟩ := (Option.any_eq_true _ _).1 hremembered
          rw [hproof, Option.filter_some, if_pos hnonce]
          exact .inr ⟨rfl, fun _ _ h => by cases h⟩
        | false =>
          have hfilter : state.proof.filter (·.clientNonce == clientNonce) = none := by
            rw [Option.filter_eq_none_iff]
            exact fun proof hproof hnonce => by simp [hproof, hnonce] at hremembered
          rw [hfilter]
          cases hsign : signer.certify (state.serverNonce ++ clientNonce) with
          | error error => exact .inr ⟨rfl, fun _ _ h => by cases h⟩
          | ok signature => exact .inl ⟨{ clientNonce, signature }, rfl, rfl⟩
  · exact .inr ⟨rfl, fun _ _ h => by cases h⟩

/-- The session is to remember the new signature, the login, or both. -/
theorem successor?_eq (service : Service) (visit : Visit) (verdict : Verdict) :
    service.successor? visit verdict =
      match service.newProof? visit.reading.params visit.state with
      | some proof => some { visit.loginState verdict with proof := some proof }
      | none => if verdict.isLogin then some (visit.loginState verdict) else none := by
  have hproof : service.newProof? visit.reading.params (visit.loginState verdict) = _ :=
    newProof?_loginState visit.reading.params
  rw [← hproof]
  unfold Service.successor?
  rcases prove?_eq service visit.reading.params (visit.loginState verdict) with
    ⟨proof, hnew, hprove⟩ | ⟨hnone, hprove⟩
  · rw [hnew, hprove]
  · rw [hnone]
    split
    · exact absurd ‹_› (hprove _ _)
    · rfl

/-- What a session is to remember is the login of an attempt and the new signature. -/
theorem leaves_of_successor (h : verdict.Attempted) {state : SessionState}
    (hstate : service.successor? visit verdict = some state) :
    visit.Leaves verdict.outcome (service.newProof? visit.reading.params visit.state) state where
  sessionId_eq := Service.sessionId_of_successor hstate
  serverNonce_eq := Service.serverNonce_of_successor hstate
  proof_eq := by
    rw [successor?_eq] at hstate
    cases hnew : service.newProof? visit.reading.params visit.state with
    | some proof =>
      rw [hnew] at hstate
      cases hstate
      rfl
    | none =>
      rw [hnew] at hstate
      obtain ⟨-, hlogin⟩ := Option.ite_none_right_eq_some.1 hstate
      cases hlogin
      exact visit.proof_loginState verdict
  login_of_succeeded hsucceeded := by
    rw [Service.login_of_successor hstate]
    cases h with
    | success identity kind refusals => exact ⟨identity, kind, rfl, rfl, rfl⟩
    | failure => cases hsucceeded
  login_of_failed hfailed := by
    rw [Service.login_of_successor hstate,
      visit.loginState_of_not_isLogin (h.isLogin_eq.trans hfailed)]

/-- There is something to remember exactly where the attempt succeeded or the signature is new. -/
theorem isSome_successor? (h : verdict.Attempted) :
    (service.successor? visit verdict).isSome =
      (verdict.outcome.succeeded ||
        (service.newProof? visit.reading.params visit.state).isSome) := by
  rw [successor?_eq, h.isLogin_eq]
  cases service.newProof? visit.reading.params visit.state with
  | some proof => simp
  | none => cases verdict.outcome.succeeded <;> rfl

/-- An installation that comes too late leaves the sessions alone. -/
theorem sessions_advance_of_not_holds {id : String} {current : Snapshot} (state : SessionState)
    (h : ¬ registry.Holds id current) :
    (registry.advance now id current state).2.sessions = registry.sessions := by
  have hissued : ¬ (registry.issue state).2.Holds id current := h
  simp only [Registry.advance, Registry.replaceIfCurrent_of_not_holds hissued]
  rfl

/-- Where the snapshot that was read is no longer held, nothing is installed, also not in a second
attempt with a snapshot that was made in the first one. -/
theorem sessions_settle_of_not_holds (sound : registry.Sound)
    (h : ¬ registry.Holds visit.request.sessionId visit.snapshot) (now : Instant)
    (verdict : Verdict) :
    (service.settle now visit verdict registry).2.sessions = registry.sessions := by
  rw [Service.settle_snd]
  cases hlogin : verdict.isLogin with
  | false =>
    rw [Service.recordLogin_of_not_isLogin hlogin]
    split
    · exact sessions_advance_of_not_holds _ h
    · rfl
  | true =>
    rw [Service.recordLogin_of_isLogin hlogin]
    split
    · -- the signature is to replace the successor with the login, which was never installed
      have hlost := mt (Registry.holds_advance sound now visit.request.sessionId visit.snapshot
        (visit.loginState verdict)).1 h
      rw [sessions_advance_of_not_holds _ hlost, sessions_advance_of_not_holds _ h]
    · exact sessions_advance_of_not_holds _ h

/-- What a request found is installed in the place of the snapshot that was read for it. -/
theorem settle_of_holds (sound : registry.Sound) (h : verdict.Attempted)
    (hheld : registry.snapshot? visit.request.sessionId = some visit.snapshot) (now : Instant) :
    (∀ id, id ≠ visit.request.sessionId →
      (service.settle now visit verdict registry).2.snapshot? id = registry.snapshot? id) ∧
    (verdict.outcome.succeeded = true ∨
        (service.newProof? visit.reading.params visit.state).isSome = true →
      ∃ serial state, registry.nextSerial ≤ serial ∧
        (service.settle now visit verdict registry).2.snapshot? visit.request.sessionId =
          some { serial, state } ∧
        visit.Leaves verdict.outcome (service.newProof? visit.reading.params visit.state) state) ∧
    (verdict.outcome.succeeded = false →
      service.newProof? visit.reading.params visit.state = none →
      (service.settle now visit verdict registry).2 = registry) := by
  have hholds : registry.Holds visit.request.sessionId visit.snapshot :=
    Registry.holds_iff.2 ⟨visit.snapshot, hheld, rfl⟩
  have hsome : (service.successor? visit verdict).isSome = _ := isSome_successor? h
  cases hstate : service.successor? visit verdict with
  | none =>
    have hsettle : (service.settle now visit verdict registry).2 = registry :=
      Service.settle_of_no_successor hstate
    refine ⟨fun id _ => by rw [hsettle], fun hfound => ?_, fun _ _ => hsettle⟩
    rw [← Bool.or_eq_true, ← hsome, hstate] at hfound
    cases hfound
  | some state =>
    obtain ⟨serial, hserial, -, hall⟩ := Service.settle_of_successor sound hstate
    refine ⟨fun id hid => ?_, fun _ => ⟨serial, state, hserial, ?_, leaves_of_successor h hstate⟩,
      fun hfailed hnone => ?_⟩
    · rw [hall, if_neg fun hboth => hid hboth.1]
    · rw [hall, if_pos ⟨rfl, hholds⟩]
    · rw [hstate, hfailed, hnone] at hsome
      cases hsome

/-- The answer tells what the request itself found: its verdict, the nonce of the snapshot that was
read for it and the server's signature, if that is new. -/
theorem exists_settle_fst (service : Service) (now : Instant) (visit : Visit) (verdict : Verdict)
    (registry : Registry) :
    ∃ signature,
      (service.settle now visit verdict registry).1 =
          { outcome := { verdict.outcome with signature }
            sessionId := visit.request.sessionId
            serverNonce := visit.state.serverNonce
            requiresSession := visit.reading.needsSession } ∧
        ∀ proof, service.newProof? visit.reading.params visit.state = some proof →
          signature = some proof.signature := by
  refine ⟨_, Service.settle_fst, fun proof hnew => ?_⟩
  have hnew : service.newProof? visit.reading.params (visit.loginState verdict) = some proof :=
    (newProof?_loginState _).trans hnew
  rcases prove?_eq service visit.reading.params (visit.loginState verdict) with
    ⟨other, hother, hprove⟩ | ⟨hnone, -⟩
  · rw [hprove]
    rw [hnew] at hother
    cases hother
    rfl
  · rw [hnew] at hnone
    cases hnone

/-! ### No update is lost -/

/-- A request for which a key source is asked changes nothing but what it read. If its session then
has another snapshot than the one that was read, or none, no session is changed. If it still has
that one, the other sessions are as before, and it gets what the request found in its place; where
the request found nothing, no session is changed either. The answer tells what the request found,
in whichever case. -/
theorem settle_changes_only_what_was_read {rest : Consultation Verdict} {before after : List Call}
    (hstart : Meanwhile service allowed (.initial service.policy) start)
    (hreceive : service.receive entropy now request start.registry = (.pending visit rest, begun))
    (hasks : rest.isDone = false)
    (hmeanwhile : Meanwhile service allowed
      { registry := begun, calls := start.calls ++ [{ visit, replies := [], rest }] }
      { registry, calls := before ++ { visit, replies, rest := .done verdict } :: after })
    (later : Instant) :
    begun.snapshot? request.sessionId = some visit.snapshot ∧
    (∃ signature,
      (service.settle later visit verdict registry).1 =
          { outcome := { verdict.outcome with signature }
            sessionId := request.sessionId
            serverNonce := visit.state.serverNonce
            requiresSession := visit.reading.needsSession } ∧
        ∀ proof, service.newProof? visit.reading.params visit.state = some proof →
          signature = some proof.signature) ∧
    (registry.snapshot? request.sessionId ≠ some visit.snapshot →
      (service.settle later visit verdict registry).2.sessions = registry.sessions) ∧
    (registry.snapshot? request.sessionId = some visit.snapshot →
      (∀ id, id ≠ request.sessionId →
        (service.settle later visit verdict registry).2.snapshot? id = registry.snapshot? id) ∧
      (verdict.outcome.succeeded = true ∨
          (service.newProof? visit.reading.params visit.state).isSome = true →
        ∃ serial state, registry.nextSerial ≤ serial ∧
          (service.settle later visit verdict registry).2.snapshot? request.sessionId =
            some { serial, state } ∧
          visit.Leaves verdict.outcome (service.newProof? visit.reading.params visit.state)
            state) ∧
      (verdict.outcome.succeeded = false →
        service.newProof? visit.reading.params visit.state = none →
        (service.settle later visit verdict registry).2 = registry)) := by
  obtain ⟨snapshot, clientNonce, hvisit, hread, -, rfl⟩ := Service.receive_pending hreceive
  obtain rfl : visit.request = request := congrArg Visit.request hvisit
  obtain rfl : visit.snapshot = snapshot := congrArg Visit.snapshot hvisit
  have hadmitted : Meanwhile service allowed (.initial service.policy) _ :=
    hstart.step (.admitted hreceive)
  have sound := (hadmitted.trans hmeanwhile).sound (System.sound_initial service)
  have hcall := sound.call _ (List.mem_append_right _ List.mem_cons_self)
  obtain ⟨otherNonce, hends⟩ := hcall.follows
  have hattempted : verdict.Attempted := attempted_of_not_isDone hasks hends
  refine ⟨hread, exists_settle_fst service later visit verdict registry, fun hlost => ?_,
    fun hheld => settle_of_holds sound.registry hattempted hheld later⟩
  -- of the snapshots with its serial number the one that was read is the only one
  exact sessions_settle_of_not_holds sound.registry (mt hcall.snapshot?_eq hlost) later verdict

/-! ### An update that is lost, and one that is made -/

/-- Random bytes that are all zero. -/
def zeros : Entropy := .ofStreams fun _ _ => 0

/-- What is read for the first request of a service. -/
def firstVisit (service : Service) (request : Request) : Visit :=
  service.visitOf request
    ((Registry.ofPolicy service.policy).firstSnapshot zeros request.sessionId)

/-- What is to be decided about it. -/
def firstRest (service : Service) (request : Request) : Consultation Verdict :=
  service.verdict (zeros.draw .clientNonce Credential.clientNonceLength)
    (firstVisit service request)

/-- The registry with its session. -/
def firstRegistry (service : Service) (request : Request) : Registry :=
  ((Registry.ofPolicy service.policy).create zeros 0 request.sessionId).2

/-- The first request of a service waits for its verdict, where it is meant for its session. -/
theorem receive_first (hopens : service.opens (.ofPolicy service.policy) request = true)
    (hnamed : (firstVisit service request).state.isNamedBy
      (firstVisit service request).reading.params = true) :
    service.receive zeros 0 request (.ofPolicy service.policy) =
      (.pending (firstVisit service request) (firstRest service request),
        firstRegistry service request) := by
  have hadmitted : service.admission zeros (firstVisit service request) =
      .pending (firstVisit service request) (firstRest service request) :=
    Service.admission_of_isNamedBy hnamed
  exact (Service.receive_of_opens hopens).trans
    (congrArg (·, firstRegistry service request) hadmitted)

/-- A request that is the only one under way comes to the verdict of its source. -/
theorem Meanwhile.consult {rest : Consultation Verdict} (source : KeySource)
    (h : Meanwhile service (fun _ => True) start
      { registry, calls := [] ++ [{ visit, replies, rest }] }) :
    ∃ replies, Meanwhile service (fun _ => True) start
      { registry
        calls := [] ++ { visit, replies, rest := .done (rest.run source.answer) } :: [] } := by
  obtain ⟨events, later, hsteps⟩ : ∃ events later, Steps service (fun _ => True) _ events
      { registry, calls := [] ++ { replies := later, .. } :: [] } :=
    Steps.consult source (fun _ => trivial) registry [] visit replies rest
  exact ⟨later, h.trans (.of_steps hsteps)⟩

/-- A first request, with a claim. -/
def claimRequest : Request :=
  { sessionId := "s", authorization := none, params := macClaim "AAAA" }

/-- A service whose signatures are the messages themselves. -/
def echoingService : Service where
  policy := .default
  signer := some { algorithm := "echo", sign := .ok, publicKey? := none }

/-- A first request, with a password and a nonce that the server is to sign. -/
def signedRequest : Request where
  sessionId := "s"
  authorization := some "Basic MzoyMC4xMDAwLzc6czNjcjN0"
  params := [("cnonce", "AAAA")]

/-- The session is dropped while the claim is being verified. -/
def droppedRegistry : Registry := ((firstRegistry plainService claimRequest).remove "s").2

/-- How the claim then ends. -/
def endedClaim : Answer × Registry :=
  plainService.settle 0 (firstVisit plainService claimRequest)
    ((firstRest plainService claimRequest).run (sourceAt 3).answer) droppedRegistry

/-- Another session is opened while the password is being verified. -/
def sharedRegistry : Registry := ((firstRegistry echoingService signedRequest).load zeros 0 "t").2

/-- How the password then ends. -/
def endedPassword : Answer × Registry :=
  echoingService.settle 0 (firstVisit echoingService signedRequest)
    ((firstRest echoingService signedRequest).run (sourceAt 3).answer) sharedRegistry

/-- What the server signs with the message itself. -/
def echoedProof : ServerProof where
  clientNonce := [0, 0, 0]
  signature := { algorithm := "echo", bytes := List.replicate 19 0 }

/-- A dropped session stays dropped, and the claim has its success all the same. Where another
session is opened meanwhile, that one is as before, and the session of the password has the
identity, the kind, the header and the outcome of the login, and the server's signature. -/
theorem first_login_lost_or_recorded :
    (endedClaim.1.outcome.succeeded = true ∧ endedClaim.2.snapshot? "s" = none) ∧
    endedPassword.2.snapshot? "t" = sharedRegistry.snapshot? "t" ∧
    ∃ serial, endedPassword.2.snapshot? "s" = some
      { serial
        state :=
          { sessionId := "s"
            serverNonce := List.replicate 16 0
            proof := some echoedProof
            login := some
              { identity := { handle := "20.1000/7", index := 3 }
                kind := .secretKey
                authorization := signedRequest.authorization
                outcome := .success { handle := "20.1000/7", index := 3 } .secretKey [] } } } := by
  have hdropped : Meanwhile plainService (fun _ => True)
      { registry := firstRegistry plainService claimRequest
        calls := [] ++ [{ visit := firstVisit plainService claimRequest, replies := [],
                          rest := firstRest plainService claimRequest }] }
      { registry := droppedRegistry, calls := _ } :=
    Meanwhile.refl.step (.kept (.removed "s"))
  have hopened : Meanwhile echoingService (fun _ => True)
      { registry := firstRegistry echoingService signedRequest
        calls := [] ++ [{ visit := firstVisit echoingService signedRequest, replies := [],
                          rest := firstRest echoingService signedRequest }] }
      { registry := sharedRegistry, calls := _ } :=
    Meanwhile.refl.loaded zeros 0 "t"
  obtain ⟨replies, hclaim⟩ := hdropped.consult (sourceAt 3)
  obtain ⟨more, hpassword⟩ := hopened.consult (sourceAt 3)
  obtain ⟨-, ⟨signature, hanswer, -⟩, hlost, -⟩ := settle_changes_only_what_was_read .refl
    (receive_first (by decide +kernel) (by decide +kernel)) (by decide +kernel) hclaim 0
  obtain ⟨-, -, -, hheld⟩ := settle_changes_only_what_was_read .refl
    (receive_first (by decide +kernel) (by decide +kernel)) (by decide +kernel) hpassword 0
  refine ⟨⟨?_, ?_⟩, ?_⟩
  · rw [endedClaim, hanswer]
    show ((firstRest plainService claimRequest).run (sourceAt 3).answer).outcome.succeeded = true
    decide +kernel
  · have hgone : droppedRegistry.snapshot? "s" = none := by
      rw [droppedRegistry, Registry.snapshot?_remove, if_pos rfl]
    rw [Registry.snapshot?, endedClaim,
      hlost (by rw [show claimRequest.sessionId = "s" from rfl, hgone]; simp)]
    exact hgone
  · obtain ⟨hothers, hfound, -⟩ := hheld (by decide +kernel)
    have hverdict : (firstRest echoingService signedRequest).run (sourceAt 3).answer =
        { outcome := .success { handle := "20.1000/7", index := 3 } .secretKey []
          verified := true } := by decide +kernel
    have hproof : echoingService.newProof? (firstVisit echoingService signedRequest).reading.params
        (firstVisit echoingService signedRequest).state = some echoedProof := by decide +kernel
    obtain ⟨serial, state, -, hs, hleaves⟩ := hfound (.inr (by rw [hproof]; rfl))
    refine ⟨hothers "t" (by decide), serial, hs.trans ?_⟩
    rw [hverdict, hproof] at hleaves
    obtain ⟨identity, kind, hidentity, hkind, hlogin⟩ := hleaves.login_of_succeeded rfl
    cases hidentity
    cases hkind
    obtain ⟨sessionId, serverNonce, proof, login⟩ := state
    obtain rfl : sessionId = "s" := hleaves.sessionId_eq
    obtain rfl : serverNonce = List.replicate 16 0 :=
      hleaves.serverNonce_eq.trans (by decide +kernel)
    obtain rfl : proof = some echoedProof := hleaves.proof_eq
    obtain rfl : login = some _ := hlogin
    rfl

end Authentication

end HandleChallenge
