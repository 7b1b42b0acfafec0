import HandleChallenge.Gateway.Layer
import HandleChallenge.Proofs.Authentication.System

/-!
# Runs of the layer

The layer handles a request in two halves, before and after the verdict of the service: it finds
the session and asks the service, and with the answer it gives the session a new id where it has
to and concludes. `interpret_handle` says that the two halves with nothing between them are the
layer's exchange with the service. In a run other requests come between them; `Step.steps`
takes a step of the layer to steps of the service, so that what holds of every run of the service
holds of every run of the layer.
-/

namespace HandleChallenge.Gateway

open Authentication (Service Call KeyReply Event)

variable {settings : GatewaySettings} {service : Service} {allowed : KeyReply → Prop}
  {entropy : Entropy} {now : Instant} {request : Http.Request} {registry : Registry}
  {session : SessionId} {answer : Authentication.Answer}

/-! ### The halves of a request -/

/-- The session of a request, by the sessions that there are. -/
def sessionIn (settings : GatewaySettings) (entropy : Entropy) (request : Http.Request)
    (registry : Registry) : SessionId :=
  let named := SessionId.ofHeaders entropy request.headers settings.cookieName
  if named.isNew || registry.contains named.id then named else SessionId.mint entropy

/-- The request is refused for its transport. -/
def isBlocked (settings : GatewaySettings) (request : Http.Request) : Bool :=
  (request.headers.text? "authorization").isSome && settings.requireSecure &&
    !isSecure settings request

theorem isBlocked_of_no_header (h : request.headers.text? "authorization" = none) :
    isBlocked settings request = false := by
  simp [isBlocked, h]

/-- How the layer goes on with the answer of the service. -/
def continuation (settings : GatewaySettings) (entropy : Entropy) (request : Http.Request)
    (session : SessionId) (answer : Authentication.Answer) : Exchange Passage := do
  let (session, answer) ← afterLogin entropy session answer
  return conclude settings (isSecure settings request) session answer

/-- After the answer the session is to get a new id. -/
def rotates (session : SessionId) (answer : Authentication.Answer) : Bool :=
  answer.outcome.attempted && answer.outcome.succeeded && !session.isNew

/-- The answer under a new id and nonce. -/
def rotatedAnswer (answer : Authentication.Answer) (id : String) (nonce : Bytes) :
    Authentication.Answer :=
  { answer with
    sessionId := id
    serverNonce := nonce
    outcome := answer.outcome.withSignature none }

/-- The second half of a request. -/
def finish (settings : GatewaySettings) (entropy : Entropy) (now : Instant)
    (request : Http.Request) (session : SessionId) (answer : Authentication.Answer)
    (registry : Registry) : Passage × Registry :=
  if rotates session answer then
    match Service.rotateSession entropy now session.id (SessionId.mint entropy).id registry with
    | (some nonce, registry) =>
      (conclude settings (isSecure settings request) (SessionId.mint entropy)
        (rotatedAnswer answer (SessionId.mint entropy).id nonce), registry)
    | (none, registry) =>
      (conclude settings (isSecure settings request) session answer, registry)
  else (conclude settings (isSecure settings request) session answer, registry)

theorem handle_eq (settings : GatewaySettings) (entropy : Entropy) (request : Http.Request) :
    handle settings entropy request = sessionOf settings entropy request >>= fun session =>
      if isBlocked settings request then .done (.refused insecureResponse)
      else .ask (.authenticate (authenticationRequest request session))
        (continuation settings entropy request session) := rfl

theorem interpret_ask (source : KeySource) (call : ServiceCall)
    (next : call.Answer → Exchange Passage) :
    (Dialogue.ask call next).interpret (answerCall service source entropy now) registry =
      (next (answerCall service source entropy now call registry).1).interpret
        (answerCall service source entropy now)
        (answerCall service source entropy now call registry).2 := rfl

theorem interpret_sessionOf (source : KeySource) (next : SessionId → Exchange Passage) :
    (sessionOf settings entropy request >>= next).interpret
        (answerCall service source entropy now) registry =
      (next (sessionIn settings entropy request registry)).interpret
        (answerCall service source entropy now) registry := by
  unfold sessionOf sessionIn
  cases hnew : (SessionId.ofHeaders entropy request.headers settings.cookieName).isNew with
  | true => simp [hnew]
  | false =>
    simp only [hnew, Bool.false_eq_true, if_false, Bool.false_or]
    rfl

theorem interpret_continuation (source : KeySource) :
    (continuation settings entropy request session answer).interpret
        (answerCall service source entropy now) registry =
      finish settings entropy now request session answer registry := by
  unfold continuation afterLogin finish
  split
  · rename_i hlogin
    rw [if_pos (show rotates session answer = true from hlogin)]
    rw [Dialogue.ask_bind, interpret_ask]
    simp only [answerCall]
    rcases Service.rotateSession entropy now session.id (SessionId.mint entropy).id registry with
      ⟨_ | nonce, after⟩
    · rfl
    · rfl
  · rename_i hlogin
    rw [if_neg (show ¬ rotates session answer = true from hlogin)]
    rfl

/-- The two halves of a request with nothing between them are the exchange of the layer. -/
theorem interpret_handle (source : KeySource) :
    (handle settings entropy request).interpret (answerCall service source entropy now) registry =
      if isBlocked settings request then (.refused insecureResponse, registry)
      else
        let session := sessionIn settings entropy request registry
        let (answer, registry) := service.authenticate source entropy now
          (authenticationRequest request session) registry
        finish settings entropy now request session answer registry := by
  rw [handle_eq, interpret_sessionOf]
  split
  · rfl
  · exact interpret_continuation source

theorem finish_of_not_rotates (h : rotates session answer = false) :
    finish settings entropy now request session answer registry =
      (conclude settings (isSecure settings request) session answer, registry) := by
  simp [finish, h]

theorem finish_of_none (h : registry.snapshot? session.id = none) :
    finish settings entropy now request session answer registry =
      (conclude settings (isSecure settings request) session answer, registry) := by
  unfold finish
  rw [Service.rotateSession_of_none h]
  split
  · rfl
  · rfl

/-- After a login under an id that the client already had, the session goes on under a new one. -/
theorem finish_of_rotates {snapshot : Snapshot} (h : rotates session answer = true)
    (hread : registry.snapshot? session.id = some snapshot) :
    finish settings entropy now request session answer registry =
      (conclude settings (isSecure settings request) (SessionId.mint entropy)
          (rotatedAnswer answer (SessionId.mint entropy).id
            (registry.rotatedSnapshot entropy snapshot
              (SessionId.mint entropy).id).state.serverNonce),
        (registry.rotate entropy now session.id (SessionId.mint entropy).id).2) := by
  unfold finish
  rw [if_pos h, Service.rotateSession_of_some hread]

/-! ### Requests in flight -/

/-- A request whose verdict is open. -/
structure Thread where
  entropy : Entropy
  request : Http.Request
  session : SessionId
  call : Call

/-- The end of a request: the service settles it and the layer goes on with the answer. -/
def Thread.finish (settings : GatewaySettings) (service : Service) (thread : Thread)
    (now : Instant) (verdict : Authentication.Verdict) (registry : Registry) :
    Passage × Registry :=
  Gateway.finish settings thread.entropy now thread.request thread.session
    (service.settle now thread.call.visit verdict registry).1
    (service.settle now thread.call.visit verdict registry).2

/-- The request when its verdict is reached. -/
def Thread.decided (thread : Thread) (replies : List KeyReply)
    (verdict : Authentication.Verdict) : Thread :=
  { thread with call := { visit := thread.call.visit, replies, rest := .done verdict } }

/-- The layer at work. -/
structure System where
  registry : Registry
  threads : List Thread

/-- The service behind the layer. -/
def System.core (system : System) : Authentication.System where
  registry := system.registry
  calls := system.threads.map Thread.call

/-- A layer that has just been started. -/
def System.initial (policy : Policy) : System := { registry := .ofPolicy policy, threads := [] }

/-- The session gets a new id, if it is still there. -/
def rotationEvents (entropy : Entropy) (session : SessionId) (answer : Authentication.Answer)
    (registry : Registry) : List Event :=
  if rotates session answer && registry.contains session.id then
    [.rotated session.id (SessionId.mint entropy).id]
  else []

/-- One step of the layer, with what happens in the service, the latest first. Where a verdict
needs no key source the request may go on at once. -/
inductive Step (settings : GatewaySettings) (service : Service) (allowed : KeyReply → Prop) :
    System → List Event → System → Prop where
  | blocked {system : System} {request : Http.Request} (h : isBlocked settings request = true) :
      Step settings service allowed system [] system
  | answered {system : System} {entropy : Entropy} {now : Instant} {request : Http.Request}
      {answer : Authentication.Answer} {registry : Registry}
      (h : isBlocked settings request = false)
      (hreceive : service.receive entropy now
        (authenticationRequest request (sessionIn settings entropy request system.registry))
        system.registry = (.answered answer, registry)) :
      Step settings service allowed system
        [.received
          (authenticationRequest request (sessionIn settings entropy request system.registry))
          (service.opens system.registry
            (authenticationRequest request (sessionIn settings entropy request system.registry)))
          (some answer)]
        { system with
          registry := (finish settings entropy now request
            (sessionIn settings entropy request system.registry) answer registry).2 }
  | admitted {system : System} {entropy : Entropy} {now : Instant} {request : Http.Request}
      {visit : Authentication.Visit} {rest : Consultation Authentication.Verdict}
      {registry : Registry} (h : isBlocked settings request = false)
      (hreceive : service.receive entropy now
        (authenticationRequest request (sessionIn settings entropy request system.registry))
        system.registry = (.pending visit rest, registry)) :
      Step settings service allowed system
        [.received
          (authenticationRequest request (sessionIn settings entropy request system.registry))
          (service.opens system.registry
            (authenticationRequest request (sessionIn settings entropy request system.registry)))
          none]
        { registry
          threads := system.threads ++
            [{ entropy, request, session := sessionIn settings entropy request system.registry
               call := { visit, replies := [], rest } }] }
  | replied {registry : Registry} {before after : List Thread} {thread : Thread}
      {question : KeyQuestion} {next : question.Answer → Consultation Authentication.Verdict}
      {answer : question.Answer} (hrest : thread.call.rest = .ask question next)
      (hallowed : allowed ⟨question, answer⟩) :
      Step settings service allowed { registry, threads := before ++ thread :: after }
        [.replied ⟨question, answer⟩]
        { registry
          threads := before ++
            { thread with
              call := { visit := thread.call.visit
                        replies := thread.call.replies ++ [⟨question, answer⟩]
                        rest := next answer } } :: after }
  | resumed {registry : Registry} {before after : List Thread} {thread : Thread}
      {verdict : Authentication.Verdict} (now : Instant)
      (hrest : thread.call.rest = .done verdict) :
      Step settings service allowed { registry, threads := before ++ thread :: after }
        (rotationEvents thread.entropy thread.session
            (service.settle now thread.call.visit verdict registry).1
            (service.settle now thread.call.visit verdict registry).2 ++
          [.settled
            { visit := thread.call.visit, replies := thread.call.replies, verdict
              held := decide (registry.Holds thread.call.visit.request.sessionId
                thread.call.visit.snapshot)
              answer := (service.settle now thread.call.visit verdict registry).1 }])
        { registry := (thread.finish settings service now verdict registry).2
          threads := before ++ after }
  | purged {system : System} (now : Instant) :
      Step settings service allowed system [.kept]
        { system with registry := (service.purgeSessions now system.registry).2 }

/-- Steps of the layer in sequence, with what happens in the service. -/
inductive Steps (settings : GatewaySettings) (service : Service) (allowed : KeyReply → Prop) :
    System → List Event → System → Prop where
  | refl (system : System) : Steps settings service allowed system [] system
  | tail {system next last : System} {events more : List Event} :
      Steps settings service allowed system events next →
      Step settings service allowed next more last →
      Steps settings service allowed system (more ++ events) last

theorem Steps.single {system next : System} {events : List Event}
    (h : Step settings service allowed system events next) :
    Steps settings service allowed system events next := by
  have hsteps := (Steps.refl system).tail h
  rwa [List.append_nil] at hsteps

theorem Steps.trans {system next last : System} {events more : List Event}
    (h : Steps settings service allowed system events next)
    (hmore : Steps settings service allowed next more last) :
    Steps settings service allowed system (more ++ events) last := by
  induction hmore with
  | refl => exact h
  | tail _ hstep ih =>
    rw [List.append_assoc]
    exact ih.tail hstep

/-- What a run of the layer leads to. -/
def Reaches (settings : GatewaySettings) (service : Service) (allowed : KeyReply → Prop)
    (history : List Event) (system : System) : Prop :=
  Steps settings service allowed (System.initial service.policy) history system

variable {system next : System} {events : List Event}

/-- A request that is answered as it arrives was no login. -/
theorem rotates_of_receive {asked : Authentication.Request} {before after : Registry}
    (h : service.receive entropy now asked before = (.answered answer, after)) :
    rotates session answer = false := by
  rcases Service.receive_answered h with rfl | ⟨snapshot, rfl⟩
  · rfl
  · rfl

/-- The second half of a request is a rotation in the service, or nothing. -/
theorem steps_of_finish (calls : List Call) :
    Authentication.Steps service allowed { registry, calls }
      (rotationEvents entropy session answer registry)
      { registry := (finish settings entropy now request session answer registry).2, calls } := by
  cases hrotates : rotates session answer with
  | false =>
    rw [finish_of_not_rotates hrotates]
    simp only [rotationEvents, hrotates, Bool.false_and, Bool.false_eq_true, if_false]
    exact .refl _
  | true =>
    cases hread : registry.snapshot? session.id with
    | none =>
      rw [finish_of_none hread]
      simp only [rotationEvents, Registry.contains_eq_false_iff.2 hread, Bool.and_false,
        Bool.false_eq_true, if_false]
      exact .refl _
    | some snapshot =>
      rw [finish_of_rotates hrotates hread]
      simp only [rotationEvents, hrotates, Registry.contains_iff_snapshot?.2 ⟨snapshot, hread⟩,
        Bool.and_self, if_true]
      exact .single (.rotated (Service.rotateSession_of_some hread _))

theorem System.core_append (registry : Registry) (before after : List Thread) (thread : Thread) :
    System.core { registry, threads := before ++ thread :: after } =
      { registry, calls := before.map Thread.call ++ thread.call :: after.map Thread.call } := by
  simp [System.core]

/-- A request on a session that is there waits for its verdict. -/
theorem exists_step_of_read {snapshot : Snapshot} (allowed : KeyReply → Prop) (now : Instant)
    (hblocked : isBlocked settings request = false)
    (hsession : sessionIn settings entropy request registry = session)
    (hread : registry.snapshot? session.id = some snapshot)
    (hnamed : snapshot.state.isNamedBy
      (service.visitOf (authenticationRequest request session) snapshot).reading.params = true)
    (threads : List Thread) :
    ∃ events, Step settings service allowed { registry, threads } events
      { registry := (registry.get now session.id).2
        threads := threads ++
          [{ entropy, request, session
             call :=
              { visit := service.visitOf (authenticationRequest request session) snapshot
                replies := []
                rest := service.verdict
                  (entropy.draw .clientNonce Credential.clientNonceLength)
                  (service.visitOf (authenticationRequest request session) snapshot) } }] } := by
  have hreceive : service.receive entropy now (authenticationRequest request session) registry = _ :=
    Service.receive_of_some hread
  rw [Service.admission_of_isNamedBy hnamed] at hreceive
  subst hsession
  exact ⟨_, .admitted hblocked hreceive⟩

/-- A source that is asked by the last request alone brings it to its verdict. -/
theorem exists_steps_of_source (source : KeySource)
    (hallowed : ∀ question, allowed ⟨question, source.answer question⟩) (registry : Registry)
    (threads : List Thread) (thread : Thread) :
    ∃ events replies,
      Steps settings service allowed { registry, threads := threads ++ [thread] } events
        { registry
          threads := threads ++
            [thread.decided replies (thread.call.rest.run source.answer)] } ∧
      ∀ event ∈ events, ∀ id, event.records service id = false := by
  obtain ⟨entropy, request, session, visit, replies, rest⟩ := thread
  induction rest generalizing replies with
  | done verdict => exact ⟨[], replies, .refl _, by simp⟩
  | ask question next ih =>
    obtain ⟨events, given, hsteps, hrecords⟩ :=
      ih (source.answer question) (replies ++ [⟨question, source.answer question⟩])
    refine ⟨events ++ [.replied ⟨question, source.answer question⟩], given, ?_, ?_⟩
    · exact (Steps.single (.replied rfl (hallowed question))).trans hsteps
    · intro event hmem id
      rcases List.mem_append.1 hmem with hmem | hmem
      · exact hrecords event hmem id
      · rw [List.mem_singleton.1 hmem]
        rfl

/-- A step of the layer is steps of the service behind it. -/
theorem Step.steps (h : Step settings service allowed system events next) :
    Authentication.Steps service allowed system.core events next.core := by
  cases h with
  | blocked hblocked => exact .refl _
  | answered hblocked hreceive =>
    rw [finish_of_not_rotates (rotates_of_receive hreceive)]
    exact .single (.answered hreceive)
  | admitted hblocked hreceive =>
    rw [System.core_append]
    exact .single (.admitted hreceive)
  | @replied registry before after thread question rest answer hrest hallowed =>
    obtain ⟨entropy, request, session, visit, replies, asked⟩ := thread
    simp only at hrest
    subst hrest
    rw [System.core_append, System.core_append]
    exact .single (.replied hallowed)
  | @resumed registry before after thread verdict now hrest =>
    obtain ⟨entropy, request, session, visit, replies, asked⟩ := thread
    simp only at hrest
    subst hrest
    rw [System.core_append]
    -- the service settles the call, and then perhaps rotates the session
    refine (Authentication.Steps.single (.settled now)).trans ?_
    simp only [System.core, List.map_append]
    exact steps_of_finish _
  | purged now => exact .single (.kept (.purged now))

/-- Steps of the layer are steps of the service behind it. -/
theorem Steps.steps (h : Steps settings service allowed system events next) :
    Authentication.Steps service allowed system.core events next.core := by
  induction h with
  | refl => exact .refl _
  | tail _ hstep ih => exact ih.trans hstep.steps

/-- A run of the layer is a run of the service behind it. -/
theorem Reaches.core (h : Reaches settings service allowed events system) :
    Authentication.Reaches service allowed events system.core := by
  have hstart : Authentication.Reaches service allowed []
      (Authentication.System.initial service.policy) := .start
  have hreaches := hstart.append h.steps
  rwa [List.append_nil] at hreaches

/-- A request that waits for its verdict was not refused, and the service was asked what the
layer read from it. -/
structure Thread.Admitted (settings : GatewaySettings) (thread : Thread) : Prop where
  isBlocked_eq : isBlocked settings thread.request = false
  request_eq : thread.call.visit.request = authenticationRequest thread.request thread.session

/-- A step admits requests in this way only. -/
theorem Step.admitted_of (h : Step settings service allowed system events next)
    (hadmitted : ∀ thread ∈ system.threads, thread.Admitted settings) :
    ∀ thread ∈ next.threads, thread.Admitted settings := by
  cases h with
  | blocked hblocked => exact hadmitted
  | answered hblocked hreceive => exact hadmitted
  | admitted hblocked hreceive =>
    obtain ⟨snapshot, clientNonce, rfl, -⟩ := Service.receive_pending hreceive
    exact Authentication.forall_mem_arrive hadmitted ⟨hblocked, rfl⟩
  | replied hrest hallowed =>
    -- a reply changes neither the request nor what was read
    exact Authentication.forall_mem_advance hadmitted fun before =>
      ⟨before.isBlocked_eq, before.request_eq⟩
  | resumed now hrest => exact Authentication.forall_mem_finish hadmitted
  | purged now => exact hadmitted

theorem Steps.admitted_of (h : Steps settings service allowed system events next)
    (hadmitted : ∀ thread ∈ system.threads, thread.Admitted settings) :
    ∀ thread ∈ next.threads, thread.Admitted settings := by
  induction h with
  | refl => exact hadmitted
  | tail _ hstep ih => exact hstep.admitted_of ih

/-- The requests that wait for their verdicts were all admitted. -/
theorem Reaches.admitted (h : Reaches settings service allowed events system) :
    ∀ thread ∈ system.threads, thread.Admitted settings :=
  Steps.admitted_of h (by simp [System.initial])

/-! ### A session with requests on it -/

/-- A service with a key of its own. -/
def signingService : Service where
  policy := .default
  signer := some { algorithm := "fixed", sign := fun _ => .ok [1], publicKey? := none }

/-- Random bytes that are all alike. -/
def alike (byte : UInt8) : Entropy := .ofStreams fun _ _ => byte

/-- The session that the first of them opens. -/
def openedSession : SessionId := { id := "00000000-0000-4000-8000-000000000000", isNew := false }

/-- The registry with that session alone. -/
def openedRegistry : Registry :=
  ((Registry.ofPolicy .default).create (alike 0) 0 openedSession.id).2

/-- The snapshot of that session. -/
def openedSnapshot : Snapshot where
  serial := 0
  state := .ofNonce openedSession.id (List.replicate 16 0)

/-- A request without a cookie that names a session there is not. -/
def openingRequest : Http.Request where
  target := "/?sessionId=x"
  headers := .empty
  securedHere := false

/-- A query with a whole claim. -/
def wholeQuery : String := "id=20.1000/7&type=HS_SECKEY&alg=MD5&cnonce=AAAA&signature=AAAA"

/-- A request on the session. -/
def requestWith (query : String) : Http.Request where
  target := "/?" ++ query
  headers := .ofList [("cookie", Text.Utf8.encode ("HDLSESSIONID=" ++ openedSession.id))]
  securedHere := false

/-- A request on the session that waits for its verdict. -/
def threadWith (byte : UInt8) (query : String) : Thread where
  entropy := alike byte
  request := requestWith query
  session := openedSession
  call :=
    { visit := signingService.visitOf
        (authenticationRequest (requestWith query) openedSession) openedSnapshot
      replies := []
      rest := signingService.verdict
        ((alike byte).draw .clientNonce Credential.clientNonceLength)
        (signingService.visitOf
          (authenticationRequest (requestWith query) openedSession) openedSnapshot) }

theorem header_requestWith (query : String) :
    (requestWith query).headers.text? "authorization" = none := by
  show (Http.Headers.ofList [("cookie", Text.Utf8.encode ("HDLSESSIONID=" ++ openedSession.id))]).text?
    "authorization" = none
  decide +kernel

section Opened

variable (hcookie : settings.cookieName = GatewaySettings.default.cookieName)

include hcookie

/-- A request without a session opens one, and has its answer since it names another. -/
theorem exists_receive_openingRequest :
    ∃ answer, signingService.receive (alike 0) 0
        (authenticationRequest openingRequest
          (sessionIn settings (alike 0) openingRequest (.ofPolicy .default)))
        (.ofPolicy .default) = (.answered answer, openedRegistry) := by
  have hsession : sessionIn settings (alike 0) openingRequest (.ofPolicy .default) =
      SessionId.mint (alike 0) := by
    unfold sessionIn
    rw [hcookie]
    decide +kernel
  have hid : (SessionId.mint (alike 0)).id = openedSession.id := by decide +kernel
  have hopens : signingService.opens (.ofPolicy .default)
      (authenticationRequest openingRequest (SessionId.mint (alike 0))) = true := by
    decide +kernel
  have hreceive : signingService.receive (alike 0) 0
      (authenticationRequest openingRequest (SessionId.mint (alike 0))) (.ofPolicy .default) = _ :=
    Service.receive_of_opens hopens
  have hregistry : ((Registry.ofPolicy .default).create (alike 0) 0
      (authenticationRequest openingRequest (SessionId.mint (alike 0))).sessionId).2 =
        openedRegistry := by
    show ((Registry.ofPolicy .default).create (alike 0) 0 (SessionId.mint (alike 0)).id).2 = _
    rw [hid]
    rfl
  rw [Service.admission_of_not_isNamedBy (by decide +kernel), hregistry, ← hsession] at hreceive
  exact ⟨_, hreceive⟩

theorem exists_reaches_opened (allowed : KeyReply → Prop) :
    ∃ history, Reaches settings signingService allowed history
      { registry := openedRegistry, threads := [] } := by
  obtain ⟨answer, hreceive⟩ := exists_receive_openingRequest hcookie
  have hstep : Step settings signingService allowed (System.initial .default) _ _ :=
    .answered (isBlocked_of_no_header (by decide +kernel)) hreceive
  rw [finish_of_not_rotates (rotates_of_receive hreceive)] at hstep
  exact ⟨_, Steps.single hstep⟩

theorem sessionIn_requestWith (byte : UInt8) (query : String)
    (h : registry.contains openedSession.id = true) :
    sessionIn settings (alike byte) (requestWith query) registry = openedSession := by
  have hfound : findCookie? (requestWith query).headers settings.cookieName =
      some openedSession.id := by
    rw [hcookie]
    show findCookie? (.ofList [("cookie", Text.Utf8.encode ("HDLSESSIONID=" ++ openedSession.id))])
      "HDLSESSIONID" = _
    decide +kernel
  have hnamed : SessionId.ofHeaders (alike byte) (requestWith query).headers
      settings.cookieName = openedSession := by
    rw [SessionId.ofHeaders, hfound]
    rfl
  rw [sessionIn, hnamed]
  simp [h]

/-- While nothing is recorded for the session, a request on it waits for its verdict. -/
theorem exists_step_threadWith (allowed : KeyReply → Prop) (byte : UInt8)
    (query : String) (threads : List Thread)
    (hread : registry.snapshot? openedSession.id = some openedSnapshot)
    (hnamed : openedSnapshot.state.isNamedBy
      (threadWith byte query).call.visit.reading.params = true) :
    ∃ events, Step settings signingService allowed { registry, threads } events
      { registry := (registry.get 0 openedSession.id).2
        threads := threads ++ [threadWith byte query] } :=
  exists_step_of_read allowed 0 (isBlocked_of_no_header (header_requestWith query))
    (sessionIn_requestWith hcookie byte query (Registry.contains_iff_snapshot?.2 ⟨_, hread⟩))
    hread hnamed threads

end Opened

end HandleChallenge.Gateway
