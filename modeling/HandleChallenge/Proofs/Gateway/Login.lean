import HandleChallenge.Proofs.Authentication.Provenance
import HandleChallenge.Proofs.Gateway.System

/-!
# The session after a login

After a login under an id that the client already had, the layer moves the session to a new id. It
moves the snapshot that is then in the registry, which is the one with the login only if the
installation of the login succeeded. `rotated_session_login_iff` says when it did: nothing was
recorded for the session while the verdict was open, or what was recorded last had the identity
already.
-/

namespace HandleChallenge

/-- The identity of the last login. -/
def SessionState.identity? (state : SessionState) : Option Identity :=
  state.login.map Login.identity

@[simp] theorem SessionState.identity?_rotated (state : SessionState) (id : String)
    (nonce : Bytes) : (state.rotated id nonce).identity? = state.identity? := by
  simp [identity?, rotated, Function.comp_def]

namespace Gateway

open Authentication (Service Call KeyReply Event Verdict receive_of_not_claims sourceAt)

variable {settings : GatewaySettings} {service : Service} {allowed : KeyReply → Prop}
  {registry : Registry} {start begin : System} {thread first : Thread} {now : Instant}

/-- A request arrives and waits for its verdict. -/
def Arrives (settings : GatewaySettings) (service : Service) (allowed : KeyReply → Prop)
    (start : System) (thread : Thread) (next : System) : Prop :=
  ∃ events, Step settings service allowed start events next ∧
    next.threads = start.threads ++ [thread]

/-- It is the same request, maybe with more replies. -/
def Thread.Continues (thread first : Thread) : Prop :=
  thread.entropy = first.entropy ∧ thread.request = first.request ∧
    thread.session = first.session ∧ thread.call.visit = first.call.visit

/-- A request that arrives is on its session, with the snapshot that is then under its id. -/
theorem Arrives.read (h : Arrives settings service allowed start thread begin) :
    begin.registry.snapshot? thread.session.id = some thread.call.visit.snapshot := by
  obtain ⟨events, hstep, hthreads⟩ := h
  have hlength := congrArg List.length hthreads
  cases hstep with
  | blocked => simp at hlength
  | answered => simp at hlength
  | admitted hblocked hreceive =>
    obtain ⟨snapshot, clientNonce, rfl, hread, -⟩ := Service.receive_pending hreceive
    obtain rfl := List.singleton_inj.1 (List.append_cancel_left hthreads)
    exact hread
  | replied =>
    simp only [List.length_append, List.length_cons] at hlength
    omega
  | resumed =>
    simp only [List.length_append, List.length_cons] at hlength
    omega
  | purged => simp at hlength

/-- The layer answers with the session's new id and nonce, and the session keeps its identity. -/
def MovedTo (settings : GatewaySettings) (entropy : Entropy) (request : Http.Request)
    (answer : Authentication.Answer) (ended : Passage × Registry) (snapshot : Snapshot) : Prop :=
  ended.1 = conclude settings (isSecure settings request) (SessionId.mint entropy)
      (rotatedAnswer answer (SessionId.mint entropy).id snapshot.state.serverNonce) ∧
    ended.2.snapshot? (SessionId.mint entropy).id = some snapshot

/-- Whichever snapshot the layer finds after a login, it moves. -/
theorem exists_movedTo {entropy : Entropy} {request : Http.Request} {session : SessionId}
    {answer : Authentication.Answer} {found : Snapshot} (h : rotates session answer = true)
    (hfound : registry.snapshot? session.id = some found) :
    ∃ snapshot,
      MovedTo settings entropy request answer
        (finish settings entropy now request session answer registry) snapshot ∧
      snapshot.state.identity? = found.state.identity? := by
  rw [finish_of_rotates h hfound]
  refine ⟨registry.rotatedSnapshot entropy found (SessionId.mint entropy).id, ⟨rfl, ?_⟩, ?_⟩
  · rw [Registry.snapshot?_rotate_of_some hfound, if_pos rfl]
  · exact SessionState.identity?_rotated _ _ _

/-- What the end of a login leaves under the new id: the login, if the snapshot that was read is
still held, and else what was recorded in its place. -/
theorem exists_movedTo_of_login (settings : GatewaySettings) (now : Instant) {verdict : Verdict}
    {identity : Identity} {held : Snapshot}
    (sound : Call.Sound service allowed registry thread.call) (hregistry : registry.Sound)
    (hread : ∀ login, thread.call.visit.state.login = some login → login.Sound)
    (hrequest : thread.call.visit.request.sessionId = thread.session.id)
    (hrest : thread.call.rest = .done verdict)
    (hattempted : verdict.outcome.attempted = true)
    (hsucceeded : verdict.outcome.succeeded = true)
    (hidentity : verdict.outcome.identity = some identity)
    (hexisting : thread.session.isNew = false)
    (hheld : registry.snapshot? thread.session.id = some held) :
    ∃ snapshot,
      MovedTo settings thread.entropy thread.request
        (service.settle now thread.call.visit verdict registry).1
        (thread.finish settings service now verdict registry) snapshot ∧
      snapshot.state.identity? =
        if held = thread.call.visit.snapshot then some identity else held.state.identity? := by
  obtain ⟨clientNonce, hends⟩ := sound.follows
  rw [hrest] at hends
  have hrotates : rotates thread.session
      (service.settle now thread.call.visit verdict registry).1 = true := by
    rw [Service.settle_fst]
    simp only [rotates, Authentication.Visit.answer, Outcome.withSignature, hattempted, hsucceeded,
      hexisting, Bool.not_false, Bool.and_self]
  rw [← hrequest] at hheld
  -- the login is installed exactly if the snapshot that was read is still held
  by_cases hsame : held = thread.call.visit.snapshot
  · rw [hsame] at hheld
    obtain ⟨found, hfound, hlogin, -⟩ :=
      Service.snapshot?_settle_of_holds hregistry hheld now verdict
    rw [hrequest] at hfound
    obtain ⟨snapshot, hmoved, hsnapshot⟩ := exists_movedTo hrotates hfound
    refine ⟨snapshot, hmoved, ?_⟩
    rw [if_pos hsame, hsnapshot, SessionState.identity?, hlogin]
    exact Authentication.identity_loginState hread hends hattempted hidentity
  · have hlost : ¬ registry.Holds thread.call.visit.request.sessionId
        thread.call.visit.snapshot := by
      intro hholds
      have hcurrent := sound.snapshot?_eq hholds
      exact hsame (Option.some.inj (hheld.symm.trans hcurrent))
    have hfound : (service.settle now thread.call.visit verdict registry).2.snapshot?
        thread.call.visit.request.sessionId = _ :=
      Service.snapshot?_settle_of_not_holds hregistry hlost now verdict _
    rw [hheld, hrequest] at hfound
    obtain ⟨snapshot, hmoved, hsnapshot⟩ := exists_movedTo hrotates hfound
    refine ⟨snapshot, hmoved, ?_⟩
    rw [if_neg hsame, hsnapshot]

/-- A login on an existing session, which the layer moves to a new id, has its identity there
exactly if no other request recorded anything for the session while the verdict was open, or the
session had the identity in the end anyway. The next request under the new id that claims nothing
goes on as whoever the session then has, or as nobody. -/
theorem rotated_session_login_iff {history window : List Event} {before after : List Thread}
    {verdict : Verdict} {identity : Identity} {held : Snapshot}
    (h : Reaches settings service allowed history start)
    (harrives : Arrives settings service allowed start first begin)
    (hwindow : Steps settings service allowed begin window
      { registry, threads := before ++ thread :: after })
    (hcontinues : thread.Continues first) (hrest : thread.call.rest = .done verdict)
    (hattempted : verdict.outcome.attempted = true)
    (hsucceeded : verdict.outcome.succeeded = true)
    (hidentity : verdict.outcome.identity = some identity)
    (hexisting : thread.session.isNew = false)
    (hheld : registry.snapshot? thread.session.id = some held) (now : Instant) :
    ∃ snapshot,
      MovedTo settings thread.entropy thread.request
        (service.settle now thread.call.visit verdict registry).1
        (thread.finish settings service now verdict registry) snapshot ∧
      (snapshot.state.identity? = some identity ↔
        (∀ event ∈ window, event.records service thread.session.id = false) ∨
          held.state.identity? = some identity) ∧
      ∀ entropy later asked,
        asked.sessionId = (SessionId.mint thread.entropy).id →
        (service.visitOf asked snapshot).reading.claims = false →
        snapshot.state.isNamedBy (service.visitOf asked snapshot).reading.params = true →
        (service.receive entropy later asked
            (thread.finish settings service now verdict registry).2).1 =
          .pending (service.visitOf asked snapshot)
            (.done { outcome := snapshot.state.continued, verified := false }) := by
  obtain ⟨hentropy, hhttp, hsession, hvisit⟩ := hcontinues
  have hread := harrives.read
  rw [← hsession, ← hvisit] at hread
  obtain ⟨events, hstep, -⟩ := harrives
  have hbegin : Reaches settings service allowed (events ++ history) begin := h.tail hstep
  have hend : Reaches settings service allowed (window ++ (events ++ history)) _ :=
    hbegin.trans hwindow
  have hmem : thread ∈ before ++ thread :: after := List.mem_append_right _ List.mem_cons_self
  have hasked := (hend.admitted thread hmem).request_eq
  have sound := hend.core.sound
  obtain ⟨snapshot, hmoved, hsnapshot⟩ := exists_movedTo_of_login settings now
    (sound.call _ (List.mem_map_of_mem hmem)) sound.registry
    (fun login hlogin => hbegin.core.login_sound hread hlogin)
    (congrArg Authentication.Request.sessionId hasked) hrest hattempted hsucceeded hidentity
    hexisting hheld
  refine ⟨snapshot, hmoved, ?_, ?_⟩
  · rw [hsnapshot]
    rcases hwindow.steps.origin hbegin.core.sound hheld with ⟨hkept, hnone⟩ | ⟨hlater, hsome⟩
    · -- nothing was recorded, so the snapshot that was read is still the one held
      have hsame : held = thread.call.visit.snapshot := Option.some.inj (hkept.symm.trans hread)
      rw [if_pos hsame]
      exact ⟨fun _ => .inl hnone, fun _ => rfl⟩
    · -- what was recorded on the way has a later serial number than what was read
      have hlt := hbegin.core.sound.registry.serial_lt hread
      have hother : held ≠ thread.call.visit.snapshot := by
        rintro rfl
        exact absurd hlater (Nat.not_le_of_lt hlt)
      rw [if_neg hother]
      constructor
      · exact .inr
      · rintro (hnone | hidentity)
        · obtain ⟨event, hmem, hrecords⟩ := hsome
          rw [hnone event hmem] at hrecords
          cases hrecords
        · exact hidentity
  · intro entropy later asked hid hclaims hnamed
    refine receive_of_not_claims ?_ hclaims hnamed
    rw [hid]
    exact hmoved.2

/-! ### A login that is lost -/

/-- A login by a MAC on the session. -/
def loginThread : Thread := threadWith 1 wholeQuery

/-- The login with its verdict, which a source gives. -/
def loginVerdict : Verdict := loginThread.call.rest.run (sourceAt 3).answer

/-- The registry when the login has arrived. -/
def loginRegistry : Registry := (openedRegistry.get 0 openedSession.id).2

theorem snapshot?_openedRegistry :
    openedRegistry.snapshot? openedSession.id = some openedSnapshot := by decide +kernel

theorem snapshot?_loginRegistry :
    loginRegistry.snapshot? openedSession.id = some openedSnapshot :=
  (openedRegistry.snapshot?_get 0 _ _).trans snapshot?_openedRegistry

theorem exists_arrives_loginThread (allowed : KeyReply → Prop) :
    Arrives .default signingService allowed { registry := openedRegistry, threads := [] }
      loginThread { registry := loginRegistry, threads := [loginThread] } := by
  obtain ⟨events, hstep⟩ := exists_step_threadWith rfl allowed 1 wholeQuery []
    snapshot?_openedRegistry (by decide +kernel)
  exact ⟨events, hstep, rfl⟩

/-- Without another request the session has the login under its new id. -/
theorem rotated_session_has_login :
    ∃ snapshot,
      (loginThread.finish .default signingService 0 loginVerdict loginRegistry).2.snapshot?
          (SessionId.mint loginThread.entropy).id = some snapshot ∧
        snapshot.state.identity? = some { handle := "20.1000/7", index := 3 } := by
  obtain ⟨history, h⟩ := exists_reaches_opened rfl fun _ => True
  obtain ⟨window, replies, hwindow, hrecords⟩ :
      ∃ window replies,
        Steps .default signingService (fun _ => True)
          { registry := loginRegistry, threads := [] ++ [loginThread] } window
          { registry := loginRegistry
            threads := [] ++ [loginThread.decided replies loginVerdict] } ∧
        ∀ event ∈ window, ∀ id, event.records signingService id = false :=
    exists_steps_of_source (sourceAt 3) (fun _ => trivial) loginRegistry [] loginThread
  have hfound : loginVerdict.outcome.identity = some { handle := "20.1000/7", index := 3 } := by
    decide +kernel
  obtain ⟨snapshot, hmoved, hidentity, -⟩ := rotated_session_login_iff h
    (exists_arrives_loginThread _) hwindow ⟨rfl, rfl, rfl, rfl⟩ rfl (by decide +kernel)
    (by decide +kernel) hfound rfl snapshot?_loginRegistry 0
  exact ⟨snapshot, hmoved.2, hidentity.2 (.inl fun event hmem => hrecords event hmem _)⟩

/-- A request on the session for a signature of the server. -/
def signThread : Thread := threadWith 2 "cnonce=BBBB"

/-- The registry when the signature is recorded. -/
def signedRegistry : Registry :=
  (signThread.finish .default signingService 0 { outcome := .notAttempted, verified := false }
    (loginRegistry.get 0 openedSession.id).2).2

/-- The server signs for another request while the verdict of a login is open. The login succeeds
and is lost, and under the new id the session has no identity. -/
theorem login_lost_to_signature :
    ∃ history window replies,
      Reaches .default signingService (fun _ => True) history
        { registry := openedRegistry, threads := [] } ∧
      Arrives .default signingService (fun _ => True) { registry := openedRegistry, threads := [] }
        loginThread { registry := loginRegistry, threads := [loginThread] } ∧
      Steps .default signingService (fun _ => True)
        { registry := loginRegistry, threads := [loginThread] } window
        { registry := signedRegistry, threads := [loginThread.decided replies loginVerdict] } ∧
      loginThread.session.isNew = false ∧
      loginVerdict.outcome =
        .success { handle := "20.1000/7", index := 3 } .secretKey [] ∧
      ∃ snapshot,
        MovedTo .default loginThread.entropy loginThread.request
          (signingService.settle 0 loginThread.call.visit loginVerdict signedRegistry).1
          ((loginThread.decided replies loginVerdict).finish .default signingService 0 loginVerdict
            signedRegistry) snapshot ∧
        snapshot.state.continued = .notAttempted := by
  obtain ⟨history, h⟩ := exists_reaches_opened rfl fun _ => True
  -- the other request arrives
  obtain ⟨sought, hsought⟩ :
      ∃ events, Step .default signingService (fun _ => True)
        { registry := loginRegistry, threads := [loginThread] } events
        { registry := (loginRegistry.get 0 openedSession.id).2
          threads := [loginThread, signThread] } :=
    exists_step_threadWith rfl _ 2 "cnonce=BBBB" [loginThread] snapshot?_loginRegistry
      (by decide +kernel)
  -- and is signed for
  have hclaims : signThread.call.visit.reading.claims = false := by decide +kernel
  have hnothing : signThread.call.rest = .done { outcome := .notAttempted, verified := false } :=
    signingService.verdict_of_not_claims
      ((alike 2).draw .clientNonce Credential.clientNonceLength) hclaims
  obtain ⟨signed, hsigned⟩ :
      ∃ events, Step .default signingService (fun _ => True)
        { registry := (loginRegistry.get 0 openedSession.id).2
          threads := [loginThread] ++ signThread :: [] } events
        { registry := signedRegistry, threads := [loginThread] ++ [] } :=
    ⟨_, .resumed 0 hnothing⟩
  -- then the source answers
  obtain ⟨answered, replies, hanswered, -⟩ :
      ∃ events replies,
        Steps .default signingService (fun _ => True)
          { registry := signedRegistry, threads := [] ++ [loginThread] } events
          { registry := signedRegistry
            threads := [] ++ [loginThread.decided replies loginVerdict] } ∧
        ∀ event ∈ events, ∀ id, event.records signingService id = false :=
    exists_steps_of_source (sourceAt 3) (fun _ => trivial) signedRegistry [] loginThread
  have hrotates : rotates loginThread.session
      (signingService.settle 0 loginThread.call.visit loginVerdict signedRegistry).1 = true := by
    decide +kernel
  have hkept : (((signingService.settle 0 loginThread.call.visit loginVerdict
      signedRegistry).2.snapshot? loginThread.session.id).map fun found => found.state.identity?) =
        some none := by decide +kernel
  obtain ⟨found, hfound, hnobody⟩ := Option.map_eq_some_iff.1 hkept
  obtain ⟨snapshot, hmoved, hidentity⟩ := exists_movedTo hrotates hfound
  refine ⟨history, _, replies, h, exists_arrives_loginThread _,
    ((Steps.single hsought).tail hsigned).trans hanswered, rfl, by decide +kernel, snapshot,
    hmoved, ?_⟩
  have hnone : snapshot.state.login = none :=
    Option.map_eq_none_iff.1 (hidentity.trans hnobody)
  rw [SessionState.continued, hnone]

end Gateway

end HandleChallenge
