import HandleChallenge.Proofs.Authentication.Handling

/-!
# Sessions do not touch each other

A request has to do with the session that it is sent on and with no other. One that names another
session is answered at once and changes nothing (`mismatch_touches_only_its_session`); this rests on
every snapshot standing under the id of its session, which all operations keep. The steps of any
request leave the other sessions alone, but for those that make room for a new one, and what
comes of a request depends on its own session only (`sessions_isolated`).
-/

namespace HandleChallenge

namespace Authentication

variable {service : Service} {allowed : KeyReply → Prop} {history : List Event} {system : System}
  {entropy : Entropy} {now later : Instant} {request : Request} {registry first second : Registry}
  {id : String}

/-! ### Requests that name another session -/

/-- A snapshot that is loaded is one of the session. -/
theorem sessionId_load (sound : registry.Sound) (entropy : Entropy) (now : Instant) (id : String) :
    (registry.load entropy now id).1.state.sessionId = id := by
  rw [Registry.load_fst]
  cases hread : registry.snapshot? id with
  | none => rfl
  | some snapshot => exact sound.sessionId_eq hread

/-- A request that names a session needs one. -/
theorem Reading.needsSession_of_sessionId {reading : Reading} {named : String}
    (h : reading.params.known? .sessionId = some named) : reading.needsSession = true := by
  have hhas : reading.params.has .sessionId = true :=
    Header.Params.has_eq_true_iff.2 ⟨named, h⟩
  simp [needsSession, Header.Params.needsSession, hhas]

/-- A request that names another session loads its own and has its answer. -/
theorem receive_of_mismatch (service : Service) (sound : registry.Sound) {named : String}
    (hnamed : (Reading.ofRequest service.policy.allowBasic request).params.known? .sessionId =
      some named)
    (hother : named ≠ request.sessionId) (entropy : Entropy) (now : Instant) :
    service.receive entropy now request registry =
      (.answered (Service.mismatchAnswer
          (service.visitOf request (registry.load entropy now request.sessionId).1)),
        (registry.load entropy now request.sessionId).2) := by
  have hneeds := Reading.needsSession_of_sessionId hnamed
  have hmismatch : (service.visitOf request
        (registry.load entropy now request.sessionId).1).state.isNamedBy
      (Reading.ofRequest service.policy.allowBasic request).params = false := by
    have hid := sessionId_load sound entropy now request.sessionId
    simp [SessionState.isNamedBy, hnamed, Visit.state, Service.visitOf, hid, hother]
  simp only [Service.receive, Service.snapshotFor, hneeds, if_true]
  exact congrArg (·, _) (Service.admission_of_not_isNamedBy hmismatch)

/-- A request whose parameters name another session than its own, whatever else they say, is refused
for that alone, with the nonce of its own session. It comes to no verdict, so that no key source is
asked and the server signs nothing, whatever key it has. Its own session is used, or created where
it was not there; others are as they were, but for those that make room for it. -/
theorem mismatch_touches_only_its_session (h : Reaches service allowed history system)
    {named : String}
    (hnamed : (Reading.ofRequest service.policy.allowBasic request).params.known? .sessionId =
      some named)
    (hother : named ≠ request.sessionId) (entropy : Entropy) (now later : Instant) :
    ∃ snapshot after,
      (∀ signer handling,
        Handles { service with signer } entropy now later request system.registry handling ↔
          handling =
            { replies := []
              verdict := none
              answer :=
                { outcome := .failure [.badSession]
                  sessionId := request.sessionId
                  serverNonce := snapshot.state.serverNonce
                  requiresSession := true }
              registry := after }) ∧
      snapshot = (system.registry.snapshot? request.sessionId).getD
        (system.registry.firstSnapshot entropy request.sessionId) ∧
      after.slot? request.sessionId = some { snapshot, lastUsed := now } ∧
      (∀ id, id ≠ request.sessionId →
        after.slot? id = (system.registry.roomFor now request.sessionId).slot? id) ∧
      (∀ id held, system.registry.snapshot? id = some held →
        after.snapshot? id = some held ∨
          (after.snapshot? id = none ∧ system.registry.contains request.sessionId = false ∧
            system.registry.isFull = true)) := by
  have hloaded := system.registry.slot?_load entropy now request.sessionId
  refine ⟨(system.registry.load entropy now request.sessionId).1,
    (system.registry.load entropy now request.sessionId).2, fun signer handling => ?_,
    Registry.load_fst _ _ _ _, ?_, fun id hid => ?_, fun id held hheld => ?_⟩
  · exact handles_iff_of_answered
      (receive_of_mismatch { service with signer } h.sound.registry hnamed hother entropy now)
  · rw [hloaded, if_pos rfl]
  · rw [hloaded, if_neg hid]
  · by_cases hid : id = request.sessionId
    · subst hid
      rw [Registry.snapshot?_eq, hloaded, if_pos rfl, Option.map_some, Registry.load_fst, hheld]
      exact .inl rfl
    · rw [Registry.snapshot?_eq, hloaded, if_neg hid]
      rcases system.registry.slot?_roomFor_cases now request.sessionId id with
        hsame | ⟨hgone, habsent, hfull⟩
      · rw [hsame]
        exact .inl hheld
      · rw [hgone]
        exact .inr ⟨rfl, habsent, hfull⟩

/-- A header with a claim. -/
def claimHeader : String :=
  "Handle id=20.1000/7,type=HS_SECKEY,alg=MD5,cnonce=AAAA,signature=AAAA"

/-- A request with that header, which names another session besides. -/
def misdirected : Request where
  sessionId := "s"
  authorization := some claimHeader
  params := [("SESSIONID", "t")]

/-- A login that is remembered for the very header does not let such a request through. -/
theorem misdirected_refused :
    ∃ history system, Reaches plainService (fun _ => True) history system ∧
      system.registry.snapshot? "s" = some (loggedIn (some claimHeader)) ∧
      (plainService.visitOf misdirected (loggedIn (some claimHeader))).recalled?.isSome = true ∧
      ∀ handling, Handles plainService zeros 1 2 misdirected system.registry handling →
        handling.answer.outcome = .failure [.badSession] ∧
        handling.registry.snapshot? "s" = some (loggedIn (some claimHeader)) := by
  have hs : (plainService.authenticate (sourceAt 3) (.ofStreams fun _ _ => 0) 0
      { sessionId := "s", authorization := some claimHeader, params := [] }
      (.ofPolicy .default)).2.snapshot? "s" = some (loggedIn (some claimHeader)) := by
    decide +kernel
  obtain ⟨history, system, h, hs⟩ :=
    exists_reaches_first (fun _ => True) (fun _ => trivial) hs
  have hnamed : (Reading.ofRequest plainService.policy.allowBasic misdirected).params.known?
      .sessionId = some "t" := by decide +kernel
  obtain ⟨snapshot, after, hhandles, hsnapshot, hslot, -, -⟩ :=
    mismatch_touches_only_its_session h hnamed (by decide) zeros 1 2
  refine ⟨history, system, h, hs, by decide +kernel, fun handling hhandling => ?_⟩
  obtain rfl := (hhandles plainService.signer handling).1 hhandling
  refine ⟨rfl, ?_⟩
  have hread : system.registry.snapshot? misdirected.sessionId = _ := hs
  rw [hread] at hsnapshot
  subst hsnapshot
  exact congrArg (Option.map Slot.snapshot) hslot

/-! ### The other sessions -/

/-- An arriving request leaves the other sessions alone, but for those that make room for its new
one. -/
theorem Service.slot?_receive (service : Service) (entropy : Entropy) (now : Instant)
    (request : Request) (registry : Registry) (hid : id ≠ request.sessionId) :
    (service.receive entropy now request registry).2.slot? id = registry.slot? id ∨
      ((service.receive entropy now request registry).2.slot? id = none ∧
        service.opens registry request = true ∧ registry.isFull = true) := by
  cases hopens : service.opens registry request with
  | true =>
    have habsent : registry.contains request.sessionId = false := by
      simpa using (Bool.and_eq_true_iff.1 hopens).2
    have hloaded := registry.slot?_load entropy now request.sessionId id
    rw [Registry.load_of_none (Registry.contains_eq_false_iff.1 habsent), if_neg hid] at hloaded
    rw [receive_of_opens hopens, hloaded]
    exact (registry.slot?_roomFor_cases now request.sessionId id).imp_right
      fun hgone => ⟨hgone.1, rfl, hgone.2.2⟩
  | false =>
    left
    cases hread : registry.snapshot? request.sessionId with
    | none => rw [receive_of_stranger hread hopens]
    | some read => rw [receive_of_some hread, Registry.slot?_get, if_neg hid]

/-- The end of a request leaves the other sessions alone. -/
theorem Service.slot?_settle (service : Service) (now : Instant) (visit : Visit)
    (verdict : Verdict) (registry : Registry) (hid : id ≠ visit.request.sessionId) :
    (service.settle now visit verdict registry).2.slot? id = registry.slot? id := by
  have hrecord : (recordLogin registry now visit verdict).2.slot? id = registry.slot? id := by
    cases hlogin : verdict.isLogin with
    | true => rw [recordLogin_of_isLogin hlogin, Registry.slot?_advance_of_ne hid]
    | false => rw [recordLogin_of_not_isLogin hlogin]
  rw [settle_snd]
  split
  · rw [Registry.slot?_advance_of_ne hid, hrecord]
  · exact hrecord

/-! ### Two registries -/

/-- Two registries have the same of a session: none, or one state. -/
def SameSession (first second : Registry) (id : String) : Prop :=
  (first.snapshot? id).map Snapshot.state = (second.snapshot? id).map Snapshot.state

theorem SameSession.of_some {one two : Snapshot} (hfirst : first.snapshot? id = some one)
    (hsecond : second.snapshot? id = some two) (hstate : one.state = two.state) :
    SameSession first second id := by
  rw [SameSession, hfirst, hsecond, Option.map_some, Option.map_some, hstate]

/-- What becomes of a request in two registries that have the same of its session. -/
inductive SameReception (service : Service) (request : Request) (first second : Registry) :
    Reception → Reception → Prop where
  /-- The same answer. -/
  | answered (answer : Answer) :
      SameReception service request first second (.answered answer) (.answered answer)
  /-- The same is to be decided, with snapshots of one state. -/
  | pending {one two : Snapshot} (rest : Consultation Verdict)
      (hfirst : first.snapshot? request.sessionId = some one)
      (hsecond : second.snapshot? request.sessionId = some two) (hstate : one.state = two.state) :
      SameReception service request first second (.pending (service.visitOf request one) rest)
        (.pending (service.visitOf request two) rest)

/-- Of a snapshot only its state counts. -/
theorem sameReception_admission {one two : Snapshot}
    (hfirst : first.snapshot? request.sessionId = some one)
    (hsecond : second.snapshot? request.sessionId = some two) (hstate : one.state = two.state)
    (entropy : Entropy) :
    SameReception service request first second
      (service.admission entropy (service.visitOf request one))
      (service.admission entropy (service.visitOf request two)) := by
  -- with the states made one, what is decided is the same by definition
  obtain ⟨oneSerial, state⟩ := one
  obtain ⟨twoSerial, other⟩ := two
  obtain rfl : state = other := hstate
  unfold Service.admission
  split
  · rw [if_pos ‹_›]
    exact .pending _ hfirst hsecond rfl
  · rw [if_neg ‹_›]
    exact .answered _

/-- A request becomes the same in two registries that have the same of its session, and they have
the same of it then. -/
theorem sameReception_receive (service : Service) (hnonce : first.nonceLength = second.nonceLength)
    (hsame : SameSession first second request.sessionId) (entropy : Entropy)
    (now otherNow : Instant) :
    SameReception service request (service.receive entropy now request first).2
        (service.receive entropy otherNow request second).2
        (service.receive entropy now request first).1
        (service.receive entropy otherNow request second).1 ∧
      SameSession (service.receive entropy now request first).2
        (service.receive entropy otherNow request second).2 request.sessionId := by
  cases hfirst : first.snapshot? request.sessionId with
  | some one =>
    rw [SameSession, hfirst, Option.map_some, eq_comm, Option.map_eq_some_iff] at hsame
    obtain ⟨two, hsecond, hstate⟩ := hsame
    have honce := (first.snapshot?_get now request.sessionId request.sessionId).trans hfirst
    have htwice := (second.snapshot?_get otherNow request.sessionId request.sessionId).trans hsecond
    rw [Service.receive_of_some hfirst, Service.receive_of_some hsecond]
    exact ⟨sameReception_admission honce htwice hstate.symm entropy, .of_some honce htwice
      hstate.symm⟩
  | none =>
    have hsecond : second.snapshot? request.sessionId = none := by
      rw [SameSession, hfirst] at hsame
      exact Option.map_eq_none_iff.1 hsame.symm
    have hopens : service.opens second request = service.opens first request := by
      simp [Service.opens, Registry.contains_eq_false_iff.2 hfirst,
        Registry.contains_eq_false_iff.2 hsecond]
    cases hopen : service.opens first request with
    | true =>
      have honce := first.snapshot?_create_self entropy now request.sessionId
      have htwice := second.snapshot?_create_self entropy otherNow request.sessionId
      have hstate : (first.firstSnapshot entropy request.sessionId).state =
          (second.firstSnapshot entropy request.sessionId).state := by
        simp [Registry.firstSnapshot, hnonce]
      rw [Service.receive_of_opens hopen, Service.receive_of_opens (hopens.trans hopen)]
      exact ⟨sameReception_admission honce htwice hstate entropy, .of_some honce htwice hstate⟩
    | false =>
      rw [Service.receive_of_stranger hfirst hopen,
        Service.receive_of_stranger hsecond (hopens.trans hopen)]
      exact ⟨.answered _, hsame⟩

/-- A verdict leads to the same answer and the same state of the session. -/
theorem same_settle (service : Service) {one two : Snapshot}
    (hfirst : first.snapshot? request.sessionId = some one)
    (hsecond : second.snapshot? request.sessionId = some two) (hstate : one.state = two.state)
    (later otherLater : Instant) (verdict : Verdict) :
    (service.settle later (service.visitOf request one) verdict first).1 =
        (service.settle otherLater (service.visitOf request two) verdict second).1 ∧
      SameSession (service.settle later (service.visitOf request one) verdict first).2
        (service.settle otherLater (service.visitOf request two) verdict second).2
        request.sessionId := by
  have honce := service.state_settle_of_held (service.visitOf request one) hfirst later verdict
  have htwice :=
    service.state_settle_of_held (service.visitOf request two) hsecond otherLater verdict
  obtain ⟨oneSerial, state⟩ := one
  obtain ⟨twoSerial, other⟩ := two
  obtain rfl : state = other := hstate
  rw [Service.settle_fst, Service.settle_fst]
  exact ⟨rfl, honce.trans htwice.symm⟩

/-- Each step of a request on one session leaves every other session with its snapshot and the time
of its last use; only a session that the request creates, in a registry that is full, makes others
go. And what comes of a request depends on no other session: in two registries that have the same of
its session, the same replies of the key source lead to the same answer, and leave the same of the
session, whatever else is there and whenever it is. -/
theorem sessions_isolated (service : Service) (entropy : Entropy) (request : Request) :
    (∀ now registry id, id ≠ request.sessionId →
      (service.receive entropy now request registry).2.slot? id = registry.slot? id ∨
        ((service.receive entropy now request registry).2.slot? id = none ∧
          service.opens registry request = true ∧ registry.isFull = true)) ∧
    (∀ now visit verdict registry id, visit.request = request → id ≠ request.sessionId →
      (service.settle now visit verdict registry).2.slot? id = registry.slot? id) ∧
    (∀ first second now later otherNow otherLater one,
      first.nonceLength = second.nonceLength → SameSession first second request.sessionId →
      Handles service entropy now later request first one →
      (∃ two, Handles service entropy otherNow otherLater request second two ∧
        two.replies = one.replies) ∧
      ∀ two, Handles service entropy otherNow otherLater request second two →
        two.replies = one.replies →
        two.answer = one.answer ∧
          SameSession one.registry two.registry request.sessionId) := by
  refine ⟨fun now registry id hid => service.slot?_receive entropy now request registry hid,
    fun now visit verdict registry id hvisit hid => ?_,
    fun first second now later otherNow otherLater one hnonce hsame hone => ?_⟩
  · subst hvisit
    exact service.slot?_settle now visit verdict registry hid
  · obtain ⟨hreception, hafter⟩ :=
      sameReception_receive service hnonce hsame entropy now otherNow
    cases hfirst : service.receive entropy now request first with
    | mk received begun =>
    cases hsecond : service.receive entropy otherNow request second with
    | mk otherReceived otherBegun =>
    rw [hfirst, hsecond] at hreception hafter
    cases hreception with
    | answered answer =>
      obtain rfl := (handles_iff_of_answered hfirst).1 hone
      refine ⟨⟨_, (handles_iff_of_answered hsecond).2 rfl, rfl⟩, fun two htwo _ => ?_⟩
      obtain rfl := (handles_iff_of_answered hsecond).1 htwo
      exact ⟨rfl, hafter⟩
    | pending rest hheld hotherHeld hstate =>
      obtain ⟨replies, verdict, hends, rfl⟩ := (handles_iff_of_pending hfirst).1 hone
      refine ⟨⟨_, (handles_iff_of_pending hsecond).2 ⟨replies, verdict, hends, rfl⟩, rfl⟩,
        fun two htwo hreplies => ?_⟩
      obtain ⟨others, otherVerdict, hothers, rfl⟩ := (handles_iff_of_pending hsecond).1 htwo
      obtain rfl : others = replies := hreplies
      obtain rfl := hends.unique hothers
      obtain ⟨hanswer, hsettled⟩ :=
        same_settle service hheld hotherHeld hstate later otherLater verdict
      exact ⟨hanswer.symm, hsettled⟩

/-- A service for one session. -/
def narrowService : Service :=
  { policy := { Policy.default with maxSessions := 1 }, signer := none }

/-- Its registry with a session. -/
def takenRegistry : Registry := ((Registry.ofPolicy narrowService.policy).create zeros 0 "t").2

/-- A login on another session makes that one go, and is the same as it would be without it, at
another time. -/
theorem login_isolated :
    (narrowService.receive zeros 1 claimRequest takenRegistry).2.slot? "t" = none ∧
    takenRegistry.isFull = true ∧
    ∃ one two, Handles narrowService zeros 1 1 claimRequest takenRegistry one ∧
      Handles narrowService zeros 5 7 claimRequest (.ofPolicy narrowService.policy) two ∧
      one.answer.outcome.succeeded = true ∧ two.answer = one.answer ∧
      SameSession one.registry two.registry "s" := by
  obtain ⟨hothers, -, hsame⟩ := sessions_isolated narrowService zeros claimRequest
  obtain ⟨one, hone, hauthenticate⟩ :=
    exists_handles_authenticate narrowService (sourceAt 3) zeros 1 claimRequest takenRegistry
  have hagree : SameSession takenRegistry (.ofPolicy narrowService.policy) "s" := by
    unfold SameSession
    decide +kernel
  obtain ⟨⟨two, htwo, hreplies⟩, hall⟩ :=
    hsame takenRegistry (.ofPolicy narrowService.policy) 1 1 5 7 one rfl hagree hone
  have hsucceeded : (narrowService.authenticate (sourceAt 3) zeros 1 claimRequest
      takenRegistry).1.outcome.succeeded = true := by decide +kernel
  rw [hauthenticate] at hsucceeded
  have hgone : (narrowService.receive zeros 1 claimRequest takenRegistry).2.slot? "t" ≠
      takenRegistry.slot? "t" := by decide +kernel
  rcases hothers 1 takenRegistry "t" (by decide) with hkept | ⟨hnone, -, hfull⟩
  · exact absurd hkept hgone
  · exact ⟨hnone, hfull, one, two, hone, htwo, hsucceeded, hall two htwo hreplies⟩

end Authentication

end HandleChallenge
