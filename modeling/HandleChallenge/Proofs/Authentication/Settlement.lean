import HandleChallenge.Authentication.Service
import HandleChallenge.Proofs.Session.Registry

/-!
# What the two steps of a request do

`receive` at most creates the session of its request. `settle` installs one state or none:
`successor?` is the state that a session is to have after a verdict, and `settle_of_successor`
says that it is installed exactly where the snapshot that was read is still the one held,
although up to two conditional installations lead to it. The second of them cannot succeed
without the first, because the serial number it asks for was given out by the first.
-/

namespace HandleChallenge.Authentication

open Header (Params)

/-- A success that was verified for this request, which the session is to remember. -/
def Verdict.isLogin (verdict : Verdict) : Bool := verdict.verified && verdict.outcome.succeeded

namespace Visit

/-- The state of the session with the login of a verdict, where it is one. -/
def loginState (visit : Visit) (verdict : Verdict) : SessionState :=
  if verdict.isLogin then
    visit.state.withOutcome verdict.outcome visit.request.authorization
  else visit.state

theorem loginState_of_not_isLogin (visit : Visit) {verdict : Verdict}
    (h : verdict.isLogin = false) : visit.loginState verdict = visit.state := by
  simp [loginState, h]

@[simp] theorem sessionId_loginState (visit : Visit) (verdict : Verdict) :
    (visit.loginState verdict).sessionId = visit.state.sessionId := by
  unfold loginState
  split <;> rfl

@[simp] theorem serverNonce_loginState (visit : Visit) (verdict : Verdict) :
    (visit.loginState verdict).serverNonce = visit.state.serverNonce := by
  unfold loginState
  split <;> rfl

end Visit

namespace Service

variable {service : Service} {entropy : Entropy} {now : Instant} {registry : Registry}
  {request : Request} {visit : Visit} {verdict : Verdict}

/-! ### The server's signature -/

/-- The server signs a nonce pair or has signed it; a new signature is remembered. -/
theorem prove_cases {state : SessionState} {clientNonce : Bytes}
    {sign : Bytes → Except SignerError ServerSignature} {signature : ServerSignature}
    {next : Option SessionState} (h : state.prove clientNonce sign = .ok (signature, next)) :
    (next = none ∧ state.proof = some { clientNonce, signature }) ∨
      (next = some (state.withProof clientNonce signature) ∧
        sign (state.proofMessage clientNonce) = .ok signature) := by
  unfold SessionState.prove at h
  split at h
  · rename_i proof hfilter
    obtain ⟨hproof, hnonce⟩ := Option.filter_eq_some_iff.1 hfilter
    have hsame : proof.clientNonce = clientNonce := by simpa using hnonce
    cases h
    subst hsame
    exact .inl ⟨rfl, hproof⟩
  · cases hsign : sign (state.proofMessage clientNonce) with
    | error error =>
      rw [hsign] at h
      cases h
    | ok fresh =>
      rw [hsign] at h
      cases h
      exact .inr ⟨rfl, rfl⟩

/-- What the server signs, and when. -/
theorem prove?_cases {params : Params} {state : SessionState} {signature : ServerSignature}
    {next : Option SessionState} (h : service.prove? params state = some (signature, next)) :
    params.asksServerSignature = true ∧ service.policy.serverSigning = true ∧
      ∃ signer clientNonce, service.signer = some signer ∧
        Claim.bytesOf params .cnonce = .ok clientNonce ∧
        state.prove clientNonce signer.certify = .ok (signature, next) := by
  unfold prove? at h
  split at h
  · rename_i hasked
    obtain ⟨hasks, hsigning⟩ := Bool.and_eq_true_iff.1 hasked
    simp only [Option.bind_eq_bind, Option.bind_eq_some_iff] at h
    obtain ⟨signer, hsigner, clientNonce, hnonce, hprove⟩ := h
    refine ⟨hasks, hsigning, signer, clientNonce, hsigner, ?_, ?_⟩
    · cases hbytes : Claim.bytesOf params .cnonce with
      | error refusal => simp [hbytes, Except.toOption] at hnonce
      | ok bytes => simpa [hbytes, Except.toOption] using hnonce
    · cases hproved : state.prove clientNonce signer.certify with
      | error error => simp [hproved, Except.toOption] at hprove
      | ok proved => simpa [hproved, Except.toOption] using hprove
  · cases h

/-- A signature that the session is to remember changes nothing else of its state. -/
theorem prove?_some_some {params : Params} {state next : SessionState}
    {signature : ServerSignature}
    (h : service.prove? params state = some (signature, some next)) :
    ∃ clientNonce, next = state.withProof clientNonce signature := by
  obtain ⟨-, -, signer, clientNonce, -, -, hprove⟩ := prove?_cases h
  rcases prove_cases hprove with ⟨hnone, -⟩ | ⟨hnext, -⟩
  · cases hnone
  · exact ⟨clientNonce, Option.some.inj hnext⟩

/-! ### The second step -/

/-- The state that the session is to have after a verdict, where it is not the one it has. -/
def successor? (service : Service) (visit : Visit) (verdict : Verdict) : Option SessionState :=
  match service.prove? visit.reading.params (visit.loginState verdict) with
  | some (_, some state) => some state
  | _ => if verdict.isLogin then some (visit.loginState verdict) else none

/-- The session is to remember the login, a signature of the server, or both. -/
theorem successor?_cases {state : SessionState}
    (h : service.successor? visit verdict = some state) :
    (verdict.isLogin = true ∧ state = visit.loginState verdict) ∨
      ∃ clientNonce signature, state = (visit.loginState verdict).withProof clientNonce signature := by
  unfold successor? at h
  split at h
  · rename_i signature next hprove
    cases h
    obtain ⟨clientNonce, hnext⟩ := prove?_some_some hprove
    exact .inr ⟨clientNonce, signature, hnext⟩
  · split at h
    · cases h
      exact .inl ⟨‹_›, rfl⟩
    · cases h

/-- The session keeps its id. -/
theorem sessionId_of_successor {state : SessionState}
    (h : service.successor? visit verdict = some state) :
    state.sessionId = visit.state.sessionId := by
  rcases successor?_cases h with ⟨-, rfl⟩ | ⟨clientNonce, signature, rfl⟩
  · exact visit.sessionId_loginState verdict
  · exact visit.sessionId_loginState verdict

/-- The session keeps its nonce. -/
theorem serverNonce_of_successor {state : SessionState}
    (h : service.successor? visit verdict = some state) :
    state.serverNonce = visit.state.serverNonce := by
  rcases successor?_cases h with ⟨-, rfl⟩ | ⟨clientNonce, signature, rfl⟩
  · exact visit.serverNonce_loginState verdict
  · exact visit.serverNonce_loginState verdict

/-- The session has the login of the verdict, or keeps its own. -/
theorem login_of_successor {state : SessionState}
    (h : service.successor? visit verdict = some state) :
    state.login = (visit.loginState verdict).login := by
  rcases successor?_cases h with ⟨-, rfl⟩ | ⟨clientNonce, signature, rfl⟩
  · rfl
  · rfl

theorem recordLogin_of_isLogin (h : verdict.isLogin = true) :
    recordLogin registry now visit verdict =
      registry.advance now visit.request.sessionId visit.snapshot (visit.loginState verdict) := by
  have hcond : (verdict.verified && verdict.outcome.succeeded) = true := h
  simp only [recordLogin, Visit.loginState, h, hcond, if_true]

theorem recordLogin_of_not_isLogin (h : verdict.isLogin = false) :
    recordLogin registry now visit verdict = (visit.snapshot, registry) := by
  have hcond : (verdict.verified && verdict.outcome.succeeded) = false := h
  simp [recordLogin, hcond]

/-- The snapshot to go on with has the login of the verdict. -/
theorem state_recordLogin :
    (recordLogin registry now visit verdict).1.state = visit.loginState verdict := by
  cases h : verdict.isLogin with
  | true => rw [recordLogin_of_isLogin h, Registry.advance_fst]
  | false => rw [recordLogin_of_not_isLogin h, visit.loginState_of_not_isLogin h]; rfl

/-- The answer tells the verdict, the nonce that was read and the server's signature, and the registry
has the login recorded and the signature remembered. -/
theorem settle_eq :
    service.settle now visit verdict registry =
      (visit.answer
        (verdict.outcome.withSignature
          ((service.prove? visit.reading.params (visit.loginState verdict)).map Prod.fst))
        visit.state.serverNonce,
      match service.prove? visit.reading.params (visit.loginState verdict) with
      | some (_, some state) =>
        ((recordLogin registry now visit verdict).2.advance now visit.request.sessionId
          (recordLogin registry now visit verdict).1 state).2
      | _ => (recordLogin registry now visit verdict).2) := by
  have hstate : (recordLogin registry now visit verdict).1.state = _ := state_recordLogin
  unfold settle
  generalize recordLogin registry now visit verdict = recorded at hstate
  obtain ⟨snapshot, recorded⟩ := recorded
  simp only at hstate
  simp only [hstate, Visit.serverNonce_loginState]
  rcases service.prove? visit.reading.params (visit.loginState verdict) with
    _ | ⟨signature, _ | next⟩
  · rfl
  · rfl
  · rfl

theorem settle_fst :
    (service.settle now visit verdict registry).1 =
      visit.answer
        (verdict.outcome.withSignature
          ((service.prove? visit.reading.params (visit.loginState verdict)).map Prod.fst))
        visit.state.serverNonce := by
  rw [settle_eq]

theorem settle_snd :
    (service.settle now visit verdict registry).2 =
      match service.prove? visit.reading.params (visit.loginState verdict) with
      | some (_, some state) =>
        ((recordLogin registry now visit verdict).2.advance now visit.request.sessionId
          (recordLogin registry now visit verdict).1 state).2
      | _ => (recordLogin registry now visit verdict).2 := by
  rw [settle_eq]

theorem not_isLogin_of_no_successor (h : service.successor? visit verdict = none) :
    verdict.isLogin = false := by
  unfold successor? at h
  split at h
  · cases h
  · split at h
    · cases h
    · exact Bool.eq_false_iff.2 ‹_›

/-- Nothing is installed where there is nothing to remember. -/
theorem settle_of_no_successor (h : service.successor? visit verdict = none) :
    (service.settle now visit verdict registry).2 = registry := by
  have hlogin := not_isLogin_of_no_successor h
  unfold successor? at h
  rw [settle_snd]
  split at h
  · cases h
  · rw [recordLogin_of_not_isLogin hlogin]

/-- What is installed is the successor, if the snapshot that was read is still held. -/
theorem settle_of_successor (sound : registry.Sound) {state : SessionState}
    (h : service.successor? visit verdict = some state) :
    ∃ serial, registry.nextSerial ≤ serial ∧
      serial < (service.settle now visit verdict registry).2.nextSerial ∧
      ∀ other, (service.settle now visit verdict registry).2.snapshot? other =
        if other = visit.request.sessionId ∧
            registry.Holds visit.request.sessionId visit.snapshot then
          some { serial, state }
        else registry.snapshot? other := by
  unfold successor? at h
  rw [settle_snd]
  split at h
  · rename_i signature next hprove
    cases h
    cases hlogin : verdict.isLogin with
    | false =>
      rw [recordLogin_of_not_isLogin hlogin]
      refine ⟨registry.nextSerial, Nat.le_refl _, ?_, fun other => ?_⟩
      · simp
      · exact registry.snapshot?_advance now _ other _ _
    | true =>
      -- the second installation starts from the snapshot that the first one made
      rw [recordLogin_of_isLogin hlogin]
      have hheld := Registry.holds_advance sound now visit.request.sessionId visit.snapshot
        (visit.loginState verdict)
      refine ⟨registry.nextSerial + 1, Nat.le_succ _, ?_, fun other => ?_⟩
      · simp
      · simp only [Registry.snapshot?_advance, hheld, Registry.nextSerial_advance]
        split
        · rfl
        · rfl
  · split at h
    · rename_i hprove hlogin
      cases h
      rw [recordLogin_of_isLogin hlogin]
      refine ⟨registry.nextSerial, Nat.le_refl _, ?_, fun other => ?_⟩
      · simp
      · exact registry.snapshot?_advance now _ other _ _
    · cases h

/-- Nothing is installed where the snapshot that was read is no longer held. -/
theorem snapshot?_settle_of_not_holds (sound : registry.Sound)
    (h : ¬ registry.Holds visit.request.sessionId visit.snapshot) (now : Instant)
    (verdict : Verdict) (id : String) :
    (service.settle now visit verdict registry).2.snapshot? id = registry.snapshot? id := by
  cases hstate : service.successor? visit verdict with
  | none => rw [settle_of_no_successor hstate]
  | some state =>
    obtain ⟨serial, -, -, hall⟩ := settle_of_successor sound hstate
    rw [hall, if_neg fun hboth => h hboth.2]

/-- Where the snapshot that was read is still held, the session keeps its id and has the login of
the verdict. -/
theorem snapshot?_settle_of_holds (sound : registry.Sound)
    (h : registry.snapshot? visit.request.sessionId = some visit.snapshot) (now : Instant)
    (verdict : Verdict) :
    ∃ snapshot,
      (service.settle now visit verdict registry).2.snapshot? visit.request.sessionId =
        some snapshot ∧
      snapshot.state.login = (visit.loginState verdict).login ∧
      snapshot.state.sessionId = visit.state.sessionId := by
  cases hstate : service.successor? visit verdict with
  | none =>
    rw [settle_of_no_successor hstate,
      visit.loginState_of_not_isLogin (not_isLogin_of_no_successor hstate)]
    exact ⟨visit.snapshot, h, rfl, rfl⟩
  | some state =>
    obtain ⟨serial, -, -, hall⟩ := settle_of_successor sound hstate
    have hholds : registry.Holds visit.request.sessionId visit.snapshot :=
      Registry.holds_iff.2 ⟨visit.snapshot, h, rfl⟩
    refine ⟨{ serial, state }, ?_, login_of_successor hstate, sessionId_of_successor hstate⟩
    rw [hall, if_pos ⟨rfl, hholds⟩]

theorem nextSerial_le_settle (service : Service) (now : Instant) (visit : Visit)
    (verdict : Verdict) (registry : Registry) :
    registry.nextSerial ≤ (service.settle now visit verdict registry).2.nextSerial := by
  have hrecord : registry.nextSerial ≤ (recordLogin registry now visit verdict).2.nextSerial := by
    cases hlogin : verdict.isLogin with
    | true => simp [recordLogin_of_isLogin hlogin]
    | false => simp [recordLogin_of_not_isLogin hlogin]
  rw [settle_snd]
  split
  · simp only [Registry.nextSerial_advance]
    omega
  · exact hrecord

/-! ### The first step -/

/-- The snapshot of a session that is there. -/
theorem snapshotFor_of_some {id : String} {snapshot : Snapshot}
    (h : registry.snapshot? id = some snapshot) (needsSession : Bool) :
    snapshotFor registry entropy now id needsSession =
      (some snapshot, (registry.get now id).2) := by
  have hget : registry.get now id = (some snapshot, (registry.get now id).2) := by
    rw [← h, ← Registry.get_fst registry now id]
  cases needsSession with
  | true => simp [snapshotFor, Registry.load_of_some h]
  | false => simpa [snapshotFor] using hget

/-- The snapshot of a session that is not there, but is needed. -/
theorem snapshotFor_of_none {id : String} (h : registry.snapshot? id = none)
    (needsSession : Bool) :
    snapshotFor registry entropy now id needsSession =
      if needsSession then
        (some (registry.firstSnapshot entropy id), (registry.create entropy now id).2)
      else (none, registry) := by
  cases needsSession with
  | true =>
    simp [snapshotFor, Registry.load_of_none h, ← Registry.create_fst registry entropy now id]
  | false => simp [snapshotFor, Registry.get, h]

/-- The visit of a request with a snapshot of its session. -/
def visitOf (service : Service) (request : Request) (snapshot : Snapshot) : Visit where
  request := request
  reading := Reading.ofRequest service.policy.allowBasic request
  snapshot := snapshot

/-- A request needs a session that is not there yet. -/
def opens (service : Service) (registry : Registry) (request : Request) : Bool :=
  (Reading.ofRequest service.policy.allowBasic request).needsSession &&
    !registry.contains request.sessionId

/-- A request on a session that is there. -/
theorem receive_of_some {snapshot : Snapshot}
    (h : registry.snapshot? request.sessionId = some snapshot) :
    service.receive entropy now request registry =
      (service.admission entropy (service.visitOf request snapshot),
        (registry.get now request.sessionId).2) := by
  simp only [receive, snapshotFor_of_some h, visitOf]

/-- A request without a session that it needs. -/
theorem receive_of_opens (h : service.opens registry request = true) :
    service.receive entropy now request registry =
      (service.admission entropy
          (service.visitOf request (registry.firstSnapshot entropy request.sessionId)),
        (registry.create entropy now request.sessionId).2) := by
  obtain ⟨hneeds, habsent⟩ := Bool.and_eq_true_iff.1 h
  have hnone := Registry.contains_eq_false_iff.1 (by simpa using habsent)
  simp only [receive, snapshotFor_of_none hnone, hneeds, if_true, visitOf]

theorem not_needsSession_of_not_opens (h : registry.snapshot? request.sessionId = none)
    (hopens : service.opens registry request = false) :
    (Reading.ofRequest service.policy.allowBasic request).needsSession = false := by
  simpa [opens, Registry.contains_eq_false_iff.2 h] using hopens

/-- A request without a session, which needs none. -/
theorem receive_of_stranger (h : registry.snapshot? request.sessionId = none)
    (hopens : service.opens registry request = false) :
    service.receive entropy now request registry =
      (.answered (strangerAnswer request
        (Reading.ofRequest service.policy.allowBasic request)), registry) := by
  have hneeds := not_needsSession_of_not_opens h hopens
  simp only [receive, snapshotFor_of_none h, hneeds, Bool.false_eq_true, if_false]

/-- A verdict is to be reached about a request with its snapshot, as it names its session. -/
theorem admission_of_isNamedBy (h : visit.state.isNamedBy visit.reading.params = true) :
    service.admission entropy visit =
      .pending visit
        (service.verdict (entropy.draw .clientNonce Credential.clientNonceLength) visit) :=
  if_pos h

/-- A request that names another session is answered at once. -/
theorem admission_of_not_isNamedBy (h : visit.state.isNamedBy visit.reading.params = false) :
    service.admission entropy visit = .answered (mismatchAnswer visit) := by
  simp [admission, h]

/-- An arriving request that creates no session changes no snapshot. -/
theorem snapshot?_receive_of_not_opens (h : service.opens registry request = false)
    (entropy : Entropy) (now : Instant) (id : String) :
    (service.receive entropy now request registry).2.snapshot? id = registry.snapshot? id := by
  cases hread : registry.snapshot? request.sessionId with
  | none => rw [receive_of_stranger hread h]
  | some read =>
    rw [receive_of_some hread]
    exact registry.snapshot?_get now request.sessionId id

/-- An arriving request leaves the snapshots that are there, except for those that make room for
its new session. -/
theorem snapshot?_receive {id : String} {snapshot : Snapshot}
    (h : (service.receive entropy now request registry).2.snapshot? id = some snapshot) :
    registry.snapshot? id = some snapshot ∨
      (service.opens registry request = true ∧ id = request.sessionId ∧
        snapshot = registry.firstSnapshot entropy id) := by
  cases hopens : service.opens registry request with
  | true =>
    rw [receive_of_opens hopens] at h
    rcases Registry.snapshot?_create h with ⟨rfl, rfl⟩ | ⟨-, hkept⟩
    · exact .inr ⟨rfl, rfl, rfl⟩
    · exact .inl hkept
  | false =>
    rw [snapshot?_receive_of_not_opens hopens] at h
    exact .inl h

/-- Only a new session takes a serial number. -/
theorem nextSerial_receive (service : Service) (entropy : Entropy) (now : Instant)
    (request : Request) (registry : Registry) :
    (service.receive entropy now request registry).2.nextSerial =
      if service.opens registry request then registry.nextSerial + 1 else registry.nextSerial := by
  cases hopens : service.opens registry request with
  | true => rw [receive_of_opens hopens]; simp [Registry.nextSerial_create]
  | false =>
    cases hread : registry.snapshot? request.sessionId with
    | none => rw [receive_of_stranger hread hopens]; simp
    | some read => rw [receive_of_some hread]; simp

/-- A request is a stranger's or is admitted with the snapshot that is then in the registry. -/
theorem receive_cases (service : Service) (entropy : Entropy) (now : Instant) (request : Request)
    (registry : Registry) :
    (Reading.ofRequest service.policy.allowBasic request).needsSession = false ∧
        (service.receive entropy now request registry).1 =
          .answered (strangerAnswer request
            (Reading.ofRequest service.policy.allowBasic request)) ∨
      ∃ snapshot,
        (service.receive entropy now request registry).1 =
          service.admission entropy (service.visitOf request snapshot) ∧
        (service.receive entropy now request registry).2.snapshot? request.sessionId =
          some snapshot := by
  cases hopens : service.opens registry request with
  | true =>
    rw [receive_of_opens hopens]
    exact .inr ⟨_, rfl, registry.snapshot?_create_self entropy now _⟩
  | false =>
    cases hread : registry.snapshot? request.sessionId with
    | none =>
      rw [receive_of_stranger hread hopens]
      exact .inl ⟨not_needsSession_of_not_opens hread hopens, rfl⟩
    | some read =>
      rw [receive_of_some hread]
      exact .inr ⟨read, rfl, (registry.snapshot?_get now _ _).trans hread⟩

/-- A visit begins with the snapshot that is then in the registry, of a session that the request
names. -/
theorem receive_pending {consultation : Consultation Verdict} {after : Registry}
    (h : service.receive entropy now request registry = (.pending visit consultation, after)) :
    ∃ snapshot clientNonce, visit = service.visitOf request snapshot ∧
      after.snapshot? request.sessionId = some snapshot ∧
      visit.state.isNamedBy visit.reading.params = true ∧
      consultation = service.verdict clientNonce visit := by
  rcases receive_cases service entropy now request registry with
    ⟨-, hstranger⟩ | ⟨snapshot, hadmitted, hread⟩
  · rw [h] at hstranger
    cases hstranger
  · rw [h] at hadmitted hread
    unfold admission at hadmitted
    split at hadmitted
    · cases hadmitted
      exact ⟨snapshot, _, rfl, hread, ‹_›, rfl⟩
    · cases hadmitted

/-- A request that is answered as it arrives has no session or names another one. -/
theorem receive_answered {answer : Answer} {after : Registry}
    (h : service.receive entropy now request registry = (.answered answer, after)) :
    answer = strangerAnswer request (Reading.ofRequest service.policy.allowBasic request) ∨
      ∃ snapshot, answer = mismatchAnswer (service.visitOf request snapshot) := by
  rcases receive_cases service entropy now request registry with
    ⟨-, hstranger⟩ | ⟨snapshot, hadmitted, -⟩
  · rw [h] at hstranger
    cases hstranger
    exact .inl rfl
  · rw [h] at hadmitted
    unfold admission at hadmitted
    split at hadmitted
    · cases hadmitted
    · cases hadmitted
      exact .inr ⟨snapshot, rfl⟩

/-! ### A new id -/

theorem rotateSession_of_none {id : String} (h : registry.snapshot? id = none) (newId : String) :
    rotateSession entropy now id newId registry = (none, registry) := by
  simp [rotateSession, Registry.rotate_of_none h]

theorem rotateSession_of_some {id : String} {snapshot : Snapshot}
    (h : registry.snapshot? id = some snapshot) (newId : String) :
    rotateSession entropy now id newId registry =
      (some (registry.rotatedSnapshot entropy snapshot newId).state.serverNonce,
        (registry.rotate entropy now id newId).2) := by
  simp only [rotateSession, Registry.rotate_fst_of_some h, Option.map_some]

/-- Only a session that is there gets a new id. -/
theorem rotateSession_some {id newId : String} {nonce : Bytes} {after : Registry}
    (h : rotateSession entropy now id newId registry = (some nonce, after)) :
    ∃ snapshot, registry.snapshot? id = some snapshot ∧
      nonce = (registry.rotatedSnapshot entropy snapshot newId).state.serverNonce ∧
      after = (registry.rotate entropy now id newId).2 := by
  cases hread : registry.snapshot? id with
  | none =>
    rw [rotateSession_of_none hread] at h
    cases h
  | some snapshot =>
    rw [rotateSession_of_some hread] at h
    cases h
    exact ⟨snapshot, rfl, rfl, rfl⟩

end Service

end HandleChallenge.Authentication
