import HandleChallenge.Proofs.Gateway.Login

/-!
# Ids of sessions

Every id in the registry was minted by the layer, and an id under which a client has logged in names
nothing any more, whatever requests on it were still waiting: `fixed_id_names_nothing`. `Runs` is a
run of the layer that also keeps which requests arrived and ended, so that one can say which ids
were minted on the way; every run has such a history (`Reaches.exists_runs`).
-/

namespace HandleChallenge

/-! ### Which ids there are -/

namespace Registry

theorem contains_eq_isSome (registry : Registry) (id : String) :
    registry.contains id = (registry.snapshot? id).isSome := by
  simp [contains, Table.contains, snapshot?]

/-- A conditional installation brings no id into the registry. -/
theorem contains_advance (registry : Registry) (now : Instant) (id other : String)
    (current : Snapshot) (state : SessionState) :
    (registry.advance now id current state).2.contains other = registry.contains other := by
  rw [contains_eq_isSome, contains_eq_isSome, snapshot?_advance]
  split
  · rename_i h
    obtain ⟨rfl, hheld⟩ := h
    obtain ⟨held, hread, -⟩ := holds_iff.1 hheld
    rw [hread]
    rfl
  · rfl

end Registry

namespace Authentication.Service

variable {service : Service} {entropy : Entropy} {now : Instant} {request : Request}
  {registry : Registry} {id : String}

/-- An arriving request brings at most the id of its own session. -/
theorem contains_of_receive
    (h : (service.receive entropy now request registry).2.contains id = true) :
    registry.contains id = true ∨
      registry.contains request.sessionId = false ∧ id = request.sessionId := by
  obtain ⟨snapshot, hs⟩ := Registry.contains_iff_snapshot?.1 h
  rcases snapshot?_receive hs with hkept | ⟨hopens, hid, -⟩
  · exact .inl (Registry.contains_iff_snapshot?.2 ⟨snapshot, hkept⟩)
  · refine .inr ⟨?_, hid⟩
    simpa using (Bool.and_eq_true_iff.1 hopens).2

/-- The end of a request brings no id. -/
theorem contains_settle (service : Service) (now : Instant) (visit : Visit) (verdict : Verdict)
    (registry : Registry) (id : String) :
    (service.settle now visit verdict registry).2.contains id = registry.contains id := by
  have hrecord : (recordLogin registry now visit verdict).2.contains id = registry.contains id := by
    cases hlogin : verdict.isLogin with
    | true => rw [recordLogin_of_isLogin hlogin, Registry.contains_advance]
    | false => rw [recordLogin_of_not_isLogin hlogin]
  rw [settle_snd]
  split
  · rw [Registry.contains_advance, hrecord]
  · exact hrecord

end Authentication.Service

namespace Gateway

open Authentication (Service KeyReply sourceAt)

variable {settings : GatewaySettings} {service : Service} {allowed : KeyReply → Prop}
  {entropy : Entropy} {now : Instant} {request : Http.Request} {registry : Registry}
  {session : SessionId} {answer : Authentication.Answer} {id : String}

/-- The session of a request is a new one, or the one that its cookie names. -/
theorem sessionIn_cases (settings : GatewaySettings) (entropy : Entropy) (request : Http.Request)
    (registry : Registry) :
    sessionIn settings entropy request registry = SessionId.mint entropy ∨
      ∃ id, findCookie? request.headers settings.cookieName = some id ∧
        registry.contains id = true ∧
        sessionIn settings entropy request registry = { id, isNew := false } := by
  unfold sessionIn SessionId.ofHeaders
  cases findCookie? request.headers settings.cookieName with
  | none => exact .inl (if_pos rfl)
  | some id =>
    cases hcontains : registry.contains id with
    | false => exact .inl (by simp [hcontains])
    | true => exact .inr ⟨id, rfl, hcontains, by simp [hcontains]⟩

/-- After a request that is no login under an old id, the ids are the same. -/
theorem contains_finish_of_not_rotates (h : rotates session answer = false) :
    (finish settings entropy now request session answer registry).2.contains id =
      registry.contains id := by
  rw [finish_of_not_rotates h]

/-- After a login under an old id, there is the minted id, but not the old one. -/
theorem contains_of_finish (h : rotates session answer = true)
    (hcontains : (finish settings entropy now request session answer registry).2.contains id =
      true) :
    id = (SessionId.mint entropy).id ∨ id ≠ session.id ∧ registry.contains id = true := by
  cases hread : registry.snapshot? session.id with
  | none =>
    rw [finish_of_none hread] at hcontains
    refine .inr ⟨?_, hcontains⟩
    rintro rfl
    rw [Registry.contains_eq_false_iff.2 hread] at hcontains
    cases hcontains
  | some snapshot =>
    rw [finish_of_rotates h hread] at hcontains
    obtain ⟨left, hleft⟩ := Registry.contains_iff_snapshot?.1 hcontains
    rcases Registry.snapshot?_rotate hread hleft with ⟨hnew, -⟩ | ⟨-, hother, hold⟩
    · exact .inl hnew
    · exact .inr ⟨hother, Registry.contains_iff_snapshot?.2 ⟨left, hold⟩⟩

/-! ### Runs with their minted ids -/

/-- What the layer does with a request. -/
inductive Occurrence where
  /-- It arrives on its session, and may have its answer at once. -/
  | arrived (entropy : Entropy) (session : SessionId) (answer : Option Authentication.Answer)
  /-- It has its verdict and is answered. -/
  | ended (entropy : Entropy) (session : SessionId) (answer : Authentication.Answer)

namespace Occurrence

/-- The session of the request. -/
def sessionId : Occurrence → SessionId
  | arrived _ session _ => session
  | ended _ session _ => session

/-- The answer that the service gave. -/
def answer? : Occurrence → Option Authentication.Answer
  | arrived _ _ answer => answer
  | ended _ _ answer => some answer

/-- The id that is minted: for a request without a session, or after a login under an id that the
client already had. -/
def minted? : Occurrence → Option String
  | arrived entropy session answer =>
    if session.isNew || answer.any (rotates session) then some (SessionId.mint entropy).id else none
  | ended entropy session answer =>
    if rotates session answer then some (SessionId.mint entropy).id else none

end Occurrence

/-- The ids that were minted. -/
def minted (history : List Occurrence) : List String := history.filterMap Occurrence.minted?

/-- The first half of a request, with the answer that it may have at once. -/
def arrive (settings : GatewaySettings) (service : Service) (entropy : Entropy) (now : Instant)
    (request : Http.Request) (system : System) : Option Authentication.Answer × System :=
  let session := sessionIn settings entropy request system.registry
  if isBlocked settings request then (none, system)
  else
    match service.receive entropy now (authenticationRequest request session) system.registry with
    | (.answered answer, registry) =>
      (some answer,
        { system with
          registry := (finish settings entropy now request session answer registry).2 })
    | (.pending visit rest, registry) =>
      (none,
        { registry
          threads := system.threads ++
            [{ entropy, request, session, call := { visit, replies := [], rest } }] })

theorem arrive_of_isBlocked {system : System} (service : Service) (entropy : Entropy)
    (now : Instant) (h : isBlocked settings request = true) :
    arrive settings service entropy now request system = (none, system) := by
  simp [arrive, h]

theorem arrive_of_answered {system : System} (hblocked : isBlocked settings request = false)
    (hreceive : service.receive entropy now
      (authenticationRequest request (sessionIn settings entropy request system.registry))
      system.registry = (.answered answer, registry)) :
    arrive settings service entropy now request system =
      (some answer, { system with registry }) := by
  simp [arrive, hblocked, hreceive, finish_of_not_rotates (rotates_of_receive hreceive)]

theorem arrive_of_pending {system : System} {visit : Authentication.Visit}
    {rest : Consultation Authentication.Verdict} (hblocked : isBlocked settings request = false)
    (hreceive : service.receive entropy now
      (authenticationRequest request (sessionIn settings entropy request system.registry))
      system.registry = (.pending visit rest, registry)) :
    arrive settings service entropy now request system =
      (none,
        { registry
          threads := system.threads ++
            [{ entropy, request, session := sessionIn settings entropy request system.registry
               call := { visit, replies := [], rest } }] }) := by
  simp [arrive, hblocked, hreceive]

/-- A request that arrives is refused, has its answer or waits for its verdict. -/
theorem arrive_cases (settings : GatewaySettings) (service : Service) (entropy : Entropy)
    (now : Instant) (request : Http.Request) (system : System) :
    (isBlocked settings request = true ∧
      arrive settings service entropy now request system = (none, system)) ∨
    (∃ answer registry, isBlocked settings request = false ∧
      service.receive entropy now
          (authenticationRequest request (sessionIn settings entropy request system.registry))
          system.registry = (.answered answer, registry) ∧
      arrive settings service entropy now request system =
        (some answer, { system with registry })) ∨
    (∃ visit rest registry, isBlocked settings request = false ∧
      service.receive entropy now
          (authenticationRequest request (sessionIn settings entropy request system.registry))
          system.registry = (.pending visit rest, registry) ∧
      arrive settings service entropy now request system =
        (none,
          { registry
            threads := system.threads ++
              [{ entropy, request, session := sessionIn settings entropy request system.registry
                 call := { visit, replies := [], rest } }] })) := by
  cases hblocked : isBlocked settings request with
  | true => exact .inl ⟨rfl, arrive_of_isBlocked service entropy now hblocked⟩
  | false =>
    cases hreceive : service.receive entropy now
        (authenticationRequest request (sessionIn settings entropy request system.registry))
        system.registry with
    | mk reception registry =>
      cases reception with
      | answered answer =>
        exact .inr (.inl ⟨answer, registry, rfl, rfl, arrive_of_answered hblocked hreceive⟩)
      | pending visit rest =>
        exact .inr (.inr ⟨visit, rest, registry, rfl, rfl, arrive_of_pending hblocked hreceive⟩)

/-- What a run of the layer leads to, with what it does on the way, the latest first. -/
inductive Runs (settings : GatewaySettings) (service : Service) (allowed : KeyReply → Prop) :
    List Occurrence → System → Prop where
  | start : Runs settings service allowed [] (System.initial service.policy)
  | arrived {history : List Occurrence} {system : System} (entropy : Entropy) (now : Instant)
      (request : Http.Request) (h : Runs settings service allowed history system) :
      Runs settings service allowed
        (.arrived entropy (sessionIn settings entropy request system.registry)
          (arrive settings service entropy now request system).1 :: history)
        (arrive settings service entropy now request system).2
  | replied {history : List Occurrence} {registry : Registry} {before after : List Thread}
      {thread : Thread} {question : KeyQuestion}
      {next : question.Answer → Consultation Authentication.Verdict} {answer : question.Answer}
      (hrest : thread.call.rest = .ask question next) (hallowed : allowed ⟨question, answer⟩)
      (h : Runs settings service allowed history
        { registry, threads := before ++ thread :: after }) :
      Runs settings service allowed history
        { registry
          threads := before ++
            { thread with
              call := { visit := thread.call.visit
                        replies := thread.call.replies ++ [⟨question, answer⟩]
                        rest := next answer } } :: after }
  | ended {history : List Occurrence} {registry : Registry} {before after : List Thread}
      {thread : Thread} {verdict : Authentication.Verdict} (now : Instant)
      (hrest : thread.call.rest = .done verdict)
      (h : Runs settings service allowed history
        { registry, threads := before ++ thread :: after }) :
      Runs settings service allowed
        (.ended thread.entropy thread.session
          (service.settle now thread.call.visit verdict registry).1 :: history)
        { registry := (thread.finish settings service now verdict registry).2
          threads := before ++ after }
  | purged {history : List Occurrence} {system : System} (now : Instant)
      (h : Runs settings service allowed history system) :
      Runs settings service allowed history
        { system with registry := (service.purgeSessions now system.registry).2 }

variable {history : List Occurrence} {system : System}

theorem Runs.arrived_of_eq {next : System} {given : Option Authentication.Answer}
    (h : Runs settings service allowed history system)
    (harrive : arrive settings service entropy now request system = (given, next)) :
    Runs settings service allowed
      (.arrived entropy (sessionIn settings entropy request system.registry) given :: history)
      next := by
  have harrived := h.arrived entropy now request
  rwa [harrive] at harrived

/-- Every run has a history. -/
theorem Reaches.exists_runs {events : List Authentication.Event}
    (h : Reaches settings service allowed events system) :
    ∃ history, Runs settings service allowed history system := by
  unfold Reaches at h
  generalize hstart : System.initial service.policy = start at h
  induction h with
  | refl =>
    subst hstart
    exact ⟨[], .start⟩
  | tail _ hstep ih =>
    obtain ⟨history, hruns⟩ := ih
    cases hstep with
    | blocked hblocked =>
      exact ⟨_, hruns.arrived_of_eq (arrive_of_isBlocked service (alike 0) 0 hblocked)⟩
    | answered hblocked hreceive =>
      rw [finish_of_not_rotates (rotates_of_receive hreceive)]
      exact ⟨_, hruns.arrived_of_eq (arrive_of_answered hblocked hreceive)⟩
    | admitted hblocked hreceive =>
      exact ⟨_, hruns.arrived_of_eq (arrive_of_pending hblocked hreceive)⟩
    | replied hrest hallowed => exact ⟨_, hruns.replied hrest hallowed⟩
    | resumed now hrest => exact ⟨_, hruns.ended now hrest⟩
    | purged now => exact ⟨_, hruns.purged now⟩

/-! ### Minted ids -/

theorem mem_minted_cons {occurrence : Occurrence} :
    id ∈ minted (occurrence :: history) ↔ occurrence.minted? = some id ∨ id ∈ minted history := by
  simp [minted]

/-- No id is minted twice. -/
theorem not_mem_of_nodup_minted {occurrence : Occurrence}
    (hfresh : (minted (occurrence :: history)).Nodup) (h : occurrence.minted? = some id) :
    id ∉ minted history := by
  rw [minted, List.filterMap_cons_some h] at hfresh
  exact (List.nodup_cons.1 hfresh).1

theorem nodup_minted_of_cons {occurrence : Occurrence}
    (hfresh : (minted (occurrence :: history)).Nodup) : (minted history).Nodup :=
  hfresh.sublist ((List.sublist_cons_self occurrence history).filterMap _)

/-- Whatever has an id has a minted one: the sessions, the requests that wait and those that were
handled. -/
structure System.Minted (history : List Occurrence) (system : System) : Prop where
  registry : ∀ {id}, system.registry.contains id = true → id ∈ minted history
  thread : ∀ thread ∈ system.threads, thread.session.id ∈ minted history
  occurrence : ∀ occurrence ∈ history, occurrence.sessionId.id ∈ minted history

/-- A request that arrives brings at most the id of its own session. -/
theorem contains_of_arrive
    (h : (arrive settings service entropy now request system).2.registry.contains id = true) :
    system.registry.contains id = true ∨
      system.registry.contains (sessionIn settings entropy request system.registry).id = false ∧
        id = (sessionIn settings entropy request system.registry).id := by
  rcases arrive_cases settings service entropy now request system with
    ⟨-, harrive⟩ | ⟨answer, registry, -, hreceive, harrive⟩ |
      ⟨visit, rest, registry, -, hreceive, harrive⟩
  · rw [harrive] at h
    exact .inl h
  · rw [harrive] at h
    obtain rfl : _ = registry := congrArg Prod.snd hreceive
    exact Service.contains_of_receive h
  · rw [harrive] at h
    obtain rfl : _ = registry := congrArg Prod.snd hreceive
    exact Service.contains_of_receive h

theorem mem_threads_arrive {thread : Thread}
    (h : thread ∈ (arrive settings service entropy now request system).2.threads) :
    thread ∈ system.threads ∨
      thread.session = sessionIn settings entropy request system.registry := by
  rcases arrive_cases settings service entropy now request system with
    ⟨-, harrive⟩ | ⟨answer, registry, -, -, harrive⟩ | ⟨visit, rest, registry, -, -, harrive⟩
  · rw [harrive] at h
    exact .inl h
  · rw [harrive] at h
    exact .inl h
  · rw [harrive] at h
    rcases List.mem_append.1 h with h | h
    · exact .inl h
    · rw [List.mem_singleton.1 h]
      exact .inr rfl

/-- The request that arrives has a minted id too. -/
theorem System.Minted.arrive (hminted : system.Minted history) (settings : GatewaySettings)
    (service : Service) (entropy : Entropy) (now : Instant) (request : Http.Request) :
    (Gateway.arrive settings service entropy now request system).2.Minted
      (.arrived entropy (sessionIn settings entropy request system.registry)
        (Gateway.arrive settings service entropy now request system).1 :: history) := by
  have hsession : (sessionIn settings entropy request system.registry).id ∈
      minted (.arrived entropy (sessionIn settings entropy request system.registry)
        (Gateway.arrive settings service entropy now request system).1 :: history) := by
    rcases sessionIn_cases settings entropy request system.registry with
      hnew | ⟨id, -, hid, hknown⟩
    · rw [hnew]
      exact mem_minted_cons.2 (.inl rfl)
    · rw [hknown]
      exact mem_minted_cons.2 (.inr (hminted.registry hid))
  refine ⟨fun hcontains => ?_, fun thread hmem => ?_, fun occurrence hmem => ?_⟩
  · rcases contains_of_arrive hcontains with hold | ⟨-, rfl⟩
    · exact mem_minted_cons.2 (.inr (hminted.registry hold))
    · exact hsession
  · rcases mem_threads_arrive hmem with hold | hthread
    · exact mem_minted_cons.2 (.inr (hminted.thread thread hold))
    · rw [hthread]
      exact hsession
  · rcases List.mem_cons.1 hmem with rfl | hold
    · exact hsession
    · exact mem_minted_cons.2 (.inr (hminted.occurrence occurrence hold))

/-- A login that ends moves its session to an id that is minted then. -/
theorem contains_of_thread_finish {thread : Thread} {verdict : Authentication.Verdict}
    (h : (thread.finish settings service now verdict registry).2.contains id = true) :
    (Occurrence.ended thread.entropy thread.session
        (service.settle now thread.call.visit verdict registry).1).minted? = some id ∨
      registry.contains id = true ∧
        (rotates thread.session (service.settle now thread.call.visit verdict registry).1 = true →
          id ≠ thread.session.id) := by
  unfold Thread.finish at h
  cases hrotates : rotates thread.session
      (service.settle now thread.call.visit verdict registry).1 with
  | false =>
    rw [contains_finish_of_not_rotates hrotates, Service.contains_settle] at h
    exact .inr ⟨h, by simp⟩
  | true =>
    rcases contains_of_finish hrotates h with rfl | ⟨hother, hold⟩
    · exact .inl (by simp [Occurrence.minted?, hrotates])
    · rw [Service.contains_settle] at hold
      exact .inr ⟨hold, fun _ => hother⟩

/-- Whatever a run leads to has minted ids. -/
theorem Runs.minted (h : Runs settings service allowed history system) :
    system.Minted history := by
  induction h with
  | start =>
    refine ⟨fun hcontains => ?_, by simp [System.initial], by simp⟩
    cases hcontains
  | arrived entropy now request _ ih => exact ih.arrive settings service entropy now request
  | replied hrest hallowed _ ih =>
    exact ⟨ih.registry, Authentication.forall_mem_advance ih.thread fun hthread => hthread,
      ih.occurrence⟩
  | @ended history registry before after thread verdict now hrest _ ih =>
    have hthread := ih.thread thread (List.mem_append_right _ List.mem_cons_self)
    refine ⟨fun hcontains => ?_, fun other hmem => ?_, fun occurrence hmem => ?_⟩
    · rcases contains_of_thread_finish hcontains with hnew | ⟨hold, -⟩
      · exact mem_minted_cons.2 (.inl hnew)
      · exact mem_minted_cons.2 (.inr (ih.registry hold))
    · exact mem_minted_cons.2 (.inr (Authentication.forall_mem_finish ih.thread other hmem))
    · rcases List.mem_cons.1 hmem with rfl | hold
      · exact mem_minted_cons.2 (.inr hthread)
      · exact mem_minted_cons.2 (.inr (ih.occurrence occurrence hold))
  | purged now _ ih =>
    refine ⟨fun hcontains => ih.registry ?_, ih.thread, ih.occurrence⟩
    obtain ⟨snapshot, hs⟩ := Registry.contains_iff_snapshot?.1 hcontains
    exact Registry.contains_iff_snapshot?.2 ⟨snapshot, Registry.within_purge _ _ _ hs⟩

/-- A request that has its answer as it arrives is no login. -/
theorem rotates_of_arrive
    (h : (arrive settings service entropy now request system).1 = some answer) :
    rotates session answer = false := by
  rcases arrive_cases settings service entropy now request system with
    ⟨-, harrive⟩ | ⟨given, registry, -, hreceive, harrive⟩ | ⟨visit, rest, registry, -, -, harrive⟩
  · rw [harrive] at h
    cases h
  · rw [harrive] at h
    cases h
    exact rotates_of_receive hreceive
  · rw [harrive] at h
    cases h

/-- A request that arrives brings no id that was minted before. -/
theorem contains_of_arrive_of_mem (hfresh : (Gateway.minted
      (.arrived entropy (sessionIn settings entropy request system.registry)
        (arrive settings service entropy now request system).1 :: history)).Nodup)
    (hid : id ∈ Gateway.minted history)
    (h : (arrive settings service entropy now request system).2.registry.contains id = true) :
    system.registry.contains id = true := by
  rcases contains_of_arrive h with hold | ⟨habsent, rfl⟩
  · exact hold
  · rcases sessionIn_cases settings entropy request system.registry with
      hnew | ⟨known, -, hknown, hnamed⟩
    · rw [hnew] at hid
      refine absurd hid (not_mem_of_nodup_minted hfresh ?_)
      rw [hnew]
      rfl
    · rw [hnamed, hknown] at habsent
      cases habsent

/-- An id that a login left behind stays without a session: only a minted id could come back, and
none is minted twice. -/
theorem Runs.contains_eq_false (h : Runs settings service allowed history system)
    (hfresh : (Gateway.minted history).Nodup) {occurrence : Occurrence}
    (hmem : occurrence ∈ history) (hanswer : occurrence.answer? = some answer)
    (hrotates : rotates occurrence.sessionId answer = true) :
    system.registry.contains occurrence.sessionId.id = false := by
  induction h with
  | start => cases hmem
  | arrived entropy now request hruns ih =>
    rcases List.mem_cons.1 hmem with rfl | hmem
    · rw [rotates_of_arrive hanswer] at hrotates
      cases hrotates
    · -- a request opens a session only under an id that is minted for it
      refine Bool.eq_false_iff.2 fun hcontains => ?_
      have hold := contains_of_arrive_of_mem hfresh (hruns.minted.occurrence _ hmem) hcontains
      rw [ih (nodup_minted_of_cons hfresh) hmem] at hold
      cases hold
  | replied hrest hallowed _ ih => exact ih hfresh hmem
  | @ended history registry before after thread verdict now hrest hruns ih =>
    refine Bool.eq_false_iff.2 fun hcontains => ?_
    have hthread := hruns.minted.thread thread (List.mem_append_right _ List.mem_cons_self)
    rcases contains_of_thread_finish hcontains with hnew | ⟨hold, hother⟩
    · -- the id was there when it was minted, which no id is
      have hid : occurrence.sessionId.id ∈ Gateway.minted history := by
        rcases List.mem_cons.1 hmem with rfl | hmem
        · exact hthread
        · exact hruns.minted.occurrence _ hmem
      exact not_mem_of_nodup_minted hfresh hnew hid
    · rcases List.mem_cons.1 hmem with rfl | hmem
      · cases hanswer
        exact hother hrotates rfl
      · rw [ih (nodup_minted_of_cons hfresh) hmem] at hold
        cases hold
  | purged now _ ih =>
    refine Bool.eq_false_iff.2 fun hcontains => ?_
    obtain ⟨snapshot, hs⟩ := Registry.contains_iff_snapshot?.1 hcontains
    have hold := Registry.contains_iff_snapshot?.2 ⟨snapshot, Registry.within_purge _ _ _ hs⟩
    rw [ih hfresh hmem] at hold
    cases hold

/-- Where no id is minted twice, ids cannot be fixed from outside. Every session has a minted id,
and the session of a request has a new id or one that was minted before, whatever its cookie says.
And an id under which a client has logged in, when it had it already, names no session any more: not
when the login is answered, and not after anything that comes later. -/
theorem fixed_id_names_nothing (h : Runs settings service allowed history system)
    (hfresh : (minted history).Nodup) :
    (∀ id, system.registry.contains id = true → id ∈ minted history) ∧
    (∀ entropy request,
      sessionIn settings entropy request system.registry = SessionId.mint entropy ∨
        (sessionIn settings entropy request system.registry).isNew = false ∧
          (sessionIn settings entropy request system.registry).id ∈ minted history) ∧
    (∀ occurrence ∈ history, ∀ answer, occurrence.answer? = some answer →
      answer.outcome.attempted = true → answer.outcome.succeeded = true →
      occurrence.sessionId.isNew = false →
      system.registry.contains occurrence.sessionId.id = false) := by
  refine ⟨fun id => h.minted.registry, fun entropy request => ?_, ?_⟩
  · rcases sessionIn_cases settings entropy request system.registry with
      hnew | ⟨id, -, hcontains, hnamed⟩
    · exact .inl hnew
    · rw [hnamed]
      exact .inr ⟨rfl, h.minted.registry hcontains⟩
  · intro occurrence hmem answer hanswer hattempted hsucceeded hexisting
    exact h.contains_eq_false hfresh hmem hanswer
      (by simp [rotates, hattempted, hsucceeded, hexisting])

/-! ### A login under an old id -/

/-- A source that is asked by the last request alone brings it to its verdict. -/
theorem Runs.consult (source : KeySource)
    (hallowed : ∀ question, allowed ⟨question, source.answer question⟩) {threads : List Thread}
    {thread : Thread}
    (h : Runs settings service allowed history { registry, threads := threads ++ [thread] }) :
    ∃ replies, Runs settings service allowed history
      { registry
        threads := threads ++ [thread.decided replies (thread.call.rest.run source.answer)] } := by
  obtain ⟨entropy, request, session, visit, replies, rest⟩ := thread
  induction rest generalizing replies with
  | done verdict => exact ⟨replies, h⟩
  | ask question next ih => exact ih _ _ (h.replied rfl (hallowed question))

/-- Where the open session is left as it was, the login arrives and waits for its verdict. -/
theorem arrive_login :
    arrive .default signingService (alike 1) 0 (requestWith wholeQuery)
        { registry := openedRegistry, threads := [] } =
      (none, { registry := loginRegistry, threads := [loginThread] }) := by
  have hsession : sessionIn .default (alike 1) (requestWith wholeQuery) openedRegistry =
      openedSession :=
    sessionIn_requestWith rfl 1 wholeQuery
      (Registry.contains_iff_snapshot?.2 ⟨_, snapshot?_openedRegistry⟩)
  have hreceive : signingService.receive (alike 1) 0
      (authenticationRequest (requestWith wholeQuery) openedSession) openedRegistry = _ :=
    Service.receive_of_some snapshot?_openedRegistry
  rw [Service.admission_of_isNamedBy (by decide +kernel), ← hsession] at hreceive
  rw [arrive_of_pending (isBlocked_of_no_header (header_requestWith wholeQuery)) hreceive, hsession]
  rfl

/-- A session is opened, and under its id comes a login. -/
theorem exists_runs_login :
    ∃ answer, Runs .default signingService (fun _ => True)
      [.ended (alike 1) openedSession
          (signingService.settle 0 loginThread.call.visit loginVerdict loginRegistry).1,
        .arrived (alike 1) openedSession none,
        .arrived (alike 0) (SessionId.mint (alike 0)) (some answer)]
      { registry := (loginThread.finish .default signingService 0 loginVerdict loginRegistry).2
        threads := [] } := by
  have hstart : Runs .default signingService (fun _ => True) [] (.initial .default) := .start
  have hsession : sessionIn .default (alike 0) openingRequest
      (System.initial .default).registry = SessionId.mint (alike 0) := by decide +kernel
  obtain ⟨answer, hreceive⟩ : ∃ answer, signingService.receive (alike 0) 0
      (authenticationRequest openingRequest
        (sessionIn .default (alike 0) openingRequest (.ofPolicy .default)))
      (.ofPolicy .default) = (.answered answer, openedRegistry) :=
    exists_receive_openingRequest rfl
  have hopened : Runs .default signingService (fun _ => True) _
      { registry := openedRegistry, threads := [] } :=
    hstart.arrived_of_eq (arrive_of_answered (isBlocked_of_no_header (by decide +kernel)) hreceive)
  rw [hsession] at hopened
  have hwaits : Runs .default signingService (fun _ => True) _
      { registry := loginRegistry, threads := [] ++ [loginThread] } :=
    hopened.arrived_of_eq arrive_login
  rw [sessionIn_requestWith rfl 1 wholeQuery
    (Registry.contains_iff_snapshot?.2 ⟨_, snapshot?_openedRegistry⟩)] at hwaits
  obtain ⟨replies, hdecided⟩ :
      ∃ replies, Runs .default signingService (fun _ => True) _
        { registry := loginRegistry
          threads := [] ++ loginThread.decided replies loginVerdict :: [] } :=
    hwaits.consult (sourceAt 3) fun _ => trivial
  exact ⟨answer, hdecided.ended 0 rfl⟩

/-- After the login, the id that it came under names nothing. -/
theorem openedSession_left_behind :
    (loginThread.finish .default signingService 0 loginVerdict loginRegistry).2.contains
      openedSession.id = false := by
  obtain ⟨answer, h⟩ := exists_runs_login
  have hrotates : rotates openedSession
      (signingService.settle 0 loginThread.call.visit loginVerdict loginRegistry).1 = true := by
    decide +kernel
  have hminted : minted
      [.ended (alike 1) openedSession
          (signingService.settle 0 loginThread.call.visit loginVerdict loginRegistry).1,
        .arrived (alike 1) openedSession none,
        .arrived (alike 0) (SessionId.mint (alike 0)) (some answer)] =
      [(SessionId.mint (alike 1)).id, (SessionId.mint (alike 0)).id] := by
    simp only [minted, List.filterMap_cons, Occurrence.minted?, hrotates, if_true]
    rfl
  have hfresh : [(SessionId.mint (alike 1)).id, (SessionId.mint (alike 0)).id].Nodup := by
    decide +kernel
  rw [← hminted] at hfresh
  simp only [rotates, Bool.and_eq_true] at hrotates
  exact (fixed_id_names_nothing h hfresh).2.2 _ List.mem_cons_self _ rfl hrotates.1.1 hrotates.1.2
    rfl

end Gateway

end HandleChallenge
