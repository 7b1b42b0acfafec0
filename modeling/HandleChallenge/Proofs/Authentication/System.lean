import HandleChallenge.Proofs.Authentication.Settlement
import HandleChallenge.Proofs.Dialogue

/-!
# Runs of the service

A service at work has its registry and the calls whose verdicts are still open. A step is the
arrival of a request, one reply of a key source to one call, the second step of a call whose
verdict is reached, or an operation on the registry; steps of different calls come in any order.

`Step.origin` says where the snapshot under an id comes from after a step, and is the one place
where all steps are told apart. From it follow `Reaches.sound`, that every call in flight can tell
whether its snapshot is still held, and `Reaches.induction`, by which a property of the states in
the registry is proved for a whole run.
-/

namespace HandleChallenge.Authentication

/-- A question to a key source with its answer. -/
abbrev KeyReply : Type := Dialogue.Reply KeyQuestion.Answer

/-- A request whose verdict is open: the replies so far and what is still to be asked. -/
structure Call where
  visit : Visit
  replies : List KeyReply
  rest : Consultation Verdict

/-- A request that got its verdict. -/
structure Settlement where
  visit : Visit
  replies : List KeyReply
  verdict : Verdict
  /-- The snapshot that was read for the request was still held. -/
  held : Bool
  answer : Answer

/-- What happens in one step. -/
inductive Event where
  /-- A request arrives, opens a session or not, and may have its answer at once. -/
  | received (request : Request) (opened : Bool) (answer : Option Answer)
  | replied (reply : KeyReply)
  | settled (settlement : Settlement)
  /-- A session gets a new id. -/
  | rotated (id newId : String)
  /-- Sessions are used or dropped. -/
  | kept

/-- A session begins under the id. -/
def Event.opens : Event → String → Bool
  | received request opened _, id => opened && request.sessionId == id
  | rotated _ newId, id => newId == id
  | _, _ => false

/-- A snapshot is installed under the id. -/
def Event.records (service : Service) : Event → String → Bool
  | settled settlement, id =>
    settlement.held && (service.successor? settlement.visit settlement.verdict).isSome &&
      settlement.visit.request.sessionId == id
  | event, id => event.opens id

theorem Event.opens_of_not_records {service : Service} {event : Event} {id : String}
    (h : event.records service id = false) : event.opens id = false := by
  cases event with
  | settled settlement => rfl
  | received request opened answer => exact h
  | replied reply => rfl
  | rotated old newId => exact h
  | kept => rfl

/-- A service at work. -/
structure System where
  registry : Registry
  calls : List Call

/-- A service that has just been started. -/
def System.initial (policy : Policy) : System := { registry := .ofPolicy policy, calls := [] }

/-- The operations that use or drop sessions. -/
inductive Upkeep (service : Service) (registry : Registry) : Registry → Prop where
  | purged (now : Instant) : Upkeep service registry (service.purgeSessions now registry).2
  | removed (id : String) : Upkeep service registry (registry.remove id).2
  | used (now : Instant) (id : String) :
      Upkeep service registry (Service.sessionNonce now id registry).2

/-- One step. A key source gives replies that are allowed, in one call at a time. -/
inductive Step (service : Service) (allowed : KeyReply → Prop) :
    System → Event → System → Prop where
  | answered {system : System} {entropy : Entropy} {now : Instant} {request : Request}
      {answer : Answer} {registry : Registry}
      (h : service.receive entropy now request system.registry = (.answered answer, registry)) :
      Step service allowed system
        (.received request (service.opens system.registry request) (some answer))
        { system with registry }
  | admitted {system : System} {entropy : Entropy} {now : Instant} {request : Request}
      {visit : Visit} {rest : Consultation Verdict} {registry : Registry}
      (h : service.receive entropy now request system.registry = (.pending visit rest, registry)) :
      Step service allowed system
        (.received request (service.opens system.registry request) none)
        { registry, calls := system.calls ++ [{ visit, replies := [], rest }] }
  | replied {registry : Registry} {before after : List Call} {visit : Visit}
      {replies : List KeyReply} {question : KeyQuestion}
      {next : question.Answer → Consultation Verdict} {answer : question.Answer}
      (h : allowed ⟨question, answer⟩) :
      Step service allowed
        { registry, calls := before ++ { visit, replies, rest := .ask question next } :: after }
        (.replied ⟨question, answer⟩)
        { registry,
          calls := before ++
            { visit, replies := replies ++ [⟨question, answer⟩], rest := next answer } :: after }
  | settled {registry : Registry} {before after : List Call} {visit : Visit}
      {replies : List KeyReply} {verdict : Verdict} (now : Instant) :
      Step service allowed
        { registry, calls := before ++ { visit, replies, rest := .done verdict } :: after }
        (.settled
          { visit, replies, verdict
            held := decide (registry.Holds visit.request.sessionId visit.snapshot)
            answer := (service.settle now visit verdict registry).1 })
        { registry := (service.settle now visit verdict registry).2, calls := before ++ after }
  | rotated {system : System} {entropy : Entropy} {now : Instant} {id newId : String}
      {nonce : Bytes} {registry : Registry}
      (h : Service.rotateSession entropy now id newId system.registry = (some nonce, registry)) :
      Step service allowed system (.rotated id newId) { system with registry }
  | kept {system : System} {registry : Registry} (h : Upkeep service system.registry registry) :
      Step service allowed system .kept { system with registry }

/-- What a run has led to, with its events, the latest first. -/
inductive Reaches (service : Service) (allowed : KeyReply → Prop) :
    List Event → System → Prop where
  | start : Reaches service allowed [] (System.initial service.policy)
  | step {history : List Event} {system next : System} {event : Event} :
      Reaches service allowed history system → Step service allowed system event next →
      Reaches service allowed (event :: history) next

variable {service : Service} {allowed : KeyReply → Prop} {system next : System} {event : Event}
  {id : String} {snapshot : Snapshot}

/-! ### Where snapshots come from -/

theorem Upkeep.within {registry after : Registry} (h : Upkeep service registry after) :
    after.Within registry := by
  cases h with
  | purged now => exact Registry.within_purge registry now _
  | removed id => exact Registry.within_remove registry id
  | used now id =>
    intro other snapshot hs
    exact (registry.snapshot?_get now id other).symm.trans hs

theorem Upkeep.nextSerial_eq {registry after : Registry} (h : Upkeep service registry after) :
    after.nextSerial = registry.nextSerial := by
  cases h with
  | purged now => rfl
  | removed id => rfl
  | used now id => exact registry.nextSerial_get now id

/-- Where the snapshot under an id comes from after a step of a system. -/
inductive Origin (service : Service) (system : System) : Event → String → Snapshot → Prop where
  /-- It was there before. -/
  | kept {event : Event} {id : String} {snapshot : Snapshot}
      (h : system.registry.snapshot? id = some snapshot)
      (hrecords : event.records service id = false) :
      Origin service system event id snapshot
  /-- A session was created. -/
  | created {request : Request} {answer : Option Answer} (entropy : Entropy) :
      Origin service system (.received request true answer) request.sessionId
        (system.registry.firstSnapshot entropy request.sessionId)
  /-- A call was settled whose snapshot was held. -/
  | installed {settlement : Settlement} {serial : Nat} {state : SessionState}
      (hcall : { visit := settlement.visit, replies := settlement.replies,
                 rest := .done settlement.verdict } ∈ system.calls)
      (hheld : settlement.held = true ∧
        system.registry.Holds settlement.visit.request.sessionId settlement.visit.snapshot)
      (hstate : service.successor? settlement.visit settlement.verdict = some state)
      (hserial : system.registry.nextSerial ≤ serial) :
      Origin service system (.settled settlement) settlement.visit.request.sessionId
        { serial, state }
  /-- A session got the id in the place of its old one. -/
  | rotated {id newId : String} {snapshot : Snapshot}
      (h : system.registry.snapshot? id = some snapshot) (entropy : Entropy) :
      Origin service system (.rotated id newId) newId
        (system.registry.rotatedSnapshot entropy snapshot newId)

theorem origin_of_receive (sound : system.registry.Sound) {entropy : Entropy} {now : Instant}
    {request : Request} {reception : Reception} {registry : Registry} (answer : Option Answer)
    (h : service.receive entropy now request system.registry = (reception, registry))
    (hs : registry.snapshot? id = some snapshot) :
    Origin service system (.received request (service.opens system.registry request) answer)
        id snapshot ∧
      snapshot.serial < registry.nextSerial := by
  have hafter : (service.receive entropy now request system.registry).2 = registry := by rw [h]
  have hserial := service.nextSerial_receive entropy now request system.registry
  rw [hafter] at hserial
  rw [hserial]
  rw [← hafter] at hs
  rcases Service.snapshot?_receive hs with hkept | ⟨hopens, rfl, rfl⟩
  · have hlt := sound.serial_lt hkept
    refine ⟨.kept hkept ?_, ?_⟩
    · by_cases hid : request.sessionId = id
      · simp [Event.records, Event.opens, Service.opens, hid,
          Registry.contains_iff_snapshot?.2 ⟨snapshot, hkept⟩]
      · simp [Event.records, Event.opens, hid]
    · split
      · exact Nat.lt_succ_of_lt hlt
      · exact hlt
  · rw [hopens, if_pos rfl]
    exact ⟨.created entropy, Nat.lt_succ_self _⟩

theorem origin_of_settle (sound : system.registry.Sound) {settlement : Settlement}
    (hcall : { visit := settlement.visit, replies := settlement.replies,
               rest := .done settlement.verdict } ∈ system.calls)
    (hheld : settlement.held =
      decide (system.registry.Holds settlement.visit.request.sessionId settlement.visit.snapshot))
    (now : Instant)
    (hs : (service.settle now settlement.visit settlement.verdict system.registry).2.snapshot? id =
      some snapshot) :
    Origin service system (.settled settlement) id snapshot ∧
      snapshot.serial <
        (service.settle now settlement.visit settlement.verdict system.registry).2.nextSerial := by
  cases hstate : service.successor? settlement.visit settlement.verdict with
  | none =>
    rw [Service.settle_of_no_successor hstate] at hs ⊢
    exact ⟨.kept hs (by simp [Event.records, hstate]), sound.serial_lt hs⟩
  | some state =>
    obtain ⟨serial, hfrom, hto, hall⟩ := Service.settle_of_successor sound hstate
    rw [hall] at hs
    split at hs
    · rename_i hcurrent
      obtain ⟨rfl, hcurrent⟩ := hcurrent
      cases hs
      exact ⟨.installed hcall ⟨hheld.trans (decide_eq_true hcurrent), hcurrent⟩ hstate hfrom, hto⟩
    · rename_i hother
      have hle := service.nextSerial_le_settle now settlement.visit settlement.verdict
        system.registry
      refine ⟨.kept hs ?_, Nat.lt_of_lt_of_le (sound.serial_lt hs) hle⟩
      by_cases hid : settlement.visit.request.sessionId = id
      · have hlost : settlement.held = false := by
          rw [hheld]
          exact decide_eq_false fun hcurrent => hother ⟨hid.symm, hcurrent⟩
        simp [Event.records, hlost]
      · simp [Event.records, hid]

theorem origin_of_rotate (sound : system.registry.Sound) {entropy : Entropy} {now : Instant}
    {old newId : String} {nonce : Bytes} {registry : Registry}
    (h : Service.rotateSession entropy now old newId system.registry = (some nonce, registry))
    (hs : registry.snapshot? id = some snapshot) :
    Origin service system (.rotated old newId) id snapshot ∧
      snapshot.serial < registry.nextSerial := by
  obtain ⟨read, hread, -, rfl⟩ := Service.rotateSession_some h
  rw [Registry.nextSerial_rotate_of_some hread]
  rcases Registry.snapshot?_rotate hread hs with ⟨rfl, rfl⟩ | ⟨hid, -, hold⟩
  · exact ⟨.rotated hread entropy, Nat.lt_succ_self _⟩
  · refine ⟨.kept hold ?_, Nat.lt_succ_of_lt (sound.serial_lt hold)⟩
    simp [Event.records, Event.opens, Ne.symm hid]

/-- A snapshot under an id was there before the step or was made by it. -/
theorem Step.origin (h : Step service allowed system event next)
    (sound : system.registry.Sound) (hs : next.registry.snapshot? id = some snapshot) :
    Origin service system event id snapshot ∧
      snapshot.serial < next.registry.nextSerial := by
  cases h with
  | answered hreceive => exact origin_of_receive sound _ hreceive hs
  | admitted hreceive => exact origin_of_receive sound _ hreceive hs
  | replied hallowed => exact ⟨.kept hs rfl, sound.serial_lt hs⟩
  | settled now =>
    exact origin_of_settle sound (List.mem_append_right _ List.mem_cons_self) rfl now hs
  | rotated hrotate => exact origin_of_rotate sound hrotate hs
  | kept hupkeep =>
    have hkept := hupkeep.within hs
    rw [hupkeep.nextSerial_eq]
    exact ⟨.kept hkept rfl, sound.serial_lt hkept⟩

/-! ### Sound systems -/

/-- Of several in flight one goes on. -/
theorem forall_mem_advance {α : Type} {P : α → Prop} {before after : List α} {item later : α}
    (h : ∀ other ∈ before ++ item :: after, P other) (hlater : P item → P later) :
    ∀ other ∈ before ++ later :: after, P other := by
  rw [List.forall_mem_append, List.forall_mem_cons] at h ⊢
  exact ⟨h.1, hlater h.2.1, h.2.2⟩

/-- Of several in flight one ends. -/
theorem forall_mem_finish {α : Type} {P : α → Prop} {before after : List α} {item : α}
    (h : ∀ other ∈ before ++ item :: after, P other) : ∀ other ∈ before ++ after, P other := by
  rw [List.forall_mem_append, List.forall_mem_cons] at h
  rw [List.forall_mem_append]
  exact ⟨h.1, h.2.2⟩

/-- To several in flight another comes. -/
theorem forall_mem_arrive {α : Type} {P : α → Prop} {items : List α} {item : α}
    (h : ∀ other ∈ items, P other) (hitem : P item) : ∀ other ∈ items ++ [item], P other := by
  rw [List.forall_mem_append, List.forall_mem_singleton]
  exact ⟨h, hitem⟩

/-- A call began with a snapshot of its session, which it can tell from every other, and has come
as far as its replies lead. -/
structure Call.Sound (service : Service) (allowed : KeyReply → Prop) (registry : Registry)
    (call : Call) : Prop where
  visit_eq : call.visit = service.visitOf call.visit.request call.visit.snapshot
  sessionId_eq : call.visit.state.sessionId = call.visit.request.sessionId
  isNamedBy : call.visit.state.isNamedBy call.visit.reading.params = true
  follows : ∃ clientNonce, (service.verdict clientNonce call.visit).Follows call.replies call.rest
  allowed : ∀ reply ∈ call.replies, allowed reply
  serial_lt : call.visit.snapshot.serial < registry.nextSerial
  unique : ∀ {snapshot}, registry.snapshot? call.visit.request.sessionId = some snapshot →
    snapshot.serial = call.visit.snapshot.serial → snapshot = call.visit.snapshot

/-- Registry and calls are sound. -/
structure System.Sound (service : Service) (allowed : KeyReply → Prop) (system : System) :
    Prop where
  registry : system.registry.Sound
  call : ∀ call ∈ system.calls, call.Sound service allowed system.registry

/-- A call whose snapshot is held under its serial number holds that very snapshot. -/
theorem Call.Sound.snapshot?_eq {registry : Registry} {call : Call}
    (sound : call.Sound service allowed registry)
    (hheld : registry.Holds call.visit.request.sessionId call.visit.snapshot) :
    registry.snapshot? call.visit.request.sessionId = some call.visit.snapshot := by
  obtain ⟨snapshot, hread, hserial⟩ := Registry.holds_iff.1 hheld
  rw [hread, sound.unique hread hserial]

/-- What a call knows of its snapshot stays true: later snapshots have later numbers. -/
theorem Call.Sound.mono {registry after : Registry} {call : Call}
    (sound : call.Sound service allowed registry)
    (hle : registry.nextSerial ≤ after.nextSerial)
    (hnew : ∀ {id snapshot}, after.snapshot? id = some snapshot →
      registry.snapshot? id = some snapshot ∨ registry.nextSerial ≤ snapshot.serial) :
    call.Sound service allowed after where
  visit_eq := sound.visit_eq
  sessionId_eq := sound.sessionId_eq
  isNamedBy := sound.isNamedBy
  follows := sound.follows
  allowed := sound.allowed
  serial_lt := Nat.lt_of_lt_of_le sound.serial_lt hle
  unique := by
    intro snapshot hread hserial
    rcases hnew hread with hold | hlater
    · exact sound.unique hold hserial
    · have hlt := sound.serial_lt
      omega

/-- A call that begins is sound. -/
theorem Call.sound_of_receive {entropy : Entropy} {now : Instant} {request : Request}
    {registry after : Registry} {visit : Visit} {rest : Consultation Verdict}
    (sound : after.Sound)
    (h : service.receive entropy now request registry = (.pending visit rest, after)) :
    Call.Sound service allowed after { visit, replies := [], rest } := by
  obtain ⟨snapshot, clientNonce, rfl, hread, hnamed, rfl⟩ := Service.receive_pending h
  exact {
    visit_eq := rfl
    sessionId_eq := sound.sessionId_eq hread
    isNamedBy := hnamed
    follows := ⟨clientNonce, .refl _⟩
    allowed := by simp
    serial_lt := sound.serial_lt hread
    unique := fun hother _ => Option.some.inj (hother.symm.trans hread) }

/-- A call that gets a reply stays sound. -/
theorem Call.Sound.reply {registry : Registry} {visit : Visit} {replies : List KeyReply}
    {question : KeyQuestion} {next : question.Answer → Consultation Verdict}
    {answer : question.Answer}
    (sound : Call.Sound service allowed registry
      { visit, replies, rest := .ask question next })
    (h : allowed ⟨question, answer⟩) :
    Call.Sound service allowed registry
      { visit, replies := replies ++ [⟨question, answer⟩], rest := next answer } := by
  obtain ⟨clientNonce, hfollows⟩ := sound.follows
  refine ⟨sound.visit_eq, sound.sessionId_eq, sound.isNamedBy,
    ⟨clientNonce, hfollows.snoc answer⟩, fun reply hreply => ?_, sound.serial_lt, sound.unique⟩
  rcases List.mem_append.1 hreply with hreply | hreply
  · exact sound.allowed reply hreply
  · rw [List.mem_singleton.1 hreply]
    exact h

/-- A snapshot was there before the step, which installed nothing under its id, or the step made
it, with a new serial number. -/
theorem Origin.kept_or_new (h : Origin service system event id snapshot) :
    (system.registry.snapshot? id = some snapshot ∧ event.records service id = false) ∨
      (system.registry.nextSerial ≤ snapshot.serial ∧ event.records service id = true) := by
  cases h with
  | kept hread hrecords => exact .inl ⟨hread, hrecords⟩
  | created entropy => exact .inr ⟨Nat.le_refl _, by simp [Event.records, Event.opens]⟩
  | installed hcall hheld hstate hserial =>
    exact .inr ⟨hserial, by simp [Event.records, hheld.1, hstate]⟩
  | rotated hread entropy => exact .inr ⟨Nat.le_refl _, by simp [Event.records, Event.opens]⟩

theorem Origin.sessionId_eq (sound : system.Sound service allowed)
    (h : Origin service system event id snapshot) : snapshot.state.sessionId = id := by
  cases h with
  | kept hread => exact sound.registry.sessionId_eq hread
  | created entropy => rfl
  | installed hcall hheld hstate hserial =>
    exact (Service.sessionId_of_successor hstate).trans (sound.call _ hcall).sessionId_eq
  | rotated hread entropy => rfl

/-- No step takes a serial number back. -/
theorem Step.nextSerial_le (h : Step service allowed system event next) :
    system.registry.nextSerial ≤ next.registry.nextSerial := by
  have hreceived : ∀ {entropy now request reception registry},
      service.receive entropy now request system.registry = (reception, registry) →
      system.registry.nextSerial ≤ registry.nextSerial := by
    intro entropy now request reception registry hreceive
    have hserial := service.nextSerial_receive entropy now request system.registry
    rw [hreceive] at hserial
    rw [hserial]
    split
    · exact Nat.le_succ _
    · exact Nat.le_refl _
  cases h with
  | answered hreceive => exact hreceived hreceive
  | admitted hreceive => exact hreceived hreceive
  | replied hallowed => exact Nat.le_refl _
  | settled now => exact Service.nextSerial_le_settle service now _ _ _
  | rotated hrotate =>
    obtain ⟨read, hread, -, rfl⟩ := Service.rotateSession_some hrotate
    exact Nat.le_of_lt (Nat.lt_of_lt_of_eq (Nat.lt_succ_self _)
      (Registry.nextSerial_rotate_of_some hread _ _ _).symm)
  | kept hupkeep => exact Nat.le_of_eq hupkeep.nextSerial_eq.symm

/-- A step keeps a system sound. -/
theorem System.Sound.step (sound : system.Sound service allowed)
    (h : Step service allowed system event next) : next.Sound service allowed := by
  have hregistry : next.registry.Sound :=
    { serial_lt := fun hs => (h.origin sound.registry hs).2
      sessionId_eq := fun hs => (h.origin sound.registry hs).1.sessionId_eq sound }
  -- whatever the step does, the calls that go on are as sound as before
  have hcall : ∀ call ∈ system.calls, call.Sound service allowed next.registry := by
    intro call hmem
    exact (sound.call call hmem).mono h.nextSerial_le
      fun hs => (h.origin sound.registry hs).1.kept_or_new.imp And.left And.left
  refine ⟨hregistry, ?_⟩
  cases h with
  | answered hreceive => exact hcall
  | admitted hreceive =>
    exact forall_mem_arrive hcall (Call.sound_of_receive hregistry hreceive)
  | replied hallowed => exact forall_mem_advance hcall fun sound => sound.reply hallowed
  | settled now => exact forall_mem_finish hcall
  | rotated hrotate => exact hcall
  | kept hupkeep => exact hcall

/-! ### Runs -/

theorem System.sound_initial (service : Service) :
    (System.initial service.policy).Sound service allowed where
  registry := by
    constructor
    · intro id snapshot hs
      cases hs
    · intro id snapshot hs
      cases hs
  call := by simp [System.initial]

variable {history : List Event}

/-- Steps in sequence, with their events, the latest first. -/
inductive Steps (service : Service) (allowed : KeyReply → Prop) :
    System → List Event → System → Prop where
  | refl (system : System) : Steps service allowed system [] system
  | tail {system next last : System} {events : List Event} {event : Event} :
      Steps service allowed system events next → Step service allowed next event last →
      Steps service allowed system (event :: events) last

theorem Steps.single (h : Step service allowed system event next) :
    Steps service allowed system [event] next :=
  .tail (.refl system) h

theorem Steps.trans {last : System} {events more : List Event}
    (h : Steps service allowed system events next) (hmore : Steps service allowed next more last) :
    Steps service allowed system (more ++ events) last := by
  induction hmore with
  | refl => exact h
  | tail _ hstep ih => exact ih.tail hstep

theorem Reaches.append {events : List Event} (h : Reaches service allowed history system)
    (hsteps : Steps service allowed system events next) :
    Reaches service allowed (events ++ history) next := by
  induction hsteps with
  | refl => exact h
  | tail _ hstep ih => exact ih.step hstep

theorem Steps.sound {events : List Event} (sound : system.Sound service allowed)
    (h : Steps service allowed system events next) : next.Sound service allowed := by
  induction h with
  | refl => exact sound
  | tail _ hstep ih => exact ih.step hstep

theorem Steps.nextSerial_le {events : List Event} (h : Steps service allowed system events next) :
    system.registry.nextSerial ≤ next.registry.nextSerial := by
  induction h with
  | refl => exact Nat.le_refl _
  | tail _ hstep ih => exact Nat.le_trans ih hstep.nextSerial_le

/-- A snapshot at the end of some steps was there from the beginning, and nothing was installed
under its id on the way, or it was made on the way. -/
theorem Steps.origin {events : List Event} (sound : system.Sound service allowed)
    (h : Steps service allowed system events next)
    (hs : next.registry.snapshot? id = some snapshot) :
    (system.registry.snapshot? id = some snapshot ∧
        ∀ event ∈ events, event.records service id = false) ∨
      (system.registry.nextSerial ≤ snapshot.serial ∧
        ∃ event ∈ events, event.records service id = true) := by
  induction h generalizing snapshot with
  | refl => exact .inl ⟨hs, by simp⟩
  | @tail next last events event hsteps hstep ih =>
    have hnext := (hsteps.sound sound).registry
    -- the last step left the snapshot, and then the steps before it decide, or made it
    rcases (hstep.origin hnext hs).1.kept_or_new with ⟨hread, hrecords⟩ | ⟨hlater, hrecords⟩
    · rcases ih hread with ⟨hbegin, hnone⟩ | ⟨hserial, other, hmem, hother⟩
      · refine .inl ⟨hbegin, fun other hmem => ?_⟩
        rcases List.mem_cons.1 hmem with rfl | hmem
        · exact hrecords
        · exact hnone other hmem
      · exact .inr ⟨hserial, other, List.mem_cons_of_mem _ hmem, hother⟩
    · exact .inr ⟨Nat.le_trans hsteps.nextSerial_le hlater, event, List.mem_cons_self, hrecords⟩

/-- What a run leads to is sound. -/
theorem Reaches.sound (h : Reaches service allowed history system) :
    system.Sound service allowed := by
  induction h with
  | start => exact System.sound_initial service
  | step _ hstep ih => exact ih.step hstep

/-- Every event of a run was a step. -/
theorem Reaches.exists_step (h : Reaches service allowed history system)
    (hmem : event ∈ history) :
    ∃ earlier before after, event :: earlier <:+ history ∧
      Reaches service allowed earlier before ∧ Step service allowed before event after := by
  induction h with
  | start => cases hmem
  | @step history system next latest hreaches hstep ih =>
    rcases List.mem_cons.1 hmem with rfl | hmem
    · exact ⟨history, system, next, List.suffix_refl _, hreaches, hstep⟩
    · obtain ⟨earlier, before, after, hsuffix, hevent⟩ := ih hmem
      exact ⟨earlier, before, after, hsuffix.trans (List.suffix_cons latest history), hevent⟩

/-- The snapshot was under the id at some time of the run. -/
def WasHeld (service : Service) (allowed : KeyReply → Prop) (history : List Event) (id : String)
    (snapshot : Snapshot) : Prop :=
  ∃ earlier system, earlier <:+ history ∧ Reaches service allowed earlier system ∧
    system.registry.snapshot? id = some snapshot

theorem WasHeld.cons (h : WasHeld service allowed history id snapshot) (event : Event) :
    WasHeld service allowed (event :: history) id snapshot := by
  obtain ⟨earlier, system, hsuffix, hheld⟩ := h
  exact ⟨earlier, system, hsuffix.trans (List.suffix_cons event history), hheld⟩

/-- The snapshot of a call was in the registry when its request arrived. -/
theorem Reaches.wasHeld (h : Reaches service allowed history system) {call : Call}
    (hmem : call ∈ system.calls) :
    WasHeld service allowed history call.visit.request.sessionId call.visit.snapshot := by
  induction h generalizing call with
  | start => cases hmem
  | @step history system next event hreaches hstep ih =>
    -- what was held at some time was held at some time, whatever happens later
    have hcalls : ∀ call ∈ system.calls, WasHeld service allowed (event :: history)
        call.visit.request.sessionId call.visit.snapshot := fun call hmem => (ih hmem).cons event
    cases hstep with
    | answered hreceive => exact hcalls call hmem
    | admitted hreceive =>
      refine forall_mem_arrive hcalls ?_ call hmem
      obtain ⟨snapshot, clientNonce, rfl, hread, -⟩ := Service.receive_pending hreceive
      exact ⟨_, _, List.suffix_refl _, hreaches.step (.admitted hreceive), hread⟩
    | replied hallowed =>
      refine forall_mem_advance hcalls ?_ call hmem
      exact fun hheld => hheld
    | settled now => exact forall_mem_finish hcalls call hmem
    | rotated hrotate => exact hcalls call hmem
    | kept hupkeep => exact hcalls call hmem

/-- Every settlement of a run was of a sound call, whose snapshot had been in the registry. -/
theorem Reaches.settlement (h : Reaches service allowed history system)
    {settlement : Settlement} (hmem : .settled settlement ∈ history) :
    ∃ registry now,
      Call.Sound service allowed registry
        { visit := settlement.visit, replies := settlement.replies,
          rest := .done settlement.verdict } ∧
      settlement.answer =
        (service.settle now settlement.visit settlement.verdict registry).1 ∧
      WasHeld service allowed history settlement.visit.request.sessionId
        settlement.visit.snapshot := by
  obtain ⟨earlier, before, after, hsuffix, hreaches, hstep⟩ := h.exists_step hmem
  cases hstep with
  | @settled registry before after visit replies verdict now =>
    have hcall : { visit, replies, rest := .done verdict } ∈
        before ++ { visit, replies, rest := .done verdict } :: after :=
      List.mem_append_right _ List.mem_cons_self
    obtain ⟨first, held, hfirst, hheld⟩ := hreaches.wasHeld hcall
    refine ⟨registry, now, hreaches.sound.call _ hcall, rfl, first, held, ?_, hheld⟩
    exact hfirst.trans ((List.suffix_cons _ _).trans hsuffix)

/-- A property of the states in the registry holds after every run if a new session has it, time
does not take it away, and what calls and rotations install has it where the state that they
found had it. -/
theorem Reaches.induction {P : List Event → String → SessionState → Prop}
    (h : Reaches service allowed history system)
    (kept : ∀ {history event id state}, event.opens id = false → P history id state →
      P (event :: history) id state)
    (created : ∀ {history event id nonce}, event.opens id = true →
      P (event :: history) id (.ofNonce id nonce))
    (installed : ∀ {history registry settlement state},
      Call.Sound service allowed registry
        { visit := settlement.visit, replies := settlement.replies,
          rest := .done settlement.verdict } →
      settlement.held = true →
      service.successor? settlement.visit settlement.verdict = some state →
      P history settlement.visit.request.sessionId settlement.visit.state →
      P (.settled settlement :: history) settlement.visit.request.sessionId state)
    (rotated : ∀ {history id newId state nonce}, P history id state →
      P (.rotated id newId :: history) newId (state.rotated newId nonce))
    (hs : system.registry.snapshot? id = some snapshot) : P history id snapshot.state := by
  induction h generalizing id snapshot with
  | start => cases hs
  | @step history system next event hreaches hstep ih =>
    have sound := hreaches.sound
    cases (hstep.origin sound.registry hs).1 with
    | kept hread hrecords => exact kept (Event.opens_of_not_records hrecords) (ih hread)
    | created entropy => exact created (by simp [Event.opens])
    | installed hcall hheld hstate hserial =>
      -- the call read the very snapshot that is held, so the property is known of its state
      have hsound := sound.call _ hcall
      exact installed hsound hheld.1 hstate (ih (hsound.snapshot?_eq hheld.2))
    | rotated hread entropy => exact rotated (ih hread)

/-! ### Requests with nothing between their steps -/

/-- A call that alone gets replies, from a source, comes to the source's verdict. -/
theorem Steps.consult (source : KeySource)
    (hallowed : ∀ question, allowed ⟨question, source.answer question⟩) (registry : Registry)
    (calls : List Call) (visit : Visit) (given : List KeyReply) (rest : Consultation Verdict) :
    ∃ events replies,
      Steps service allowed { registry, calls := calls ++ [{ visit, replies := given, rest }] }
        events
        { registry
          calls := calls ++ [{ visit, replies, rest := .done (rest.run source.answer) }] } := by
  induction rest generalizing given with
  | done verdict => exact ⟨[], given, .refl _⟩
  | ask question next ih =>
    have hreplied : Steps service allowed
        { registry, calls := calls ++ [{ visit, replies := given, rest := .ask question next }] }
        _ _ :=
      .single (.replied (hallowed question))
    obtain ⟨events, replies, hsteps⟩ :=
      ih (source.answer question) (given ++ [⟨question, source.answer question⟩])
    exact ⟨_, replies, hreplied.trans hsteps⟩

/-- To authenticate a request with nothing between its steps is a run. -/
theorem Reaches.authenticate (h : Reaches service allowed history system) (source : KeySource)
    (hallowed : ∀ question, allowed ⟨question, source.answer question⟩) (entropy : Entropy)
    (now : Instant) (request : Request) :
    ∃ later, history <:+ later ∧ Reaches service allowed later
      { system with
        registry := (service.authenticate source entropy now request system.registry).2 } := by
  cases hreceive : service.receive entropy now request system.registry with
  | mk reception registry =>
    cases reception with
    | answered answer =>
      simp only [Service.authenticate, hreceive]
      exact ⟨_, List.suffix_cons _ _, h.step (.answered hreceive)⟩
    | pending visit verdict =>
      simp only [Service.authenticate, hreceive]
      obtain ⟨events, replies, hsteps⟩ : ∃ events replies, Steps service allowed _ events _ :=
        Steps.consult source hallowed registry system.calls visit [] verdict
      have hdecided := (h.step (.admitted hreceive)).append hsteps
      have hsettled := hdecided.step (.settled now)
      rw [List.append_nil] at hsettled
      exact ⟨_, ((List.suffix_cons _ _).trans (List.suffix_append events _)).trans
        (List.suffix_cons _ _), hsettled⟩

/-! ### A first login -/

/-- A service with the usual policy and no key of its own. -/
def plainService : Service := { policy := .default, signer := none }

/-- The parameters of a request that claims an identity by a MAC. -/
def macClaim (signature : String) : List (String × String) :=
  [("id", "20.1000/7"), ("type", "HS_SECKEY"), ("alg", "MD5"), ("cnonce", "AAAA"),
    ("signature", signature)]

/-- A session that was opened with a login by such a claim, and what it remembers of the header. -/
def loggedIn (authorization : Option String) : Snapshot where
  serial := 1
  state :=
    { sessionId := "s"
      serverNonce := List.replicate 16 0
      proof := none
      login := some
        { identity := { handle := "20.1000/7", index := 3 }
          kind := .secretKey
          authorization
          outcome := .success { handle := "20.1000/7", index := 3 } .secretKey [] } }

/-- The first request of a service is a run. -/
theorem exists_reaches_first (allowed : KeyReply → Prop) {source : KeySource}
    (hallowed : ∀ question, allowed ⟨question, source.answer question⟩)
    {request : Request}
    (h : (service.authenticate source (.ofStreams fun _ _ => 0) 0 request
      (.ofPolicy service.policy)).2.snapshot? id = some snapshot) :
    ∃ history system, Reaches service allowed history system ∧
      system.registry.snapshot? id = some snapshot := by
  have hstart : Reaches service allowed [] (System.initial service.policy) := .start
  obtain ⟨history, -, hreaches⟩ :=
    hstart.authenticate source hallowed (.ofStreams fun _ _ => 0) 0 request
  exact ⟨history, _, hreaches, h⟩

end HandleChallenge.Authentication
