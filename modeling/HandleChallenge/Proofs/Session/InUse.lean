import HandleChallenge.Proofs.Session.Slots

/-!
# A registry in use

Callers load, use, move, drop and replace sessions in any order, with the snapshots that they know:
those that the registry gave them and those that they made themselves. `Step.origin` says where a
snapshot in the registry comes from after an operation. From it follow `Sound.step`, that the
registry stays within its capacity and its sessions keep to their ids and nonces, and
`Runs.serverNonce_eq`, that a session has one nonce for as long as it is kept.

A conditional installation compares serial numbers, as a caller can not make two snapshots with one
number. That is part of the invariant: a known snapshot with the number of a held one is that one.
-/

namespace HandleChallenge

/-- A state that is made from another by a signature of the server or by an outcome. -/
inductive SessionState.Successor (state : SessionState) : SessionState → Prop where
  | proved (clientNonce : Bytes) (signature : ServerSignature) :
      Successor state (state.withProof clientNonce signature)
  | recorded (outcome : Outcome) (authorization : Option String) :
      Successor state (state.withOutcome outcome authorization)

theorem SessionState.Successor.sessionId_eq {state next : SessionState}
    (h : state.Successor next) : next.sessionId = state.sessionId := by
  cases h with
  | proved clientNonce signature => rfl
  | recorded outcome authorization => rfl

theorem SessionState.Successor.serverNonce_eq {state next : SessionState}
    (h : state.Successor next) : next.serverNonce = state.serverNonce := by
  cases h with
  | proved clientNonce signature => rfl
  | recorded outcome authorization => rfl

namespace Registry

/-- A registry with the snapshots that its callers know. -/
structure InUse where
  registry : Registry
  known : List Snapshot

/-- What is done to a registry. -/
inductive Operation where
  | load (id : String)
  | get (id : String)
  | rotate (id newId : String)
  | remove (id : String)
  | purge
  /-- A caller makes a snapshot. -/
  | make
  /-- A snapshot is to take the place of another. -/
  | replace (id : String)

namespace InUse

/-- A registry without sessions. -/
def initial (nonceLength maxSessions : Nat) (maxIdle : Duration) : InUse :=
  { registry := .new nonceLength maxSessions maxIdle, known := [] }

/-- A session has been loaded. -/
def load (use : InUse) (entropy : Entropy) (now : Instant) (id : String) : InUse where
  registry := (use.registry.load entropy now id).2
  known := (use.registry.load entropy now id).1 :: use.known

/-- One operation. Callers may make any snapshot, but a snapshot that is to take the place of
another has a state that was made from the other's. -/
inductive Step (use : InUse) : Operation → InUse → Prop where
  | loaded (entropy : Entropy) (now : Instant) (id : String) :
      Step use (.load id) (use.load entropy now id)
  | got (now : Instant) (id : String) :
      Step use (.get id)
        { registry := (use.registry.get now id).2
          known := (use.registry.get now id).1.toList ++ use.known }
  | rotated (entropy : Entropy) (now : Instant) (id newId : String) :
      Step use (.rotate id newId)
        { registry := (use.registry.rotate entropy now id newId).2
          known := (use.registry.rotate entropy now id newId).1.toList ++ use.known }
  | removed (id : String) :
      Step use (.remove id)
        { registry := (use.registry.remove id).2
          known := (use.registry.remove id).1.toList ++ use.known }
  | purged (now : Instant) (maxIdle : Duration) :
      Step use .purge { use with registry := use.registry.purge now maxIdle }
  | made (state : SessionState) :
      Step use .make
        { registry := (use.registry.issue state).2
          known := (use.registry.issue state).1 :: use.known }
  | replaced {current next : Snapshot} (now : Instant) (id : String)
      (hcurrent : current ∈ use.known) (hnext : next ∈ use.known)
      (hstate : current.state.Successor next.state) :
      Step use (.replace id)
        { use with registry := (use.registry.replaceIfCurrent now id current next).2 }

/-- Operations in sequence, each of a kind. -/
inductive Runs (kind : InUse → Operation → InUse → Prop) (start : InUse) : InUse → Prop where
  | refl : Runs kind start start
  | step {use next : InUse} {operation : Operation} (h : Runs kind start use)
      (hstep : use.Step operation next) (hkind : kind use operation next) : Runs kind start next

/-- What any operations lead to, from a registry without sessions. -/
def Reached (nonceLength maxSessions : Nat) (maxIdle : Duration) (use : InUse) : Prop :=
  Runs (fun _ _ _ => True) (initial nonceLength maxSessions maxIdle) use

/-- The session with the id stays in the registry, and no other takes its id. -/
structure Keeps (id : String) (use : InUse) (operation : Operation) (next : InUse) : Prop where
  contains : next.registry.contains id = true
  not_rotated : ∀ old, operation = .rotate old id → use.registry.contains old = false

variable {use next : InUse} {operation : Operation} {id : String} {snapshot : Snapshot}

/-! ### Where snapshots come from -/

/-- Where the snapshot under an id comes from after an operation. -/
inductive Origin (use : InUse) : Operation → String → Snapshot → Prop where
  /-- It was there before. -/
  | kept {operation : Operation} {id : String} {snapshot : Snapshot}
      (h : use.registry.snapshot? id = some snapshot) : Origin use operation id snapshot
  /-- A session was created. -/
  | created {id : String} (h : use.registry.snapshot? id = none) (entropy : Entropy) :
      Origin use (.load id) id (use.registry.firstSnapshot entropy id)
  /-- A session got the id in the place of its old one. -/
  | rotated {id newId : String} {snapshot : Snapshot}
      (h : use.registry.snapshot? id = some snapshot) (entropy : Entropy) :
      Origin use (.rotate id newId) newId (use.registry.rotatedSnapshot entropy snapshot newId)
  /-- It took the place of the one that it was made from. -/
  | replaced {id : String} {current next : Snapshot}
      (h : use.registry.snapshot? id = some current) (hstate : current.state.Successor next.state) :
      Origin use (.replace id) id next

/-- The snapshots that are known have numbers that were given out, and no two have one number. -/
structure Numbered (known : List Snapshot) (nextSerial : Nat) : Prop where
  serial_lt : ∀ snapshot ∈ known, snapshot.serial < nextSerial
  unique : ∀ first ∈ known, ∀ second ∈ known, first.serial = second.serial → first = second

/-- The registry is within its capacity, its sessions keep to their ids and to the length of their
nonces, and its callers can tell the snapshots apart that they know, among them all that are in
it. -/
structure Sound (use : InUse) : Prop where
  capacity_pos : 0 < use.registry.capacity
  size_le : use.registry.size ≤ use.registry.capacity
  sessionId_eq : ∀ {id snapshot}, use.registry.snapshot? id = some snapshot →
    snapshot.state.sessionId = id
  length_serverNonce : ∀ {id snapshot}, use.registry.snapshot? id = some snapshot →
    snapshot.state.serverNonce.length = use.registry.nonceLength
  known : ∀ {id snapshot}, use.registry.snapshot? id = some snapshot → snapshot ∈ use.known
  numbered : Numbered use.known use.registry.nextSerial

theorem Numbered.append {known : List Snapshot} {nextSerial : Nat}
    (h : Numbered known nextSerial) (more : List Snapshot)
    (hmore : ∀ snapshot ∈ more, snapshot ∈ known) :
    Numbered (more ++ known) nextSerial := by
  have hall : ∀ snapshot ∈ more ++ known, snapshot ∈ known := by
    rw [List.forall_mem_append]
    exact ⟨hmore, fun _ hmem => hmem⟩
  exact {
    serial_lt := fun snapshot hmem => h.serial_lt snapshot (hall snapshot hmem)
    unique := fun first hfirst second hsecond =>
      h.unique first (hall first hfirst) second (hall second hsecond) }

/-- A new snapshot has the next number. -/
theorem Numbered.cons {known : List Snapshot} {nextSerial : Nat} (h : Numbered known nextSerial)
    (hserial : snapshot.serial = nextSerial) : Numbered (snapshot :: known) (nextSerial + 1) where
  serial_lt := by
    rw [List.forall_mem_cons]
    exact ⟨by omega, fun other hmem => Nat.lt_succ_of_lt (h.serial_lt other hmem)⟩
  unique := by
    intro first hfirst second hsecond hsame
    rcases List.mem_cons.1 hfirst with rfl | hold <;>
      rcases List.mem_cons.1 hsecond with rfl | hother
    · rfl
    · have hlt := h.serial_lt second hother
      omega
    · have hlt := h.serial_lt first hold
      omega
    · exact h.unique first hold second hother hsame

/-- A known snapshot with the number of the one under an id is that one. -/
theorem Sound.snapshot?_eq (sound : use.Sound) {current : Snapshot} (hcurrent : current ∈ use.known)
    (hholds : use.registry.Holds id current) : use.registry.snapshot? id = some current := by
  obtain ⟨held, hheld, hserial⟩ := holds_iff.1 hholds
  rw [hheld, sound.numbered.unique held (sound.known hheld) current hcurrent hserial]

/-- A snapshot under an id was there before the operation, or the operation made or installed it.
Callers know it. -/
theorem Step.origin (h : use.Step operation next) (sound : use.Sound)
    (hs : next.registry.snapshot? id = some snapshot) :
    Origin use operation id snapshot ∧ snapshot ∈ next.known := by
  have hkept : ∀ more : List Snapshot, use.registry.snapshot? id = some snapshot →
      Origin use operation id snapshot ∧ snapshot ∈ more ++ use.known :=
    fun more hread => ⟨.kept hread, List.mem_append_right more (sound.known hread)⟩
  cases h with
  | loaded entropy now loadedId =>
    cases hread : use.registry.snapshot? loadedId with
    | some read =>
      simp only [load, load_of_some hread, snapshot?_get] at hs ⊢
      exact hkept [read] hs
    | none =>
      simp only [load, load_of_none hread] at hs ⊢
      rcases snapshot?_create hs with ⟨rfl, rfl⟩ | ⟨-, hread⟩
      · refine ⟨.created hread entropy, ?_⟩
        rw [create_fst]
        exact List.mem_cons_self
      · exact hkept [_] hread
  | got now gotId =>
    rw [snapshot?_get] at hs
    exact hkept _ hs
  | rotated entropy now oldId newId =>
    cases hread : use.registry.snapshot? oldId with
    | none =>
      simp only [rotate_of_none hread] at hs ⊢
      exact hkept [] hs
    | some read =>
      rcases snapshot?_rotate hread hs with ⟨rfl, rfl⟩ | ⟨-, -, hold⟩
      · refine ⟨.rotated hread entropy, ?_⟩
        simp only [rotate_fst_of_some hread, Option.toList_some]
        exact List.mem_cons_self
      · exact hkept _ hold
  | removed removedId => exact hkept _ (within_remove use.registry removedId hs)
  | purged now maxIdle => exact hkept [] (within_purge use.registry now maxIdle hs)
  | made state => exact hkept [_] hs
  | @replaced current made now replacedId hcurrent hnext hstate =>
    -- what is held under the number of the current snapshot is that snapshot, so that what comes in
    -- its place has a state made from it
    by_cases hholds : use.registry.Holds replacedId current
    · rw [replaceIfCurrent_of_holds hholds, snapshot?_install] at hs
      split at hs
      · rename_i hid
        subst hid
        cases hs
        exact ⟨.replaced (sound.snapshot?_eq hcurrent hholds) hstate, hnext⟩
      · exact hkept [] hs
    · rw [replaceIfCurrent_of_not_holds hholds] at hs
      exact hkept [] hs

/-! ### What every operation keeps -/

theorem Step.limits_eq (h : use.Step operation next) :
    next.registry.limits = use.registry.limits := by
  cases h with
  | loaded entropy now id => exact limits_load _ _ _ _
  | got now id => exact limits_get _ _ _
  | rotated entropy now id newId => exact limits_rotate _ _ _ _ _
  | removed id => exact limits_remove _ _
  | purged now maxIdle => exact limits_purge _ _ _
  | made state => exact limits_issue _ state
  | replaced now id => exact limits_replaceIfCurrent _ _ _ _ _

/-- The number of sessions stays within the capacity. -/
theorem Step.size_le (h : use.Step operation next) (sound : use.Sound) :
    next.registry.size ≤ use.registry.capacity := by
  cases h with
  | loaded entropy now id => exact size_load_le sound.capacity_pos sound.size_le entropy now id
  | got now id =>
    rw [size_get]
    exact sound.size_le
  | rotated entropy now id newId =>
    exact Nat.le_trans (size_rotate_le use.registry entropy now id newId) sound.size_le
  | removed id => exact Nat.le_trans (size_remove_le use.registry id) sound.size_le
  | purged now maxIdle => exact Nat.le_trans (size_purge_le use.registry now maxIdle) sound.size_le
  | made state => exact sound.size_le
  | replaced now id =>
    rw [size_replaceIfCurrent]
    exact sound.size_le

/-- Callers can tell the snapshots apart that they know. -/
theorem Step.numbered (h : use.Step operation next) (sound : use.Sound) :
    Numbered next.known next.registry.nextSerial := by
  have hgiven : ∀ id, ∀ snapshot ∈ (use.registry.snapshot? id).toList, snapshot ∈ use.known := by
    intro id snapshot hmem
    exact sound.known (Option.mem_toList.1 hmem)
  cases h with
  | loaded entropy now id =>
    cases hread : use.registry.snapshot? id with
    | some read =>
      simp only [load, load_of_some hread, nextSerial_get]
      exact sound.numbered.append [read] (by simpa using sound.known hread)
    | none =>
      simp only [load, load_of_none hread, create_fst, nextSerial_create]
      exact sound.numbered.cons rfl
  | got now id =>
    rw [get_fst, nextSerial_get]
    exact sound.numbered.append _ (hgiven id)
  | rotated entropy now id newId =>
    cases hread : use.registry.snapshot? id with
    | none =>
      simp only [rotate_of_none hread]
      exact sound.numbered
    | some read =>
      simp only [rotate_fst_of_some hread, nextSerial_rotate_of_some hread]
      exact sound.numbered.cons rfl
  | removed id => exact sound.numbered.append _ (hgiven id)
  | purged now maxIdle => exact sound.numbered
  | made state => exact sound.numbered.cons rfl
  | replaced now id =>
    have hserial : ∀ current made, (use.registry.replaceIfCurrent now id current made).2.nextSerial =
        use.registry.nextSerial := by
      intro current made
      unfold replaceIfCurrent
      split <;> rfl
    rw [hserial]
    exact sound.numbered

theorem Origin.sessionId_eq (h : use.Origin operation id snapshot) (sound : use.Sound) :
    snapshot.state.sessionId = id := by
  cases h with
  | kept hread => exact sound.sessionId_eq hread
  | created hread entropy => rfl
  | rotated hread entropy => rfl
  | replaced hread hstate => exact hstate.sessionId_eq.trans (sound.sessionId_eq hread)

theorem Origin.length_serverNonce (h : use.Origin operation id snapshot) (sound : use.Sound) :
    snapshot.state.serverNonce.length = use.registry.nonceLength := by
  cases h with
  | kept hread => exact sound.length_serverNonce hread
  | created hread entropy => exact entropy.length_draw _ _
  | rotated hread entropy => exact entropy.length_draw _ _
  | replaced hread hstate =>
    rw [hstate.serverNonce_eq]
    exact sound.length_serverNonce hread

theorem Sound.step (sound : use.Sound) (h : use.Step operation next) : next.Sound := by
  have hlength : next.registry.nonceLength = use.registry.nonceLength :=
    congrArg Limits.nonceLength h.limits_eq
  have hcapacity : next.registry.capacity = use.registry.capacity :=
    congrArg Limits.capacity h.limits_eq
  exact {
    capacity_pos := hcapacity ▸ sound.capacity_pos
    size_le := hcapacity ▸ h.size_le sound
    sessionId_eq := fun hs => (h.origin sound hs).1.sessionId_eq sound
    length_serverNonce := fun hs => hlength ▸ (h.origin sound hs).1.length_serverNonce sound
    known := fun hs => (h.origin sound hs).2
    numbered := h.numbered sound }

theorem sound_initial (nonceLength maxSessions : Nat) (maxIdle : Duration) :
    (initial nonceLength maxSessions maxIdle).Sound where
  capacity_pos := Nat.le_max_left 1 maxSessions
  size_le := Nat.zero_le _
  sessionId_eq := by
    intro id snapshot hs
    cases hs
  length_serverNonce := by
    intro id snapshot hs
    cases hs
  known := by
    intro id snapshot hs
    cases hs
  numbered := by constructor <;> simp [initial]

variable {kind : InUse → Operation → InUse → Prop} {start : InUse}

theorem Runs.sound (h : Runs kind start use) (sound : start.Sound) : use.Sound := by
  induction h with
  | refl => exact sound
  | step _ hstep _ ih => exact ih.step hstep

theorem Runs.limits_eq (h : Runs kind start use) : use.registry.limits = start.registry.limits := by
  induction h with
  | refl => rfl
  | step _ hstep _ ih => exact hstep.limits_eq.trans ih

/-! ### Nonces -/

/-- An operation that keeps a session keeps its nonce. -/
theorem Step.serverNonce_eq (h : use.Step operation next) (sound : use.Sound)
    (hkeeps : Keeps id use operation next) (hs : use.registry.snapshot? id = some snapshot) :
    ∃ after, next.registry.snapshot? id = some after ∧
      after.state.serverNonce = snapshot.state.serverNonce := by
  obtain ⟨after, hafter⟩ := contains_iff_snapshot?.1 hkeeps.contains
  refine ⟨after, hafter, ?_⟩
  -- the session is neither new nor under its id since this operation, as it was there before
  cases (h.origin sound hafter).1 with
  | kept hread =>
    cases hs.symm.trans hread
    rfl
  | created hread entropy => cases hs.symm.trans hread
  | @rotated old _ read hread entropy =>
    have habsent := contains_eq_false_iff.1 (hkeeps.not_rotated old rfl)
    cases habsent.symm.trans hread
  | replaced hread hstate =>
    cases hs.symm.trans hread
    exact hstate.serverNonce_eq

/-- As long as a session is kept, it has one nonce. -/
theorem Runs.serverNonce_eq (h : Runs (Keeps id) start use) (sound : start.Sound)
    (hs : start.registry.snapshot? id = some snapshot) :
    ∃ after, use.registry.snapshot? id = some after ∧
      after.state.serverNonce = snapshot.state.serverNonce := by
  induction h with
  | refl => exact ⟨snapshot, hs, rfl⟩
  | step hruns hstep hkeeps ih =>
    obtain ⟨before, hbefore, hnonce⟩ := ih
    obtain ⟨after, hafter, hsame⟩ := hstep.serverNonce_eq (hruns.sound sound) hkeeps hbefore
    exact ⟨after, hafter, hsame.trans hnonce⟩

/-! ### The representation of sessions -/

/-- A session has moved from its id to another, with its login but neither the header that led to it
nor the server's signature, and all other sessions are as before. -/
structure Moved (before : Registry) (id newId : String) (snapshot moved : Snapshot)
    (after : Registry) : Prop where
  size_eq : after.size = before.size
  not_contains : after.contains id = false
  snapshot?_eq : after.snapshot? newId = some moved
  identity_eq : moved.state.login.map (fun login => (login.identity, login.kind)) =
    snapshot.state.login.map fun login => (login.identity, login.kind)
  no_authorization : ∀ login, moved.state.login = some login → login.authorization = none
  no_proof : moved.state.proof = none
  others : ∀ other, other ≠ id → other ≠ newId → after.slot? other = before.slot? other

theorem moved_rotate {registry : Registry} {newId : String}
    (h : registry.snapshot? id = some snapshot) (hunused : registry.contains newId = false)
    (entropy : Entropy) (now : Instant) :
    Moved registry id newId snapshot (registry.rotatedSnapshot entropy snapshot newId)
      (registry.rotate entropy now id newId).2 := by
  have hne : id ≠ newId := by
    rintro rfl
    cases h.symm.trans (contains_eq_false_iff.1 hunused)
  refine ⟨size_rotate_of_unused h hunused entropy now, ?_, ?_, ?_, ?_, rfl, ?_⟩
  · rw [contains_eq_false_iff, snapshot?_rotate_of_some h, if_neg hne, if_pos rfl]
  · rw [snapshot?_rotate_of_some h, if_pos rfl]
  · cases hlogin : snapshot.state.login <;> simp [rotatedSnapshot, SessionState.rotated, hlogin]
  · intro login hlogin
    obtain ⟨old, -, rfl⟩ := Option.map_eq_some_iff.1 hlogin
    rfl
  · intro other hid hnewId
    rw [slot?_rotate_of_some h, if_neg hnewId, if_neg hid]

/-- Whatever is done to a registry, it has at most as many sessions as it was set up for, and at
most one if it was set up for none; each stands under its own id, with a nonce of the right length,
which every load returns for as long as the session is kept. A session that gets an unused id moves
there with its login and nothing else, and where there is no session nothing moves. -/
theorem registry_represents_sessions {nonceLength maxSessions : Nat} {maxIdle : Duration}
    (h : Reached nonceLength maxSessions maxIdle use) :
    use.registry.size ≤ max 1 maxSessions ∧
    (∀ id snapshot, use.registry.snapshot? id = some snapshot →
      snapshot.state.sessionId = id ∧ snapshot.state.serverNonce.length = nonceLength) ∧
    (∀ id entropy now later, Runs (Keeps id) (use.load entropy now id) later →
      ∀ otherEntropy otherNow,
        (later.registry.load otherEntropy otherNow id).1.state.serverNonce =
          (use.registry.load entropy now id).1.state.serverNonce) ∧
    (∀ id newId snapshot entropy now, use.registry.snapshot? id = some snapshot →
      use.registry.contains newId = false →
      ∃ moved, (use.registry.rotate entropy now id newId).1 = some moved ∧
        Moved use.registry id newId snapshot moved
          (use.registry.rotate entropy now id newId).2) ∧
    (∀ id newId entropy now, use.registry.contains id = false →
      use.registry.rotate entropy now id newId = (none, use.registry)) := by
  have sound := h.sound (sound_initial nonceLength maxSessions maxIdle)
  have hlength : use.registry.nonceLength = nonceLength := congrArg Limits.nonceLength h.limits_eq
  have hcapacity : use.registry.capacity = max 1 maxSessions :=
    congrArg Limits.capacity h.limits_eq
  refine ⟨hcapacity ▸ sound.size_le, fun id snapshot hs => ?_,
    fun id entropy now later hruns otherEntropy otherNow => ?_,
    fun id newId snapshot entropy now hs hunused => ?_, fun id newId entropy now habsent => ?_⟩
  · exact ⟨sound.sessionId_eq hs, hlength ▸ sound.length_serverNonce hs⟩
  · have hloaded : (use.load entropy now id).registry.snapshot? id =
        some (use.registry.load entropy now id).1 := by
      rw [snapshot?_eq, load, slot?_load, if_pos rfl, Option.map_some]
    obtain ⟨after, hafter, hnonce⟩ :=
      hruns.serverNonce_eq (sound.step (.loaded entropy now id)) hloaded
    rw [load_of_some hafter]
    exact hnonce
  · exact ⟨_, rotate_fst_of_some hs entropy now newId, moved_rotate hs hunused entropy now⟩
  · exact rotate_of_none (contains_eq_false_iff.1 habsent) entropy now newId

/-- Random bytes that are all zero. -/
def zeroBytes : Entropy := .ofStreams fun _ _ => 0

/-- A registry for no session, in which one was created, and then another. -/
def secondOfTwo : InUse :=
  ((initial 16 0 { millis := 1000 }).load zeroBytes 0 "a").load zeroBytes 1 "b"

/-- The second session has made the first one go. It keeps its nonce when it is used, and can move
to the id of the first one, which is free again. -/
theorem secondOfTwo_represented :
    secondOfTwo.registry.size ≤ 1 ∧
    (∀ later, Runs (Keeps "b") (secondOfTwo.load zeroBytes 2 "b") later →
      (later.registry.load zeroBytes 3 "b").1.state.serverNonce = List.replicate 16 0) ∧
    (∃ moved, Moved secondOfTwo.registry "b" "a"
      { serial := 1, state := .ofNonce "b" (List.replicate 16 0) } moved
      (secondOfTwo.registry.rotate zeroBytes 2 "b" "a").2) ∧
    secondOfTwo.registry.rotate zeroBytes 2 "a" "c" = (none, secondOfTwo.registry) := by
  have hreached : Reached 16 0 { millis := 1000 } secondOfTwo :=
    .step (.step .refl (.loaded _ 0 "a") trivial) (.loaded _ 1 "b") trivial
  have hread : secondOfTwo.registry.snapshot? "b" =
      some { serial := 1, state := .ofNonce "b" (List.replicate 16 0) } := by decide +kernel
  have hgone : secondOfTwo.registry.contains "a" = false := by decide +kernel
  obtain ⟨hsize, -, hnonce, hmoved, hnone⟩ := registry_represents_sessions hreached
  obtain ⟨moved, -, hmoved⟩ := hmoved "b" "a" _ zeroBytes 2 hread hgone
  refine ⟨hsize, fun later hruns => ?_, ⟨moved, hmoved⟩, hnone "a" "c" zeroBytes 2 hgone⟩
  rw [hnonce "b" zeroBytes 2 later hruns zeroBytes 3, load_of_some hread]
  rfl

end InUse

end Registry

end HandleChallenge
