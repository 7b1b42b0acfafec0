import HandleChallenge.Session.Registry

/-!
# What the operations of the registry do

Each operation is described by the snapshots that are in the registry afterwards and by the next
serial number; nothing else of a registry matters to the sessions. `Sound` says that every
snapshot is filed under the id of its session and that its serial number has been given out, so
that a number about to be given out belongs to no snapshot.
-/

namespace HandleChallenge.Registry

/-! ### Sound registries -/

/-- Snapshots stand under the ids of their sessions, with serial numbers that were given out. -/
structure Sound (registry : Registry) : Prop where
  serial_lt : ∀ {id snapshot}, registry.snapshot? id = some snapshot →
    snapshot.serial < registry.nextSerial
  sessionId_eq : ∀ {id snapshot}, registry.snapshot? id = some snapshot →
    snapshot.state.sessionId = id

/-- Every session of the first registry is one of the second, with the same snapshot. -/
def Within (registry whole : Registry) : Prop :=
  ∀ {id snapshot}, registry.snapshot? id = some snapshot → whole.snapshot? id = some snapshot

/-- The snapshot under an id is the given one, as a conditional installation compares them. -/
def Holds (registry : Registry) (id : String) (snapshot : Snapshot) : Prop :=
  (registry.snapshot? id).map Snapshot.serial = some snapshot.serial

instance (registry : Registry) (id : String) (snapshot : Snapshot) :
    Decidable (registry.Holds id snapshot) :=
  inferInstanceAs (Decidable (_ = _))

theorem holds_iff {registry : Registry} {id : String} {snapshot : Snapshot} :
    registry.Holds id snapshot ↔
      ∃ other, registry.snapshot? id = some other ∧ other.serial = snapshot.serial := by
  simp [Holds, Option.map_eq_some_iff]

theorem contains_iff_snapshot? {registry : Registry} {id : String} :
    registry.contains id = true ↔ ∃ snapshot, registry.snapshot? id = some snapshot := by
  rw [← Option.isSome_iff_exists, snapshot?, Option.isSome_map]
  exact Iff.rfl

theorem contains_eq_false_iff {registry : Registry} {id : String} :
    registry.contains id = false ↔ registry.snapshot? id = none := by
  simp [contains, Table.contains, snapshot?]

/-! ### Issue, use and removal -/

@[simp] theorem snapshot?_issue (registry : Registry) (state : SessionState) (id : String) :
    (registry.issue state).2.snapshot? id = registry.snapshot? id := rfl

@[simp] theorem nextSerial_install (registry : Registry) (now : Instant) (id : String)
    (snapshot : Snapshot) : (registry.install now id snapshot).nextSerial = registry.nextSerial :=
  rfl

@[simp] theorem nextSerial_purge (registry : Registry) (now : Instant) (maxIdle : Duration) :
    (registry.purge now maxIdle).nextSerial = registry.nextSerial := rfl

@[simp] theorem nextSerial_makeRoom (registry : Registry) (now : Instant) :
    (registry.makeRoom now).nextSerial = registry.nextSerial := rfl

@[simp] theorem nextSerial_remove (registry : Registry) (id : String) :
    (registry.remove id).2.nextSerial = registry.nextSerial := rfl

@[simp] theorem get_fst (registry : Registry) (now : Instant) (id : String) :
    (registry.get now id).1 = registry.snapshot? id := by
  unfold get
  split <;> simp_all

@[simp] theorem nextSerial_get (registry : Registry) (now : Instant) (id : String) :
    (registry.get now id).2.nextSerial = registry.nextSerial := by
  unfold get
  split <;> rfl

theorem snapshot?_remove (registry : Registry) (id other : String) :
    (registry.remove id).2.snapshot? other =
      if other = id then none else registry.snapshot? other := by
  by_cases h : other = id <;> simp [remove, snapshot?, Table.get?_erase, h]

theorem within_remove (registry : Registry) (id : String) :
    (registry.remove id).2.Within registry := by
  intro other snapshot h
  rw [snapshot?_remove] at h
  split at h
  · cases h
  · exact h

theorem within_purge (registry : Registry) (now : Instant) (maxIdle : Duration) :
    (registry.purge now maxIdle).Within registry := by
  intro id snapshot h
  rw [snapshot?_purge, Option.map_eq_some_iff] at h
  obtain ⟨slot, hslot, rfl⟩ := h
  rw [snapshot?, (Option.filter_eq_some_iff.1 hslot).1]
  rfl

theorem get?_evict {sessions : Table String Slot} {count : Nat} {id : String} {slot : Slot}
    (h : (evict sessions count).get? id = some slot) : sessions.get? id = some slot := by
  induction count generalizing sessions with
  | zero => exact h
  | succ count ih =>
    rw [evict] at h
    split at h
    · exact Table.get?_of_get?_erase (ih h)
    · exact h

theorem within_makeRoom (registry : Registry) (now : Instant) :
    (registry.makeRoom now).Within registry := by
  intro id snapshot h
  obtain ⟨slot, hslot, rfl⟩ := Option.map_eq_some_iff.1 h
  have hpurged := get?_evict hslot
  apply within_purge registry now registry.maxIdle
  rw [snapshot?, hpurged]
  rfl

/-! ### Creation -/

/-- The snapshot of a new session. -/
def firstSnapshot (registry : Registry) (entropy : Entropy) (id : String) : Snapshot where
  serial := registry.nextSerial
  state := SessionState.ofNonce id (entropy.draw .serverNonce registry.nonceLength)

theorem create_fst (registry : Registry) (entropy : Entropy) (now : Instant) (id : String) :
    (registry.create entropy now id).1 = registry.firstSnapshot entropy id := by
  simp only [create]
  split <;> rfl

theorem nextSerial_create (registry : Registry) (entropy : Entropy) (now : Instant) (id : String) :
    (registry.create entropy now id).2.nextSerial = registry.nextSerial + 1 := by
  simp only [create]
  split <;> rfl

/-- Creation adds the new session; of the others some may have made room for it. -/
theorem snapshot?_create {registry : Registry} {entropy : Entropy} {now : Instant}
    {id other : String} {snapshot : Snapshot}
    (h : (registry.create entropy now id).2.snapshot? other = some snapshot) :
    (other = id ∧ snapshot = registry.firstSnapshot entropy id) ∨
      (other ≠ id ∧ registry.snapshot? other = some snapshot) := by
  have hroom : (if registry.isFull then registry.makeRoom now else registry).Within registry := by
    intro id snapshot h
    split at h
    · exact within_makeRoom registry now h
    · exact h
  simp only [create, snapshot?_install] at h
  split at h
  · refine .inl ⟨‹_›, ?_⟩
    simp only [Option.some.injEq] at h
    rw [← h, ← create_fst registry entropy now id]
    rfl
  · exact .inr ⟨‹_›, hroom h⟩

theorem snapshot?_create_self (registry : Registry) (entropy : Entropy) (now : Instant)
    (id : String) :
    (registry.create entropy now id).2.snapshot? id = some (registry.firstSnapshot entropy id) := by
  rw [← create_fst registry entropy now id]
  simp [create, snapshot?_install]

/-- To load a session that is there is to use it. -/
theorem load_of_some {registry : Registry} {id : String} {snapshot : Snapshot}
    (h : registry.snapshot? id = some snapshot) (entropy : Entropy) (now : Instant) :
    registry.load entropy now id = (snapshot, (registry.get now id).2) := by
  simp [load, get, h]

/-- To load a session that is not there is to create it. -/
theorem load_of_none {registry : Registry} {id : String} (h : registry.snapshot? id = none)
    (entropy : Entropy) (now : Instant) :
    registry.load entropy now id = registry.create entropy now id := by
  simp [load, get, h]

/-! ### Conditional installation -/

theorem replaceIfCurrent_of_holds {registry : Registry} {id : String} {current : Snapshot}
    (h : registry.Holds id current) (now : Instant) (next : Snapshot) :
    registry.replaceIfCurrent now id current next = (true, registry.install now id next) :=
  if_pos h

theorem replaceIfCurrent_of_not_holds {registry : Registry} {id : String} {current : Snapshot}
    (h : ¬ registry.Holds id current) (now : Instant) (next : Snapshot) :
    registry.replaceIfCurrent now id current next = (false, registry) :=
  if_neg h

@[simp] theorem advance_fst (registry : Registry) (now : Instant) (id : String)
    (current : Snapshot) (state : SessionState) :
    (registry.advance now id current state).1 = { serial := registry.nextSerial, state } := rfl

@[simp] theorem nextSerial_advance (registry : Registry) (now : Instant) (id : String)
    (current : Snapshot) (state : SessionState) :
    (registry.advance now id current state).2.nextSerial = registry.nextSerial + 1 := by
  simp only [advance, replaceIfCurrent]
  split <;> rfl

/-- A state is installed in the place of the snapshot it was made from, or nowhere. -/
theorem snapshot?_advance (registry : Registry) (now : Instant) (id other : String)
    (current : Snapshot) (state : SessionState) :
    (registry.advance now id current state).2.snapshot? other =
      if other = id ∧ registry.Holds id current then
        some { serial := registry.nextSerial, state }
      else registry.snapshot? other := by
  by_cases hcurrent : registry.Holds id current
  · have hissued : (registry.issue state).2.Holds id current := hcurrent
    simp only [advance, replaceIfCurrent_of_holds hissued, snapshot?_install, snapshot?_issue,
      hcurrent, and_true]
    rfl
  · have hissued : ¬ (registry.issue state).2.Holds id current := hcurrent
    simp only [advance, replaceIfCurrent_of_not_holds hissued, snapshot?_issue, hcurrent,
      and_false, if_false]

/-- The snapshot of an installation is held exactly if it was installed: a serial number that is
given out now belongs to no snapshot yet. -/
theorem holds_advance {registry : Registry} (sound : registry.Sound) (now : Instant) (id : String)
    (current : Snapshot) (state : SessionState) :
    (registry.advance now id current state).2.Holds id
        (registry.advance now id current state).1 ↔
      registry.Holds id current := by
  rw [holds_iff, snapshot?_advance, advance_fst]
  by_cases hcurrent : registry.Holds id current
  · simp [hcurrent]
  · simp only [hcurrent, and_false, if_false, iff_false]
    rintro ⟨other, hother, hserial⟩
    exact absurd hserial (Nat.ne_of_lt (sound.serial_lt hother))

/-! ### Rotation -/

/-- The snapshot of a session under its new id. -/
def rotatedSnapshot (registry : Registry) (entropy : Entropy) (snapshot : Snapshot)
    (newId : String) : Snapshot where
  serial := registry.nextSerial
  state := snapshot.state.rotated newId (entropy.draw .rotatedNonce registry.nonceLength)

theorem rotate_of_none {registry : Registry} {id : String} (h : registry.snapshot? id = none)
    (entropy : Entropy) (now : Instant) (newId : String) :
    registry.rotate entropy now id newId = (none, registry) := by
  simp [rotate, remove, h]

theorem rotate_fst_of_some {registry : Registry} {id : String} {snapshot : Snapshot}
    (h : registry.snapshot? id = some snapshot) (entropy : Entropy) (now : Instant)
    (newId : String) :
    (registry.rotate entropy now id newId).1 =
      some (registry.rotatedSnapshot entropy snapshot newId) := by
  simp [rotate, remove, h, issue, rotatedSnapshot]

theorem nextSerial_rotate_of_some {registry : Registry} {id : String} {snapshot : Snapshot}
    (h : registry.snapshot? id = some snapshot) (entropy : Entropy) (now : Instant)
    (newId : String) :
    (registry.rotate entropy now id newId).2.nextSerial = registry.nextSerial + 1 := by
  simp [rotate, remove, h, issue]

/-- Rotation takes a session from its old id to the new one. -/
theorem snapshot?_rotate_of_some {registry : Registry} {id : String} {snapshot : Snapshot}
    (h : registry.snapshot? id = some snapshot) (entropy : Entropy) (now : Instant)
    (newId other : String) :
    (registry.rotate entropy now id newId).2.snapshot? other =
      if other = newId then some (registry.rotatedSnapshot entropy snapshot newId)
      else if other = id then none
      else registry.snapshot? other := by
  have hrest : (registry.rotate entropy now id newId).2 =
      ((registry.remove id).2.issue (snapshot.state.rotated newId
        (entropy.draw .rotatedNonce registry.nonceLength))).2.install now newId
          (registry.rotatedSnapshot entropy snapshot newId) := by
    simp [rotate, remove, h, issue, rotatedSnapshot]
  rw [hrest, snapshot?_install, snapshot?_issue, snapshot?_remove]

/-- What is there after a rotation is the session under its new id, or was there before. -/
theorem snapshot?_rotate {registry : Registry} {id newId other : String} {old snapshot : Snapshot}
    (h : registry.snapshot? id = some old) {entropy : Entropy} {now : Instant}
    (hs : (registry.rotate entropy now id newId).2.snapshot? other = some snapshot) :
    (other = newId ∧ snapshot = registry.rotatedSnapshot entropy old newId) ∨
      (other ≠ newId ∧ other ≠ id ∧ registry.snapshot? other = some snapshot) := by
  rw [snapshot?_rotate_of_some h] at hs
  split at hs
  · cases hs
    exact .inl ⟨‹_›, rfl⟩
  · split at hs
    · cases hs
    · exact .inr ⟨‹_›, ‹_›, hs⟩

end HandleChallenge.Registry
