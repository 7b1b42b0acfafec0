import HandleChallenge.Proofs.Session.Registry

/-!
# What the operations do to the slots

A slot holds the snapshot of a session and the time when it was last used. Each operation is
described by the slots afterwards, by their number and by the limits of the registry. An operation
touches the slot of the session that it is about; the one exception is a session that is created
in a full registry, for which others make room (`slot?_load`). `size_load_le` says that they make
enough of it.
-/

namespace HandleChallenge

namespace Table

variable {κ α : Type} [DecidableEq κ]

theorem length_filter_ne_add_one {entries : List (κ × α)}
    (distinct : (entries.map Prod.fst).Nodup) {key : κ} {value : α} (h : (key, value) ∈ entries) :
    (entries.filter fun e => e.1 != key).length + 1 = entries.length := by
  induction entries with
  | nil => cases h
  | cons first rest ih =>
    obtain ⟨hnot, hrest⟩ := List.nodup_cons.1 distinct
    by_cases hkey : first.1 = key
    · -- the key is that of the first entry and of no other
      have hall : rest.filter (fun e => e.1 != key) = rest := by
        rw [List.filter_eq_self]
        intro e he
        simp only [bne_iff_ne, ne_eq]
        rintro rfl
        exact hnot (hkey ▸ List.mem_map_of_mem he)
      simp [hkey, hall]
    · have hmem : (key, value) ∈ rest := by
        rcases List.mem_cons.1 h with rfl | hmem
        · exact absurd rfl hkey
        · exact hmem
      simp [hkey, ih hrest hmem]

/-- To erase a key is to lose its entry. -/
theorem size_erase_add_one {table : Table κ α} {key : κ} {value : α}
    (h : table.get? key = some value) : (table.erase key).size + 1 = table.size :=
  length_filter_ne_add_one table.distinct (get?_eq_some_iff.1 h)

theorem size_erase_le (table : Table κ α) (key : κ) : (table.erase key).size ≤ table.size :=
  List.length_filter_le _ _

/-- To write to a key that has a value changes no number. -/
theorem size_insert_of_some {table : Table κ α} {key : κ} {old : α} (h : table.get? key = some old)
    (value : α) : (table.insert key value).size = table.size := by
  rw [size_insert, size_erase_add_one h]

end Table

namespace Registry

/-- The slot under an id. -/
def slot? (registry : Registry) (id : String) : Option Slot := registry.sessions.get? id

theorem snapshot?_eq (registry : Registry) (id : String) :
    registry.snapshot? id = (registry.slot? id).map Slot.snapshot := rfl

theorem exists_slot?_of_snapshot? {registry : Registry} {id : String} {snapshot : Snapshot}
    (h : registry.snapshot? id = some snapshot) :
    ∃ slot, registry.slot? id = some slot ∧ slot.snapshot = snapshot :=
  Option.map_eq_some_iff.1 h

theorem contains_iff_slot? {registry : Registry} {id : String} :
    registry.contains id = true ↔ ∃ slot, registry.slot? id = some slot :=
  Option.isSome_iff_exists

/-! ### Limits -/

/-- What a registry was set up with. -/
structure Limits where
  nonceLength : Nat
  capacity : Nat
  maxIdle : Duration

/-- The limits of a registry. -/
def limits (registry : Registry) : Limits where
  nonceLength := registry.nonceLength
  capacity := registry.capacity
  maxIdle := registry.maxIdle

@[simp] theorem limits_issue (registry : Registry) (state : SessionState) :
    (registry.issue state).2.limits = registry.limits := rfl

@[simp] theorem limits_install (registry : Registry) (now : Instant) (id : String)
    (snapshot : Snapshot) : (registry.install now id snapshot).limits = registry.limits := rfl

@[simp] theorem limits_purge (registry : Registry) (now : Instant) (maxIdle : Duration) :
    (registry.purge now maxIdle).limits = registry.limits := rfl

@[simp] theorem limits_remove (registry : Registry) (id : String) :
    (registry.remove id).2.limits = registry.limits := rfl

@[simp] theorem limits_get (registry : Registry) (now : Instant) (id : String) :
    (registry.get now id).2.limits = registry.limits := by
  unfold get
  split <;> rfl

@[simp] theorem limits_create (registry : Registry) (entropy : Entropy) (now : Instant)
    (id : String) : (registry.create entropy now id).2.limits = registry.limits := by
  simp only [create]
  split <;> rfl

@[simp] theorem limits_load (registry : Registry) (entropy : Entropy) (now : Instant)
    (id : String) : (registry.load entropy now id).2.limits = registry.limits := by
  cases h : registry.snapshot? id with
  | some snapshot => rw [load_of_some h, limits_get]
  | none => rw [load_of_none h, limits_create]

@[simp] theorem limits_replaceIfCurrent (registry : Registry) (now : Instant) (id : String)
    (current next : Snapshot) :
    (registry.replaceIfCurrent now id current next).2.limits = registry.limits := by
  unfold replaceIfCurrent
  split <;> rfl

@[simp] theorem limits_rotate (registry : Registry) (entropy : Entropy) (now : Instant)
    (id newId : String) : (registry.rotate entropy now id newId).2.limits = registry.limits := by
  cases h : registry.snapshot? id with
  | none => rw [rotate_of_none h]
  | some snapshot =>
    simp only [rotate, remove, h, limits_install, limits_issue]
    rfl

/-! ### Slots -/

@[simp] theorem slot?_issue (registry : Registry) (state : SessionState) (id : String) :
    (registry.issue state).2.slot? id = registry.slot? id := rfl

theorem slot?_install (registry : Registry) (now : Instant) (id other : String)
    (snapshot : Snapshot) :
    (registry.install now id snapshot).slot? other =
      if other = id then some { snapshot, lastUsed := now } else registry.slot? other :=
  Table.get?_insert registry.sessions id other _

/-- Use of a session changes when it was last used. -/
theorem slot?_get (registry : Registry) (now : Instant) (id other : String) :
    (registry.get now id).2.slot? other =
      if other = id then (registry.slot? id).map fun slot => { slot with lastUsed := now }
      else registry.slot? other := by
  unfold get
  cases hslot : registry.slot? id with
  | none =>
    simp only [snapshot?_eq, hslot, Option.map_none]
    split
    · rename_i hid
      rw [hid, hslot]
    · rfl
  | some slot =>
    simp only [snapshot?_eq, hslot, Option.map_some, slot?_install]

theorem slot?_remove (registry : Registry) (id other : String) :
    (registry.remove id).2.slot? other = if other = id then none else registry.slot? other :=
  Table.get?_erase registry.sessions id other

theorem slot?_purge (registry : Registry) (now : Instant) (maxIdle : Duration) (id : String) :
    (registry.purge now maxIdle).slot? id =
      (registry.slot? id).filter fun slot => decide (now - slot.lastUsed ≤ maxIdle.micros) :=
  Table.get?_filter registry.sessions _ id

/-- A session that is purged is gone, and the others are as before. -/
theorem slot?_purge_cases (registry : Registry) (now : Instant) (maxIdle : Duration)
    (id : String) :
    (registry.purge now maxIdle).slot? id = registry.slot? id ∨
      (registry.purge now maxIdle).slot? id = none := by
  rw [slot?_purge]
  cases registry.slot? id with
  | none => exact .inl rfl
  | some slot =>
    rw [Option.filter_some]
    split
    · exact .inl rfl
    · exact .inr rfl

/-- A session that is evicted is gone, and the others are as before. -/
theorem get?_evict_cases (sessions : Table String Slot) (count : Nat) (id : String) :
    (evict sessions count).get? id = sessions.get? id ∨ (evict sessions count).get? id = none := by
  cases h : (evict sessions count).get? id with
  | none => exact .inr rfl
  | some slot => exact .inl (get?_evict h).symm

theorem slot?_makeRoom_cases (registry : Registry) (now : Instant) (id : String) :
    (registry.makeRoom now).slot? id = registry.slot? id ∨
      (registry.makeRoom now).slot? id = none := by
  have hevict := get?_evict_cases (registry.purge now registry.maxIdle).sessions
    ((registry.purge now registry.maxIdle).size + 1 -
      (registry.purge now registry.maxIdle).capacity) id
  rcases hevict with hkept | hgone
  · rcases slot?_purge_cases registry now registry.maxIdle id with hpurged | hpurged
    · exact .inl (hkept.trans hpurged)
    · exact .inr (hkept.trans hpurged)
  · exact .inr hgone

/-- The registry in which a session can be loaded: where it has to be created and there is no place
for it, others have made room. -/
def roomFor (registry : Registry) (now : Instant) (id : String) : Registry :=
  if !registry.contains id && registry.isFull then registry.makeRoom now else registry

theorem roomFor_of_contains {registry : Registry} {id : String} (h : registry.contains id = true)
    (now : Instant) : registry.roomFor now id = registry := by
  simp [roomFor, h]

theorem slot?_roomFor_cases (registry : Registry) (now : Instant) (id other : String) :
    (registry.roomFor now id).slot? other = registry.slot? other ∨
      ((registry.roomFor now id).slot? other = none ∧ registry.contains id = false ∧
        registry.isFull = true) := by
  unfold roomFor
  split
  · rename_i hroom
    obtain ⟨habsent, hfull⟩ := Bool.and_eq_true_iff.1 hroom
    refine (slot?_makeRoom_cases registry now other).imp_right fun hgone => ⟨hgone, ?_, hfull⟩
    simpa using habsent
  · exact .inl rfl

/-- To load a session is to use it, or to create it where it is not there. Other sessions are as
they are in the registry with room for it. -/
theorem slot?_load (registry : Registry) (entropy : Entropy) (now : Instant) (id other : String) :
    (registry.load entropy now id).2.slot? other =
      if other = id then some { snapshot := (registry.load entropy now id).1, lastUsed := now }
      else (registry.roomFor now id).slot? other := by
  cases hread : registry.snapshot? id with
  | some snapshot =>
    obtain ⟨slot, hslot, rfl⟩ := exists_slot?_of_snapshot? hread
    rw [load_of_some hread, roomFor_of_contains (contains_iff_snapshot?.2 ⟨_, hread⟩), slot?_get,
      hslot]
    rfl
  | none =>
    rw [load_of_none hread]
    have hroom : registry.roomFor now id =
        if registry.isFull then registry.makeRoom now else registry := by
      simp [roomFor, contains_eq_false_iff.2 hread]
    rw [hroom]
    simp only [create, slot?_install, slot?_issue]

/-- The snapshot that is loaded: the one under the id, or that of a new session. -/
theorem load_fst (registry : Registry) (entropy : Entropy) (now : Instant) (id : String) :
    (registry.load entropy now id).1 =
      (registry.snapshot? id).getD (registry.firstSnapshot entropy id) := by
  cases h : registry.snapshot? id with
  | some snapshot => rw [load_of_some h, Option.getD_some]
  | none => rw [load_of_none h, create_fst, Option.getD_none]

/-- A conditional installation leaves the other sessions alone. -/
theorem slot?_replaceIfCurrent_of_ne {registry : Registry} {id other : String} (h : other ≠ id)
    (now : Instant) (current next : Snapshot) :
    (registry.replaceIfCurrent now id current next).2.slot? other = registry.slot? other := by
  unfold replaceIfCurrent
  split
  · rw [slot?_install, if_neg h]
  · rfl

theorem slot?_advance_of_ne {registry : Registry} {id other : String} (h : other ≠ id)
    (now : Instant) (current : Snapshot) (state : SessionState) :
    (registry.advance now id current state).2.slot? other = registry.slot? other :=
  slot?_replaceIfCurrent_of_ne h now current _

/-- What rotation does to the sessions. -/
theorem rotate_snd_of_some {registry : Registry} {id : String} {snapshot : Snapshot}
    (h : registry.snapshot? id = some snapshot) (entropy : Entropy) (now : Instant)
    (newId : String) :
    (registry.rotate entropy now id newId).2.sessions =
      (registry.sessions.erase id).insert newId
        { snapshot := registry.rotatedSnapshot entropy snapshot newId, lastUsed := now } := by
  simp [rotate, remove, h, issue, install, rotatedSnapshot]

/-- Rotation takes a session from its old id to the new one, and leaves the others alone. -/
theorem slot?_rotate_of_some {registry : Registry} {id : String} {snapshot : Snapshot}
    (h : registry.snapshot? id = some snapshot) (entropy : Entropy) (now : Instant)
    (newId other : String) :
    (registry.rotate entropy now id newId).2.slot? other =
      if other = newId then
        some { snapshot := registry.rotatedSnapshot entropy snapshot newId, lastUsed := now }
      else if other = id then none
      else registry.slot? other := by
  rw [slot?, rotate_snd_of_some h, Table.get?_insert, Table.get?_erase]
  rfl

/-! ### The number of sessions -/

theorem size_install_of_contains {registry : Registry} {id : String}
    (h : registry.contains id = true) (now : Instant) (snapshot : Snapshot) :
    (registry.install now id snapshot).size = registry.size := by
  obtain ⟨slot, hslot⟩ := contains_iff_slot?.1 h
  exact Table.size_insert_of_some hslot _

theorem size_install_le (registry : Registry) (now : Instant) (id : String) (snapshot : Snapshot) :
    (registry.install now id snapshot).size ≤ registry.size + 1 := by
  have herase := Table.size_erase_le registry.sessions id
  show (registry.sessions.insert id _).size ≤ _
  rw [Table.size_insert]
  exact Nat.succ_le_succ herase

@[simp] theorem size_get (registry : Registry) (now : Instant) (id : String) :
    (registry.get now id).2.size = registry.size := by
  unfold get
  split
  · rename_i snapshot h
    exact size_install_of_contains (contains_iff_snapshot?.2 ⟨snapshot, h⟩) now snapshot
  · rfl

@[simp] theorem size_replaceIfCurrent (registry : Registry) (now : Instant) (id : String)
    (current next : Snapshot) :
    (registry.replaceIfCurrent now id current next).2.size = registry.size := by
  unfold replaceIfCurrent
  split
  · rename_i h
    obtain ⟨held, hheld, -⟩ := Option.map_eq_some_iff.1 h
    exact size_install_of_contains (contains_iff_snapshot?.2 ⟨held, hheld⟩) now next
  · rfl

theorem size_remove_le (registry : Registry) (id : String) :
    (registry.remove id).2.size ≤ registry.size :=
  Table.size_erase_le registry.sessions id

theorem size_purge_le (registry : Registry) (now : Instant) (maxIdle : Duration) :
    (registry.purge now maxIdle).size ≤ registry.size :=
  List.length_filter_le _ _

theorem leastRecent?_eq_none_iff {entries : List (String × Slot)} :
    leastRecent? entries = none ↔ entries = [] := by
  cases entries with
  | nil => simp [leastRecent?]
  | cons entry rest =>
    rw [leastRecent?]
    cases leastRecent? rest with
    | none => simp
    | some other => simp only; split <;> simp

/-- The least recent entry is the first, or one of the rest that was used before it. -/
theorem leastRecent?_cons_cases {first least : String × Slot} {rest : List (String × Slot)}
    (h : leastRecent? (first :: rest) = some least) :
    (least = first ∧ ∀ other, leastRecent? rest = some other →
        first.2.lastUsed ≤ other.2.lastUsed) ∨
      leastRecent? rest = some least ∧ least.2.lastUsed < first.2.lastUsed := by
  rw [leastRecent?] at h
  cases hrest : leastRecent? rest with
  | none =>
    rw [hrest] at h
    cases h
    exact .inl ⟨rfl, fun other hother => by cases hother⟩
  | some other =>
    rw [hrest] at h
    simp only at h
    split at h
    · rename_i hle
      cases h
      exact .inl ⟨rfl, fun _ hother => by cases hother; exact hle⟩
    · rename_i hlt
      cases h
      exact .inr ⟨rfl, Nat.lt_of_not_le hlt⟩

theorem mem_of_leastRecent? {entries : List (String × Slot)} {entry : String × Slot}
    (h : leastRecent? entries = some entry) : entry ∈ entries := by
  induction entries generalizing entry with
  | nil => cases h
  | cons first rest ih =>
    rcases leastRecent?_cons_cases h with ⟨rfl, -⟩ | ⟨hrest, -⟩
    · exact List.mem_cons_self
    · exact List.mem_cons_of_mem _ (ih hrest)

/-- As many sessions are evicted as there were to be, unless there are not so many. -/
theorem size_evict (sessions : Table String Slot) (count : Nat) :
    (evict sessions count).size = sessions.size - count := by
  induction count generalizing sessions with
  | zero => rfl
  | succ count ih =>
    -- the session that goes is an entry of the table, so that one entry less is left
    rw [evict]
    cases hleast : leastRecent? sessions.entries with
    | none =>
      have hempty : sessions.size = 0 :=
        List.length_eq_zero_iff.2 (leastRecent?_eq_none_iff.1 hleast)
      simp only [hempty, Nat.zero_sub]
    | some entry =>
      have hget : sessions.get? entry.1 = some entry.2 :=
        Table.get?_eq_some_iff.2 (mem_of_leastRecent? hleast)
      have hsize := Table.size_erase_add_one hget
      simp only [ih]
      omega

/-- There is room for one more. -/
theorem size_makeRoom_lt {registry : Registry} (h : 0 < registry.capacity) (now : Instant) :
    (registry.makeRoom now).size < registry.capacity := by
  have hevict : (registry.makeRoom now).size = (registry.purge now registry.maxIdle).size -
      ((registry.purge now registry.maxIdle).size + 1 - registry.capacity) :=
    size_evict _ _
  omega

/-- A session that is created stays within the capacity. -/
theorem size_create_le {registry : Registry} (h : 0 < registry.capacity) (entropy : Entropy)
    (now : Instant) (id : String) :
    (registry.create entropy now id).2.size ≤ registry.capacity := by
  have hroom : (if registry.isFull then registry.makeRoom now else registry).size <
      registry.capacity := by
    split
    · exact size_makeRoom_lt h now
    · rename_i hfull
      exact Nat.lt_of_not_le fun hle => hfull (decide_eq_true hle)
  exact Nat.le_trans (size_install_le _ now id _) hroom

/-- A registry that is within its capacity stays so, whatever is loaded. -/
theorem size_load_le {registry : Registry} (h : 0 < registry.capacity)
    (hsize : registry.size ≤ registry.capacity) (entropy : Entropy) (now : Instant) (id : String) :
    (registry.load entropy now id).2.size ≤ registry.capacity := by
  cases hread : registry.snapshot? id with
  | some snapshot => rw [load_of_some hread, size_get]; exact hsize
  | none => rw [load_of_none hread]; exact size_create_le h entropy now id

/-- A session under its new id counts once, and takes the place of another that had this id. -/
theorem size_rotate_of_some {registry : Registry} {id : String} {snapshot : Snapshot}
    (h : registry.snapshot? id = some snapshot) (entropy : Entropy) (now : Instant)
    (newId : String) :
    (registry.rotate entropy now id newId).2.size =
      ((registry.sessions.erase id).erase newId).size + 1 := by
  rw [size, rotate_snd_of_some h, Table.size_insert]

theorem size_rotate_le (registry : Registry) (entropy : Entropy) (now : Instant)
    (id newId : String) : (registry.rotate entropy now id newId).2.size ≤ registry.size := by
  cases hread : registry.snapshot? id with
  | none => simp only [rotate_of_none hread, Nat.le_refl]
  | some snapshot =>
    obtain ⟨slot, hslot, -⟩ := exists_slot?_of_snapshot? hread
    rw [size_rotate_of_some hread, size, ← Table.size_erase_add_one hslot]
    exact Nat.succ_le_succ (Table.size_erase_le _ newId)

/-- A session that gets an id which no other has stays one session. -/
theorem size_rotate_of_unused {registry : Registry} {id newId : String} {snapshot : Snapshot}
    (h : registry.snapshot? id = some snapshot) (hunused : registry.contains newId = false)
    (entropy : Entropy) (now : Instant) :
    (registry.rotate entropy now id newId).2.size = registry.size := by
  obtain ⟨slot, hslot, -⟩ := exists_slot?_of_snapshot? h
  have hnone : (registry.sessions.erase id).get? newId = none := by
    rw [Table.get?_erase]
    split
    · rfl
    · exact Option.map_eq_none_iff.1 (contains_eq_false_iff.1 hunused)
  rw [size_rotate_of_some h, Table.erase_of_get?_eq_none hnone, Table.size_erase_add_one hslot]
  rfl

end Registry

end HandleChallenge
