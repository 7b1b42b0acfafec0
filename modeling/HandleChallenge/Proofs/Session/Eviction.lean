import HandleChallenge.Proofs.Session.Uses
import Mathlib.Data.List.Perm.Basic
import Mathlib.Logic.Relation

/-!
# Which sessions make room

When a session is created in a full registry, the sessions that were idle for too long go first, and
then, round by round, one that was used least recently, until there is room. Several sessions may
have been used at one moment; which of them goes is left open here, so that what is said of a
complete run of such rounds (`Evicts`) does not depend on it. The sessions that stay after any
complete run are described by `MadeRoom`. Main statement: `full_registry_spares_recent`.
-/

namespace HandleChallenge

namespace Table

variable {κ α : Type} [DecidableEq κ]

theorem mem_keys_iff {table : Table κ α} {key : κ} :
    key ∈ table.keys ↔ ∃ value, table.get? key = some value := by
  simp only [keys, List.mem_map, get?_eq_some_iff]
  constructor
  · rintro ⟨⟨_, value⟩, hmem, rfl⟩
    exact ⟨value, hmem⟩
  · rintro ⟨value, hmem⟩
    exact ⟨(key, value), hmem, rfl⟩

/-- The keys of a smaller table are those keys of the larger one that it has. -/
theorem length_filter_keys {table whole : Table κ α} {kept : κ → Bool}
    (hkept : ∀ key, kept key = true ↔ ∃ value, table.get? key = some value)
    (hwithin : ∀ key value, table.get? key = some value → whole.get? key = some value) :
    (whole.keys.filter kept).length = table.size := by
  have hsame : ∀ key, key ∈ whole.keys.filter kept ↔ key ∈ table.keys := by
    intro key
    rw [List.mem_filter, hkept, mem_keys_iff, mem_keys_iff]
    constructor
    · exact And.right
    · rintro ⟨value, hvalue⟩
      exact ⟨⟨value, hwithin key value hvalue⟩, value, hvalue⟩
  have hperm : (whole.keys.filter kept).Perm table.keys :=
    (List.perm_ext_iff_of_nodup (whole.distinct.filter _) table.distinct).2 hsame
  rw [hperm.length_eq, keys, List.length_map, size]

end Table

namespace Registry

variable {sessions left next : Table String Slot} {capacity : Nat}

/-! ### Rounds -/

/-- One of several sessions that were used least recently goes, while there are as many as there
may be. -/
inductive Round (capacity : Nat) (sessions : Table String Slot) : Table String Slot → Prop where
  | evict {id : String} {slot : Slot} (hfull : capacity ≤ sessions.size)
      (hget : sessions.get? id = some slot)
      (hleast : ∀ other kept, sessions.get? other = some kept → slot.lastUsed ≤ kept.lastUsed) :
      Round capacity sessions (sessions.erase id)

/-- Rounds in sequence, after which there is no other. -/
def Evicts (capacity : Nat) (sessions left : Table String Slot) : Prop :=
  Relation.ReflTransGen (Round capacity) sessions left ∧ ∀ next, ¬ Round capacity left next

theorem Round.capacity_le (h : Round capacity sessions next) : capacity ≤ sessions.size := by
  cases h with
  | evict hfull hget hleast => exact hfull

theorem Round.size_add_one (h : Round capacity sessions next) : next.size + 1 = sessions.size := by
  cases h with
  | evict hfull hget hleast => exact Table.size_erase_add_one hget

/-- There is no infinite sequence of rounds. -/
theorem wellFounded_round (capacity : Nat) :
    WellFounded fun next sessions => Round capacity sessions next := by
  refine Subrelation.wf ?_ (InvImage.wf Table.size Nat.lt_wfRel.wf)
  intro next sessions h
  exact Nat.lt_of_succ_le (Nat.le_of_eq h.size_add_one)

/-- The least recent entry was used no later than any other. -/
theorem lastUsed_le_of_leastRecent? {entries : List (String × Slot)} {least : String × Slot}
    (h : leastRecent? entries = some least) :
    ∀ entry ∈ entries, least.2.lastUsed ≤ entry.2.lastUsed := by
  induction entries generalizing least with
  | nil => cases h
  | cons first rest ih =>
    rw [List.forall_mem_cons]
    rcases leastRecent?_cons_cases h with ⟨rfl, hfirst⟩ | ⟨hrest, hlt⟩
    · refine ⟨Nat.le_refl _, ?_⟩
      cases hrest : leastRecent? rest with
      | none =>
        rw [leastRecent?_eq_none_iff.1 hrest]
        simp
      | some other => exact fun entry hmem => Nat.le_trans (hfirst other hrest) (ih hrest entry hmem)
    · exact ⟨Nat.le_of_lt hlt, ih hrest⟩

/-- In a table with an entry the least recent one can go. -/
theorem exists_round (hfull : capacity ≤ sessions.size) (hsome : 0 < sessions.size) :
    ∃ least, leastRecent? sessions.entries = some least ∧
      Round capacity sessions (sessions.erase least.1) := by
  cases hleast : leastRecent? sessions.entries with
  | none =>
    have hnil := leastRecent?_eq_none_iff.1 hleast
    rw [Table.size, hnil] at hsome
    cases hsome
  | some least =>
    refine ⟨least, rfl, .evict hfull (Table.get?_eq_some_iff.2 (mem_of_leastRecent? hleast)) ?_⟩
    intro other kept hkept
    exact lastUsed_le_of_leastRecent? hleast _ (Table.get?_eq_some_iff.1 hkept)

/-! ### Complete runs -/

/-- The sessions that are left are as they were, and none that went was used after one of them. -/
structure Spares (sessions left : Table String Slot) : Prop where
  kept : ∀ id slot, left.get? id = some slot → sessions.get? id = some slot
  older : ∀ gone slot, sessions.get? gone = some slot → left.get? gone = none →
    ∀ id kept, left.get? id = some kept → slot.lastUsed ≤ kept.lastUsed

theorem Spares.refl (sessions : Table String Slot) : Spares sessions sessions where
  kept id slot h := h
  older gone slot h hgone := by
    rw [h] at hgone
    cases hgone

theorem Spares.round (h : Spares sessions left) (hround : Round capacity left next) :
    Spares sessions next := by
  cases hround with
  | @evict id oldest hfull hget hleast =>
    refine ⟨fun other slot hother => h.kept other slot (Table.get?_of_get?_erase hother), ?_⟩
    intro gone slot hslot hgone other kept hother
    have hstays := Table.get?_of_get?_erase hother
    rw [Table.get?_erase] at hgone
    split at hgone
    · -- the one that goes in this round is the least recent of those that were left
      rename_i hid
      subst hid
      have hsame := (h.kept gone oldest hget).symm.trans hslot
      cases hsame
      exact hleast other kept hstays
    · exact h.older gone slot hslot hgone other kept hstays

/-- Any rounds spare the recent sessions, and never make more room than for one. -/
theorem spares_of_rounds (h : Relation.ReflTransGen (Round capacity) sessions left) :
    Spares sessions left ∧ left.size ≤ sessions.size ∧
      (left.size = sessions.size ∨ capacity ≤ left.size + 1) := by
  induction h with
  | refl => exact ⟨.refl sessions, Nat.le_refl _, .inl rfl⟩
  | @tail middle next hrounds hround ih =>
    obtain ⟨hspares, hle, -⟩ := ih
    have hsize := hround.size_add_one
    have hfull := hround.capacity_le
    exact ⟨hspares.round hround, by omega, .inr (by omega)⟩

theorem Evicts.spares (h : Evicts capacity sessions left) : Spares sessions left :=
  (spares_of_rounds h.1).1

/-- A complete run leaves room for one session, and makes no more than that. -/
theorem Evicts.size_eq (h : Evicts capacity sessions left) (hpos : 0 < capacity) :
    left.size = min sessions.size (capacity - 1) := by
  obtain ⟨-, hle, hroom⟩ := spares_of_rounds h.1
  have hlt : left.size < capacity := by
    refine Nat.lt_of_not_le fun hfull => ?_
    obtain ⟨least, -, hround⟩ := exists_round hfull (Nat.lt_of_lt_of_le hpos hfull)
    exact h.2 _ hround
  omega

/-- To evict as many as there are too many is to make all the rounds. -/
theorem evicts_evict (hpos : 0 < capacity) (sessions : Table String Slot) :
    Evicts capacity sessions (evict sessions (sessions.size + 1 - capacity)) := by
  constructor
  · generalize hcount : sessions.size + 1 - capacity = count
    induction count generalizing sessions with
    | zero => exact .refl
    | succ count ih =>
      have hfull : capacity ≤ sessions.size := by omega
      obtain ⟨least, hleast, hround⟩ := exists_round hfull (Nat.lt_of_lt_of_le hpos hfull)
      have hsize := hround.size_add_one
      rw [evict, hleast]
      exact .head hround (ih _ (by omega))
  · intro next hround
    have hsize := size_evict sessions (sessions.size + 1 - capacity)
    have hfull := hround.capacity_le
    omega

/-! ### Who is left -/

/-- The session was not used for longer than the given time. -/
def UseLog.isExpired (log : UseLog) (maxIdle : Duration) (now : Instant) (id : String) : Bool :=
  (log.lastUse? id).any fun used => maxIdle.micros < now - used

/-- What is under each id of a registry after room has been made for one more session. -/
structure MadeRoom (log : UseLog) (maxSessions : Nat) (maxIdle : Duration) (now : Instant)
    (slot? : String → Option Slot) : Prop where
  /-- Nothing happened to a session that is left. -/
  kept : ∀ id slot, log.registry.slot? id = some slot → slot? id = some slot ∨ slot? id = none
  /-- The sessions that were idle for too long are gone. -/
  expired : ∀ id, log.registry.contains id = true → log.isExpired maxIdle now id = true →
    slot? id = none
  /-- The others are left, but for those that have to go. -/
  count : (log.registry.sessions.keys.filter fun id => (slot? id).isSome).length =
    min (log.registry.sessions.keys.filter fun id => !log.isExpired maxIdle now id).length
      (max 1 maxSessions - 1)
  /-- No session that is gone was used after one that is left. -/
  older : ∀ gone stays, log.registry.contains gone = true → log.registry.contains stays = true →
    slot? gone = none → slot? stays ≠ none →
      ∃ earlier later, log.lastUse? gone = some earlier ∧ log.lastUse? stays = some later ∧
        earlier ≤ later

section

open UseLog (Reached)

variable {log : UseLog} {nonceLength maxSessions : Nat} {maxIdle : Duration} {now : Instant}
  {id : String} {slot : Slot}

/-- Only what is under the ids of the registry matters. -/
theorem MadeRoom.congr {first second : String → Option Slot}
    (h : MadeRoom log maxSessions maxIdle now first)
    (hsame : ∀ id, log.registry.contains id = true → second id = first id) :
    MadeRoom log maxSessions maxIdle now second where
  kept id slot hslot := by
    rw [hsame id (contains_iff_slot?.2 ⟨slot, hslot⟩)]
    exact h.kept id slot hslot
  expired id hcontains hexpired := (hsame id hcontains).trans (h.expired id hcontains hexpired)
  count := by
    rw [← h.count]
    congr 1
    refine List.filter_congr fun id hmem => ?_
    rw [hsame id (contains_iff_slot?.2 (Table.mem_keys_iff.1 hmem))]
  older gone stays hgone hstays hnone hsome := by
    rw [hsame gone hgone] at hnone
    rw [hsame stays hstays] at hsome
    exact h.older gone stays hgone hstays hnone hsome

theorem UseLog.Reached.capacity_eq (h : Reached nonceLength maxSessions maxIdle log) :
    log.registry.capacity = max 1 maxSessions :=
  congrArg Limits.capacity h.limits_eq

theorem UseLog.Reached.maxIdle_eq (h : Reached nonceLength maxSessions maxIdle log) :
    log.registry.maxIdle = maxIdle :=
  congrArg Limits.maxIdle h.limits_eq

/-- By the time in its slot a session is expired exactly if it is by its latest use. -/
theorem UseLog.Reached.isExpired_eq (h : Reached nonceLength maxSessions maxIdle log)
    (hslot : log.registry.slot? id = some slot) :
    log.isExpired maxIdle now id = !decide (now - slot.lastUsed ≤ maxIdle.micros) := by
  rw [UseLog.isExpired, h.lastUse?_eq hslot, Option.any_some, ← decide_not]
  exact decide_eq_decide.2 Nat.not_le.symm

/-- The sessions that were not idle for too long are those that a purge leaves. -/
theorem UseLog.Reached.slot?_purge_eq_some_iff (h : Reached nonceLength maxSessions maxIdle log) :
    (log.registry.purge now maxIdle).slot? id = some slot ↔
      log.registry.slot? id = some slot ∧ log.isExpired maxIdle now id = false := by
  rw [slot?_purge, Option.filter_eq_some_iff]
  refine and_congr_right fun hslot => ?_
  rw [h.isExpired_eq hslot, Bool.not_eq_false']

theorem UseLog.Reached.length_filter_isExpired (h : Reached nonceLength maxSessions maxIdle log) :
    (log.registry.sessions.keys.filter fun id => !log.isExpired maxIdle now id).length =
      (log.registry.purge now maxIdle).size := by
  have hpurged : ∀ id slot, (log.registry.purge now maxIdle).slot? id = some slot →
      log.registry.slot? id = some slot :=
    fun id slot hslot => (h.slot?_purge_eq_some_iff.1 hslot).1
  rw [size, ← Table.length_filter_keys (fun id => Option.isSome_iff_exists) hpurged]
  congr 1
  refine List.filter_congr fun id hmem => ?_
  obtain ⟨slot, hslot⟩ := Table.mem_keys_iff.1 hmem
  rw [Bool.eq_iff_iff, Option.isSome_iff_exists, Bool.not_eq_true']
  constructor
  · intro hfresh
    exact ⟨slot, h.slot?_purge_eq_some_iff.2 ⟨hslot, hfresh⟩⟩
  · rintro ⟨other, hother⟩
    exact (h.slot?_purge_eq_some_iff.1 hother).2

/-- Every complete run of rounds after a purge makes room as it should be made. -/
theorem madeRoom_of_evicts (h : Reached nonceLength maxSessions maxIdle log)
    (hrun : Evicts (max 1 maxSessions) (log.registry.purge now maxIdle).sessions left) :
    MadeRoom log maxSessions maxIdle now left.get? := by
  have hspares := hrun.spares
  have hfresh : ∀ id slot, left.get? id = some slot →
      log.registry.slot? id = some slot ∧ log.isExpired maxIdle now id = false :=
    fun id slot hslot => h.slot?_purge_eq_some_iff.1 (hspares.kept id slot hslot)
  constructor
  case kept =>
    intro id slot hslot
    cases hleft : left.get? id with
    | none => exact .inr rfl
    | some other =>
      have hsame := (hfresh id other hleft).1.symm.trans hslot
      exact .inl hsame
  case expired =>
    intro id hcontains hexpired
    cases hleft : left.get? id with
    | none => rfl
    | some slot =>
      rw [(hfresh id slot hleft).2] at hexpired
      cases hexpired
  case count =>
    rw [h.length_filter_isExpired,
      Table.length_filter_keys (fun id => Option.isSome_iff_exists)
        fun id slot hslot => (hfresh id slot hslot).1]
    exact hrun.size_eq (Nat.le_max_left 1 maxSessions)
  case older =>
    intro gone stays hgone hstays hnone hsome
    obtain ⟨slot, hslot⟩ := contains_iff_slot?.1 hgone
    obtain ⟨kept, hkept⟩ := Option.ne_none_iff_exists'.1 hsome
    have hlater := hfresh stays kept hkept
    refine ⟨slot.lastUsed, kept.lastUsed, h.lastUse?_eq hslot, h.lastUse?_eq hlater.1, ?_⟩
    by_cases hexpired : log.isExpired maxIdle now gone = true
    · -- it was idle for too long, and the other was not
      have hlong := hexpired
      have hshort := hlater.2
      rw [h.isExpired_eq hslot, Bool.not_eq_true', decide_eq_false_iff_not] at hlong
      rw [h.isExpired_eq hlater.1, Bool.not_eq_false', decide_eq_true_iff] at hshort
      refine Nat.le_of_not_lt fun hlt => hlong (Nat.le_trans ?_ hshort)
      exact Nat.sub_le_sub_left (Nat.le_of_lt hlt) now
    · have hpurged := h.slot?_purge_eq_some_iff.2 ⟨hslot, Bool.not_eq_true _ ▸ hexpired⟩
      exact hspares.older gone slot hpurged hnone stays kept hkept

/-- The sessions other than the one that is loaded are what one complete run leaves. -/
theorem exists_evicts_load (h : Reached nonceLength maxSessions maxIdle log)
    (habsent : log.registry.contains id = false) (hfull : max 1 maxSessions ≤ log.registry.size)
    (now : Instant) (entropy : Entropy) :
    ∃ left, Evicts (max 1 maxSessions) (log.registry.purge now maxIdle).sessions left ∧
      ∀ other, other ≠ id → (log.registry.load entropy now id).2.slot? other = left.get? other := by
  refine ⟨_, evicts_evict (Nat.le_max_left 1 maxSessions) _, fun other hother => ?_⟩
  have hisFull : log.registry.isFull = true := by
    rw [isFull, h.capacity_eq]
    exact decide_eq_true hfull
  have hroom : log.registry.roomFor now id = log.registry.makeRoom now := by
    rw [roomFor, habsent, hisFull]
    rfl
  rw [slot?_load, if_neg hother, hroom, ← h.capacity_eq, ← h.maxIdle_eq]
  rfl

/-- Where nothing has to make room, every session keeps its snapshot. -/
theorem snapshot?_load_of_room {registry : Registry}
    (hroom : registry.contains id = true ∨ registry.size < registry.capacity) (entropy : Entropy)
    {other : String} {snapshot : Snapshot} (h : registry.snapshot? other = some snapshot) :
    (registry.load entropy now id).2.snapshot? other = some snapshot := by
  have hstays : registry.roomFor now id = registry := by
    rcases hroom with hcontains | hlt
    · exact roomFor_of_contains hcontains now
    · have hnotFull : registry.isFull = false := decide_eq_false (Nat.not_le.2 hlt)
      rw [roomFor, hnotFull, Bool.and_false]
      rfl
  rw [snapshot?_eq, slot?_load, hstays]
  split
  · rename_i hid
    rw [Option.map_some, load_fst, ← hid, h, Option.getD_some]
  · exact h

/-- Loading removes no session where the id has one or there is room for another. Where there is
none, the sessions that were idle for too long go, and then, in any complete run of rounds, as many
of those that were used least recently as have to go. The rounds always come to an end, and the
session that is loaded is there. -/
theorem full_registry_spares_recent (h : Reached nonceLength maxSessions maxIdle log)
    (entropy : Entropy) (now : Instant) (id : String) :
    (log.registry.contains id = true ∨ log.registry.size < max 1 maxSessions →
      ∀ other snapshot, log.registry.snapshot? other = some snapshot →
        (log.registry.load entropy now id).2.snapshot? other = some snapshot) ∧
    (log.registry.contains id = false → max 1 maxSessions ≤ log.registry.size →
      MadeRoom log maxSessions maxIdle now (log.registry.load entropy now id).2.slot? ∧
      (∀ other slot, (log.registry.purge now maxIdle).slot? other = some slot ↔
        log.registry.slot? other = some slot ∧ log.isExpired maxIdle now other = false) ∧
      (∃ left, Evicts (max 1 maxSessions) (log.registry.purge now maxIdle).sessions left ∧
        ∀ other, other ≠ id →
          (log.registry.load entropy now id).2.slot? other = left.get? other) ∧
      ∀ left, Evicts (max 1 maxSessions) (log.registry.purge now maxIdle).sessions left →
        MadeRoom log maxSessions maxIdle now left.get?) ∧
    (log.registry.load entropy now id).2.snapshot? id =
      some ((log.registry.snapshot? id).getD (log.registry.firstSnapshot entropy id)) ∧
    WellFounded fun next sessions => Round (max 1 maxSessions) sessions next := by
  refine ⟨fun hroom other snapshot hother => ?_, fun habsent hfull => ?_, ?_, wellFounded_round _⟩
  · rw [← h.capacity_eq] at hroom
    exact snapshot?_load_of_room hroom entropy hother
  · obtain ⟨left, hrun, hleft⟩ := exists_evicts_load h habsent hfull now entropy
    refine ⟨(madeRoom_of_evicts h hrun).congr fun other hcontains => hleft other ?_,
      fun _ _ => h.slot?_purge_eq_some_iff, ⟨left, hrun, hleft⟩, fun _ => madeRoom_of_evicts h⟩
    rintro rfl
    rw [habsent] at hcontains
    cases hcontains
  · rw [snapshot?_eq, slot?_load, if_pos rfl, Option.map_some, load_fst]

/-- Of two sessions the first is used again. -/
def firstUsedAgain : UseLog :=
  (((⟨.new 8 2 ⟨1000⟩, []⟩ : UseLog).act 0 (.load (.ofStreams fun _ _ => 0) "first")).act 1
    (.load (.ofStreams fun _ _ => 0) "second")).act 2 (.get "first")

/-- Room for a third session is made by the second. -/
theorem firstUsedAgain_spared :
    let loaded := (firstUsedAgain.registry.load (.ofStreams fun _ _ => 0) 3 "third").2
    (firstUsedAgain.registry.contains "third" = false ∧ 2 ≤ firstUsedAgain.registry.size) ∧
      MadeRoom firstUsedAgain 2 ⟨1000⟩ 3 loaded.slot? ∧
        loaded.contains "first" = true ∧ loaded.contains "second" = false := by
  have hreached : Reached 8 2 ⟨1000⟩ firstUsedAgain :=
    ((Reached.new.act 0 _).act 1 _).act 2 _
  have habsent : firstUsedAgain.registry.contains "third" = false := by decide
  have hfull : 2 ≤ firstUsedAgain.registry.size := by decide
  have hroom := (full_registry_spares_recent hreached (.ofStreams fun _ _ => 0) 3 "third").2.1
  exact ⟨⟨habsent, hfull⟩, (hroom habsent hfull).1, by decide, by decide⟩

end

end Registry

end HandleChallenge
