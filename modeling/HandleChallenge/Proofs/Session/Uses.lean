import HandleChallenge.Proofs.Session.Slots

/-!
# When sessions were used

A registry writes down for each session when it was last used. `UseLog` follows what is done to a
registry from outside, in any order and at any times, and notes each use: that a session is loaded,
read, created, replaced, or moved to a new id. `Reached.lastUse?_eq` says that the time in a slot is
the latest one noted.
-/

namespace HandleChallenge.Registry

/-- What is done to a registry. -/
inductive Action where
  | load (entropy : Entropy) (id : String)
  | get (id : String)
  | issue (state : SessionState)
  | replace (id : String) (current next : Snapshot)
  | rotate (entropy : Entropy) (id newId : String)
  | remove (id : String)
  | purge (maxIdle : Duration)

namespace Action

/-- The registry after an action. -/
def apply (now : Instant) (registry : Registry) : Action → Registry
  | load entropy id => (registry.load entropy now id).2
  | get id => (registry.get now id).2
  | issue state => (registry.issue state).2
  | replace id current next => (registry.replaceIfCurrent now id current next).2
  | rotate entropy id newId => (registry.rotate entropy now id newId).2
  | remove id => (registry.remove id).2
  | purge maxIdle => registry.purge now maxIdle

/-- The session that an action uses. A session is used under the id that it has afterwards. -/
def used? (registry : Registry) : Action → Option String
  | load _ id => some id
  | get id => if registry.contains id then some id else none
  | replace id current _ => if registry.Holds id current then some id else none
  | rotate _ id newId => if registry.contains id then some newId else none
  | issue _ | remove _ | purge _ => none

end Action

/-- A registry and the uses of its sessions, the latest first. -/
structure UseLog where
  registry : Registry
  uses : List (String × Instant)

namespace UseLog

/-- The latest use of a session. -/
def lastUse? (log : UseLog) (id : String) : Option Instant := log.uses.lookup id

/-- An action is done and noted. -/
def act (log : UseLog) (now : Instant) (action : Action) : UseLog where
  registry := action.apply now log.registry
  uses := ((action.used? log.registry).map fun id => (id, now)).toList ++ log.uses

/-- What actions lead to, from a registry without sessions. -/
inductive Reached (nonceLength maxSessions : Nat) (maxIdle : Duration) : UseLog → Prop where
  | new : Reached nonceLength maxSessions maxIdle ⟨.new nonceLength maxSessions maxIdle, []⟩
  | act {log : UseLog} (h : Reached nonceLength maxSessions maxIdle log) (now : Instant)
      (action : Action) : Reached nonceLength maxSessions maxIdle (log.act now action)

end UseLog

variable {registry : Registry} {now : Instant} {action : Action} {id : String} {slot : Slot}

/-! ### What one action does -/

/-- The session with an id was used, or is as it was. -/
inductive Traced (registry : Registry) (now : Instant) (action : Action) (id : String)
    (slot : Slot) : Prop where
  | used (hused : action.used? registry = some id) (hnow : slot.lastUsed = now)
  | kept (hunused : action.used? registry ≠ some id) (hkept : registry.slot? id = some slot)

theorem traced_load {entropy : Entropy} {loaded : String}
    (h : (registry.load entropy now loaded).2.slot? id = some slot) :
    Traced registry now (.load entropy loaded) id slot := by
  rw [slot?_load] at h
  split at h
  · rename_i hid
    cases h
    exact .used (congrArg some hid.symm) rfl
  · rename_i hid
    refine .kept (fun hused => hid (Option.some.inj hused).symm) ?_
    rcases slot?_roomFor_cases registry now loaded id with hsame | ⟨hgone, -⟩
    · exact hsame.symm.trans h
    · cases hgone.symm.trans h

theorem traced_get {got : String} (h : (registry.get now got).2.slot? id = some slot) :
    Traced registry now (.get got) id slot := by
  rw [slot?_get] at h
  split at h
  · rename_i hid
    subst hid
    obtain ⟨held, hheld, rfl⟩ := Option.map_eq_some_iff.1 h
    exact .used (if_pos (contains_iff_slot?.2 ⟨held, hheld⟩)) rfl
  · rename_i hid
    refine .kept (fun hused => hid ?_) h
    exact (Option.some.inj (Option.ite_none_right_eq_some.1 hused).2).symm

theorem traced_replace {replaced : String} {current next : Snapshot}
    (h : (registry.replaceIfCurrent now replaced current next).2.slot? id = some slot) :
    Traced registry now (.replace replaced current next) id slot := by
  by_cases hholds : registry.Holds replaced current
  · rw [replaceIfCurrent_of_holds hholds, slot?_install] at h
    split at h
    · rename_i hid
      cases h
      exact .used ((if_pos hholds).trans (congrArg some hid.symm)) rfl
    · rename_i hid
      refine .kept (fun hused => hid ?_) h
      exact (Option.some.inj (Option.ite_none_right_eq_some.1 hused).2).symm
  · rw [replaceIfCurrent_of_not_holds hholds] at h
    refine .kept (fun hused => ?_) h
    exact hholds (Option.ite_none_right_eq_some.1 hused).1

theorem traced_rotate {entropy : Entropy} {old newId : String}
    (h : (registry.rotate entropy now old newId).2.slot? id = some slot) :
    Traced registry now (.rotate entropy old newId) id slot := by
  cases hread : registry.snapshot? old with
  | none =>
    rw [rotate_of_none hread] at h
    refine .kept (fun hused => ?_) h
    have habsent := contains_eq_false_iff.2 hread
    rw [(Option.ite_none_right_eq_some.1 hused).1] at habsent
    cases habsent
  | some snapshot =>
    have hcontains := contains_iff_snapshot?.2 ⟨snapshot, hread⟩
    rw [slot?_rotate_of_some hread] at h
    split at h
    · rename_i hid
      cases h
      exact .used ((if_pos hcontains).trans (congrArg some hid.symm)) rfl
    · rename_i hid
      split at h
      · cases h
      · refine .kept (fun hused => hid ?_) h
        exact (Option.some.inj (Option.ite_none_right_eq_some.1 hused).2).symm

theorem traced_remove {removed : String} (h : (registry.remove removed).2.slot? id = some slot) :
    Traced registry now (.remove removed) id slot := by
  rw [slot?_remove] at h
  split at h
  · cases h
  · exact .kept (fun hused => nomatch hused) h

theorem traced_purge {maxIdle : Duration} (h : (registry.purge now maxIdle).slot? id = some slot) :
    Traced registry now (.purge maxIdle) id slot := by
  refine .kept (fun hused => nomatch hused) ?_
  rcases slot?_purge_cases registry now maxIdle id with hsame | hgone
  · exact hsame.symm.trans h
  · cases hgone.symm.trans h

/-- Every session that is there after an action was used by it or left alone. -/
theorem traced_apply (h : (action.apply now registry).slot? id = some slot) :
    Traced registry now action id slot := by
  cases action with
  | load entropy loaded => exact traced_load h
  | get got => exact traced_get h
  | issue state => exact .kept (fun hused => nomatch hused) h
  | replace replaced current next => exact traced_replace h
  | rotate entropy old newId => exact traced_rotate h
  | remove removed => exact traced_remove h
  | purge maxIdle => exact traced_purge h

theorem limits_apply (registry : Registry) (now : Instant) (action : Action) :
    (action.apply now registry).limits = registry.limits := by
  cases action with
  | load entropy id => exact limits_load _ _ _ _
  | get id => exact limits_get _ _ _
  | issue state => exact limits_issue _ state
  | replace id current next => exact limits_replaceIfCurrent _ _ _ _ _
  | rotate entropy id newId => exact limits_rotate _ _ _ _ _
  | remove id => exact limits_remove _ _
  | purge maxIdle => exact limits_purge _ _ _

/-! ### What any actions do -/

namespace UseLog

variable {log : UseLog} {nonceLength maxSessions : Nat} {maxIdle : Duration}

/-- Of a session that an action uses, this is the latest use. -/
theorem lastUse?_act (log : UseLog) (now : Instant) (action : Action) (id : String) :
    (log.act now action).lastUse? id =
      if action.used? log.registry = some id then some now else log.lastUse? id := by
  unfold lastUse? act
  cases hused : action.used? log.registry with
  | none => simp
  | some other =>
    by_cases hid : id = other
    · simp [hid]
    · have hother : ¬ other = id := fun h => hid h.symm
      simp [List.lookup_cons, beq_eq_false_iff_ne.2 hid, hother]

/-- The time in a slot is that of the latest use. -/
theorem Reached.lastUse?_eq (h : Reached nonceLength maxSessions maxIdle log)
    (hslot : log.registry.slot? id = some slot) : log.lastUse? id = some slot.lastUsed := by
  induction h generalizing slot with
  | new => cases hslot
  | act h now action ih =>
    rw [lastUse?_act]
    rcases traced_apply hslot with ⟨hused, hnow⟩ | ⟨hunused, hkept⟩
    · rw [if_pos hused, hnow]
    · rw [if_neg hunused, ih hkept]

/-- The limits are those of the registry at the start. -/
theorem Reached.limits_eq (h : Reached nonceLength maxSessions maxIdle log) :
    log.registry.limits = (Registry.new nonceLength maxSessions maxIdle).limits := by
  induction h with
  | new => rfl
  | act h now action ih => exact (limits_apply _ now action).trans ih

end UseLog

end HandleChallenge.Registry
