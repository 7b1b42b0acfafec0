import HandleChallenge.Config.Policy
import HandleChallenge.Entropy
import HandleChallenge.Session.State
import HandleChallenge.Table

/-!
# The registry of sessions

The sessions that the server knows, each under its id. A state in the registry is a snapshot: it
has a serial number that no other snapshot has, so that a change can be installed on the
condition that the snapshot it was made from is still the installed one.

The registry is bounded. When it is full, sessions that were idle for too long make room, and
then those that were used least recently.
-/

namespace HandleChallenge

/-- A moment, in microseconds of a clock that never goes back. -/
abbrev Instant := Nat

/-- A duration in the unit of the clock. -/
def Duration.micros (duration : Duration) : Nat := duration.millis * 1000

/-- A state with a serial number of its own. -/
structure Snapshot where
  serial : Nat
  state : SessionState
  deriving DecidableEq

/-- An installed snapshot and when it was last used. -/
structure Slot where
  snapshot : Snapshot
  lastUsed : Instant
  deriving DecidableEq

/-- The sessions that the server knows. -/
structure Registry where
  sessions : Table String Slot
  /-- Bytes in a server's nonce. -/
  nonceLength : Nat
  /-- The most sessions there may be. -/
  capacity : Nat
  /-- How long a session may be idle before it makes room. -/
  maxIdle : Duration
  /-- The serial number of the next snapshot. -/
  nextSerial : Nat

namespace Registry

/-- A registry without sessions, for at least one. -/
def new (nonceLength maxSessions : Nat) (maxIdle : Duration) : Registry :=
  { sessions := Table.empty, nonceLength, capacity := max 1 maxSessions, maxIdle,
    nextSerial := 0 }

/-- A registry with the limits of a policy. -/
def ofPolicy (policy : Policy) : Registry :=
  new policy.nonceLength policy.maxSessions policy.sessionMaxAge

/-- The number of sessions. -/
def size (registry : Registry) : Nat := registry.sessions.size

/-- Whether there is a session with the id. -/
def contains (registry : Registry) (id : String) : Bool := registry.sessions.contains id

/-- The snapshot under an id. -/
def snapshot? (registry : Registry) (id : String) : Option Snapshot :=
  (registry.sessions.get? id).map Slot.snapshot

/-- A snapshot of a state, under a new serial number. -/
def issue (registry : Registry) (state : SessionState) : Snapshot × Registry :=
  ({ serial := registry.nextSerial, state },
    { registry with nextSerial := registry.nextSerial + 1 })

/-- The registry with a snapshot under an id, used now. -/
def install (registry : Registry) (now : Instant) (id : String) (snapshot : Snapshot) : Registry :=
  { registry with sessions := registry.sessions.insert id { snapshot, lastUsed := now } }

/-- The snapshot under an id, which counts as use. -/
def get (registry : Registry) (now : Instant) (id : String) : Option Snapshot × Registry :=
  match registry.snapshot? id with
  | some snapshot => (some snapshot, registry.install now id snapshot)
  | none => (none, registry)

/-- The registry without the sessions that were idle for longer than the given time. -/
def purge (registry : Registry) (now : Instant) (maxIdle : Duration) : Registry :=
  { registry with
    sessions := registry.sessions.filter fun _ slot => now - slot.lastUsed ≤ maxIdle.micros }

/-- The session that was used least recently, of several the first. -/
def leastRecent? : List (String × Slot) → Option (String × Slot)
  | [] => none
  | entry :: rest =>
    match leastRecent? rest with
    | some other => if entry.2.lastUsed ≤ other.2.lastUsed then some entry else some other
    | none => some entry

/-- The sessions without the given number of those that were used least recently. -/
def evict (sessions : Table String Slot) : (count : Nat) → Table String Slot
  | 0 => sessions
  | count + 1 =>
    match leastRecent? sessions.entries with
    | some (id, _) => evict (sessions.erase id) count
    | none => sessions

/-- Whether another session would be one too many. -/
def isFull (registry : Registry) : Bool := registry.capacity ≤ registry.size

/-- The registry with room for one more session. -/
def makeRoom (registry : Registry) (now : Instant) : Registry :=
  let purged := registry.purge now registry.maxIdle
  { purged with sessions := evict purged.sessions (purged.size + 1 - purged.capacity) }

/-- A new session under an id that has none, after room has been made for it. -/
def create (registry : Registry) (entropy : Entropy) (now : Instant) (id : String) :
    Snapshot × Registry :=
  let room := if registry.isFull then registry.makeRoom now else registry
  let (snapshot, issued) :=
    room.issue (SessionState.ofNonce id (entropy.draw .serverNonce room.nonceLength))
  (snapshot, issued.install now id snapshot)

/-- The snapshot under an id, of a new session where there is none. Counts as use. -/
def load (registry : Registry) (entropy : Entropy) (now : Instant) (id : String) :
    Snapshot × Registry :=
  match registry.get now id with
  | (some snapshot, used) => (snapshot, used)
  | (none, _) => registry.create entropy now id

/-- Installs a snapshot under an id on the condition that the given one is still there. Tells
whether it did. -/
def replaceIfCurrent (registry : Registry) (now : Instant) (id : String)
    (current next : Snapshot) : Bool × Registry :=
  if (registry.snapshot? id).map Snapshot.serial = some current.serial then
    (true, registry.install now id next)
  else (false, registry)

/-- A snapshot of a state that was made from the given one, installed if that one is still
there. -/
def advance (registry : Registry) (now : Instant) (id : String) (current : Snapshot)
    (state : SessionState) : Snapshot × Registry :=
  let (next, issued) := registry.issue state
  (next, (issued.replaceIfCurrent now id current next).2)

/-- The registry without an id, and the snapshot that was under it. -/
def remove (registry : Registry) (id : String) : Option Snapshot × Registry :=
  (registry.snapshot? id, { registry with sessions := registry.sessions.erase id })

/-- Gives a session a new id and nonce. The old id then names nothing. -/
def rotate (registry : Registry) (entropy : Entropy) (now : Instant) (id newId : String) :
    Option Snapshot × Registry :=
  match registry.remove id with
  | (some snapshot, rest) =>
    let nonce := entropy.draw .rotatedNonce registry.nonceLength
    let (next, issued) := rest.issue (snapshot.state.rotated newId nonce)
    (some next, issued.install now newId next)
  | (none, _) => (none, registry)

theorem snapshot?_install (registry : Registry) (now : Instant) (id other : String)
    (snapshot : Snapshot) :
    (registry.install now id snapshot).snapshot? other =
      if other = id then some snapshot else registry.snapshot? other := by
  by_cases h : other = id <;> simp [snapshot?, install, Table.get?_insert, h]

theorem snapshot?_purge (registry : Registry) (now : Instant) (maxIdle : Duration) (id : String) :
    (registry.purge now maxIdle).snapshot? id =
      ((registry.sessions.get? id).filter fun slot =>
        decide (now - slot.lastUsed ≤ maxIdle.micros)).map Slot.snapshot := by
  simp [snapshot?, purge, Table.get?_filter]

/-- Using a session changes no snapshot. -/
theorem snapshot?_get (registry : Registry) (now : Instant) (id other : String) :
    (registry.get now id).2.snapshot? other = registry.snapshot? other := by
  unfold get
  split
  · rename_i snapshot h
    by_cases ho : other = id
    · simp [snapshot?_install, ho, h]
    · simp [snapshot?_install, ho]
  · rfl

end Registry

end HandleChallenge
