import HandleChallenge.Authentication.Attempt
import HandleChallenge.Credential
import HandleChallenge.Session.Registry

/-!
# The service

A request is handled in two steps, and other requests may be handled between them, while a key
source is consulted. `receive` reads the request and the snapshot of its session and says what
has to be decided; `settle` takes the verdict, installs what the session is to remember on the
condition that its snapshot is still the one that was read, and answers.
-/

namespace HandleChallenge.Authentication

open Header (Known)

/-- The settings of the service and the server's own key, if it has one. -/
structure Service where
  policy : Policy
  signer : Option ServerSigner

/-- A request under way: what it says and the snapshot that was read for it. -/
structure Visit where
  request : Request
  reading : Reading
  snapshot : Snapshot
  deriving DecidableEq

/-- What was decided about a request. -/
structure Verdict where
  outcome : Outcome
  /-- It was decided by verification, for this request. -/
  verified : Bool
  deriving DecidableEq

/-- What becomes of a request when it arrives. -/
inductive Reception where
  /-- It has its answer. -/
  | answered (answer : Answer)
  /-- A verdict has to be reached. -/
  | pending (visit : Visit) (verdict : Consultation Verdict)

namespace Visit

/-- The state that was read for the request. -/
def state (visit : Visit) : SessionState := visit.snapshot.state

/-- The outcome of the last login of the session, when it was with the header of this request. -/
def recalled? (visit : Visit) : Option Outcome :=
  visit.request.authorization.bind visit.state.outcomeFor?

/-- The answer with a nonce. -/
def answer (visit : Visit) (outcome : Outcome) (serverNonce : Bytes) : Answer where
  outcome := outcome
  sessionId := visit.request.sessionId
  serverNonce := serverNonce
  requiresSession := visit.reading.needsSession

end Visit

namespace Service

/-- The refusal of a header of the scheme that cannot be read. -/
def unparseable : Refusal := .incomplete "unparseable Handle authorization"

/-- The verdict on a request that is meant for its session. -/
def verdict (service : Service) (clientNonce : Bytes) (visit : Visit) : Consultation Verdict :=
  if visit.reading.unparseable then
    .done { outcome := .failure [unparseable], verified := false }
  else if visit.reading.claims then
    match visit.recalled? with
    | some outcome => .done { outcome, verified := false }
    | none => do
      let outcome ←
        attempt service.policy visit.reading visit.state.serverNonce clientNonce
      return { outcome, verified := true }
  else
    match visit.state.login with
    | some login =>
      .done { outcome := .continuation login.identity login.kind, verified := false }
    | none => .done { outcome := .notAttempted, verified := false }

/-- The answer to a request that needs no session and has none. -/
def strangerAnswer (request : Request) (reading : Reading) : Answer where
  outcome := .notAttempted
  sessionId := request.sessionId
  serverNonce := []
  requiresSession := reading.needsSession

/-- The answer to a request that names another session. -/
def mismatchAnswer (visit : Visit) : Answer where
  outcome := .failure [.badSession]
  sessionId := visit.request.sessionId
  serverNonce := visit.state.serverNonce
  requiresSession := true

/-- What becomes of a request with the snapshot of its session. -/
def admission (service : Service) (entropy : Entropy) (visit : Visit) : Reception :=
  if visit.state.isNamedBy visit.reading.params then
    .pending visit
      (service.verdict (entropy.draw .clientNonce Credential.clientNonceLength) visit)
  else .answered (mismatchAnswer visit)

/-- The snapshot of a request's session, which is created where the request needs one. -/
def snapshotFor (registry : Registry) (entropy : Entropy) (now : Instant) (id : String)
    (needsSession : Bool) : Option Snapshot × Registry :=
  if needsSession then
    let (snapshot, registry) := registry.load entropy now id
    (some snapshot, registry)
  else registry.get now id

/-- The first step: what becomes of a request when it arrives. -/
def receive (service : Service) (entropy : Entropy) (now : Instant) (request : Request)
    (registry : Registry) : Reception × Registry :=
  let reading := Reading.ofRequest service.policy.allowBasic request
  match snapshotFor registry entropy now request.sessionId reading.needsSession with
  | (some snapshot, registry) => (service.admission entropy { request, reading, snapshot }, registry)
  | (none, registry) => (.answered (strangerAnswer request reading), registry)

/-- The server's signature for a request that asks for one, and the state that remembers it where
it is new. -/
def prove? (service : Service) (params : Header.Params) (state : SessionState) :
    Option (ServerSignature × Option SessionState) :=
  if params.asksServerSignature && service.policy.serverSigning then do
    let signer ← service.signer
    let clientNonce ← (Claim.bytesOf params .cnonce).toOption
    (state.prove clientNonce signer.certify).toOption
  else none

/-- Installs the login of a verified success. The snapshot is the one to go on with. -/
def recordLogin (registry : Registry) (now : Instant) (visit : Visit) (verdict : Verdict) :
    Snapshot × Registry :=
  if verdict.verified && verdict.outcome.succeeded then
    registry.advance now visit.request.sessionId visit.snapshot
      (visit.state.withOutcome verdict.outcome visit.request.authorization)
  else (visit.snapshot, registry)

/-- The second step: installs what the session is to remember, and answers. -/
def settle (service : Service) (now : Instant) (visit : Visit) (verdict : Verdict)
    (registry : Registry) : Answer × Registry :=
  let (snapshot, registry) := recordLogin registry now visit verdict
  match service.prove? visit.reading.params snapshot.state with
  | none => (visit.answer (verdict.outcome.withSignature none) snapshot.state.serverNonce, registry)
  | some (signature, next) =>
    let registry := match next with
      | some state => (registry.advance now visit.request.sessionId snapshot state).2
      | none => registry
    (visit.answer (verdict.outcome.withSignature (some signature)) snapshot.state.serverNonce,
      registry)

/-- Both steps with nothing between them. -/
def authenticate (service : Service) (source : KeySource) (entropy : Entropy) (now : Instant)
    (request : Request) (registry : Registry) : Answer × Registry :=
  match service.receive entropy now request registry with
  | (.answered answer, registry) => (answer, registry)
  | (.pending visit verdict, registry) =>
    service.settle now visit (verdict.run source.answer) registry

/-- Whether there is a session with the id. -/
def hasSession (registry : Registry) (id : String) : Bool := registry.contains id

/-- Gives a session a new id and answers with its new nonce. -/
def rotateSession (entropy : Entropy) (now : Instant) (id newId : String) (registry : Registry) :
    Option Bytes × Registry :=
  let (snapshot, registry) := registry.rotate entropy now id newId
  (snapshot.map (·.state.serverNonce), registry)

/-- The nonce of a session, which counts as use. -/
def sessionNonce (now : Instant) (id : String) (registry : Registry) : Option Bytes × Registry :=
  let (snapshot, registry) := registry.get now id
  (snapshot.map (·.state.serverNonce), registry)

/-- Drops the sessions that were idle for longer than the policy allows, and tells how many. -/
def purgeSessions (service : Service) (now : Instant) (registry : Registry) : Nat × Registry :=
  let purged := registry.purge now service.policy.sessionMaxAge
  (registry.size - purged.size, purged)

end Service

end HandleChallenge.Authentication
