import HandleChallenge.Header.Params
import HandleChallenge.ServerSigner

/-!
# The state of a session

A session has an id and a server's nonce, and remembers two things: the last login and the last
signature with which the server proved itself. A state is a value: every change makes a new one,
and whoever holds an older one goes on seeing it whole.
-/

namespace HandleChallenge

/-- The server's signature and the client's nonce that it answers. -/
structure ServerProof where
  clientNonce : Bytes
  signature : ServerSignature
  deriving DecidableEq

/-- What a session remembers of its last login. -/
structure Login where
  identity : Identity
  kind : CredentialKind
  /-- The header that led to the outcome, letter for letter. -/
  authorization : Option String
  outcome : Outcome
  deriving DecidableEq

/-- The state of a session. -/
structure SessionState where
  sessionId : String
  serverNonce : Bytes
  proof : Option ServerProof
  login : Option Login
  deriving DecidableEq

namespace SessionState

/-- A session that remembers nothing. -/
def ofNonce (sessionId : String) (serverNonce : Bytes) : SessionState :=
  { sessionId, serverNonce, proof := none, login := none }

/-- Whether parameters are meant for this session: they name it or none. -/
def isNamedBy (state : SessionState) (params : Header.Params) : Bool :=
  (params.known? .sessionId).all (· == state.sessionId)

/-- The same login under another id and nonce. The header and the server's signature belong to
the old nonce and are forgotten. -/
def rotated (state : SessionState) (sessionId : String) (serverNonce : Bytes) : SessionState where
  sessionId := sessionId
  serverNonce := serverNonce
  proof := none
  login := state.login.map fun login => { login with authorization := none }

/-- The session with a signature of the server. -/
def withProof (state : SessionState) (clientNonce : Bytes) (signature : ServerSignature) :
    SessionState :=
  { state with proof := some { clientNonce, signature } }

/-- The login of an outcome, when it is a success with an identity. -/
def loginOf? (outcome : Outcome) (authorization : Option String) : Option Login :=
  match outcome.succeeded, outcome.identity, outcome.kind with
  | true, some identity, some kind =>
    some { identity, kind, authorization, outcome := outcome.withSignature none }
  | _, _, _ => none

/-- The session with the login of an outcome; an outcome without one leaves the old login. -/
def withOutcome (state : SessionState) (outcome : Outcome) (authorization : Option String) :
    SessionState :=
  { state with login := (loginOf? outcome authorization).or state.login }

/-- The outcome of the last login, when it was with the very same header. -/
def outcomeFor? (state : SessionState) (authorization : String) : Option Outcome :=
  match state.login with
  | some login => if login.authorization = some authorization then some login.outcome else none
  | none => none

/-- The message with which the server proves itself. -/
def proofMessage (state : SessionState) (clientNonce : Bytes) : Bytes :=
  state.serverNonce ++ clientNonce

/-- The server's signature for a client's nonce: the last one when it answers that nonce, and
otherwise a new one, with the state that remembers it. -/
def prove (state : SessionState) (clientNonce : Bytes)
    (sign : Bytes → Except SignerError ServerSignature) :
    Except SignerError (ServerSignature × Option SessionState) :=
  match state.proof.filter (·.clientNonce == clientNonce) with
  | some proof => .ok (proof.signature, none)
  | none => do
    let signature ← sign (state.proofMessage clientNonce)
    return (signature, some (state.withProof clientNonce signature))

end SessionState

end HandleChallenge
