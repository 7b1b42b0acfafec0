import HandleChallenge.KeySource.Basic
import HandleChallenge.Resolution.Authority

/-!
# Keys from another server

A source that asks the server that is responsible for the handle: it resolves public keys, and
sends MACs to be checked where the secret is. Each remote call may go unanswered until its time
is up, and none is repeated. Keys that no index names must come with a certified answer.
-/

namespace HandleChallenge

/-- A call to another server. -/
inductive RemoteCall where
  | resolve (query : Resolution.Query)
  | check (request : Resolution.MacCheck)
  deriving DecidableEq

/-- What a call may end with; nothing when the time is up. -/
def RemoteCall.Answer : RemoteCall → Type
  | resolve _ => Option (Except Resolution.Error Resolution.Response)
  | check _ => Option (Except Resolution.Error Bool)

/-- The calls to a server with records of its own. -/
def Resolution.Authority.answer (authority : Authority) : (call : RemoteCall) → call.Answer
  | .resolve query => some (authority.resolve query)
  | .check request => some (authority.check request)

namespace KeySource.Delegated

open Resolution (Query MacCheck Response)

/-- The answer of a call, if it came in time and was not an error. -/
def answered {α : Type} : Option (Except Resolution.Error α) → Except Refusal α
  | some (.ok answer) => .ok answer
  | some (.error error) => .error error.refusal
  | none => .error Resolution.Error.timeout.refusal

/-- The question for an identity's public keys. -/
def keyQuery (identity : Identity) : Query :=
  if identity.hasIndex then Query.byIndex identity.handle identity.index
  else (Query.byType identity.handle CredentialKind.publicKey.tag).certified

/-- The public keys in an answer. -/
def keysOf (requireCertified : Bool) (identity : Identity) (response : Response) :
    Except Refusal (List Value) :=
  if (keyQuery identity).certify && requireCertified && !response.certified then
    .error Resolution.Error.notCertified.refusal
  else .ok (identity.select CredentialKind.publicKey.tag response.values)

/-- The request to check a challenge. -/
def macCheck (challenge : SecretChallenge) : MacCheck where
  handle := challenge.identity.handle
  index := challenge.identity.index
  serverNonce := challenge.serverNonce
  clientNonce := challenge.clientNonce
  code := challenge.algorithm.wireCode
  mac := challenge.payload

/-- The public keys that an identity may use. -/
def candidates (requireCertified : Bool) (identity : Identity) :
    Dialogue RemoteCall.Answer (Except Refusal (List Value)) :=
  .ask (.resolve (keyQuery identity)) fun answer =>
    .done ((answered answer).bind (keysOf requireCertified identity))

/-- The index of the secret under which a MAC is right, which has to be named. -/
def secret (challenge : SecretChallenge) : Dialogue RemoteCall.Answer (Except Refusal (Option UInt32)) :=
  if challenge.identity.hasIndex then
    .ask (.check (macCheck challenge)) fun answer =>
      .done ((answered answer).map fun valid =>
        if valid then some challenge.identity.index else none)
  else
    .done (.error
      (Resolution.Error.unsupported "remote secret key verification needs an index").refusal)

end KeySource.Delegated

/-- The source that calls another server, which answers as given. -/
def KeySource.delegated (requireCertified : Bool) (remote : (call : RemoteCall) → call.Answer) :
    KeySource where
  candidates identity := (Delegated.candidates requireCertified identity).run remote
  secret challenge := (Delegated.secret challenge).run remote

end HandleChallenge
