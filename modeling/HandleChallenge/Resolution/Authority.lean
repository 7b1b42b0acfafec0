import HandleChallenge.Config.Policy
import HandleChallenge.Resolution.Records
import HandleChallenge.Secret.Mac

/-!
# The server that is responsible for handles

It resolves queries from its own records and checks MACs with its own secrets.
-/

namespace HandleChallenge.Resolution

/-- A server with records of its own. -/
structure Authority where
  records : Records
  /-- It vouches for answers when asked to. -/
  certifies : Bool
  /-- The most work that it accepts for one derived key. -/
  maxIterations : UInt32

namespace Authority

/-- A server that vouches for its answers, with the given records. -/
def ofRecords (records : Records) : Authority :=
  { records, certifies := true, maxIterations := Policy.defaultMaxIterations }

/-- The values that a query selects. -/
def resolve (authority : Authority) (query : Query) : Except Error Response := do
  let values ← authority.records.values query.handle
  return { values := values.filter query.selects,
           certified := query.certify && authority.certifies }

/-- Whether a MAC is right under the secret at the named index. Without a secret there it is
not. -/
def check (authority : Authority) (request : MacCheck) : Except Error Bool := do
  let algorithm ← (Algorithm.ofWireCode request.code).mapError fun refusal =>
    Error.unsupported refusal.message
  let values ← authority.records.values request.handle
  let isSecret (value : Value) : Bool :=
    value.index == request.index && value.inFamily CredentialKind.secretKey.tag
  match values.find? isSecret with
  | none => return false
  | some secret =>
    (Mac.verify algorithm secret.data request.serverNonce request.clientNonce request.mac
      authority.maxIterations).mapError fun refusal => Error.malformedResponse refusal.message

end Authority

end HandleChallenge.Resolution
