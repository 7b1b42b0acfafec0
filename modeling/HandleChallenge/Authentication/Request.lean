import HandleChallenge.Header.Merge
import HandleChallenge.Header.Password
import HandleChallenge.Outcome

/-!
# Requests to authenticate

A request names a session and may carry an authorization header and parameters of its own. Its
reading is what the header and the parameters say together.
-/

namespace HandleChallenge.Authentication

open Header (Params PasswordClaim)

/-- A request to authenticate. -/
structure Request where
  sessionId : String
  /-- The authorization header. -/
  authorization : Option String
  /-- Parameters from elsewhere in the request. -/
  params : List (String × String)
  deriving DecidableEq

/-- The answer to a request. -/
structure Answer where
  outcome : Outcome
  sessionId : String
  /-- The nonce to answer next. -/
  serverNonce : Bytes
  /-- The client has to be told the session and its nonce. -/
  requiresSession : Bool
  deriving DecidableEq

/-- What a request says. -/
structure Reading where
  /-- The parameters of a header that can be read. -/
  header : Option Params
  /-- There is a header of the scheme that cannot be read. -/
  unparseable : Bool
  /-- An identity with a password. -/
  password : Option PasswordClaim
  /-- The parameters of header and request together. -/
  params : Params
  deriving DecidableEq

namespace Reading

/-- The reading of a request. Passwords count only where they are allowed. -/
def ofRequest (allowPasswords : Bool) (request : Request) : Reading :=
  let header := request.authorization.bind Header.parse?
  { header
    unparseable := request.authorization.any Header.namesScheme && header.isNone
    password :=
      if allowPasswords then request.authorization.bind PasswordClaim.parse? else none
    params := Header.merge header request.params }

/-- State of a session is needed for an answer. -/
def needsSession (reading : Reading) : Bool :=
  reading.header.isSome || reading.unparseable || reading.password.isSome ||
    reading.params.needsSession

/-- An identity is claimed, in whatever way. -/
def claims (reading : Reading) : Bool :=
  reading.params.claimsIdentity || reading.password.isSome || reading.unparseable

end Reading

end HandleChallenge.Authentication
