import HandleChallenge.Authentication.Service
import HandleChallenge.Config.Gateway
import HandleChallenge.Gateway.Challenge
import HandleChallenge.Gateway.SessionCookie
import HandleChallenge.Text.Form

/-!
# The layer before a service

Every request passes through the layer, which asks the authentication service about it. A request
whose claim is refused is answered here; every other is passed on with its outcome, and the
layer adds a challenge and a cookie to the response. An id is never taken from a client: a cookie
that names no session gets a new one, and a login under an id that the client already had moves
the session to a new id.
-/

namespace HandleChallenge.Gateway

open Authentication (Service)

/-- A call to the authentication service. -/
inductive ServiceCall where
  | hasSession (id : String)
  | authenticate (request : Authentication.Request)
  | rotate (id newId : String)
  deriving DecidableEq

/-- What the authentication service may answer. -/
def ServiceCall.Answer : ServiceCall → Type
  | hasSession _ => Bool
  | authenticate _ => Authentication.Answer
  | rotate _ _ => Option Bytes

/-- A computation that calls the authentication service on the way. -/
abbrev Exchange := Dialogue ServiceCall.Answer

/-- What becomes of a request. -/
inductive Passage where
  /-- It is answered by the layer. -/
  | refused (response : Http.Response)
  /-- It is passed on, and the response gets a challenge and a cookie. -/
  | passed (outcome : Outcome) (challenge cookie : Option String)

/-- A response with a challenge and a cookie. -/
def decorate (response : Http.Response) (challenge cookie : Option String) : Http.Response :=
  { response with
    headers := (response.headers.setText? "www-authenticate" challenge).setText? "set-cookie" cookie }

/-- The response to a request, where the wrapped service answers what is passed on. -/
def Passage.respond (inner : Outcome → Http.Response) : Passage → Http.Response
  | refused response => response
  | passed outcome challenge cookie => decorate (inner outcome) challenge cookie

/-- The response of a refusal. -/
def unauthorized (diagnostics : List String) : Http.Response where
  status := 401
  headers := Http.Headers.empty.setText "content-type" "application/json"
  body := Text.Utf8.encodeList <| Json.writeObject
    [("diagnostics", Json.writeArray (diagnostics.map Json.writeString)),
      ("error", Json.writeString "unauthorized")]

/-- The response to a header over a transport that is not secure. -/
def insecureResponse : Http.Response :=
  let diagnostics := [Refusal.insecureTransport.diagnostic]
  decorate (unauthorized diagnostics) (some (renderErrors diagnostics)) none

/-- Whether a request came over a secure transport, on a proxy's word where that is trusted. -/
def isSecure (settings : GatewaySettings) (request : Http.Request) : Bool :=
  request.securedHere || request.namesSecureScheme ||
    (settings.trustForwarded &&
      (request.headers.text? "x-forwarded-proto").any fun scheme =>
        Text.sameIgnoringCase (Text.trim scheme.toList) "https".toList)

/-- The session of a request: the one in its cookie if there is such a session, else a new one. -/
def sessionOf (settings : GatewaySettings) (entropy : Entropy) (request : Http.Request) :
    Exchange SessionId :=
  let named := SessionId.ofHeaders entropy request.headers settings.cookieName
  if named.isNew then .done named
  else .ask (.hasSession named.id) fun (known : Bool) =>
    .done (if known then named else SessionId.mint entropy)

/-- The request to the authentication service. -/
def authenticationRequest (request : Http.Request) (session : SessionId) :
    Authentication.Request where
  sessionId := session.id
  authorization := request.headers.text? "authorization"
  params := (request.query?.map Text.Form.fields).getD []

/-- The session and answer to go on with: after a login under an id that the client already had
the session gets a new one, if it still exists. -/
def afterLogin (entropy : Entropy) (session : SessionId) (answer : Authentication.Answer) :
    Exchange (SessionId × Authentication.Answer) :=
  if answer.outcome.attempted && answer.outcome.succeeded && !session.isNew then
    let rotated := SessionId.mint entropy
    .ask (.rotate session.id rotated.id) fun
      | some nonce =>
        .done (rotated,
          { answer with
            sessionId := rotated.id
            serverNonce := nonce
            outcome := answer.outcome.withSignature none })
      | none => .done (session, answer)
  else .done (session, answer)

/-- The challenge of an answer, where the client has to be told its session. -/
def challengeOf (answer : Authentication.Answer) : Option String :=
  if answer.requiresSession then
    some <| Challenge.render
      { sessionId := answer.sessionId, nonce := answer.serverNonce,
        signature := answer.outcome.signature, errors := answer.outcome.diagnostics }
  else none

/-- The cookie of an answer, where the client does not know its session yet. -/
def cookieOf (settings : GatewaySettings) (secure : Bool) (session : SessionId)
    (answer : Authentication.Answer) : Option String :=
  if session.isNew && answer.requiresSession then
    some (session.setCookie settings.cookieName secure)
  else none

/-- What becomes of a request with its answer. -/
def conclude (settings : GatewaySettings) (secure : Bool) (session : SessionId)
    (answer : Authentication.Answer) : Passage :=
  let cookie := cookieOf settings secure session answer
  if answer.outcome.isFailure then
    let diagnostics := answer.outcome.diagnostics
    let challenge := (challengeOf answer).getD (renderErrors diagnostics)
    .refused (decorate (unauthorized diagnostics) (some challenge) cookie)
  else .passed answer.outcome (challengeOf answer) cookie

/-- What becomes of a request. -/
def handle (settings : GatewaySettings) (entropy : Entropy) (request : Http.Request) :
    Exchange Passage := do
  let secure := isSecure settings request
  let session ← sessionOf settings entropy request
  let asked := authenticationRequest request session
  if asked.authorization.isSome && settings.requireSecure && !secure then
    return .refused insecureResponse
  else
    .ask (.authenticate asked) fun (answer : Authentication.Answer) => do
      let (session, answer) ← afterLogin entropy session answer
      return conclude settings secure session answer

/-- The answer of the service to a call, with nothing between its steps. -/
def answerCall (service : Service) (source : KeySource) (entropy : Entropy) (now : Instant) :
    (call : ServiceCall) → StateM Registry call.Answer
  | .hasSession id => fun registry => (Service.hasSession registry id, registry)
  | .authenticate request => service.authenticate source entropy now request
  | .rotate id newId => Service.rotateSession entropy now id newId

end HandleChallenge.Gateway
