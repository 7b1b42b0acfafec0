import HandleChallenge.Config.Policy
import HandleChallenge.Text.Literal

/-!
# Gateway settings

What the HTTP side needs to know besides the policy: the name of the session cookie and when a
request counts as secure.
-/

namespace HandleChallenge

/-- The settings of the gateway. -/
structure GatewaySettings where
  /-- The name of the cookie that carries the session's id. -/
  cookieName : String
  /-- Refuse headers that come over an insecure transport. -/
  requireSecure : Bool
  /-- Believe a proxy's word about the transport. -/
  trustForwarded : Bool
  policy : Policy
  deriving DecidableEq

namespace GatewaySettings

/-- The settings where nothing is set. -/
def default : GatewaySettings where
  cookieName := "HDLSESSIONID"
  requireSecure := false
  trustForwarded := false
  policy := Policy.default

/-- The characters of an HTTP token. -/
def isTokenChar (c : Char) : Bool := c.isAlphanum || "!#$%&'*+-.^_\x60|~".toList.contains c

/-- The first setting, if any, that is out of range. A cookie's name is an HTTP token. -/
def validate (settings : GatewaySettings) : Except SettingError Unit :=
  if settings.cookieName = "" then .error (.invalid "session_cookie cannot be empty")
  else if settings.cookieName.toList.all isTokenChar = false then
    .error (.invalid ("session_cookie " ++ Text.Literal.quote settings.cookieName ++
      " is not a valid cookie name"))
  else settings.policy.validate

open Json (withDefault?)

/-- The names of the settings in JSON, in order. -/
def names : List String :=
  ["session_cookie", "require_secure_transport", "trust_forwarded_proto", "auth"]

/-- The settings of a JSON record. -/
def ofJson? (json : Json) : Option GatewaySettings := do
  let members ← json.record? names
  return {
    cookieName := (← withDefault? members "session_cookie" Json.string? default.cookieName)
    requireSecure :=
      (← withDefault? members "require_secure_transport" Json.bool? default.requireSecure)
    trustForwarded :=
      (← withDefault? members "trust_forwarded_proto" Json.bool? default.trustForwarded)
    policy := (← withDefault? members "auth" Policy.ofJson? default.policy)
  }

/-- The settings of a text. -/
def parse? (text : String) : Option GatewaySettings := do ofJson? (← Json.parse? text)

/-- The settings as a JSON object. -/
def print (settings : GatewaySettings) : List Char :=
  Json.writeObject
    [("session_cookie", Json.writeString settings.cookieName),
      ("require_secure_transport", Json.writeBool settings.requireSecure),
      ("trust_forwarded_proto", Json.writeBool settings.trustForwarded),
      ("auth", settings.policy.print)]

end GatewaySettings

end HandleChallenge
