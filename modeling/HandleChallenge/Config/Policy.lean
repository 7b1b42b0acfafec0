import HandleChallenge.Config.Duration
import HandleChallenge.Json.Printer
import HandleChallenge.Json.Reader

/-!
# Policy

The settings of authentication: how long nonces are, how much work a client may ask for, how
long sessions live and how many there are. Settings are read from JSON, where each has a
default, and checked separately.
-/

namespace HandleChallenge

/-- What is wrong with a setting. -/
inductive SettingError where
  | nonceLength (length : Nat)
  | zeroDuration (setting : String)
  | zeroLimit (setting : String)
  | invalid (reason : String)
  deriving DecidableEq

/-- The wording of a setting error. -/
def SettingError.message : SettingError → String
  | nonceLength length => "Nonce length " ++ toString length ++ " outside 8..=64 bytes"
  | zeroDuration setting => "Invalid timeout: " ++ setting ++ " cannot be 0"
  | zeroLimit setting => "Invalid limit: " ++ setting ++ " cannot be 0"
  | invalid reason => "Invalid value: " ++ reason

/-- The settings of authentication. -/
structure Policy where
  /-- Bytes in a server's nonce. -/
  nonceLength : Nat
  /-- Bound on one call to another server. -/
  verificationTimeout : Duration
  /-- Whether passwords are accepted. -/
  allowBasic : Bool
  /-- Whether keys looked up without an index must come certified. -/
  requireCertified : Bool
  /-- How long a session may stay unused. -/
  sessionMaxAge : Duration
  /-- How many sessions are kept. -/
  maxSessions : Nat
  /-- How many iterations of a key derivation a client may ask for. -/
  maxIterations : UInt32
  /-- Whether the server signs when asked to. -/
  serverSigning : Bool
  deriving DecidableEq

namespace Policy

/-- Iterations of a key derivation that are allowed unless set otherwise. -/
def defaultMaxIterations : UInt32 := 10000

/-- The settings where nothing is set. -/
def default : Policy where
  nonceLength := 16
  verificationTimeout := .ofSeconds 10
  allowBasic := true
  requireCertified := true
  sessionMaxAge := .ofSeconds 1800
  maxSessions := 100000
  maxIterations := defaultMaxIterations
  serverSigning := true

def minNonceLength : Nat := 8

def maxNonceLength : Nat := 64

/-- The first setting, if any, that is out of range. -/
def validate (policy : Policy) : Except SettingError Unit :=
  if policy.nonceLength < minNonceLength ∨ maxNonceLength < policy.nonceLength then
    .error (.nonceLength policy.nonceLength)
  else if policy.verificationTimeout.millis = 0 then
    .error (.zeroDuration "verification_timeout")
  else if policy.sessionMaxAge.millis = 0 then .error (.zeroDuration "session_max_age")
  else if policy.maxSessions = 0 then .error (.zeroLimit "max_sessions")
  else if policy.maxIterations = 0 then .error (.zeroLimit "max_pbkdf2_iterations")
  else .ok ()

open Json (withDefault?)

/-- A duration in JSON is a string. -/
def duration? (json : Json) : Option Duration := do
  (Duration.parse (← json.string?)).toOption

/-- A size in JSON. -/
def size? : Json → Option Nat := Json.naturalBelow? UInt64.size

/-- The names of the settings in JSON, in order. -/
def names : List String :=
  ["nonce_length", "verification_timeout", "allow_basic", "require_certified_resolution",
    "session_max_age", "max_sessions", "max_pbkdf2_iterations", "server_signing"]

/-- The settings of a JSON record. -/
def ofJson? (json : Json) : Option Policy := do
  let members ← json.record? names
  return {
    nonceLength := (← withDefault? members "nonce_length" size? default.nonceLength)
    verificationTimeout :=
      (← withDefault? members "verification_timeout" duration? default.verificationTimeout)
    allowBasic := (← withDefault? members "allow_basic" Json.bool? default.allowBasic)
    requireCertified :=
      (← withDefault? members "require_certified_resolution" Json.bool?
        default.requireCertified)
    sessionMaxAge := (← withDefault? members "session_max_age" duration? default.sessionMaxAge)
    maxSessions := (← withDefault? members "max_sessions" size? default.maxSessions)
    maxIterations :=
      (← withDefault? members "max_pbkdf2_iterations"
        (fun json => (json.naturalBelow? UInt32.size).map UInt32.ofNat) default.maxIterations)
    serverSigning := (← withDefault? members "server_signing" Json.bool? default.serverSigning)
  }

/-- The settings of a text. -/
def parse? (text : String) : Option Policy := do ofJson? (← Json.parse? text)

/-- The settings as a JSON object. -/
def print (policy : Policy) : List Char :=
  Json.writeObject
    [("nonce_length", Json.writeNatural policy.nonceLength),
      ("verification_timeout", Json.writeString policy.verificationTimeout.text),
      ("allow_basic", Json.writeBool policy.allowBasic),
      ("require_certified_resolution", Json.writeBool policy.requireCertified),
      ("session_max_age", Json.writeString policy.sessionMaxAge.text),
      ("max_sessions", Json.writeNatural policy.maxSessions),
      ("max_pbkdf2_iterations", Json.writeNatural policy.maxIterations.toNat),
      ("server_signing", Json.writeBool policy.serverSigning)]

end Policy

end HandleChallenge
