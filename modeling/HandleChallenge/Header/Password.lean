import HandleChallenge.Header.Parser
import HandleChallenge.Identity
import HandleChallenge.Text.Base64

/-!
# Passwords in headers

The scheme `Basic` carries the base64 of `handle:password`, or `index:handle:password`. A
password may hold colons, a handle may not.
-/

namespace HandleChallenge.Header

/-- An identity claimed with a password. -/
structure PasswordClaim where
  identity : Identity
  password : Bytes
  deriving DecidableEq

namespace PasswordClaim

/-- The keyword of the scheme. -/
def scheme : String := "Basic"

/-- The claim of a decoded text. -/
def ofChars? (cs : List Char) : Option PasswordClaim := do
  let (index, rest) ← (Identity.splitIndexChars cs).toOption
  match rest.takeWhile (· != ':'), rest.dropWhile (· != ':') with
  | [], _ => none
  | _, [] => none
  | handle, _ :: password =>
    return { identity := { handle := String.ofList handle, index },
             password := Text.Utf8.encodeList password }

/-- The claim of a header. -/
def parse? (raw : String) : Option PasswordClaim := do
  let encoded ← restOfScheme? scheme raw
  let decoded ← Text.Base64.decodeList? (Text.trim encoded)
  ofChars? (← Text.Utf8.decode? decoded).toList

end PasswordClaim

end HandleChallenge.Header
