import HandleChallenge.Entropy
import HandleChallenge.Http.Message
import HandleChallenge.Text.Blank
import HandleChallenge.Text.Uuid

/-!
# Session cookies

A client carries the id of its session in a cookie. Of several cookies with the name the first
with a value counts; headers that are not text are passed over.
-/

namespace HandleChallenge.Gateway

/-- The session of a request. -/
structure SessionId where
  id : String
  /-- It was made for this request, and the client does not know it yet. -/
  isNew : Bool
  deriving DecidableEq

/-- The name and value of a pair around its first `=`. -/
def splitPair? (pair : List Char) : Option (List Char × List Char) :=
  match pair.dropWhile (· != '=') with
  | [] => none
  | _ :: value => some (pair.takeWhile (· != '='), value)

/-- The pairs of a header. -/
def cookiePairs (text : String) : List (List Char × List Char) :=
  (text.toList.splitOn ';').filterMap fun pair => splitPair? (Text.trim pair)

/-- A value without the quotes around it. -/
def unquote (value : List Char) : List Char :=
  ((value.dropWhile (· == '"')).reverse.dropWhile (· == '"')).reverse

/-- The value of a cookie: of the first pair with the name whose value is not empty. -/
def findCookie? (headers : Http.Headers) (name : String) : Option String :=
  let pairs := (headers.values "cookie").filterMap Http.textOf? |>.flatMap cookiePairs
  (pairs.find? fun (key, value) => key == name.toList && value != []).map fun (_, value) =>
    String.ofList (unquote value)

namespace SessionId

/-- A new id of random bytes. -/
def mint (entropy : Entropy) : SessionId where
  id := Text.Uuid.ofRandom (entropy.draw .sessionId Text.Uuid.byteLength)
  isNew := true

/-- The id in the named cookie, or a new one. -/
def ofHeaders (entropy : Entropy) (headers : Http.Headers) (cookieName : String) : SessionId :=
  match findCookie? headers cookieName with
  | some id => { id, isNew := false }
  | none => mint entropy

/-- The cookie that hands the id to the client. -/
def setCookie (session : SessionId) (cookieName : String) (secure : Bool) : String :=
  cookieName ++ "=" ++ session.id ++ "; Path=/; HttpOnly; SameSite=Lax" ++
    if secure then "; Secure" else ""

end SessionId

end HandleChallenge.Gateway
