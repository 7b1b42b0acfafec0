import HandleChallenge.Http.Headers

/-!
# Requests and responses

What the gateway sees of HTTP: of a request its target, its fields and whether it came over a
transport that the server itself secured, and of a response its status, its fields and its body.
-/

namespace HandleChallenge.Http

/-- A request. -/
structure Request where
  /-- The target, a path or a whole address. -/
  target : String
  headers : Headers
  /-- It came over a transport that was secured here. -/
  securedHere : Bool
  deriving DecidableEq

/-- A response. -/
structure Response where
  status : Nat
  headers : Headers
  body : Bytes
  deriving DecidableEq

namespace Request

/-- The query of the target: what follows the first `?`, up to a fragment. -/
def query? (request : Request) : Option String :=
  match (request.target.toList.takeWhile (· != '#')).dropWhile (· != '?') with
  | [] => none
  | _ :: query => some (String.ofList query)

/-- What an address of the secure scheme starts with. -/
def secureScheme : List Char := "https://".toList

/-- Whether the target is an address of the secure scheme. -/
def namesSecureScheme (request : Request) : Bool :=
  Text.sameIgnoringCase (request.target.toList.take secureScheme.length) secureScheme

end Request

end HandleChallenge.Http
