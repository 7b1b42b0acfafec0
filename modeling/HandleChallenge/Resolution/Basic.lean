import HandleChallenge.Refusal

/-!
# Resolution

To resolve a handle is to ask for its values, or for those that a query selects. A resolver may
vouch for its answer, and the server that is responsible for a handle can also be asked to check
a MAC with a secret that it does not hand out.
-/

namespace HandleChallenge.Resolution

/-- Why a resolution failed. -/
inductive Error where
  | notFound (handle : String)
  | notCertified
  | timeout
  | transport (reason : String)
  | malformedResponse (reason : String)
  | unsupported (what : String)
  deriving DecidableEq

/-- The wording of a resolution error. -/
def Error.message : Error → String
  | notFound handle => "Handle not found: " ++ handle
  | notCertified => "Resolution response not certified"
  | timeout => "Request timed out"
  | transport reason => "Transport error: " ++ reason
  | malformedResponse reason => "Malformed response: " ++ reason
  | unsupported what => "Unsupported request: " ++ what

/-- A handle that cannot be resolved refuses the claim that names it. -/
def Error.refusal (error : Error) : Refusal := .unresolvable error.message

/-- A question for values of a handle. -/
structure Query where
  handle : String
  /-- Families of types to select. -/
  types : List String
  /-- Indices to select. -/
  indices : List UInt32
  /-- Ask the resolver to vouch for the answer. -/
  certify : Bool
  deriving DecidableEq

namespace Query

/-- The values of one family of types. -/
def byType (handle type : String) : Query :=
  { handle, types := [type], indices := [], certify := false }

/-- The value at one index. -/
def byIndex (handle : String) (index : UInt32) : Query :=
  { handle, types := [], indices := [index], certify := false }

/-- The same question, for an answer that is vouched for. -/
def certified (query : Query) : Query := { query with certify := true }

/-- Whether the query selects a value: by its index or by its type, or because it selects
everything. -/
def selects (query : Query) (value : Value) : Bool :=
  (query.types.isEmpty && query.indices.isEmpty) || query.indices.contains value.index ||
    query.types.any value.inFamily

end Query

/-- A resolver's answer to a query. -/
structure Response where
  values : List Value
  /-- The resolver vouches for the values. -/
  certified : Bool
  deriving DecidableEq

/-- A request to check a MAC with the secret at an index of a handle. -/
structure MacCheck where
  handle : String
  index : UInt32
  serverNonce : Bytes
  clientNonce : Bytes
  /-- The code byte of the algorithm. -/
  code : UInt8
  mac : Bytes
  deriving DecidableEq

end HandleChallenge.Resolution
