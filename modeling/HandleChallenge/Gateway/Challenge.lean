import HandleChallenge.Header.Printer
import HandleChallenge.Outcome
import HandleChallenge.Text.Base64

/-!
# Challenges

What a response tells the client: its session and the nonce to answer, the server's signature
where it was asked for, and what was wrong with the request. It is a header of the scheme, like
the client's own. Errors may hold any text, so they are written with percent escapes.
-/

namespace HandleChallenge.Gateway

/-- What a client is told. -/
structure Challenge where
  sessionId : String
  nonce : Bytes
  signature : Option ServerSignature
  errors : List String
  deriving DecidableEq

/-- The characters of an error that stand for themselves. -/
def keepsInError (c : Char) : Bool :=
  0x20 ≤ c.toNat && c.toNat < 0x7F && c != '%' && c != '"' && c != '\\'

/-- Errors in one text. -/
def joinErrors (errors : List String) : List Char :=
  List.intercalate [';', ' '] (errors.map String.toList)

/-- A header of the scheme with the given items. -/
def writeHeader (items : List (String × List Char)) : String :=
  String.ofList <| Header.scheme.toList ++ ' ' ::
    Header.joinItems (items.map fun (name, value) => Header.writeItem name.toList value)

/-- The item that carries errors. -/
def errorItem (errors : List String) : String × List Char :=
  ("error", Text.Percent.encodeList keepsInError (joinErrors errors))

/-- The header that carries nothing but errors. -/
def renderErrors (errors : List String) : String := writeHeader [errorItem errors]

namespace Challenge

/-- The items of a signature. -/
def signatureItems (signature : ServerSignature) : List (String × List Char) :=
  [("serverAlg", signature.algorithm.toList),
    ("serverSignature", Text.Base64.encodeList signature.bytes)]

/-- The items of a challenge. -/
def items (challenge : Challenge) : List (String × List Char) :=
  [("sessionId", challenge.sessionId.toList), ("nonce", Text.Base64.encodeList challenge.nonce)] ++
    challenge.signature.toList.flatMap signatureItems ++
    if challenge.errors.isEmpty then [] else [errorItem challenge.errors]

/-- The header of a challenge. -/
def render (challenge : Challenge) : String := writeHeader challenge.items

end Challenge

end HandleChallenge.Gateway
