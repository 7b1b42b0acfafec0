import HandleChallenge.Json.Printer
import HandleChallenge.Json.Reader
import HandleChallenge.Outcome

/-!
# Identities, values and signatures in JSON

Each is a record of which every field is required; members that are not known are passed over.
-/

namespace HandleChallenge

namespace Json

/-- A number of thirty-two bits. -/
def word? (json : Json) : Option UInt32 := (json.naturalBelow? UInt32.size).map UInt32.ofNat

/-- An array of bytes. -/
def bytes? : Json → Option Bytes :=
  arrayOf? fun json => (json.naturalBelow? 256).map UInt8.ofNat

def writeBytes (bytes : Bytes) : List Char :=
  writeArray (bytes.map fun b => writeNatural b.toNat)

end Json

open Json

def Identity.ofJson? (json : Json) : Option Identity := do
  let members ← json.record? ["handle", "index"]
  return { handle := (← required? members "handle" string?),
           index := (← required? members "index" word?) }

def Identity.toJson (identity : Identity) : String :=
  String.ofList <| writeObject
    [("handle", writeString identity.handle), ("index", writeNatural identity.index.toNat)]

def Value.ofJson? (json : Json) : Option Value := do
  let members ← json.record? ["index", "value_type", "data"]
  return { index := (← required? members "index" word?),
           type := (← required? members "value_type" string?),
           data := (← required? members "data" bytes?) }

def Value.toJson (value : Value) : String :=
  String.ofList <| writeObject
    [("index", writeNatural value.index.toNat), ("value_type", writeString value.type),
      ("data", writeBytes value.data)]

/-- The name of a kind in JSON. -/
def CredentialKind.jsonName : CredentialKind → String
  | secretKey => "SecretKey"
  | publicKey => "PublicKey"

/-- A kind by its name, or as an object whose one member is the name with nothing. -/
def CredentialKind.ofJson? (json : Json) : Option CredentialKind :=
  let ofName? (name : String) : Option CredentialKind :=
    [secretKey, publicKey].find? (·.jsonName == name)
  match json with
  | .string name => ofName? name
  | .object [(some name, .null)] => ofName? name
  | _ => none

def CredentialKind.toJson (kind : CredentialKind) : String :=
  String.ofList (writeString kind.jsonName)

def ServerSignature.ofJson? (json : Json) : Option ServerSignature := do
  let members ← json.record? ["algorithm", "bytes"]
  return { algorithm := (← required? members "algorithm" string?),
           bytes := (← required? members "bytes" bytes?) }

def ServerSignature.toJson (signature : ServerSignature) : String :=
  String.ofList <| writeObject
    [("algorithm", writeString signature.algorithm), ("bytes", writeBytes signature.bytes)]

end HandleChallenge
