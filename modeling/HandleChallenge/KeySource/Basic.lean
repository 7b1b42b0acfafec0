import HandleChallenge.Algorithm
import HandleChallenge.Dialogue
import HandleChallenge.Identity
import HandleChallenge.PublicKey.Basic

/-!
# Key sources

Verification needs keys, and asks a key source for them: for the public keys that an identity may
use, whether a MAC is right under one of its secrets, and for the key in a record. A
consultation is a dialogue of such questions, so that a proof sees what was asked, in which
order, and can let other requests run before an answer.
-/

namespace HandleChallenge

/-- A MAC to check against the secrets of an identity. -/
structure SecretChallenge where
  identity : Identity
  algorithm : Algorithm
  serverNonce : Bytes
  clientNonce : Bytes
  payload : Bytes
  deriving DecidableEq

/-- A question to a key source. -/
inductive KeyQuestion where
  /-- Which public keys may the identity use? -/
  | candidates (identity : Identity)
  /-- At which index is a secret under which the MAC is right? -/
  | secret (challenge : SecretChallenge)
  /-- Which key does the value hold? -/
  | decode (value : Value)
  deriving DecidableEq

/-- What a key source may answer. -/
def KeyQuestion.Answer : KeyQuestion → Type
  | candidates _ => Except Refusal (List Value)
  | secret _ => Except Refusal (Option UInt32)
  | decode _ => Except PublicKey.RecordError PublicKey

/-- A computation that asks a key source on the way. -/
abbrev Consultation := Dialogue KeyQuestion.Answer

/-- Where keys come from. -/
structure KeySource where
  /-- The public keys that an identity may use. -/
  candidates : Identity → Except Refusal (List Value)
  /-- The index of a secret under which a MAC is right. -/
  secret : SecretChallenge → Except Refusal (Option UInt32)

/-- A source's answer. The key in a value is the same for every source. -/
def KeySource.answer (source : KeySource) : (question : KeyQuestion) → question.Answer
  | .candidates identity => source.candidates identity
  | .secret challenge => source.secret challenge
  | .decode value => PublicKey.decode value.data

namespace Value

/-- Values in the order of their indices; those with one index stay in their order. -/
def sortByIndex (values : List Value) : List Value :=
  values.mergeSort fun a b => decide (a.index ≤ b.index)

end Value

/-- The values of a family that an identity may use, in the order of their indices: all of them,
or those at its index when it names one. -/
def Identity.select (identity : Identity) (family : String) (values : List Value) : List Value :=
  Value.sortByIndex <| values.filter fun value =>
    value.inFamily family && (!identity.hasIndex || value.index == identity.index)

end HandleChallenge
