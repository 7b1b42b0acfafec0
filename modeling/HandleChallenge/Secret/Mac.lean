import HandleChallenge.Dialogue
import HandleChallenge.Secret.Derivation

/-!
# MACs over a nonce pair

A holder of a secret proves it by a MAC over the server's nonce and its own. A digest stands
between two copies of the secret; an HMAC is keyed with the secret or with a key derived from
it. The payload of a response is the MAC, in an envelope where a key was derived.

The derivation of keys is the work that the parameters in a payload can ask for. So the MAC and the
check of a payload are computations that ask for each key (`computing`, `checking`), and `compute`
and `verify` run them with the keys as they are derived.
-/

namespace HandleChallenge.Mac

/-! ### Keys to be derived -/

/-- A key that is to be derived. -/
structure KeyDerivation where
  derivation : Derivation
  secret : Bytes

/-- The key. -/
def KeyDerivation.key (asked : KeyDerivation) : Bytes := asked.derivation.key asked.secret

/-- A computation that leaves the derivation of keys to an answer. -/
abbrev Deriving := Dialogue fun _ : KeyDerivation => Bytes

/-! ### MACs and payloads -/

/-- The MAC over a nonce pair, with the key still to be derived where it needs one. -/
def computing (algorithm : Algorithm) (secret serverNonce clientNonce : Bytes)
    (derivation : Option Derivation) : Deriving (Except Refusal Bytes) :=
  match algorithm.method with
  | .digest digest =>
    .done (.ok (digest.hash (secret ++ serverNonce ++ clientNonce ++ secret)))
  | .hmac digest => .done (.ok (Hash.hmac digest.hash secret (serverNonce ++ clientNonce)))
  | .pbkdf2 =>
    match derivation with
    | some derivation => do
      let key ← Dialogue.question { derivation, secret : KeyDerivation }
      return .ok (Hash.hmac Hash.Sha1.hash key (serverNonce ++ clientNonce))
    | none => .done (.error (.incomplete "PBKDF2 parameters missing"))

/-- The MAC over a nonce pair. -/
def compute (algorithm : Algorithm) (secret serverNonce clientNonce : Bytes)
    (derivation : Option Derivation) : Except Refusal Bytes :=
  (computing algorithm secret serverNonce clientNonce derivation).run KeyDerivation.key

/-- The payload that a holder of the secret sends. -/
def respond (algorithm : Algorithm) (secret serverNonce clientNonce : Bytes)
    (derivation : Option Derivation) : Except Refusal Bytes := do
  let mac ← compute algorithm secret serverNonce clientNonce derivation
  match algorithm.method, derivation with
  | .pbkdf2, some derivation => return Envelope.encode { derivation, mac }
  | _, _ => return mac

/-- The check of a payload, with the key still to be derived where it needs one. -/
def checking (algorithm : Algorithm) (secret serverNonce clientNonce payload : Bytes)
    (maxIterations : UInt32) : Deriving (Except Refusal Bool) :=
  match algorithm.method with
  | .pbkdf2 =>
    match Envelope.decode payload with
    | .error refusal => .done (.error refusal)
    | .ok envelope =>
      match envelope.derivation.validate maxIterations with
      | .error refusal => .done (.error refusal)
      | .ok () => do
        let expected ←
          computing algorithm secret serverNonce clientNonce (some envelope.derivation)
        return (· == envelope.mac) <$> expected
  | _ => do
    let expected ← computing algorithm secret serverNonce clientNonce none
    return (· == payload) <$> expected

/-- Whether a payload is one that a holder of the secret sends. An error means that the payload
could not be checked at all. -/
def verify (algorithm : Algorithm) (secret serverNonce clientNonce payload : Bytes)
    (maxIterations : UInt32) : Except Refusal Bool :=
  (checking algorithm secret serverNonce clientNonce payload maxIterations).run KeyDerivation.key

/-! ### With the keys derived -/

variable {algorithm : Algorithm} {secret serverNonce clientNonce payload : Bytes}
  {maxIterations : UInt32}

theorem compute_eq (algorithm : Algorithm) (secret serverNonce clientNonce : Bytes)
    (derivation : Option Derivation) :
    compute algorithm secret serverNonce clientNonce derivation =
      match algorithm.method with
      | .digest digest => .ok (digest.hash (secret ++ serverNonce ++ clientNonce ++ secret))
      | .hmac digest => .ok (Hash.hmac digest.hash secret (serverNonce ++ clientNonce))
      | .pbkdf2 =>
        match derivation with
        | some derivation =>
          .ok (Hash.hmac Hash.Sha1.hash (derivation.key secret) (serverNonce ++ clientNonce))
        | none => .error (.incomplete "PBKDF2 parameters missing") := by
  unfold compute computing
  cases algorithm.method with
  | digest digest => rfl
  | hmac digest => rfl
  | pbkdf2 => cases derivation <;> rfl

/-- A payload where no key is derived is compared as it is. -/
theorem verify_of_ne_pbkdf2 (h : algorithm.method ≠ .pbkdf2) :
    verify algorithm secret serverNonce clientNonce payload maxIterations = do
      let expected ← compute algorithm secret serverNonce clientNonce none
      return expected == payload := by
  unfold verify checking compute computing
  cases hmethod : algorithm.method with
  | digest digest => rfl
  | hmac digest => rfl
  | pbkdf2 => exact absurd hmethod h

/-- A payload where a key is derived is opened, and its parameters are checked before any use. -/
theorem verify_of_pbkdf2 (h : algorithm.method = .pbkdf2) :
    verify algorithm secret serverNonce clientNonce payload maxIterations = do
      let envelope ← Envelope.decode payload
      envelope.derivation.validate maxIterations
      let expected ←
        compute algorithm secret serverNonce clientNonce (some envelope.derivation)
      return expected == envelope.mac := by
  unfold verify checking
  simp only [h]
  cases Envelope.decode payload with
  | error refusal => rfl
  | ok envelope =>
    cases hvalid : envelope.derivation.validate maxIterations with
    | error refusal => simp only [hvalid, bind, Except.bind, Dialogue.run_done]
    | ok done =>
      simp only [hvalid, Dialogue.run_bind]
      change _ = (envelope.derivation.validate maxIterations >>= fun _ => _)
      rw [hvalid]
      rfl

end HandleChallenge.Mac
