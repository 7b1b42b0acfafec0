import HandleChallenge.Proofs.Authentication.HonestClient
import HandleChallenge.Proofs.Hash.Hmac
import HandleChallenge.Proofs.Header.Password
import HandleChallenge.Proofs.Resolution.Records

/-!
# Passwords

A password is never compared with a secret: the server computes a keyed hash of its own nonce pair
under it, and looks for a secret that gives the same. `password_accepted_iff` says how much that
asks for. A password is accepted if it is the secret up to zero bytes at the end, a long one being
hashed before, or if the two show a collision of the hash.
-/

namespace HandleChallenge

open Hash (Collides SameKey Sha256.hash outerInput)

namespace Authentication

open Header (PasswordClaim)
open Resolution (Edit Records)

variable {service : Service} {entropy : Entropy} {now : Instant} {registry : Registry} {id : String}
  {snapshot : Snapshot} {identity : Identity} {password : String}
  {values : String → Except Resolution.Error (List Value)} {sourceMax : UInt32}
  {serverNonce clientNonce secret given : Bytes}

/-! ### What a password stands for -/

/-- The bytes of a password pass for a secret under the nonce pair: they are one key, or the hash
collides. -/
def PassesFor (serverNonce clientNonce given secret : Bytes) : Prop :=
  SameKey Sha256.hash secret given ∨
    Collides Sha256.hash (outerInput Sha256.hash secret (serverNonce ++ clientNonce))
      (outerInput Sha256.hash given (serverNonce ++ clientNonce))

/-- The keyed hash that the server computes under a password. -/
def passwordMac (serverNonce clientNonce given : Bytes) : Bytes :=
  Hash.hmac Sha256.hash given (serverNonce ++ clientNonce)

/-- A secret gives this hash if the password passes for it. -/
theorem isGiven_passwordMac_iff :
    Mac.isGiven passwordAlgorithm secret serverNonce clientNonce none
        (passwordMac serverNonce clientNonce given) = true ↔
      PassesFor serverNonce clientNonce given secret := by
  have hlength : ∀ bytes, (Sha256.hash bytes).length ≤ Hash.hmacBlock := by
    intro bytes
    rw [Hash.Sha256.length_hash]
    decide
  rw [Mac.isGiven_iff]
  show Except.ok (Hash.hmac Sha256.hash secret (serverNonce ++ clientNonce)) =
    .ok (Hash.hmac Sha256.hash given (serverNonce ++ clientNonce)) ↔ _
  rw [Except.ok.injEq, Hash.hmac_eq_iff hlength]
  rfl

/-- Among values there is a secret at the index of the identity that the password passes for. -/
def HasPassword (identity : Identity) (stored : List Value)
    (serverNonce clientNonce given : Bytes) : Prop :=
  ∃ value ∈ stored, value.inFamily CredentialKind.secretKey.tag = true ∧
    value.index = identity.index ∧ PassesFor serverNonce clientNonce given value.data

/-- Records have one value at most at an index. -/
theorem hasPassword_iff_of_ofEdits {edits : List Edit} {value : Value}
    (hmem : value ∈ KeySource.storedBy (Records.ofEdits edits).values identity.handle)
    (hfamily : value.inFamily CredentialKind.secretKey.tag = true)
    (hindex : value.index = identity.index) :
    HasPassword identity (KeySource.storedBy (Records.ofEdits edits).values identity.handle)
        serverNonce clientNonce given ↔
      PassesFor serverNonce clientNonce given value.data := by
  constructor
  · rintro ⟨other, hother, -, hotherIndex, hpasses⟩
    cases hrecord : (Records.ofEdits edits).record? identity.handle with
    | none =>
      simp [KeySource.storedBy_values, Records.stored, hrecord] at hmem
    | some written =>
      have hstored : KeySource.storedBy (Records.ofEdits edits).values identity.handle = written :=
        KeySource.storedBy_of_ok (Records.values_eq_ok_iff.2 hrecord)
      rw [hstored] at hmem hother
      have hdistinct := Records.distinct_ofEdits edits _ _ hrecord
      obtain rfl := List.inj_on_of_nodup_map hdistinct hother hmem (hotherIndex.trans hindex.symm)
      exact hpasses
  · intro hpasses
    exact ⟨value, hmem, hfamily, hindex, hpasses⟩

/-! ### What the source answers -/

/-- What a key source is asked about a password. -/
def passwordChallenge (identity : Identity) (serverNonce clientNonce given : Bytes) :
    SecretChallenge where
  identity := identity
  algorithm := passwordAlgorithm
  serverNonce := serverNonce
  clientNonce := clientNonce
  payload := passwordMac serverNonce clientNonce given

/-- The source names the claimed index if there is a secret that the password passes for. -/
theorem secret_passwordChallenge_iff (hindex : identity.hasIndex = true) {index : UInt32} :
    (KeySource.ofStore values sourceMax).secret
        (passwordChallenge identity serverNonce clientNonce given) = .ok (some index) ↔
      index = identity.index ∧
        HasPassword identity (KeySource.storedBy values identity.handle) serverNonce clientNonce
          given := by
  have hmethod : passwordAlgorithm.method ≠ .pbkdf2 := by decide
  have hverify : ∀ value : Value,
      KeySource.verifyUnder (passwordChallenge identity serverNonce clientNonce given) sourceMax
        value = .ok (Mac.isGiven passwordAlgorithm value.data serverNonce clientNonce none
          (passwordMac serverNonce clientNonce given)) :=
    fun value => Mac.verify_bare hmethod ..
  rw [KeySource.secret_ofStore_eq_ok_some_iff (fun _ => hindex) hverify,
    map_find?_eq_some_iff (Identity.pairwise_select ..)]
  simp only [passwordChallenge, isGiven_passwordMac_iff, Identity.mem_select, hindex, true_imp_iff]
  constructor
  · rintro ⟨⟨value, ⟨hmem, hfamily, hvalue⟩, hpasses, rfl⟩, -⟩
    exact ⟨hvalue, value, hmem, hfamily, hvalue, hpasses⟩
  · rintro ⟨rfl, value, hmem, hfamily, hvalue, hpasses⟩
    refine ⟨⟨value, ⟨hmem, hfamily, hvalue⟩, hpasses, hvalue⟩, fun other hother _ => ?_⟩
    rw [hother.2.2]
    exact UInt32.le_refl _

/-! ### What becomes of the password -/

/-- A password proves the identity that it was given for, or none. -/
theorem run_verifyPassword_eq_ok_iff (hindex : identity.hasIndex = true) {found : Identity} :
    (verifyPassword { identity, password := given } serverNonce clientNonce).run
        (KeySource.ofStore values sourceMax).answer = .ok found ↔
      found = identity ∧
        HasPassword identity (KeySource.storedBy values identity.handle) serverNonce clientNonce
          given := by
  have hrequest : passwordRequest { identity, password := given } serverNonce clientNonce =
      .ok { identity
            response := .secretKey passwordAlgorithm (passwordMac serverNonce clientNonce given)
            serverNonce, clientNonce } := rfl
  unfold verifyPassword
  rw [hrequest]
  show (VerificationRequest.verifyMac _ passwordAlgorithm
    (passwordMac serverNonce clientNonce given)).run _ = _ ↔ _
  rw [VerificationRequest.run_verifyMac_eq_ok_iff]
  constructor
  · rintro ⟨index, hsecret, rfl⟩
    obtain ⟨rfl, hpassword⟩ := (secret_passwordChallenge_iff hindex).1 hsecret
    exact ⟨rfl, hpassword⟩
  · rintro ⟨rfl, hpassword⟩
    exact ⟨found.index, (secret_passwordChallenge_iff hindex).2 ⟨rfl, hpassword⟩, rfl⟩

/-- An attempt by the password alone ends as its verification does. -/
theorem run_attempt_of_password {policy : Policy} {reading : Reading} {claim : PasswordClaim}
    (hclaims : reading.params.claimsIdentity = false) (hpassword : reading.password = some claim)
    (source : KeySource) (serverNonce clientNonce : Bytes) :
    (attempt policy reading serverNonce clientNonce).run source.answer =
      match (verifyPassword claim serverNonce clientNonce).run source.answer with
      | .ok identity => .success identity .secretKey []
      | .error refusal => .failure [refusal] := by
  simp only [attempt, hclaims, hpassword, Bool.false_eq_true, if_false, attemptPassword,
    Dialogue.run_bind]
  cases (verifyPassword claim serverNonce clientNonce).run source.answer with
  | ok identity => rfl
  | error refusal => rfl

/-- The request of a client that has a password. -/
def Request.withPassword (id : String) (identity : Identity) (password : String) : Request :=
  .ofHeader id (PasswordClaim.write identity password)

section

variable (hread : (service.receive entropy now (.withPassword id identity password)
    registry).2.snapshot? id = some snapshot)
  (hallowed : service.policy.allowBasic = true) (hindex : identity.hasIndex = true)
  (hhandle : identity.handle ≠ "") (hcolon : ':' ∉ identity.handle.toList)
  (hfresh : snapshot.state.login.bind Login.authorization ≠
    some (PasswordClaim.write identity password))

include hallowed hindex hhandle hcolon

/-- It has a password and no parameters. -/
theorem reading_withPassword :
    (service.visitOf (.withPassword id identity password) snapshot).reading =
      { header := none, unparseable := false
        password := some { identity, password := Text.Utf8.encode password }
        params := Header.merge none [] } := by
  have hparse := PasswordClaim.parse?_write hindex hhandle hcolon password
  show Reading.ofRequest service.policy.allowBasic (.ofHeader id _) = _
  simp [Reading.ofRequest, Request.ofHeader, hallowed, hparse, Header.parse?_eq_none_of_password hparse,
    PasswordClaim.namesScheme_write]

include hread hfresh

/-- It is answered as the verification of the password ends. -/
theorem outcome_withPassword (source : KeySource) :
    (service.authenticate source entropy now (.withPassword id identity password)
        registry).1.outcome =
      match (verifyPassword { identity, password := Text.Utf8.encode password }
          snapshot.state.serverNonce
          (entropy.draw .clientNonce Credential.clientNonceLength)).run source.answer with
      | .ok identity => .success identity .secretKey []
      | .error refusal => .failure [refusal] := by
  have hreading : (service.visitOf (.withPassword id identity password) snapshot).reading =
      { header := none, unparseable := false
        password := some { identity, password := Text.Utf8.encode password }
        params := Header.merge none [] } :=
    reading_withPassword hallowed hindex hhandle hcolon
  have hattempts : (service.visitOf (.withPassword id identity password) snapshot).Attempts :=
    { isNamedBy := by rw [hreading]; rfl
      parseable := by rw [hreading]
      claims := by rw [hreading]; rfl
      recalled := Visit.recalled?_ofHeader hfresh }
  have hclaims : (Header.merge none []).claimsIdentity = false := by decide
  have hprove : ∀ state, service.prove? (Header.merge none []) state = none := by
    intro state
    have hasks : (Header.merge none []).asksServerSignature = false := by decide
    simp [Service.prove?, hasks]
  rw [authenticate_of_attempts hread hattempts, Service.settle_fst, hreading, hprove,
    run_attempt_of_password hclaims rfl]
  cases (verifyPassword { identity, password := Text.Utf8.encode password }
    snapshot.state.serverNonce
    (entropy.draw .clientNonce Credential.clientNonceLength)).run source.answer with
  | ok identity => rfl
  | error refusal => rfl

/-- A source that reads a store accepts the password for its identity if the store has a secret
that it passes for, and refuses it otherwise. -/
theorem outcome_withPassword_ofStore (values : String → Except Resolution.Error (List Value))
    (sourceMax : UInt32) :
    let outcome := (service.authenticate (KeySource.ofStore values sourceMax) entropy now
      (.withPassword id identity password) registry).1.outcome
    let accepts := HasPassword identity (KeySource.storedBy values identity.handle)
      snapshot.state.serverNonce (entropy.draw .clientNonce Credential.clientNonceLength)
      (Text.Utf8.encode password)
    accepts ∧ outcome = .success identity .secretKey [] ∨
      ¬ accepts ∧ ∃ refusal, outcome = .failure [refusal] := by
  intro outcome accepts
  have hrun := @run_verifyPassword_eq_ok_iff identity values sourceMax snapshot.state.serverNonce
    (entropy.draw .clientNonce Credential.clientNonceLength) (Text.Utf8.encode password) hindex
  have houtcome : outcome = _ :=
    outcome_withPassword hread hallowed hindex hhandle hcolon hfresh
      (KeySource.ofStore values sourceMax)
  cases hverified : (verifyPassword { identity, password := Text.Utf8.encode password }
      snapshot.state.serverNonce (entropy.draw .clientNonce Credential.clientNonceLength)).run
        (KeySource.ofStore values sourceMax).answer with
  | ok found =>
    rw [hverified] at houtcome
    obtain ⟨rfl, haccepts⟩ := hrun.1 hverified
    exact .inl ⟨haccepts, houtcome⟩
  | error refusal =>
    rw [hverified] at houtcome
    refine .inr ⟨fun haccepts => ?_, refusal, houtcome⟩
    cases hverified.symm.trans (hrun.2 ⟨rfl, haccepts⟩)

/-- A password is accepted where it passes for a secret at the index of the identity, and nowhere
else: in records that hold one there, where it passes for that one. -/
theorem password_accepted_iff (values : String → Except Resolution.Error (List Value))
    (sourceMax : UInt32) :
    let outcome := (service.authenticate (KeySource.ofStore values sourceMax) entropy now
      (.withPassword id identity password) registry).1.outcome
    let clientNonce := entropy.draw .clientNonce Credential.clientNonceLength
    (outcome.succeeded = true ↔
      HasPassword identity (KeySource.storedBy values identity.handle) snapshot.state.serverNonce
        clientNonce (Text.Utf8.encode password)) ∧
    (∀ edits, values = (Records.ofEdits edits).values →
      ∀ value ∈ KeySource.storedBy values identity.handle,
        value.inFamily CredentialKind.secretKey.tag = true → value.index = identity.index →
        (outcome.succeeded = true ↔
          PassesFor snapshot.state.serverNonce clientNonce (Text.Utf8.encode password)
            value.data)) ∧
    (outcome = .success identity .secretKey [] ∨ ∃ refusal, outcome = .failure [refusal]) := by
  intro outcome clientNonce
  have hends := outcome_withPassword_ofStore hread hallowed hindex hhandle hcolon hfresh values
    sourceMax
  have haccepted : outcome.succeeded = true ↔
      HasPassword identity (KeySource.storedBy values identity.handle) snapshot.state.serverNonce
        clientNonce (Text.Utf8.encode password) := by
    rcases hends with ⟨haccepts, hsuccess⟩ | ⟨hrefuses, refusal, hfailure⟩
    · exact iff_of_true (congrArg Outcome.succeeded hsuccess) haccepts
    · refine iff_of_false (fun hsucceeded => ?_) hrefuses
      cases hsucceeded.symm.trans (congrArg Outcome.succeeded hfailure)
  refine ⟨haccepted, ?_, hends.imp And.right And.right⟩
  rintro edits rfl value hmem hfamily hvalue
  exact haccepted.trans (hasPassword_iff_of_ofEdits hmem hfamily hvalue)

end

/-- A secret of six letters. -/
def letterSecret : Value where
  index := 3
  type := "HS_SECKEY"
  data := Text.Utf8.encode "s3cr3t"

/-- The edit that makes the record of the secret. -/
def letterEdits : List Edit := [.put "20.1000/7" letterSecret]

/-- The identity of the secret. -/
def letterIdentity : Identity := { handle := "20.1000/7", index := 3 }

/-- The outcome for a password in the first session of a service. -/
def letterOutcome (password : String) : Outcome :=
  (plainService.authenticate (KeySource.ofStore (Records.ofEdits letterEdits).values 10000)
    (.ofStreams fun _ _ => 0) 0 (.withPassword "s" letterIdentity password)
    (.ofPolicy .default)).1.outcome

/-- The session is opened for the password. -/
theorem snapshot?_receive_letterIdentity (password : String) :
    (plainService.receive (.ofStreams fun _ _ => 0) 0 (.withPassword "s" letterIdentity password)
      (.ofPolicy .default)).2.snapshot? "s" = some firstSession := by
  have hreading : Reading.ofRequest plainService.policy.allowBasic
      (.withPassword "s" letterIdentity password) = _ :=
    @reading_withPassword plainService "s" firstSession letterIdentity password rfl rfl (by decide)
      (by decide)
  have hopens : plainService.opens (.ofPolicy .default)
      (.withPassword "s" letterIdentity password) = true := by
    rw [Service.opens, hreading]
    rfl
  rw [Service.receive_of_opens hopens]
  show (Registry.create (.ofPolicy .default) (.ofStreams fun _ _ => 0) 0 "s").2.snapshot? "s" = _
  rw [Registry.snapshot?_create_self]
  decide +kernel

/-- Nothing has logged in there. -/
theorem firstSession_ne_authorization (password : String) :
    firstSession.state.login.bind Login.authorization ≠
      some (PasswordClaim.write letterIdentity password) := by
  simp [firstSession, SessionState.ofNonce]

/-- The secret is accepted as the password, and not in other letters. -/
theorem rightPassword_accepted :
    (letterOutcome "s3cr3t").succeeded = true ∧ ¬ (letterOutcome "s3cr3T").succeeded = true := by
  have hmem : letterSecret ∈ KeySource.storedBy (Records.ofEdits letterEdits).values
    letterIdentity.handle := by decide +kernel
  have hoffered : ∀ offered : String, (letterOutcome offered).succeeded = true ↔
      PassesFor firstSession.state.serverNonce
        ((Entropy.ofStreams fun _ _ => 0).draw .clientNonce Credential.clientNonceLength)
        (Text.Utf8.encode offered) letterSecret.data := by
    intro offered
    have haccepted := password_accepted_iff (snapshot?_receive_letterIdentity offered) rfl rfl
      (by decide) (by decide) (firstSession_ne_authorization offered)
      (Records.ofEdits letterEdits).values 10000
    unfold letterOutcome
    exact haccepted.2.1 letterEdits rfl letterSecret hmem (by decide +kernel) rfl
  constructor
  · rw [hoffered]
    exact Or.inl (Hash.SameKey.refl Sha256.hash letterSecret.data)
  · intro hsucceeded
    rcases (hoffered "s3cr3T").1 hsucceeded with hsame | ⟨-, hcollision⟩
    · exact absurd ((Hash.sameKey_iff_eq (by decide) (by decide) (by decide) (by decide)).1 hsame)
        (by decide)
    · exact absurd hcollision (by decide +kernel)

/-- A secret that leaves room in its block is accepted with a zero byte behind it too. -/
theorem paddedPassword_accepted :
    KeySource.storedBy (Records.ofEdits letterEdits).values letterIdentity.handle =
        [letterSecret] ∧
      (letterOutcome "s3cr3t\x00").succeeded = true ∧
      Text.Utf8.encode "s3cr3t\x00" ≠ letterSecret.data := by
  have hstored : KeySource.storedBy (Records.ofEdits letterEdits).values letterIdentity.handle =
      [letterSecret] := by decide +kernel
  have hread := snapshot?_receive_letterIdentity "s3cr3t\x00"
  refine ⟨hstored, ?_, by decide⟩
  rcases outcome_withPassword_ofStore hread rfl rfl (by decide) (by decide)
    (firstSession_ne_authorization _) (Records.ofEdits letterEdits).values 10000 with
    ⟨-, hsuccess⟩ | ⟨hrefuses, -⟩
  · exact congrArg Outcome.succeeded hsuccess
  · refine absurd ⟨letterSecret, hstored ▸ List.mem_singleton_self _, by decide +kernel, rfl, ?_⟩
      hrefuses
    exact .inl (Hash.sameKey_append_zeros (n := 1) (by decide))

end Authentication

end HandleChallenge
