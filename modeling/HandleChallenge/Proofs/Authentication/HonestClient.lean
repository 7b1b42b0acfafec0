import HandleChallenge.Proofs.Authentication.Recall
import HandleChallenge.Proofs.Authentication.SecretKey
import HandleChallenge.Proofs.Credential
import HandleChallenge.Proofs.Identity

/-!
# Honest clients

A holder of a secret writes a header for the nonce of its session. `honest_client_accepted` says
that the service accepts it: each part of the claim is read from the header as it was written, so
that the MAC which the secret gave is the one that is looked for among the stored secrets.
-/

namespace HandleChallenge

open Authentication (Claim MacClaim)
open Header (Known Params)

/-! ### What the client sends -/

/-- The holder of a secret answers by a digest or a keyed hash, or by a derived key whose parameters
the service and its source accept. -/
inductive Credential.Holds (identity : Identity) (secret : Bytes) (limit sourceLimit : UInt32) :
    Credential → Prop where
  | bare {algorithm : Algorithm} (h : algorithm.method ≠ .pbkdf2) :
      Holds identity secret limit sourceLimit (.ofSecret identity secret algorithm)
  | derived {derivation : Derivation} (salt_ne : derivation.salt ≠ [])
      (salt_lt : derivation.salt.length < UInt32.size)
      (valid : derivation.validate limit = .ok ())
      (sourceValid : derivation.validate sourceLimit = .ok ()) :
      Holds identity secret limit sourceLimit (.ofDerivedSecret identity secret derivation)

namespace Credential

variable {credential : Credential} {identity : Identity} {secret : Bytes}
  {limit sourceLimit : UInt32} {session : Option String} {serverNonce clientNonce raw : Bytes}

/-- The claim that a header of the credential makes. -/
def claim (credential : Credential) (clientNonce raw : Bytes) : MacClaim where
  identity := credential.identity
  algorithm := credential.algorithm
  clientNonce := clientNonce
  mac := raw
  derivation := credential.derivation?

namespace Holds

theorem identity_eq (h : credential.Holds identity secret limit sourceLimit) :
    credential.identity = identity := by
  cases h with
  | bare => rfl
  | derived => rfl

theorem kind_eq (h : credential.Holds identity secret limit sourceLimit) :
    credential.kind = .secretKey := by
  cases h with
  | bare => rfl
  | derived => rfl

/-- What the holder sends is the MAC that the secret gives. -/
theorem sign_eq (h : credential.Holds identity secret limit sourceLimit)
    (serverNonce clientNonce : Bytes) :
    credential.sign serverNonce clientNonce =
      Mac.compute credential.algorithm secret serverNonce clientNonce credential.derivation? := by
  cases h with
  | bare => rfl
  | derived => rfl

/-- There is one for every nonce pair. -/
theorem exists_sign (h : credential.Holds identity secret limit sourceLimit)
    (serverNonce clientNonce : Bytes) :
    ∃ raw, credential.sign serverNonce clientNonce = .ok raw := by
  cases h with
  | @bare algorithm hmethod =>
    show ∃ raw, Mac.compute algorithm secret serverNonce clientNonce none = .ok raw
    rw [Mac.compute_eq]
    cases hcases : algorithm.method with
    | digest digest => exact ⟨_, rfl⟩
    | hmac digest => exact ⟨_, rfl⟩
    | pbkdf2 => exact absurd hcases hmethod
  | derived => exact ⟨_, rfl⟩

theorem length_of_sign (h : credential.Holds identity secret limit sourceLimit)
    (hsign : credential.sign serverNonce clientNonce = .ok raw) :
    0 < raw.length ∧ raw.length < UInt32.size := by
  rw [h.sign_eq] at hsign
  exact Mac.length_of_compute hsign

/-- A key is derived for one method, and for no other. -/
theorem method_eq_iff (h : credential.Holds identity secret limit sourceLimit) :
    credential.algorithm.method = .pbkdf2 ↔
      ∃ derivation, credential.derivation? = some derivation := by
  cases h with
  | bare hmethod => exact iff_of_false hmethod fun ⟨_, hsome⟩ => nomatch hsome
  | @derived derivation => exact iff_of_true rfl ⟨derivation, rfl⟩

/-- Its parameters are such as the service and its source accept. -/
theorem of_derivation (h : credential.Holds identity secret limit sourceLimit)
    {derivation : Derivation} (hderivation : credential.derivation? = some derivation) :
    derivation.salt ≠ [] ∧ derivation.salt.length < UInt32.size ∧
      derivation.validate limit = .ok () ∧ derivation.validate sourceLimit = .ok () := by
  cases h with
  | bare => cases hderivation
  | derived hne hlt hvalid hsource =>
    cases hderivation
    exact ⟨hne, hlt, hvalid, hsource⟩

end Holds

/-- No parameter of a header is empty, so that none is taken for a flag. -/
theorem known?_params_ne_empty (hid : credential.identity.text ≠ "") (hnonce : clientNonce ≠ [])
    (hraw : raw ≠ []) (hsession : session ≠ some "")
    (hsalt : ∀ derivation, credential.derivation? = some derivation → derivation.salt ≠ [])
    (known : Known) :
    (credential.params session clientNonce raw).known? known ≠ some "" := by
  rw [known?_params]
  have hname : credential.algorithm.name ≠ "" := by cases credential.algorithm <;> decide
  have hkind : credential.kind.tag ≠ "" := by cases credential.kind <;> decide
  cases known with
  | sessionId => exact hsession
  | salt =>
    intro hempty
    obtain ⟨derivation, hderivation, hencode⟩ := Option.map_eq_some_iff.1 hempty
    exact Text.Base64.encode_ne_empty (hsalt derivation hderivation) hencode
  | iterations =>
    intro hempty
    obtain ⟨derivation, -, htext⟩ := Option.map_eq_some_iff.1 hempty
    exact Text.Decimal.text_ne_empty _ htext
  | length =>
    intro hempty
    obtain ⟨derivation, -, htext⟩ := Option.map_eq_some_iff.1 hempty
    exact Text.Decimal.text_ne_empty _ htext
  | version => simp [protocolVersion]
  | id => simpa using hid
  | cnonce => simpa using Text.Base64.encode_ne_empty hnonce
  | signature => simpa using Text.Base64.encode_ne_empty hraw
  | type => simpa using hkind
  | alg => simpa using hname
  | clientCert => simp
  | renegotiate => simp

/-- The parameters of a derived key are read as they were written. -/
theorem Holds.derivationFor (h : credential.Holds identity secret limit sourceLimit)
    {params : Params}
    (hsalt : params.known? .salt =
      credential.derivation?.map fun d => Text.Base64.encode d.salt)
    (hiterations : params.known? .iterations =
      credential.derivation?.map fun d => Text.Decimal.text d.iterations.toNat)
    (hlength : params.known? .length =
      credential.derivation?.map fun d => Text.Decimal.text d.lengthBits.toNat) :
    Claim.derivationFor limit params credential.algorithm = .ok credential.derivation? := by
  unfold Claim.derivationFor
  cases hderivation : credential.derivation? with
  | none =>
    have hmethod : credential.algorithm.method ≠ .pbkdf2 := by
      rw [Ne, h.method_eq_iff, hderivation]
      exact fun ⟨_, hsome⟩ => nomatch hsome
    rw [if_neg hmethod]
    rfl
  | some derivation =>
    rw [hderivation, Option.map_some] at hsalt hiterations hlength
    have hread : Claim.derivationOf limit params = .ok derivation :=
      Claim.derivationOf_eq_ok_iff.2 ⟨by simp [Params.has, hsalt, hiterations, hlength],
        Claim.bytesOf_of_encode hsalt, Claim.numberOf_of_text hiterations,
        Claim.numberOf_of_text hlength, (h.of_derivation hderivation).2.2.1⟩
    rw [if_pos (h.method_eq_iff.2 ⟨derivation, hderivation⟩), hread]
    rfl

/-- The service hears what the header says. -/
theorem Holds.known?_merge_params (h : credential.Holds identity secret limit sourceLimit)
    (hhandle : identity.handle ≠ "") (hnonce : clientNonce ≠ []) (hsession : session ≠ some "")
    (hsign : credential.sign serverNonce clientNonce = .ok raw) (known : Known) :
    (Header.merge (some (credential.params session clientNonce raw)) []).known? known =
      (credential.params session clientNonce raw).known? known := by
  obtain rfl := h.identity_eq
  have hraw := List.ne_nil_of_length_pos (h.length_of_sign hsign).1
  exact Header.known?_merge_nil (known?_params_ne_empty (Identity.text_ne_empty hhandle) hnonce hraw
    hsession (fun derivation hderivation => (h.of_derivation hderivation).1) known)

/-- The claim is read from the header as it was made. -/
theorem Holds.readFrom (h : credential.Holds identity secret limit sourceLimit)
    (hindex : identity.hasIndex = true) (hhandle : identity.handle ≠ "")
    (hnonce : clientNonce ≠ []) (hsession : session ≠ some "")
    (hsign : credential.sign serverNonce clientNonce = .ok raw) :
    (credential.claim clientNonce raw).ReadFrom limit
      (Header.merge (some (credential.params session clientNonce raw)) []) := by
  have hknown := fun known => (h.known?_merge_params hhandle hnonce hsession hsign known).trans
    (credential.known?_params session clientNonce raw known)
  obtain rfl := h.identity_eq
  generalize Header.merge (some (credential.params session clientNonce raw)) [] = params at hknown ⊢
  have htext : ∀ {known : Known} {value : String}, params.known? known = some value →
      Claim.textOf params known = value := by
    intro known value hvalue
    rw [Claim.textOf, hvalue]
    rfl
  exact {
    complete := Params.missing?_eq_none_iff.2 (by simp [Params.has, hknown])
    kind := (htext (hknown .type)).trans (congrArg CredentialKind.tag h.kind_eq)
    algorithm := by
      rw [htext (hknown .alg)]
      exact Algorithm.resolve_name _
    identity := by
      rw [htext (hknown .id)]
      exact Identity.parse_text hindex hhandle
    clientNonce := Claim.bytesOf_of_encode (hknown .cnonce)
    mac := Claim.bytesOf_of_encode (hknown .signature)
    derivation := h.derivationFor (hknown .salt) (hknown .iterations) (hknown .length)
    short := fun derivation hderivation =>
      ⟨(h.of_derivation hderivation).2.1, (h.length_of_sign hsign).2⟩ }

end Credential

namespace Authentication

open Header (PasswordClaim)

variable {service : Service} {allowed : KeyReply → Prop} {history : List Event} {system : System}
  {id : String} {snapshot : Snapshot}

/-! ### What the service makes of it -/

/-- A request with a header and nothing else. -/
def Request.ofHeader (id header : String) : Request :=
  { sessionId := id, authorization := some header, params := [] }

/-- The reading of a request with a header that can be read. -/
theorem Reading.ofRequest_of_parse? {header : String} {params : Params}
    (h : Header.parse? header = some params) (allowPasswords : Bool) (id : String) :
    Reading.ofRequest allowPasswords (.ofHeader id header) =
      { header := some params, unparseable := false, password := none
        params := Header.merge (some params) [] } := by
  have hpassword : PasswordClaim.parse? header = none := by
    cases hclaim : PasswordClaim.parse? header with
    | none => rfl
    | some claim => cases h.symm.trans (Header.parse?_eq_none_of_password hclaim)
  simp [Reading.ofRequest, Request.ofHeader, h, hpassword]

/-- Nothing is remembered of a header that the login of the session was not with. -/
theorem Visit.recalled?_ofHeader {header : String}
    (h : snapshot.state.login.bind Login.authorization ≠ some header) :
    (service.visitOf (.ofHeader id header) snapshot).recalled? = none := by
  show snapshot.state.outcomeFor? header = none
  unfold SessionState.outcomeFor?
  cases hlogin : snapshot.state.login with
  | none => rfl
  | some login =>
    rw [hlogin] at h
    exact if_neg h

/-- A request with the header alone, on a session that it is for. -/
theorem Visit.attempts_of_parse? {header : String} {params : Params} {claim : MacClaim}
    (hparse : Header.parse? header = some params)
    (hclaim : claim.ReadFrom service.policy.maxIterations (Header.merge (some params) []))
    (hnamed : snapshot.state.isNamedBy (Header.merge (some params) []) = true)
    (hfresh : snapshot.state.login.bind Login.authorization ≠ some header) :
    (service.visitOf (.ofHeader id header) snapshot).Attempts := by
  have hreading := Reading.ofRequest_of_parse? hparse service.policy.allowBasic id
  refine ⟨?_, ?_, ?_, recalled?_ofHeader hfresh⟩
  · show snapshot.state.isNamedBy (Reading.ofRequest _ _).params = true
    rw [hreading]
    exact hnamed
  · show (Reading.ofRequest _ _).unparseable = false
    rw [hreading]
  · show (Reading.ofRequest _ _).claims = true
    rw [hreading]
    simp [Reading.claims, Claim.claimsIdentity_of_decode hclaim.decode]

/-- Requests on a session that claim nothing go on as an identity, whichever server's signature they
may get besides. -/
def ContinuesAs (service : Service) (registry : Registry) (id : String) (identity : Identity)
    (kind : CredentialKind) : Prop :=
  ∀ (source : KeySource) (entropy : Entropy) (now : Instant) (asked : Request),
    asked.sessionId = id → (Reading.ofRequest service.policy.allowBasic asked).claims = false →
    ((Reading.ofRequest service.policy.allowBasic asked).params.known? .sessionId).all (· == id) →
    ∃ signature, (service.authenticate source entropy now asked registry).1.outcome =
      (Outcome.continuation identity kind).withSignature signature

theorem continuesAs_of_login {registry : Registry} {login : Login}
    (hs : registry.snapshot? id = some snapshot) (hid : snapshot.state.sessionId = id)
    (hlogin : snapshot.state.login = some login) :
    ContinuesAs service registry id login.identity login.kind := by
  rintro source entropy now asked rfl hclaims hnamed
  have hcontinued : snapshot.state.continued = .continuation login.identity login.kind := by
    simp only [SessionState.continued, hlogin]
  rw [← hcontinued]
  refine authenticate_of_not_claims hs hclaims ?_ source entropy now
  unfold SessionState.isNamedBy
  rw [hid]
  exact hnamed

/-- The source names the index that the claim names. -/
theorem secret_eq_of_holds {identity : Identity} {value : Value} {limit sourceLimit : UInt32}
    {credential : Credential}
    (hcredential : credential.Holds identity value.data limit sourceLimit)
    {params : Params} {serverNonce clientNonce raw : Bytes}
    (hclaim : (credential.claim clientNonce raw).ReadFrom limit params)
    (hsign : credential.sign serverNonce clientNonce = .ok raw)
    (hindex : identity.hasIndex = true)
    {values : String → Except Resolution.Error (List Value)} {stored : List Value}
    (hstored : values identity.handle = .ok stored) (hmem : value ∈ stored)
    (hfamily : value.inFamily CredentialKind.secretKey.tag = true)
    (hvalue : value.index = identity.index) :
    (KeySource.ofStore values sourceLimit).secret
      ((credential.claim clientNonce raw).challenge serverNonce) = .ok (some identity.index) := by
  obtain rfl := hcredential.identity_eq
  have hmatches : (credential.claim clientNonce raw).Matches serverNonce value :=
    { inFamily := hfamily, index_eq := fun _ => hvalue
      compute_eq := (hcredential.sign_eq serverNonce clientNonce).symm.trans hsign }
  refine (hclaim.secret_eq_ok_some_iff values serverNonce sourceLimit).2 ⟨fun hmethod => ?_, ?_⟩
  · refine ⟨hindex, fun derivation hderivation => ?_⟩
    obtain ⟨-, -, -, hsource⟩ := hcredential.of_derivation hderivation
    exact (Derivation.validate_eq_ok_iff.1 hsource).1.2
  · rw [show (credential.claim clientNonce raw).identity = credential.identity from rfl,
      KeySource.storedBy_of_ok hstored]
    refine ⟨⟨value, hmem, hmatches, hvalue⟩, fun other _ hother => ?_⟩
    rw [hother.index_eq hindex]
    exact UInt32.le_refl _

/-- A claim in a header is accepted where the source names the index that it names, and the session
goes on as its identity. -/
theorem accepted_of_header (h : Reaches service allowed history system)
    (hs : system.registry.snapshot? id = some snapshot) {header : String} {params : Params}
    (hparse : Header.parse? header = some params) {claim : MacClaim}
    (hclaim : claim.ReadFrom service.policy.maxIterations (Header.merge (some params) []))
    (hnamed : snapshot.state.isNamedBy (Header.merge (some params) []) = true)
    (hfresh : snapshot.state.login.bind Login.authorization ≠ some header) {source : KeySource}
    (hsecret : source.secret (claim.challenge snapshot.state.serverNonce) =
      .ok (some claim.identity.index)) (entropy : Entropy) (now : Instant) :
    let ended := service.authenticate source entropy now (.ofHeader id header) system.registry
    ended.1.outcome = .success claim.identity .secretKey [] ∧
      ContinuesAs service ended.2 id claim.identity .secretKey := by
  intro ended
  have hattempts : (service.visitOf (.ofHeader id header) snapshot).Attempts :=
    Visit.attempts_of_parse? hparse hclaim hnamed hfresh
  have hparams : (service.visitOf (.ofHeader id header) snapshot).reading.params =
      Header.merge (some params) [] :=
    congrArg Reading.params (Reading.ofRequest_of_parse? hparse _ id)
  have hpassword : (service.visitOf (.ofHeader id header) snapshot).reading.password = none :=
    congrArg Reading.password (Reading.ofRequest_of_parse? hparse _ id)
  have hread : (service.receive entropy now (.ofHeader id header) system.registry).2.snapshot? id =
      some snapshot := by
    have hreceive : service.receive entropy now (.ofHeader id header) system.registry = _ :=
      Service.receive_of_some hs
    rw [hreceive]
    exact (system.registry.snapshot?_get now id id).trans hs
  rw [← hparams] at hclaim
  have hrun := hclaim.run_attempt source hpassword snapshot.state.serverNonce
    (entropy.draw .clientNonce Credential.clientNonceLength)
  rw [hsecret] at hrun
  refine ⟨authenticate_of_run_success hread hattempts hclaim.has_id hrun, ?_⟩
  -- the login is installed, as the snapshot that was read is still there
  have hsound := (h.step (.admitted (receive_of_attempts hread hattempts))).sound.registry
  have hended : ended = _ := authenticate_of_attempts hread hattempts source
  rw [hrun] at hended
  have hheld : (service.receive entropy now (.ofHeader id header) system.registry).2.snapshot?
      (service.visitOf (.ofHeader id header) snapshot).request.sessionId =
        some (service.visitOf (.ofHeader id header) snapshot).snapshot := hread
  obtain ⟨after, hafter, hlogin, hsession⟩ : ∃ after : Snapshot,
      (service.settle now _ _ _).2.snapshot? _ = some after ∧ _ :=
    Service.snapshot?_settle_of_holds hsound hheld now
      { outcome := .success (claim.identity.withIndex claim.identity.index) .secretKey []
        verified := true }
  rw [hended]
  exact continuesAs_of_login hafter (hsession.trans (h.sound.registry.sessionId_eq hs)) hlogin

/-- A holder of a secret that is stored for an identity is accepted as that identity, and the
session goes on so. A header that the session remembers already is set aside, since it is answered
from memory. -/
theorem honest_client_accepted (h : Reaches service allowed history system)
    (hs : system.registry.snapshot? id = some snapshot)
    {identity : Identity} (hhandle : identity.handle ≠ "") (hindex : identity.index ≠ 0)
    {values : String → Except Resolution.Error (List Value)} {stored : List Value}
    (hstored : values identity.handle = .ok stored) {value : Value} (hmem : value ∈ stored)
    (hfamily : value.inFamily CredentialKind.secretKey.tag = true)
    (hvalue : value.index = identity.index) {sourceLimit : UInt32} {credential : Credential}
    (hcredential :
      credential.Holds identity value.data service.policy.maxIterations sourceLimit)
    {session : Option String} (hsession : session = none ∨ (session = some id ∧ id ≠ ""))
    {clientNonce : Bytes} (hnonce : clientNonce ≠ []) :
    ∃ header,
      credential.authorization session snapshot.state.serverNonce clientNonce = .ok header ∧
      (snapshot.state.login.bind Login.authorization ≠ some header →
        ∀ entropy now,
          let ended := service.authenticate (KeySource.ofStore values sourceLimit) entropy now
            (.ofHeader id header) system.registry
          ended.1.outcome = .success identity .secretKey [] ∧
            ContinuesAs service ended.2 id identity .secretKey) := by
  obtain ⟨raw, hsign⟩ := hcredential.exists_sign snapshot.state.serverNonce clientNonce
  have hnames : identity.hasIndex = true := by simpa [Identity.hasIndex] using hindex
  have hnonempty : session ≠ some "" := by
    rcases hsession with rfl | ⟨rfl, hid⟩
    · simp
    · simpa using hid
  have hclaim := hcredential.readFrom hnames hhandle hnonce hnonempty hsign
  have hnamed : snapshot.state.isNamedBy
      (Header.merge (some (credential.params session clientNonce raw)) []) = true := by
    rw [SessionState.isNamedBy, hcredential.known?_merge_params hhandle hnonce hnonempty hsign,
      Credential.known?_params, h.sound.registry.sessionId_eq hs]
    rcases hsession with rfl | ⟨rfl, -⟩
    · rfl
    · exact beq_self_eq_true id
  have hsecret := secret_eq_of_holds hcredential hclaim hsign hnames hstored hmem hfamily hvalue
  obtain rfl := hcredential.identity_eq
  refine ⟨Header.serialize (credential.params session clientNonce raw), ?_,
    fun hfresh entropy now => ?_⟩
  · rw [Credential.authorization, Checks.bind_of_ok hsign]
    rfl
  · exact accepted_of_header h hs Credential.parse?_serialize_params hclaim hnamed hfresh hsecret
      entropy now

/-- A request that names its session and claims nothing. -/
def namingRequest : Request where
  sessionId := "s"
  authorization := none
  params := [("sessionId", "s")]

/-- The credential of a holder who derives a key. -/
def derivedKey : Credential :=
  .ofDerivedSecret { handle := "20.1000/7", index := 3 } [1, 2, 3]
    { salt := [7], iterations := 1000, lengthBits := 160 }

/-- A key derived from a stored secret is accepted in the first session. -/
theorem derivedKey_accepted :
    ∃ history system header,
      Reaches plainService (Gives (KeySource.ofStore oneSecret 10000)) history system ∧
      system.registry.snapshot? "s" = some firstSession ∧
      derivedKey.authorization (some "s") firstSession.state.serverNonce [5] = .ok header ∧
      ∀ entropy now,
        let ended := plainService.authenticate (KeySource.ofStore oneSecret 10000) entropy now
          (.ofHeader "s" header) system.registry
        ended.1.outcome = .success derivedKey.identity .secretKey [] ∧
          ContinuesAs plainService ended.2 "s" derivedKey.identity .secretKey := by
  have hs : (plainService.authenticate (KeySource.ofStore oneSecret 10000)
      (.ofStreams fun _ _ => 0) 0 namingRequest (.ofPolicy .default)).2.snapshot? "s" =
        some firstSession := by decide +kernel
  obtain ⟨history, system, h, hs⟩ :=
    exists_reaches_first (Gives (KeySource.ofStore oneSecret 10000)) (fun _ => rfl) hs
  have hholds : derivedKey.Holds derivedKey.identity [1, 2, 3]
      plainService.policy.maxIterations 10000 :=
    .derived (by decide) (by decide) (by decide) (by decide)
  have hstored : oneSecret derivedKey.identity.handle =
      .ok [{ index := 3, type := "HS_SECKEY", data := [1, 2, 3] }] := rfl
  have hhandle : derivedKey.identity.handle ≠ "" := by decide
  have hindex : derivedKey.identity.index ≠ 0 := by decide
  have hfamily : Value.inFamily { index := 3, type := "HS_SECKEY", data := [1, 2, 3] }
      CredentialKind.secretKey.tag = true := by decide
  obtain ⟨header, hheader, haccepted⟩ := honest_client_accepted h hs hhandle hindex hstored
    List.mem_cons_self hfamily rfl hholds (.inr ⟨rfl, by decide⟩) (List.cons_ne_nil 5 [])
  have hfresh : firstSession.state.login.bind Login.authorization ≠ some header := by
    simp [firstSession, SessionState.ofNonce]
  exact ⟨history, system, header, h, hs, hheader, haccepted hfresh⟩

end Authentication

end HandleChallenge
