import HandleChallenge.KeySource.Local
import HandleChallenge.Proofs.Authentication.Claim
import HandleChallenge.Proofs.Authentication.Provenance
import HandleChallenge.Proofs.Header.Scheme

/-!
# What is remembered of a header

A session remembers the outcome of its last login together with the text of the header, and
answers a request with that very header from memory. The outcome was reached for the header and
the parameters of the request together, and the memory does not hold the parameters. So the
question is when every request with the header would be accepted anew. `recall_agrees_iff`
answers it: a header without a password has to carry a whole claim by itself, and a password has
to be the only proof that a request can add to it.
-/

namespace HandleChallenge.Authentication

open Header (Known Params PasswordClaim)

variable {service : Service} {source : KeySource} {history : List Event} {system : System}
  {id authorization : String} {snapshot : Snapshot} {login : Login}

/-- A reply that a source gives. -/
def Gives (source : KeySource) (reply : KeyReply) : Prop := reply.2 = source.answer reply.1

/-- The visit gets its verdict from memory. -/
structure Visit.Recalls (visit : Visit) (outcome : Outcome) : Prop where
  isNamedBy : visit.state.isNamedBy visit.reading.params = true
  parseable : visit.reading.unparseable = false
  claims : visit.reading.claims = true
  recalled : visit.recalled? = some outcome

/-- The reading of a header with the parameters of a request. -/
def Service.readingWith (service : Service) (authorization : String)
    (params : List (String × String)) : Reading :=
  Reading.ofRequest service.policy.allowBasic
    { sessionId := "", authorization := some authorization, params }

theorem Service.reading_visitOf {request : Request}
    (h : request.authorization = some authorization) :
    (service.visitOf request snapshot).reading =
      service.readingWith authorization request.params := by
  obtain ⟨sessionId, given, params⟩ := request
  subst h
  rfl

/-! ### How the memory was filled -/

/-- The header was accepted with some parameters, under the nonce of the session. -/
def Filled (service : Service) (source : KeySource) (state : SessionState)
    (authorization : String) (identity : Identity) (kind : CredentialKind) : Prop :=
  ∃ params clientNonce,
    state.isNamedBy (service.readingWith authorization params).params = true ∧
    (service.readingWith authorization params).unparseable = false ∧
    Proves service.policy source (service.readingWith authorization params) state.serverNonce
      clientNonce identity kind

/-- Only the id and the nonce of a session count. -/
theorem Filled.congr {state other : SessionState} {identity : Identity} {kind : CredentialKind}
    (h : Filled service source state authorization identity kind)
    (hid : other.sessionId = state.sessionId) (hnonce : other.serverNonce = state.serverNonce) :
    Filled service source other authorization identity kind := by
  obtain ⟨params, clientNonce, hnamed, hparseable, hproves⟩ := h
  refine ⟨params, clientNonce, ?_, hparseable, ?_⟩
  · rw [SessionState.isNamedBy, hid]
    exact hnamed
  · rw [hnonce]
    exact hproves

/-- A login that is accepted in a call is proved under the source. -/
theorem Call.Sound.filled {registry : Registry} {settlement : Settlement}
    (sound : Call.Sound service (Gives source) registry
      { visit := settlement.visit, replies := settlement.replies,
        rest := .done settlement.verdict })
    (haccepted : settlement.Accepted service login)
    (hauthorization : login.authorization = some authorization) :
    Filled service source settlement.visit.state authorization login.identity login.kind := by
  obtain ⟨clientNonce, hends⟩ := haccepted.ends
  obtain ⟨refusals, houtcome⟩ := haccepted.sound
  have hreading : settlement.visit.reading =
      service.readingWith authorization settlement.visit.request.params :=
    (congrArg Visit.reading sound.visit_eq).trans
      (Service.reading_visitOf (haccepted.authorization_eq.symm.trans hauthorization))
  refine ⟨settlement.visit.request.params, clientNonce, ?_, ?_, refusals, ?_⟩
  · rw [← hreading]
    exact sound.isNamedBy
  · rw [← hreading]
    exact haccepted.parseable
  · rw [← hreading, ← houtcome]
    exact Dialogue.run_eq_of_ends hends sound.allowed

/-- A header that is remembered was accepted. -/
theorem Reaches.filled (h : Reaches service (Gives source) history system)
    (hs : system.registry.snapshot? id = some snapshot)
    (hlogin : snapshot.state.login = some login)
    (hauthorization : login.authorization = some authorization) :
    Filled service source snapshot.state authorization login.identity login.kind := by
  refine h.login_induction
    (P := fun _ _ state login => ∀ authorization, login.authorization = some authorization →
      Filled service source state authorization login.identity login.kind)
    ?_ ?_ ?_ ?_ hs hlogin authorization hauthorization
  · exact fun _ hfilled => hfilled
  · exact fun hstate hfilled authorization hauthorization =>
      (hfilled authorization hauthorization).congr (Service.sessionId_of_successor hstate)
        (Service.serverNonce_of_successor hstate)
  · exact fun sound _ hstate haccepted authorization hauthorization =>
      (sound.filled haccepted hauthorization).congr (Service.sessionId_of_successor hstate)
        (Service.serverNonce_of_successor hstate)
  · -- a rotation forgets the header
    intro history id newId state nonce login _ authorization hauthorization
    cases hauthorization

/-! ### When the memory agrees with a new attempt -/

/-- Every request with the header that is answered from memory would be accepted anew, as the
same identity by the same kind of credential. -/
def RecallAgrees (service : Service) (source : KeySource) (id authorization : String)
    (snapshot : Snapshot) (login : Login) : Prop :=
  ∀ request clientNonce, request.sessionId = id → request.authorization = some authorization →
    (service.visitOf request snapshot).Recalls login.outcome →
    Proves service.policy source (service.visitOf request snapshot).reading
      snapshot.state.serverNonce clientNonce login.identity login.kind

/-- The password in the header proves the login, and no claim that a request can add to it proves
another. -/
structure PasswordDecides (service : Service) (source : KeySource) (authorization : String)
    (state : SessionState) (login : Login) (password : PasswordClaim) : Prop where
  kind_eq : login.kind = .secretKey
  proves : ∀ clientNonce,
    (verifyPassword password state.serverNonce clientNonce).run source.answer =
      .ok login.identity
  unrivalled : ∀ params claim identity,
    state.isNamedBy (service.readingWith authorization params).params = true →
    Claim.decode service.policy.maxIterations (service.readingWith authorization params).params =
      .ok claim →
    (claim.request state.serverNonce).verify.run source.answer = .ok identity →
    identity = login.identity ∧ claim.response.kind = login.kind

/-- The header alone decides: it carries a whole claim, or a password that does. -/
def HeaderDecides (service : Service) (source : KeySource) (authorization : String)
    (state : SessionState) (login : Login) : Prop :=
  match (service.readingWith authorization []).password with
  | none => ∃ claim, Claim.decode service.policy.maxIterations
      (service.readingWith authorization []).params = .ok claim
  | some password => PasswordDecides service source authorization state login password

theorem Service.password_readingWith (params : List (String × String)) :
    (service.readingWith authorization params).password =
      (service.readingWith authorization []).password := rfl

theorem Service.parse?_eq_none_of_readingWith {service : Service} {password : PasswordClaim}
    {params : List (String × String)}
    (h : (service.readingWith authorization params).password = some password) :
    Header.parse? authorization = none := by
  simp only [readingWith, Reading.ofRequest] at h
  split at h
  · exact Header.parse?_eq_none_of_password h
  · cases h

/-- The requests that are answered from memory differ in their parameters alone. -/
theorem recallAgrees_iff_forall_params (hlogin : snapshot.state.login = some login)
    (hauthorization : login.authorization = some authorization)
    (hparseable : (service.readingWith authorization []).unparseable = false) :
    RecallAgrees service source id authorization snapshot login ↔
      ∀ params clientNonce,
        snapshot.state.isNamedBy (service.readingWith authorization params).params = true →
        (service.readingWith authorization params).claims = true →
        Proves service.policy source (service.readingWith authorization params)
          snapshot.state.serverNonce clientNonce login.identity login.kind := by
  constructor
  · intro h params clientNonce hnamed hclaims
    refine h { sessionId := id, authorization := some authorization, params } clientNonce rfl rfl
      ⟨hnamed, hparseable, hclaims, ?_⟩
    show snapshot.state.outcomeFor? authorization = some login.outcome
    simp [SessionState.outcomeFor?, hlogin, hauthorization]
  · intro h request clientNonce _ hrequest hrecalls
    have hreading : (service.visitOf request snapshot).reading = _ :=
      Service.reading_visitOf hrequest
    have hnamed := hrecalls.isNamedBy
    have hclaims := hrecalls.claims
    rw [hreading] at hnamed hclaims ⊢
    exact h request.params clientNonce hnamed hclaims

/-- A request that adds an id to its header and nothing else. -/
def bareId (text : String) : List (String × String) := [(Known.id.key, text)]

theorem claims_bareId (text : String) :
    (service.readingWith authorization (bareId text)).claims = true := by
  have hid : (service.readingWith authorization (bareId text)).params.has .id = true :=
    Header.has_merge_singleton (Header.parse? authorization) .id text
  have hclaims : (service.readingWith authorization (bareId text)).params.claimsIdentity = true :=
    List.any_eq_true.2 ⟨.id, by simp, hid⟩
  simp [Reading.claims, hclaims]

theorem isNamedBy_bareId {state : SessionState} (text : String)
    (h : state.isNamedBy (service.readingWith authorization []).params = true) :
    state.isNamedBy (service.readingWith authorization (bareId text)).params = true := by
  have hsession := Header.known?_merge_singleton_of_ne (Header.parse? authorization)
    (show Known.id ≠ .sessionId by decide) text
  rw [SessionState.isNamedBy] at h ⊢
  exact (congrArg _ hsession).trans h

/-- With a header that claims nothing, an id is not a whole claim. -/
theorem decode_bareId_ne (text : String) {maxIterations : UInt32} {claim : Claim}
    (h : (service.readingWith authorization []).params.claimsIdentity = false) :
    Claim.decode maxIterations (service.readingWith authorization (bareId text)).params ≠
      .ok claim := by
  intro hdecode
  have hhas := Params.missing?_eq_none_iff.1 (Claim.decode_eq_ok_iff.1 hdecode).1 .type (by simp)
  have htype := Header.known?_merge_singleton_of_ne (Header.parse? authorization)
    (show Known.id ≠ .type by decide) text
  have hheader : (service.readingWith authorization []).params.has .type = true :=
    (congrArg Option.isSome htype).symm.trans hhas
  have hclaims : (service.readingWith authorization []).params.claimsIdentity = true :=
    List.any_eq_true.2 ⟨.type, by simp, hheader⟩
  rw [h] at hclaims
  cases hclaims

/-- Without a password the memory agrees if the header carries a whole claim. -/
theorem recallAgrees_iff_of_no_password (hlogin : snapshot.state.login = some login)
    (hauthorization : login.authorization = some authorization)
    (hfilled : Filled service source snapshot.state authorization login.identity login.kind)
    (hpassword : (service.readingWith authorization []).password = none) :
    RecallAgrees service source id authorization snapshot login ↔
      ∃ claim, Claim.decode service.policy.maxIterations
        (service.readingWith authorization []).params = .ok claim := by
  obtain ⟨params₀, clientNonce₀, hnamed₀, hparseable, hproves₀⟩ := hfilled
  have hextends : ∀ params, (service.readingWith authorization []).params.Extends
      (service.readingWith authorization params).params :=
    fun params => Header.merge_extends (Header.parse? authorization) params
  -- a proof comes from the claim of the parameters, as there is no password
  have hproof : ∀ {params clientNonce},
      Proves service.policy source (service.readingWith authorization params)
        snapshot.state.serverNonce clientNonce login.identity login.kind →
      ∃ claim, Claim.decode service.policy.maxIterations
          (service.readingWith authorization params).params = .ok claim ∧
        claim.response.kind = login.kind ∧
        (claim.request snapshot.state.serverNonce).verify.run source.answer =
          .ok login.identity := by
    intro params clientNonce hproves
    rcases proves_iff.1 hproves with ⟨-, hverify⟩ | ⟨-, -, claim, hsome, -⟩
    · exact run_verifyParams_eq_ok_iff.1 hverify
    · cases hpassword.symm.trans hsome
  have hnamed := (hextends params₀).isNamedBy_of hnamed₀
  rw [recallAgrees_iff_forall_params hlogin hauthorization hparseable]
  constructor
  · intro h
    cases hclaims : (service.readingWith authorization []).params.claimsIdentity with
    | true =>
      obtain ⟨claim, hdecode, -⟩ :=
        hproof (h [] [] hnamed (by simp [Reading.claims, hclaims]))
      exact ⟨claim, hdecode⟩
    | false =>
      obtain ⟨claim, hdecode, -⟩ := hproof
        (h (bareId "x") [] (isNamedBy_bareId "x" hnamed) (claims_bareId "x"))
      exact absurd hdecode (decode_bareId_ne "x" hclaims)
  · rintro ⟨claim, hdecode⟩ params clientNonce - -
    obtain ⟨other, hother, hkind, hverify⟩ := hproof hproves₀
    cases (Claim.decode_of_extends (hextends params₀) hdecode).symm.trans hother
    have hdecode' := Claim.decode_of_extends (hextends params) hdecode
    exact proves_iff.2 (.inl ⟨Claim.claimsIdentity_of_decode hdecode',
      run_verifyParams_eq_ok_iff.2 ⟨claim, hdecode', hkind, hverify⟩⟩)

/-- With a password the memory agrees if nothing else that a request can say decides otherwise. -/
theorem recallAgrees_iff_of_password {password : PasswordClaim}
    (hlogin : snapshot.state.login = some login)
    (hauthorization : login.authorization = some authorization)
    (hparseable : (service.readingWith authorization []).unparseable = false)
    (hpassword : (service.readingWith authorization []).password = some password) :
    RecallAgrees service source id authorization snapshot login ↔
      PasswordDecides service source authorization snapshot.state login password := by
  have hempty : (service.readingWith authorization []).params = Header.merge none [] :=
    congrArg (Header.merge · []) (Service.parse?_eq_none_of_readingWith hpassword)
  rw [recallAgrees_iff_forall_params hlogin hauthorization hparseable]
  have hclaims : ∀ params, (service.readingWith authorization params).claims = true := by
    intro params
    simp [Reading.claims, service.password_readingWith params, hpassword]
  constructor
  · intro h
    have hnamed : snapshot.state.isNamedBy (service.readingWith authorization []).params = true := by
      rw [hempty]
      rfl
    have halone : ∀ clientNonce, login.kind = .secretKey ∧
        (verifyPassword password snapshot.state.serverNonce clientNonce).run source.answer =
          .ok login.identity := by
      intro clientNonce
      rcases proves_iff.1 (h [] clientNonce hnamed (hclaims [])) with
        ⟨hparams, -⟩ | ⟨-, hkind, claim, hsome, hverify⟩
      · rw [hempty] at hparams
        cases hparams
      · cases hpassword.symm.trans hsome
        exact ⟨hkind, hverify⟩
    refine ⟨(halone []).1, fun clientNonce => (halone clientNonce).2, ?_⟩
    intro params claim identity hnamed hdecode hverify
    have hfound := run_verifyParams_eq_ok_iff.2 ⟨claim, hdecode, rfl, hverify⟩
    rcases proves_iff.1 (h params [] hnamed (hclaims params)) with ⟨-, hother⟩ | ⟨hrefused, -⟩
    · exact Prod.mk.inj (Except.ok.inj (hfound.symm.trans hother))
    · obtain ⟨refusal, hrefusal⟩ := hrefused (Claim.claimsIdentity_of_decode hdecode)
      cases hfound.symm.trans hrefusal
  · intro decides params clientNonce hnamed _
    cases hclaims : (service.readingWith authorization params).params.claimsIdentity with
    | false =>
      exact proves_iff.2 (.inr ⟨by simp [hclaims], decides.kind_eq, password, hpassword,
        decides.proves clientNonce⟩)
    | true =>
      cases hverify : (verifyParams service.policy
          (service.readingWith authorization params).params snapshot.state.serverNonce).run
            source.answer with
      | error refusal =>
        exact proves_iff.2 (.inr ⟨fun _ => ⟨refusal, hverify⟩, decides.kind_eq, password,
          hpassword, decides.proves clientNonce⟩)
      | ok found =>
        obtain ⟨identity, kind⟩ := found
        obtain ⟨claim, hdecode, rfl, hclaim⟩ := run_verifyParams_eq_ok_iff.1 hverify
        obtain ⟨rfl, hkind⟩ := decides.unrivalled params claim identity hnamed hdecode hclaim
        rw [← hkind]
        exact proves_iff.2 (.inl ⟨hclaims, hverify⟩)

/-- Over a source whose values do not change, the memory of a header agrees with a new attempt, for
every request that it answers, exactly if the header decides alone. -/
theorem recall_agrees_iff {values : String → Except Resolution.Error (List Value)}
    {maxIterations : UInt32}
    (h : Reaches service (Gives (KeySource.ofStore values maxIterations)) history system)
    (hs : system.registry.snapshot? id = some snapshot)
    (hlogin : snapshot.state.login = some login)
    (hauthorization : login.authorization = some authorization) :
    RecallAgrees service (KeySource.ofStore values maxIterations) id authorization snapshot login ↔
      HeaderDecides service (KeySource.ofStore values maxIterations) authorization snapshot.state
        login := by
  have hfilled := h.filled hs hlogin hauthorization
  have hparseable : (service.readingWith authorization []).unparseable = false := by
    obtain ⟨params, clientNonce, -, hparseable, -⟩ := hfilled
    exact hparseable
  unfold HeaderDecides
  split
  · exact recallAgrees_iff_of_no_password hlogin hauthorization hfilled ‹_›
  · exact recallAgrees_iff_of_password hlogin hauthorization hparseable ‹_›

/-- One handle with one secret. -/
def oneSecret (handle : String) : Except Resolution.Error (List Value) :=
  .ok (if handle = "20.1000/7" then [{ index := 3, type := "HS_SECKEY", data := [1, 2, 3] }] else [])

/-- A header with a whole claim for the first nonce. -/
def wholeClaim : String :=
  "Handle id=20.1000/7,type=HS_SECKEY,alg=MD5,cnonce=AAAA,signature=SpO6yQcVjdIGsAw56khwEA=="

/-- The memory of a whole claim agrees. -/
theorem recall_agrees_of_wholeClaim :
    ∃ history system,
      Reaches plainService (Gives (KeySource.ofStore oneSecret 10000)) history system ∧
      system.registry.snapshot? "s" = some (loggedIn (some wholeClaim)) ∧
      ∃ login, (loggedIn (some wholeClaim)).state.login = some login ∧
        RecallAgrees plainService (KeySource.ofStore oneSecret 10000) "s" wholeClaim
          (loggedIn (some wholeClaim)) login := by
  have hs : (plainService.authenticate (KeySource.ofStore oneSecret 10000)
      (.ofStreams fun _ _ => 0) 0
      { sessionId := "s", authorization := some wholeClaim, params := [] }
      (.ofPolicy .default)).2.snapshot? "s" = some (loggedIn (some wholeClaim)) := by
    decide +kernel
  obtain ⟨history, system, h, hs⟩ :=
    exists_reaches_first (Gives (KeySource.ofStore oneSecret 10000)) (fun _ => rfl) hs
  refine ⟨history, system, h, hs, _, rfl, (recall_agrees_iff h hs rfl rfl).2 ?_⟩
  have hpassword : (plainService.readingWith wholeClaim []).password = none := by decide +kernel
  have hdecode : (Claim.decode Policy.default.maxIterations
      (plainService.readingWith wholeClaim []).params).isOk = true := by decide +kernel
  unfold HeaderDecides
  rw [hpassword]
  cases hclaim : Claim.decode Policy.default.maxIterations
      (plainService.readingWith wholeClaim []).params with
  | error refusal =>
    rw [hclaim] at hdecode
    cases hdecode
  | ok claim => exact ⟨claim, hclaim⟩

/-- A header that says nothing of who it is from. -/
def bareHeader : String := "Handle version=0"

/-- A request that claims another identity, without proof. -/
def otherClaim : Request where
  sessionId := "s"
  authorization := some bareHeader
  params := bareId "20.1000/8"

/-- A login whose claim stood beside such a header is recalled for a request that claims another
identity without proof, although an attempt refuses that. -/
theorem recall_of_bareHeader_disagrees :
    ∃ history system,
      Reaches plainService (Gives (KeySource.ofStore oneSecret 10000)) history system ∧
      system.registry.snapshot? "s" = some (loggedIn (some bareHeader)) ∧
      (plainService.visitOf otherClaim (loggedIn (some bareHeader))).Recalls
        (.success { handle := "20.1000/7", index := 3 } .secretKey []) ∧
      ∀ clientNonce, (attempt .default
          (plainService.visitOf otherClaim (loggedIn (some bareHeader))).reading
          (loggedIn (some bareHeader)).state.serverNonce clientNonce).run
            (KeySource.ofStore oneSecret 10000).answer =
        .failure [.incomplete ("missing " ++ Known.cnonce.key)] := by
  have hs : (plainService.authenticate (KeySource.ofStore oneSecret 10000)
      (.ofStreams fun _ _ => 0) 0
      { sessionId := "s", authorization := some bareHeader
        params := macClaim "SpO6yQcVjdIGsAw56khwEA==" }
      (.ofPolicy .default)).2.snapshot? "s" = some (loggedIn (some bareHeader)) := by
    decide +kernel
  obtain ⟨history, system, h, hs⟩ :=
    exists_reaches_first (Gives (KeySource.ofStore oneSecret 10000)) (fun _ => rfl) hs
  refine ⟨history, system, h, hs, ⟨by decide +kernel, by decide +kernel, by decide +kernel,
    by decide +kernel⟩, fun clientNonce => ?_⟩
  have hclaims : (plainService.visitOf otherClaim
      (loggedIn (some bareHeader))).reading.params.claimsIdentity = true := by decide +kernel
  have hpassword : (plainService.visitOf otherClaim
      (loggedIn (some bareHeader))).reading.password = none := by decide +kernel
  have hmissing : (plainService.visitOf otherClaim
      (loggedIn (some bareHeader))).reading.params.missing? = some .cnonce := by decide +kernel
  simp only [attempt, hclaims, verifyParams, Claim.decode_of_missing hmissing, hpassword,
    attemptPassword, if_true, Dialogue.run_bind, Dialogue.run_done]

end HandleChallenge.Authentication
