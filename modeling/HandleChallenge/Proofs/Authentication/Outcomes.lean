import HandleChallenge.Proofs.Authentication.Handling

/-!
# What outcomes look like

An outcome is put together in many places, and some are remembered and told again. It is one of
four: nothing was claimed, the session goes on with its login, the claim was refused, or it was
accepted. `HasShape` says what each of them tells, and `Tried` in which order the ways to claim an
identity were tried. `outcome_well_formed` says that every answer in every run is of one of these
shapes, when it is an attempt, and what a session remembers of its login.
-/

namespace HandleChallenge

namespace Authentication

open Dialogue (ends_done_iff ends_bind_iff)
open Header (Known Params PasswordClaim)

/-! ### Shapes -/

/-- How the ways in which a reading claims an identity were tried, with the replies they got: first
the claim of the parameters, and the password where that claim is absent or refused. -/
inductive Tried (policy : Policy) (reading : Reading) (serverNonce : Bytes) :
    List KeyReply → Outcome → Prop where
  | claimAccepted {replies : List KeyReply} {identity : Identity} {kind : CredentialKind}
      (hclaims : reading.params.claimsIdentity = true)
      (hclaim : (verifyParams policy reading.params serverNonce).Ends replies
        (.ok (identity, kind))) :
      Tried policy reading serverNonce replies (.success identity kind [])
  | claimRefused {replies : List KeyReply} {refusal : Refusal}
      (hclaims : reading.params.claimsIdentity = true)
      (hclaim : (verifyParams policy reading.params serverNonce).Ends replies (.error refusal))
      (hpassword : reading.password = none) :
      Tried policy reading serverNonce replies (.failure [refusal])
  | passwordAccepted {replies : List KeyReply} {password : PasswordClaim} {clientNonce : Bytes}
      {identity : Identity} (hclaims : reading.params.claimsIdentity = false)
      (hpassword : reading.password = some password)
      (hproof : (verifyPassword password serverNonce clientNonce).Ends replies (.ok identity)) :
      Tried policy reading serverNonce replies (.success identity .secretKey [])
  | passwordRefused {replies : List KeyReply} {password : PasswordClaim} {clientNonce : Bytes}
      {refusal : Refusal} (hclaims : reading.params.claimsIdentity = false)
      (hpassword : reading.password = some password)
      (hproof : (verifyPassword password serverNonce clientNonce).Ends replies
        (.error refusal)) :
      Tried policy reading serverNonce replies (.failure [refusal])
  | passwordAcceptedAfter {first second : List KeyReply} {password : PasswordClaim}
      {clientNonce : Bytes} {identity : Identity} {refusal : Refusal}
      (hclaims : reading.params.claimsIdentity = true)
      (hclaim : (verifyParams policy reading.params serverNonce).Ends first (.error refusal))
      (hpassword : reading.password = some password)
      (hproof : (verifyPassword password serverNonce clientNonce).Ends second (.ok identity)) :
      Tried policy reading serverNonce (first ++ second) (.success identity .secretKey [refusal])
  | bothRefused {first second : List KeyReply} {password : PasswordClaim} {clientNonce : Bytes}
      {refusal more : Refusal} (hclaims : reading.params.claimsIdentity = true)
      (hclaim : (verifyParams policy reading.params serverNonce).Ends first (.error refusal))
      (hpassword : reading.password = some password)
      (hproof : (verifyPassword password serverNonce clientNonce).Ends second (.error more)) :
      Tried policy reading serverNonce (first ++ second) (.failure [refusal, more])

/-- The ways that a settled call tried, with the replies that it got. -/
def Settlement.Tried (policy : Policy) (settlement : Settlement) (outcome : Outcome) : Prop :=
  Authentication.Tried policy settlement.visit.reading settlement.visit.state.serverNonce
    settlement.replies outcome

/-- How a request comes to the outcome of an attempt. A remembered outcome is that of an earlier
call with the same header. -/
inductive Came (policy : Policy) (history : List Event) : Event → Outcome → Prop where
  | otherSession (request : Request) (opened : Bool) (answer : Option Answer) :
      Came policy history (.received request opened answer) (.failure [.badSession])
  | unparseable {settlement : Settlement} (h : settlement.visit.reading.unparseable = true) :
      Came policy history (.settled settlement) (.failure [Service.unparseable])
  | tried {settlement : Settlement} {outcome : Outcome} (h : settlement.Tried policy outcome) :
      Came policy history (.settled settlement) outcome
  | recalled {settlement earlier : Settlement} {authorization : String} {outcome : Outcome}
      (hmem : .settled earlier ∈ history)
      (hearlier : earlier.visit.request.authorization = some authorization)
      (hsame : settlement.visit.request.authorization = some authorization)
      (h : earlier.Tried policy outcome) (hsucceeded : outcome.succeeded = true) :
      Came policy history (.settled settlement) outcome

/-- The login that was read for the request of an event. -/
def Event.login? : Event → Option Login
  | settled settlement => settlement.visit.state.login
  | _ => none

/-- The outcome is of one of four shapes, which whether it was attempted and whether it succeeded
tell apart. -/
def HasShape (policy : Policy) (history : List Event) (event : Event) (outcome : Outcome) : Prop :=
  match outcome.attempted, outcome.succeeded with
  | false, false => outcome.identity = none ∧ outcome.kind = none ∧ outcome.refusals = []
  | false, true => ∃ login, event.login? = some login ∧ outcome.identity = some login.identity ∧
      outcome.kind = some login.kind ∧ outcome.refusals = []
  | true, false => outcome.identity = none ∧ outcome.kind = none ∧
      (outcome.refusals.length = 1 ∨ outcome.refusals.length = 2) ∧
      Came policy history event (.failure outcome.refusals)
  | true, true => ∃ identity kind, outcome.identity = some identity ∧ outcome.kind = some kind ∧
      outcome.refusals.length ≤ 1 ∧
      Came policy history event (.success identity kind outcome.refusals)

/-- The answer that a request gets in an event. -/
inductive Event.Answers : Event → Request → Answer → Prop where
  | atOnce (request : Request) (opened : Bool) (answer : Answer) :
      Answers (.received request opened (some answer)) request answer
  | settled (settlement : Settlement) :
      Answers (.settled settlement) settlement.visit.request settlement.answer

/-- The parameters of a request's header and of the request itself. -/
def Request.merged (request : Request) : Params :=
  Header.merge (request.authorization.bind Header.parse?) request.params

/-- The request claims an identity or another session: it names a session that is not its own, it
has a parameter of a claim, it has a password where passwords are allowed, or its header is of the
scheme and cannot be read. -/
def Request.Attempts (policy : Policy) (request : Request) : Prop :=
  (∃ named, request.merged.known? .sessionId = some named ∧ named ≠ request.sessionId) ∨
  (∃ known ∈ [Known.id, .type, .alg, .signature], request.merged.has known = true) ∨
  (policy.allowBasic = true ∧ ∃ authorization password,
    request.authorization = some authorization ∧
    PasswordClaim.parse? authorization = some password) ∨
  ∃ authorization, request.authorization = some authorization ∧
    Header.namesScheme authorization = true ∧ Header.parse? authorization = none

variable {policy : Policy} {service : Service} {allowed : KeyReply → Prop} {history : List Event}
  {system next : System} {event : Event} {reading : Reading} {serverNonce clientNonce : Bytes}
  {replies : List KeyReply} {outcome : Outcome} {request : Request} {answer : Answer}
  {visit : Visit} {verdict : Verdict} {id : String} {snapshot : Snapshot}

/-! ### Attempts -/

/-- A claim that is refused by one way or two tells so by one refusal each. -/
theorem Tried.refusals_of_failure {refusals : List Refusal}
    (h : Tried policy reading serverNonce replies (.failure refusals)) :
    refusals.length = 1 ∨ refusals.length = 2 := by
  generalize houtcome : Outcome.failure refusals = outcome at h
  cases h <;> cases houtcome
  · exact .inl rfl
  · exact .inl rfl
  · exact .inr rfl

theorem Tried.refusals_of_success {identity : Identity} {kind : CredentialKind}
    {refusals : List Refusal}
    (h : Tried policy reading serverNonce replies (.success identity kind refusals)) :
    refusals.length ≤ 1 := by
  generalize houtcome : Outcome.success identity kind refusals = outcome at h
  cases h <;> cases houtcome
  · exact Nat.zero_le _
  · exact Nat.zero_le _
  · exact Nat.le_refl _

/-- A password alone is accepted or refused. -/
theorem attemptPassword_cases {refusals : List Refusal} {password : PasswordClaim}
    (h : (attemptPassword refusals (some password) serverNonce clientNonce).Ends replies outcome) :
    (∃ identity, outcome = .success identity .secretKey refusals ∧
        (verifyPassword password serverNonce clientNonce).Ends replies (.ok identity)) ∨
      ∃ refusal, outcome = .failure (refusals ++ [refusal]) ∧
        (verifyPassword password serverNonce clientNonce).Ends replies (.error refusal) := by
  obtain ⟨first, second, verified, rfl, hfirst, hsecond⟩ := ends_bind_iff.1 h
  cases verified with
  | ok identity =>
    obtain ⟨rfl, rfl⟩ := ends_done_iff.1 hsecond
    rw [List.append_nil]
    exact .inl ⟨identity, rfl, hfirst⟩
  | error refusal =>
    obtain ⟨rfl, rfl⟩ := ends_done_iff.1 hsecond
    rw [List.append_nil]
    exact .inr ⟨refusal, rfl, hfirst⟩

/-- An attempt tries the claim of the parameters and then the password. -/
theorem tried_of_ends (hparseable : reading.unparseable = false) (hclaims : reading.claims = true)
    (h : (attempt policy reading serverNonce clientNonce).Ends replies outcome) :
    Tried policy reading serverNonce replies outcome := by
  unfold attempt at h
  cases hparams : reading.params.claimsIdentity with
  | true =>
    rw [if_pos hparams] at h
    obtain ⟨first, second, verified, rfl, hfirst, hsecond⟩ := ends_bind_iff.1 h
    rcases verified with refusal | ⟨identity, kind⟩
    · cases hpassword : reading.password with
      | none =>
        simp only [hpassword] at hsecond
        obtain ⟨rfl, rfl⟩ := ends_done_iff.1 hsecond
        rw [List.append_nil]
        exact .claimRefused hparams hfirst hpassword
      | some password =>
        simp only [hpassword] at hsecond
        rcases attemptPassword_cases hsecond with ⟨identity, rfl, hproof⟩ | ⟨more, rfl, hproof⟩
        · exact .passwordAcceptedAfter hparams hfirst hpassword hproof
        · exact .bothRefused hparams hfirst hpassword hproof
    · obtain ⟨rfl, rfl⟩ := ends_done_iff.1 hsecond
      rw [List.append_nil]
      exact .claimAccepted hparams hfirst
  | false =>
    rw [if_neg (Bool.eq_false_iff.1 hparams)] at h
    -- what claims an identity is then the password
    obtain ⟨password, hpassword⟩ : ∃ password, reading.password = some password := by
      simpa [Reading.claims, hparams, hparseable, Option.isSome_iff_exists] using hclaims
    rw [hpassword] at h
    rcases attemptPassword_cases h with ⟨identity, rfl, hproof⟩ | ⟨refusal, rfl, hproof⟩
    · exact .passwordAccepted hparams hpassword hproof
    · exact .passwordRefused hparams hpassword hproof

/-- An attempt is made by a request that names another session or claims an identity. -/
theorem attempts_iff :
    request.Attempts policy ↔
      (∃ named, request.merged.known? .sessionId = some named ∧ named ≠ request.sessionId) ∨
        (Reading.ofRequest policy.allowBasic request).claims = true := by
  have hparams : (∃ known ∈ [Known.id, .type, .alg, .signature], request.merged.has known = true) ↔
      (Reading.ofRequest policy.allowBasic request).params.claimsIdentity = true :=
    List.any_eq_true.symm
  have hpassword : (policy.allowBasic = true ∧ ∃ authorization password,
      request.authorization = some authorization ∧
      PasswordClaim.parse? authorization = some password) ↔
      (Reading.ofRequest policy.allowBasic request).password.isSome = true := by
    unfold Reading.ofRequest
    cases policy.allowBasic with
    | false => simp
    | true =>
      simp only [true_and, if_true, Option.isSome_iff_exists, Option.bind_eq_some_iff]
      exact exists_comm
  have hparseable : (∃ authorization, request.authorization = some authorization ∧
      Header.namesScheme authorization = true ∧ Header.parse? authorization = none) ↔
      (Reading.ofRequest policy.allowBasic request).unparseable = true := by
    unfold Reading.ofRequest
    cases request.authorization with
    | none => simp
    | some authorization => simp
  rw [Request.Attempts, hparams, hpassword, hparseable, Reading.claims, Bool.or_eq_true,
    Bool.or_eq_true, or_assoc]

/-- Parameters are meant for a session exactly if they name no other. -/
theorem isNamedBy_eq_false_iff {state : SessionState} {params : Params} :
    state.isNamedBy params = false ↔
      ∃ named, params.known? .sessionId = some named ∧ named ≠ state.sessionId := by
  unfold SessionState.isNamedBy
  cases params.known? .sessionId with
  | none => simp
  | some named => simp

/-! ### Logins -/

/-- A call of the history led to the login, and had its header where the login has one. -/
def Recorded (policy : Policy) (history : List Event) (login : Login) : Prop :=
  ∃ settlement refusals, .settled settlement ∈ history ∧
    login.outcome = .success login.identity login.kind refusals ∧
    settlement.Tried policy login.outcome ∧
    ∀ authorization, login.authorization = some authorization →
      settlement.visit.request.authorization = some authorization

theorem Recorded.mono {login : Login} {more : List Event}
    (h : Recorded policy history login)
    (hsub : history ⊆ more) : Recorded policy more login := by
  obtain ⟨settlement, refusals, hmem, houtcome, htried, hheader⟩ := h
  exact ⟨settlement, refusals, hsub hmem, houtcome, htried, hheader⟩

/-- Every login in the registry was recorded by a call. -/
theorem Reaches.login_recorded (h : Reaches service allowed history system) {login : Login}
    (hs : system.registry.snapshot? id = some snapshot)
    (hlogin : snapshot.state.login = some login) : Recorded service.policy history login := by
  refine h.login_induction (P := fun history _ _ login => Recorded service.policy history login)
    ?_ ?_ ?_ ?_ hs hlogin
  · exact fun _ hrecorded => hrecorded.mono (List.subset_cons_self _ _)
  · exact fun _ hrecorded => hrecorded.mono (List.subset_cons_self _ _)
  · intro history registry settlement state login sound hheld hstate haccepted
    obtain ⟨clientNonce, hends⟩ := haccepted.ends
    obtain ⟨refusals, houtcome⟩ := haccepted.sound
    exact ⟨settlement, refusals, List.mem_cons_self, houtcome,
      tried_of_ends haccepted.parseable haccepted.claims hends,
      fun authorization hheader => haccepted.authorization_eq.symm.trans hheader⟩
  · rintro history id newId state nonce login ⟨settlement, refusals, hmem, houtcome, htried, -⟩
    refine ⟨settlement, refusals, List.mem_cons_of_mem _ hmem, houtcome, htried, ?_⟩
    intro authorization hheader
    cases hheader

/-! ### Answers -/

/-- The server's signature is no part of the shape. -/
theorem HasShape.withSignature (h : HasShape policy history event outcome)
    (signature : Option ServerSignature) :
    HasShape policy history event (outcome.withSignature signature) := h

/-- A verdict has a shape, and it is an attempt exactly if an identity is claimed. -/
theorem shape_of_ends {settlement : Settlement}
    (h : (service.verdict clientNonce settlement.visit).Ends settlement.replies settlement.verdict)
    (hread : ∀ login, settlement.visit.state.login = some login →
      Recorded service.policy history login) :
    HasShape service.policy history (.settled settlement) settlement.verdict.outcome ∧
      (settlement.verdict.outcome.attempted = true ↔ settlement.visit.reading.claims = true) := by
  obtain ⟨visit, replies, verdict, held, answer⟩ := settlement
  cases verdict_ends h with
  | unparseable hparseable _ =>
    refine ⟨⟨rfl, rfl, .inl rfl, .unparseable hparseable⟩, ?_⟩
    simp [Outcome.failure, Reading.claims, show visit.reading.unparseable = true from hparseable]
  | recalled hparseable hclaims hrecalled _ =>
    obtain ⟨login, authorization, hlogin, rfl, hsame, hheader⟩ :=
      exists_header_of_recalled hrecalled
    obtain ⟨earlier, refusals, hmem, houtcome, htried, hearlier⟩ := hread login hlogin
    rw [houtcome] at htried ⊢
    exact ⟨⟨_, _, rfl, rfl, htried.refusals_of_success,
      .recalled hmem (hearlier _ hheader) hsame htried rfl⟩, iff_of_true rfl hclaims⟩
  | attempted hparseable hclaims _ hends =>
    have htried := tried_of_ends hparseable hclaims hends
    rcases attempt_ends hends with ⟨identity, kind, refusals, rfl, -⟩ | ⟨refusals, rfl⟩
    · exact ⟨⟨_, _, rfl, rfl, htried.refusals_of_success, .tried htried⟩, iff_of_true rfl hclaims⟩
    · exact ⟨⟨rfl, rfl, htried.refusals_of_failure, .tried htried⟩, iff_of_true rfl hclaims⟩
  | continued hclaims hlogin _ =>
    refine ⟨⟨_, hlogin, rfl, rfl, rfl⟩, iff_of_false Bool.false_ne_true ?_⟩
    exact Bool.eq_false_iff.1 hclaims
  | notAttempted hclaims _ _ =>
    exact ⟨⟨rfl, rfl, rfl⟩, iff_of_false Bool.false_ne_true (Bool.eq_false_iff.1 hclaims)⟩

/-- So has the answer to a call. -/
theorem shape_of_settle {settlement : Settlement} {registry : Registry} {now : Instant}
    (sound : Call.Sound service allowed registry
      { visit := settlement.visit, replies := settlement.replies,
        rest := .done settlement.verdict })
    (hanswer : settlement.answer =
      (service.settle now settlement.visit settlement.verdict registry).1)
    (hread : ∀ login, settlement.visit.state.login = some login →
      Recorded service.policy history login) :
    HasShape service.policy history (.settled settlement) settlement.answer.outcome ∧
      (settlement.answer.outcome.attempted = true ↔
        settlement.visit.request.Attempts service.policy) := by
  obtain ⟨clientNonce, hfollows⟩ := sound.follows
  obtain ⟨hshape, hattempted⟩ := shape_of_ends hfollows hread
  have hreading : settlement.visit.reading =
      Reading.ofRequest service.policy.allowBasic settlement.visit.request :=
    congrArg Visit.reading sound.visit_eq
  have hnamed : ¬ ∃ named, settlement.visit.request.merged.known? .sessionId = some named ∧
      named ≠ settlement.visit.request.sessionId := by
    intro hother
    rw [← sound.sessionId_eq] at hother
    have hnot := isNamedBy_eq_false_iff.2 hother
    have hyes := sound.isNamedBy
    rw [hreading] at hyes
    cases hyes.symm.trans hnot
  rw [attempts_iff, ← hreading, or_iff_right hnamed, hanswer, Service.settle_fst]
  exact ⟨hshape.withSignature _, hattempted⟩

/-- An answer that a request gets as it arrives has a shape: nothing was claimed, or another session
was named. -/
theorem shape_of_receive {entropy : Entropy} {now : Instant} {registry after : Registry}
    {opened : Bool} (sound : after.Sound)
    (h : service.receive entropy now request registry = (.answered answer, after)) :
    HasShape service.policy history (.received request opened (some answer)) answer.outcome ∧
      (answer.outcome.attempted = true ↔ request.Attempts service.policy) := by
  rw [attempts_iff]
  rcases service.receive_cases entropy now request registry with
    ⟨hneeds, hstranger⟩ | ⟨snapshot, hadmitted, hread⟩
  · rw [h] at hstranger
    cases hstranger
    refine ⟨⟨rfl, rfl, rfl⟩, iff_of_false Bool.false_ne_true ?_⟩
    rintro (⟨named, hnamed, -⟩ | hclaims)
    · have habsent : request.merged.has .sessionId = false := by
        simp only [Reading.needsSession, Params.needsSession, Bool.or_eq_false_iff] at hneeds
        exact hneeds.2.1.1
      rw [Params.has, hnamed] at habsent
      cases habsent
    · cases (Reading.asks_nothing hneeds).1.symm.trans hclaims
  · rw [h] at hadmitted hread
    unfold Service.admission at hadmitted
    split at hadmitted
    · cases hadmitted
    · rename_i hother
      cases hadmitted
      obtain ⟨named, hnamed, hne⟩ := isNamedBy_eq_false_iff.1 (Bool.eq_false_iff.2 hother)
      have hid : snapshot.state.sessionId = request.sessionId := sound.sessionId_eq hread
      refine ⟨⟨rfl, rfl, .inl rfl, .otherSession request opened _⟩, iff_of_true rfl (.inl ?_)⟩
      exact ⟨named, hnamed, fun hsame => hne (hsame.trans hid.symm)⟩

/-- Whatever answer is given next, its outcome is of one of the four shapes, and it is an attempt
exactly if the request names another session or claims an identity; and what a session remembers of
its login is a success, with one refusal at most and without a signature. -/
theorem outcome_well_formed (h : Reaches service allowed history system) :
    (∀ event next request answer, Step service allowed system event next →
      event.Answers request answer →
      HasShape service.policy history event answer.outcome ∧
        (answer.outcome.attempted = true ↔ request.Attempts service.policy)) ∧
    (∀ id snapshot login, system.registry.snapshot? id = some snapshot →
      snapshot.state.login = some login →
      ∃ refusals, refusals.length ≤ 1 ∧
        login.outcome =
          { attempted := true, succeeded := true, identity := some login.identity,
            kind := some login.kind, refusals, signature := none }) := by
  constructor
  · intro event next request answer hstep hanswers
    cases hanswers with
    | atOnce =>
      have sound := (h.step hstep).sound.registry
      cases hstep with
      | answered hreceive => exact shape_of_receive sound hreceive
    | settled =>
      cases hstep with
      | @settled registry before after visit replies verdict now =>
        have hcall : { visit, replies, rest := .done verdict } ∈
            before ++ { visit, replies, rest := .done verdict } :: after :=
          List.mem_append_right _ List.mem_cons_self
        have sound := h.sound.call _ hcall
        obtain ⟨earlier, found, hsuffix, hfound, hs⟩ := h.wasHeld hcall
        have hread : ∀ login, visit.state.login = some login →
            Recorded service.policy history login := fun login hlogin =>
          (hfound.login_recorded hs hlogin).mono hsuffix.subset
        exact shape_of_settle sound rfl hread
  · intro id snapshot login hs hlogin
    obtain ⟨settlement, refusals, -, houtcome, htried, -⟩ := h.login_recorded hs hlogin
    rw [houtcome] at htried
    exact ⟨refusals, htried.refusals_of_success, houtcome⟩

/-- In the session of a first login a request that names another session is an attempt, with an
outcome of the third shape, and the login remembers an outcome of the fourth. -/
theorem outcomes_after_first_login :
    ∃ history system event next answer,
      Reaches plainService (fun _ => True) history system ∧
      system.registry.snapshot? "s" = some (loggedIn none) ∧
      Step plainService (fun _ => True) system event next ∧
      event.Answers (strayRequest "s") answer ∧
      answer.outcome = .failure [.badSession] ∧
      HasShape plainService.policy history event answer.outcome ∧
      (strayRequest "s").Attempts plainService.policy ∧
      ∃ refusals : List Refusal, refusals.length ≤ 1 ∧
        (loggedIn none).state.login.map Login.outcome =
          some (.success { handle := "20.1000/7", index := 3 } .secretKey refusals) := by
  obtain ⟨history, system, h, hs⟩ := exists_reaches_loggedIn
  have hreceive : plainService.receive zeros 1 (strayRequest "s") system.registry =
      (plainService.admission zeros (plainService.visitOf (strayRequest "s") (loggedIn none)), _) :=
    Service.receive_of_some hs
  have hother : (plainService.visitOf (strayRequest "s") (loggedIn none)).state.isNamedBy
      (plainService.visitOf (strayRequest "s") (loggedIn none)).reading.params = false :=
    isNamedBy_strayRequest _ rfl
  rw [Service.admission_of_not_isNamedBy hother] at hreceive
  have hstep : Step plainService (fun _ => True) system _ _ := .answered hreceive
  obtain ⟨hanswers, hcached⟩ := outcome_well_formed h
  obtain ⟨hshape, hattempts⟩ := hanswers _ _ _ _ hstep (.atOnce _ _ _)
  obtain ⟨refusals, hlength, houtcome⟩ := hcached "s" _ _ hs rfl
  exact ⟨history, system, _, _, _, h, hs, hstep, .atOnce _ _ _, rfl, hshape, hattempts.1 rfl,
    refusals, hlength, congrArg some houtcome⟩

end Authentication

end HandleChallenge
