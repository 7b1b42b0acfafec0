import HandleChallenge.Proofs.Authentication.Handling
import HandleChallenge.Proofs.Gateway.ServerProof
import HandleChallenge.Proofs.Gateway.SessionIds
import HandleChallenge.Proofs.Gateway.Writing

/-!
# What a response owes the client

The cookie, the challenge and the registry have to agree about one session: a client that is told
another nonce than its session has, or a session that is gone, could not log in. `Contract` says
what they owe each other and `response_keeps_contract` that they do after every request that is
handled with nothing in between, also where the login gave the session a new id. A text that
cannot be sent is dropped, so the names that an operator chooses must hold no control character.
-/

namespace HandleChallenge

/-- To go on with the last login is to claim nothing. -/
theorem SessionState.attempted_continued (state : SessionState) :
    state.continued.attempted = false := by
  unfold continued
  cases state.login with
  | none => rfl
  | some login => rfl

namespace Authentication

variable {service : Service} {entropy : Entropy} {now later : Instant} {request : Request}
  {registry : Registry} {handling : Handling} {signature : ServerSignature}

/-! ### What the service answers -/

/-- The answer is about the session that was asked about. -/
theorem Handles.sessionId_eq
    (h : Handles service entropy now later request registry handling) :
    handling.answer.sessionId = request.sessionId := by
  cases h with
  | answered hreceive =>
    rcases Service.receive_answered hreceive with rfl | ⟨snapshot, rfl⟩
    · rfl
    · rfl
  | settled hreceive hends =>
    obtain ⟨snapshot, clientNonce, rfl, -⟩ := Service.receive_pending hreceive
    rw [Service.settle_fst]
    rfl

/-- A client that makes a claim needs a session. -/
theorem Handles.requiresSession_of_attempted
    (h : Handles service entropy now later request registry handling)
    (hattempted : handling.answer.outcome.attempted = true) :
    handling.answer.requiresSession = true := by
  cases hneeds : (Reading.ofRequest service.policy.allowBasic request).needsSession with
  | true => exact h.requiresSession_eq hneeds
  | false =>
    cases h with
    | answered hreceive =>
      rcases Service.receive_answered hreceive with rfl | ⟨snapshot, rfl⟩
      · cases hattempted
      · rfl
    | settled hreceive hends =>
      obtain ⟨snapshot, clientNonce, rfl, -, -, rfl⟩ := Service.receive_pending hreceive
      rw [service.verdict_of_not_claims clientNonce (Reading.asks_nothing hneeds).1] at hends
      obtain ⟨-, rfl⟩ := Dialogue.ends_done_iff.1 hends
      rw [Service.settle_fst] at hattempted
      cases (service.visitOf request snapshot).state.attempted_continued.symm.trans hattempted

/-- A session that the client needs is there, with the nonce of the answer. -/
theorem Handles.exists_snapshot
    (h : Handles service entropy now later request registry handling)
    (hrequires : handling.answer.requiresSession = true) :
    ∃ snapshot, handling.registry.snapshot? request.sessionId = some snapshot ∧
      snapshot.state.serverNonce = handling.answer.serverNonce := by
  cases h with
  | @answered answer after hreceive =>
    rcases Service.receive_cases service entropy now request registry with
      ⟨hneeds, hstranger⟩ | ⟨snapshot, hadmitted, hread⟩
    · rw [hreceive] at hstranger
      cases hstranger
      cases hneeds.symm.trans hrequires
    · rw [hreceive] at hadmitted hread
      unfold Service.admission at hadmitted
      split at hadmitted
      · cases hadmitted
      · cases hadmitted
        exact ⟨snapshot, hread, rfl⟩
  | @settled visit rest after replies verdict hreceive hends =>
    obtain ⟨read, clientNonce, rfl, hheld, -, -⟩ := Service.receive_pending hreceive
    obtain ⟨settled, hsettled, hstate⟩ := Option.map_eq_some_iff.1
      (service.state_settle_of_held (service.visitOf request read) hheld later verdict)
    refine ⟨settled, hsettled, ?_⟩
    rw [hstate, Service.serverNonce_settle]
    unfold Service.settledState
    cases hsuccessor : service.successor? (service.visitOf request read) verdict with
    | none => rfl
    | some state => exact Service.serverNonce_of_successor hsuccessor

/-- A signature in the answer has the name of the signer's algorithm. -/
theorem Handles.exists_signer
    (h : Handles service entropy now later request registry handling)
    (hproved : ∀ id snapshot, registry.snapshot? id = some snapshot →
      IsProvedBy service snapshot.state)
    (hsignature : handling.answer.outcome.signature = some signature) :
    ∃ signer, service.signer = some signer ∧ signature.algorithm = signer.algorithm := by
  cases h with
  | answered hreceive =>
    cases (signature_eq_none_of_receive hreceive).symm.trans hsignature
  | @settled visit rest after replies verdict hreceive hends =>
    obtain ⟨read, clientNonce, rfl, hheld, -, -⟩ := Service.receive_pending hreceive
    have hread : IsProvedBy service read.state := by
      have hreceived : (service.receive entropy now request registry).2.snapshot?
          request.sessionId = some read := by
        rw [hreceive]
        exact hheld
      rcases Service.snapshot?_receive hreceived with hold | ⟨-, -, rfl⟩
      · exact hproved _ _ hold
      · exact isProvedBy_of_no_proof rfl
    have hvisit : IsProvedBy service (service.visitOf request read).state := hread
    obtain ⟨signer, -, hsigner, -, halgorithm, -⟩ :=
      (hvisit.signature_settle_iff.1 hsignature).exists_signer
    exact ⟨signer, hsigner, halgorithm⟩

end Authentication

namespace Gateway

open Authentication (Event Handles KeyReply Service sourceAt)
open Http (isSendable)

variable {settings : GatewaySettings} {service : Service} {allowed : KeyReply → Prop}
  {history : List Event} {system : System} {entropy : Entropy} {request : Http.Request}
  {before after : Registry} {session : SessionId} {told answer : Authentication.Answer}

/-! ### The contract -/

/-- The name of the field with a cookie. -/
def cookieField : String := "set-cookie"

/-- The outcome that the wrapped service is called with, if it is called. -/
def Passage.seen? : Passage → Option Outcome
  | refused _ => none
  | passed outcome _ _ => some outcome

/-- The cookies that the wrapped service sets, if it is called. -/
def Passage.innerCookies (inner : Outcome → Http.Response) (passage : Passage) : List Bytes :=
  passage.seen?.elim [] fun outcome => (inner outcome).headers.values cookieField

/-- What a response is about: the session of the request and the answer of the service, or both
under the new id and nonce that the session got after a login. -/
inductive IsAbout (entropy : Entropy) (session : SessionId) (answer : Authentication.Answer) :
    SessionId → Authentication.Answer → Prop where
  | same (h : rotates session answer = false) : IsAbout entropy session answer session answer
  | rotated (h : rotates session answer = true) (nonce : Bytes) :
      IsAbout entropy session answer (SessionId.mint entropy)
        (rotatedAnswer answer (SessionId.mint entropy).id nonce)

/-- The id of a session is minted for the request, or it is of a session that the cookie named. -/
def IsOwn (settings : GatewaySettings) (entropy : Entropy) (request : Http.Request)
    (registry : Registry) (session : SessionId) : Prop :=
  session = SessionId.mint entropy ∨ session.isNew = false ∧
    findCookie? request.headers settings.cookieName = some session.id ∧
    registry.contains session.id = true

/-- What becomes of a request keeps the contract with the client, about a session and with what is
told of it. The registries are those before and after. -/
structure Contract (settings : GatewaySettings) (entropy : Entropy) (request : Http.Request)
    (before after : Registry) (session : SessionId) (told : Authentication.Answer)
    (passage : Passage) : Prop where
  /-- The wrapped service is called with the outcome, unless that is a refused claim. -/
  seen_eq : passage.seen? = if told.outcome.isFailure then none else some told.outcome
  /-- A refused claim is answered with 401 and one challenge. -/
  refused : told.outcome.isFailure = true → ∀ inner, (passage.respond inner).status = 401 ∧
    ∃ challenge, (passage.respond inner).headers.values challengeField = [challenge]
  /-- Where a session is needed, the one challenge names a session that is there, with its nonce. -/
  challenge : told.requiresSession = true → ∃ text params snapshot,
    (∀ inner, (passage.respond inner).headers.values challengeField = [Text.Utf8.encode text]) ∧
    Header.parse? text = some params ∧
    params.get? "sessionId" = some session.id ∧
    params.get? "nonce" = some (Text.Base64.encode snapshot.state.serverNonce) ∧
    after.snapshot? session.id = some snapshot
  /-- The layer sets a cookie, with the id of that session, if and only if the id is new. -/
  cookie : told.requiresSession = true → ∀ inner,
    (passage.respond inner).headers.values cookieField =
      if session.isNew then
        [Text.Utf8.encode (settings.cookieName ++ "=" ++ session.id ++
          "; Path=/; HttpOnly; SameSite=Lax" ++
            if isSecure settings request then "; Secure" else "")]
      else passage.innerCookies inner
  /-- Its id was minted for this request, or the cookie named it. -/
  isOwn : IsOwn settings entropy request before session
  /-- The id is new if and only if the cookie named another, unless it named the minted id. -/
  isNew_iff : findCookie? request.headers settings.cookieName ≠ some (SessionId.mint entropy).id →
    (session.isNew = true ↔
      findCookie? request.headers settings.cookieName ≠ some session.id)
  /-- Where no session is needed, the layer adds nothing and changes no session. -/
  unneeded : told.requiresSession = false →
    (∀ inner, passage.respond inner = inner told.outcome) ∧
    ∀ id, after.snapshot? id = before.snapshot? id

/-! ### From the answer to the response -/

theorem values_challenge_decorate {text : String} (h : isSendable text.toList = true)
    (response : Http.Response) (cookie : Option String) :
    (decorate response (some text) cookie).headers.values challengeField =
      [Text.Utf8.encode text] := by
  have hother : Text.lowercase challengeField ≠ Text.lowercase "set-cookie" := by decide
  unfold decorate
  rw [Http.Headers.values_setText?_of_ne hother]
  exact Http.Headers.values_setText?_self h response.headers challengeField

theorem values_cookie_decorate {text : String} (h : isSendable text.toList = true)
    (response : Http.Response) (challenge : Option String) :
    (decorate response challenge (some text)).headers.values cookieField =
      [Text.Utf8.encode text] :=
  Http.Headers.values_setText?_self h _ cookieField

theorem values_cookie_decorate_none (response : Http.Response) (challenge : Option String) :
    (decorate response challenge none).headers.values cookieField =
      response.headers.values cookieField := by
  have hother : Text.lowercase cookieField ≠ Text.lowercase "www-authenticate" := by decide
  exact Http.Headers.values_setText?_of_ne hother _ challenge

theorem cookies_unauthorized (diagnostics : List String) :
    (unauthorized diagnostics).headers.values cookieField = [] := by
  show (Http.Headers.empty.setText "content-type" "application/json").values cookieField = []
  decide

theorem conclude_of_isFailure (h : told.outcome.isFailure = true) (secure : Bool) :
    conclude settings secure session told =
      .refused (decorate (unauthorized told.outcome.diagnostics)
        (some ((challengeOf told).getD (renderErrors told.outcome.diagnostics)))
        (cookieOf settings secure session told)) := by
  simp only [conclude, h, if_true]

theorem conclude_of_not_isFailure (h : told.outcome.isFailure = false) (secure : Bool) :
    conclude settings secure session told =
      .passed told.outcome (challengeOf told) (cookieOf settings secure session told) := by
  simp only [conclude, h, Bool.false_eq_true, if_false]

/-- A client that needs a session is told of it, in a header that can be sent and read. -/
theorem exists_challengeOf (hid : told.sessionId = session.id)
    (hsession : isSendable session.id.toList = true)
    (halgorithm : ∀ signature, told.outcome.signature = some signature →
      isSendable signature.algorithm.toList = true)
    (hrequires : told.requiresSession = true) :
    ∃ text params, challengeOf told = some text ∧ isSendable text.toList = true ∧
      Header.parse? text = some params ∧ params.get? "sessionId" = some session.id ∧
      params.get? "nonce" = some (Text.Base64.encode told.serverNonce) := by
  let challenge : Challenge :=
    { sessionId := told.sessionId, nonce := told.serverNonce,
      signature := told.outcome.signature, errors := told.outcome.diagnostics }
  obtain ⟨hnamed, hnonce, -⟩ := Challenge.get?_of_parse?_render challenge.parse?_render_eq
  have hnamed : _ = some told.sessionId := hnamed
  have hwritten : isSendable challenge.sessionId.toList = true := by
    show isSendable told.sessionId.toList = true
    rw [hid]
    exact hsession
  rw [hid] at hnamed
  exact ⟨challenge.render, _, if_pos hrequires, Challenge.isSendable_render hwritten halgorithm,
    challenge.parse?_render_eq, hnamed, hnonce⟩

/-- It is the one challenge of the response. -/
theorem values_challenge_conclude {text : String} (htext : challengeOf told = some text)
    (h : isSendable text.toList = true) (secure : Bool) (inner : Outcome → Http.Response) :
    ((conclude settings secure session told).respond inner).headers.values challengeField =
      [Text.Utf8.encode text] := by
  cases hfailure : told.outcome.isFailure with
  | true =>
    rw [conclude_of_isFailure hfailure, htext]
    exact values_challenge_decorate h _ _
  | false =>
    rw [conclude_of_not_isFailure hfailure, htext]
    exact values_challenge_decorate h _ _

theorem seen?_conclude (secure : Bool) :
    (conclude settings secure session told).seen? =
      if told.outcome.isFailure then none else some told.outcome := by
  cases hfailure : told.outcome.isFailure with
  | true =>
    rw [conclude_of_isFailure hfailure]
    rfl
  | false =>
    rw [conclude_of_not_isFailure hfailure]
    rfl

/-- A client that needs a session under a new id gets a cookie. -/
theorem values_cookie_conclude (hrequires : told.requiresSession = true) {secure : Bool}
    (h : isSendable (session.setCookie settings.cookieName secure).toList = true)
    (inner : Outcome → Http.Response) :
    ((conclude settings secure session told).respond inner).headers.values cookieField =
      if session.isNew then [Text.Utf8.encode (session.setCookie settings.cookieName secure)]
      else (conclude settings secure session told).innerCookies inner := by
  unfold Passage.innerCookies
  rw [seen?_conclude]
  have hcookie : cookieOf settings secure session told =
      if session.isNew then some (session.setCookie settings.cookieName secure) else none := by
    simp only [cookieOf, hrequires, Bool.and_true]
  cases hnew : session.isNew with
  | true =>
    rw [hnew, if_pos rfl] at hcookie
    cases hfailure : told.outcome.isFailure with
    | true =>
      rw [conclude_of_isFailure hfailure, hcookie]
      exact values_cookie_decorate h _ _
    | false =>
      rw [conclude_of_not_isFailure hfailure, hcookie]
      exact values_cookie_decorate h _ _
  | false =>
    rw [hnew, if_neg Bool.false_ne_true] at hcookie
    cases hfailure : told.outcome.isFailure with
    | true =>
      rw [conclude_of_isFailure hfailure, hcookie]
      exact (values_cookie_decorate_none _ _).trans (cookies_unauthorized _)
    | false =>
      rw [conclude_of_not_isFailure hfailure, hcookie]
      exact values_cookie_decorate_none _ _

/-- A client that needs no session gets what the wrapped service answers. -/
theorem respond_conclude_of_unneeded (hrequires : told.requiresSession = false)
    (hfailure : told.outcome.isFailure = false) (secure : Bool)
    (inner : Outcome → Http.Response) :
    (conclude settings secure session told).respond inner = inner told.outcome := by
  have hchallenge : challengeOf told = none := by simp [challengeOf, hrequires]
  have hcookie : cookieOf settings secure session told = none := by simp [cookieOf, hrequires]
  rw [conclude_of_not_isFailure hfailure, hchallenge, hcookie]
  rfl

/-! ### The session of a response -/

theorem isOwn_sessionIn (settings : GatewaySettings) (entropy : Entropy) (request : Http.Request)
    (registry : Registry) :
    IsOwn settings entropy request registry (sessionIn settings entropy request registry) := by
  rcases sessionIn_cases settings entropy request registry with
    hnew | ⟨id, hfound, hcontains, hsession⟩
  · exact .inl hnew
  · rw [hsession]
    exact .inr ⟨rfl, hfound, hcontains⟩

/-- Unless the client guessed the id that is minted, its session is new if the cookie named
another. -/
theorem IsOwn.isNew_iff (h : IsOwn settings entropy request before session)
    (hguess : findCookie? request.headers settings.cookieName ≠ some (SessionId.mint entropy).id) :
    session.isNew = true ↔ findCookie? request.headers settings.cookieName ≠ some session.id := by
  rcases h with rfl | ⟨hold, hnamed, -⟩
  · exact iff_of_true rfl hguess
  · exact iff_of_false (by simp [hold]) (not_not_intro hnamed)

/-- Every session that there is has an id that can be sent. -/
theorem isSendable_of_contains (h : Reaches settings service allowed history system) {id : String}
    (hcontains : system.registry.contains id = true) : isSendable id.toList = true := by
  obtain ⟨occurrences, hruns⟩ := h.exists_runs
  obtain ⟨occurrence, -, hminted⟩ := List.mem_filterMap.1 (hruns.minted.registry hcontains)
  cases occurrence with
  | arrived entropy session given =>
    simp only [Occurrence.minted?, Option.ite_none_right_eq_some] at hminted
    rw [← Option.some.inj hminted.2]
    exact SessionId.isSendable_mint entropy
  | ended entropy session given =>
    simp only [Occurrence.minted?, Option.ite_none_right_eq_some] at hminted
    rw [← Option.some.inj hminted.2]
    exact SessionId.isSendable_mint entropy

theorem IsOwn.isSendable (h : IsOwn settings entropy request system.registry session)
    (hreaches : Reaches settings service allowed history system) :
    isSendable session.id.toList = true := by
  rcases h with rfl | ⟨-, -, hcontains⟩
  · exact SessionId.isSendable_mint entropy
  · exact isSendable_of_contains hreaches hcontains

/-! ### The contract kept -/

/-- What is told of a session that is there keeps the contract. -/
theorem contract_conclude (hid : told.sessionId = session.id)
    (hattempted : told.outcome.attempted = true → told.requiresSession = true)
    (hlive : told.requiresSession = true → ∃ snapshot,
      after.snapshot? session.id = some snapshot ∧
        snapshot.state.serverNonce = told.serverNonce)
    (hkept : told.requiresSession = false → ∀ id, after.snapshot? id = before.snapshot? id)
    (hown : IsOwn settings entropy request before session)
    (hsession : isSendable session.id.toList = true)
    (halgorithm : ∀ signature, told.outcome.signature = some signature →
      isSendable signature.algorithm.toList = true)
    (hname : isSendable settings.cookieName.toList = true) :
    Contract settings entropy request before after session told
      (conclude settings (isSecure settings request) session told) where
  seen_eq := seen?_conclude _
  refused hfailure inner := by
    have hrequires := hattempted (Bool.and_eq_true_iff.1 hfailure).1
    obtain ⟨text, -, htext, hsendable, -⟩ :=
      exists_challengeOf hid hsession halgorithm hrequires
    refine ⟨?_, _, values_challenge_conclude htext hsendable _ inner⟩
    rw [conclude_of_isFailure hfailure]
    rfl
  challenge hrequires := by
    obtain ⟨text, params, htext, hsendable, hparse, hnamed, hnonce⟩ :=
      exists_challengeOf hid hsession halgorithm hrequires
    obtain ⟨snapshot, hread, hsame⟩ := hlive hrequires
    rw [← hsame] at hnonce
    exact ⟨text, params, snapshot, values_challenge_conclude htext hsendable _, hparse, hnamed,
      hnonce, hread⟩
  cookie hrequires :=
    values_cookie_conclude hrequires (SessionId.isSendable_setCookie hname hsession _)
  isOwn := hown
  isNew_iff := hown.isNew_iff
  unneeded hunneeded := by
    have hfailure : told.outcome.isFailure = false := by
      refine Bool.eq_false_iff.2 fun hfailure => ?_
      cases (hattempted (Bool.and_eq_true_iff.1 hfailure).1).symm.trans hunneeded
    exact ⟨respond_conclude_of_unneeded hunneeded hfailure _, hkept hunneeded⟩

section Handled

variable (h : Reaches settings service allowed history system)
  (halgorithm : ∀ signer, service.signer = some signer →
    isSendable signer.algorithm.toList = true)
  (hname : isSendable settings.cookieName.toList = true)

include h halgorithm hname

/-- Whatever the key source replies to a request, and however long each call takes, the contract is
kept when the layer goes on with the answer. -/
theorem contract_finish {now later : Instant} {handling : Authentication.Handling}
    (hhandles : Handles service entropy now later
      (authenticationRequest request (sessionIn settings entropy request system.registry))
      system.registry handling) (last : Instant) :
    let arrived := sessionIn settings entropy request system.registry
    let ended := finish settings entropy last request arrived handling.answer handling.registry
    ∃ session told, IsAbout entropy arrived handling.answer session told ∧
      Contract settings entropy request system.registry ended.2 session told ended.1 := by
  intro arrived ended
  have hown := isOwn_sessionIn settings entropy request system.registry
  have hsigned : ∀ signature, handling.answer.outcome.signature = some signature →
      isSendable signature.algorithm.toList = true := by
    intro signature hsignature
    obtain ⟨signer, hsigner, hsame⟩ :=
      hhandles.exists_signer (fun _ _ => h.core.isProvedBy) hsignature
    rw [hsame]
    exact halgorithm signer hsigner
  cases hrotates : rotates arrived handling.answer with
  | false =>
    have hended : ended = _ := finish_of_not_rotates hrotates
    rw [hended]
    refine ⟨_, _, .same hrotates, contract_conclude hhandles.sessionId_eq
      hhandles.requiresSession_of_attempted hhandles.exists_snapshot (fun hunneeded => ?_) hown
      (hown.isSendable h) hsigned hname⟩
    refine hhandles.snapshot?_eq (Bool.eq_false_iff.2 fun hneeds => ?_)
    cases (hhandles.requiresSession_eq hneeds).symm.trans hunneeded
  | true =>
    -- a login needs a session, so there is one that gets the new id
    have hattempted : handling.answer.outcome.attempted = true := by
      simp only [rotates, Bool.and_eq_true] at hrotates
      exact hrotates.1.1
    have hrequires := hhandles.requiresSession_of_attempted hattempted
    obtain ⟨snapshot, hread, -⟩ := hhandles.exists_snapshot hrequires
    have hended : ended = _ := finish_of_rotates hrotates hread
    rw [hended]
    refine ⟨_, _, .rotated hrotates _, contract_conclude rfl (fun _ => hrequires) (fun _ => ?_)
      (fun hunneeded => ?_) (.inl rfl) (SessionId.isSendable_mint entropy) ?_ hname⟩
    · refine ⟨_, ?_, rfl⟩
      exact (Registry.snapshot?_rotate_of_some hread entropy last _ _).trans (if_pos rfl)
    · cases hrequires.symm.trans hunneeded
    · rintro signature ⟨⟩

/-- The response to a request keeps the contract with the client, if the request is not refused for
its transport and is handled with nothing in between, in a state that some run of the layer leads
to. It tells the answer of the service, or that answer under the new id and nonce of a login. -/
theorem response_keeps_contract (hadmitted : isBlocked settings request = false)
    (source : KeySource) (entropy : Entropy) (now : Instant) :
    let arrived := sessionIn settings entropy request system.registry
    let answered := service.authenticate source entropy now
      (authenticationRequest request arrived) system.registry
    let ended : Passage × Registry := (handle settings entropy request).interpret
      (answerCall service source entropy now) system.registry
    ∃ session told, IsAbout entropy arrived answered.1 session told ∧
      Contract settings entropy request system.registry ended.2 session told ended.1 := by
  intro arrived answered ended
  have hended : ended =
      finish settings entropy now request arrived answered.1 answered.2 := by
    refine (interpret_handle source).trans ?_
    rw [if_neg (by simp [hadmitted])]
  obtain ⟨handling, hhandles, hanswered⟩ := Authentication.exists_handles_authenticate service
    source entropy now (authenticationRequest request arrived) system.registry
  have hanswered : answered = (handling.answer, handling.registry) := hanswered
  rw [hended, hanswered]
  exact contract_finish h halgorithm hname hhandles now

end Handled

/-- The response to a login is about the new id of its session, which the client is told. -/
theorem login_response_keeps_contract :
    ∃ history, Reaches .default signingService (fun _ => True) history
        { registry := openedRegistry, threads := [] } ∧
      let answered := signingService.authenticate (sourceAt 3) (alike 1) 0
        (authenticationRequest (requestWith wholeQuery) openedSession) openedRegistry
      let ended : Passage × Registry :=
        (handle .default (alike 1) (requestWith wholeQuery)).interpret
          (answerCall signingService (sourceAt 3) (alike 1) 0) openedRegistry
      ∃ told, IsAbout (alike 1) openedSession answered.1 (SessionId.mint (alike 1)) told ∧
        told.requiresSession = true ∧ told.outcome.isFailure = false ∧
        Contract .default (alike 1) (requestWith wholeQuery) openedRegistry ended.2
          (SessionId.mint (alike 1)) told ended.1 := by
  obtain ⟨history, h⟩ := exists_reaches_opened rfl fun _ => True
  have hsession : sessionIn .default (alike 1) (requestWith wholeQuery) openedRegistry =
      openedSession :=
    sessionIn_requestWith rfl 1 wholeQuery
      (Registry.contains_iff_snapshot?.2 ⟨_, snapshot?_openedRegistry⟩)
  obtain ⟨session, told, habout, hcontract⟩ := response_keeps_contract h
    (by rintro signer ⟨⟩; decide) (isSendable_cookieName (by decide +kernel))
    (isBlocked_of_no_header (header_requestWith wholeQuery)) (sourceAt 3) (alike 1) 0
  have hanswer :
      let answer := (signingService.authenticate (sourceAt 3) (alike 1) 0
        (authenticationRequest (requestWith wholeQuery) openedSession) openedRegistry).1
      rotates openedSession answer = true ∧ answer.requiresSession = true := by
    decide +kernel
  obtain ⟨hrotates, hrequires⟩ := hanswer
  simp only [hsession] at habout
  cases habout with
  | same hstays => cases hstays.symm.trans hrotates
  | rotated _ nonce =>
    refine ⟨history, h, _, .rotated hrotates nonce, hrequires, ?_, hcontract⟩
    simp only [rotates, Bool.and_eq_true] at hrotates
    simp [rotatedAnswer, Outcome.isFailure, Outcome.withSignature, hrotates.1.2]

/-- Settings with a control character in the name of the cookie. -/
def controlled : GatewaySettings := { GatewaySettings.default with cookieName := "a\u0001b" }

/-- Under such a name the cookie is dropped, though the challenge names a session that was opened
for the request and the request had no cookie. -/
theorem cookie_of_control_dropped :
    let ended : Passage × Registry := (handle controlled (alike 0) openingRequest).interpret
      (answerCall signingService (sourceAt 3) (alike 0) 0) (.ofPolicy .default)
    Reaches controlled signingService (fun _ => True) [] (.initial .default) ∧
    isBlocked controlled openingRequest = false ∧
    (∀ signer, signingService.signer = some signer →
      isSendable signer.algorithm.toList = true) ∧
    findCookie? openingRequest.headers controlled.cookieName = none ∧
    ended.2.contains (SessionId.mint (alike 0)).id = true ∧
    (ended.1.respond plainResponse).headers.values challengeField =
      [Text.Utf8.encode (Challenge.render
        { sessionId := (SessionId.mint (alike 0)).id, nonce := List.replicate 16 0
          signature := none, errors := [Refusal.badSession.diagnostic] })] ∧
    (ended.1.respond plainResponse).headers.values cookieField = [] := by
  refine ⟨.refl _, by decide +kernel, ?_, by decide +kernel, by decide +kernel, by decide +kernel,
    by decide +kernel⟩
  rintro signer ⟨⟩
  decide

end Gateway

end HandleChallenge
