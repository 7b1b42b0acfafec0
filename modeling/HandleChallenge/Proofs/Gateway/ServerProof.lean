import HandleChallenge.Proofs.Authentication.Attempt
import HandleChallenge.Proofs.Authentication.ServerProof
import HandleChallenge.Proofs.Gateway.Challenge
import HandleChallenge.Proofs.Gateway.System

/-!
# The server's own signature in a response

The layer tells a client the nonce of its session and the server's signature in one challenge, and
may have given the session a new nonce in between. `serverSignature_answers_nonce` says that the
signature in a challenge is always one over the nonce next to it: a session with a new nonce comes
without a signature, and every other answer is told as the service gave it.
-/

namespace HandleChallenge

namespace Http.Headers

/-- A text under another name changes nothing. -/
theorem values_setText?_of_ne {name other : String}
    (h : Text.lowercase other ≠ Text.lowercase name) (headers : Headers) (text : Option String) :
    (headers.setText? name text).values other = headers.values other := by
  cases text with
  | none => rfl
  | some text =>
    show (headers.setText name text).values other = _
    unfold setText
    cases valueOf? text with
    | none => rfl
    | some value => exact (values_set headers name other value).trans (if_neg h)

/-- A value of a name was there before or is the text that was set. -/
theorem mem_values_setText? {headers : Headers} {name : String} {text : Option String}
    {value : Bytes} (h : value ∈ (headers.setText? name text).values name) :
    value ∈ headers.values name ∨ ∃ written, text = some written ∧
      value = Text.Utf8.encode written := by
  cases text with
  | none => exact .inl h
  | some written =>
    unfold setText? setText valueOf? at h
    simp only at h
    split at h
    · rename_i value' hvalue
      split at hvalue
      · cases hvalue
        rw [values_set, if_pos rfl, List.mem_singleton] at h
        exact .inr ⟨written, rfl, h⟩
      · cases hvalue
    · exact .inl h

end Http.Headers

namespace Gateway

open Authentication (Claim Event KeyReply Reading Service)
open Header (Params)

variable {settings : GatewaySettings} {service : Service} {allowed : KeyReply → Prop}
  {history : List Event} {system : System} {request : Http.Request} {passage : Passage}
  {session : SessionId} {answer : Authentication.Answer} {value : Bytes}

/-- The name of the field with a challenge. -/
def challengeField : String := "www-authenticate"

/-- What becomes of a request in a state of the layer: it is refused for its transport, has its
answer as it arrives, or goes on when its verdict is reached. -/
inductive Responds (settings : GatewaySettings) (service : Service) (system : System) :
    Http.Request → Passage → Prop where
  | blocked {request : Http.Request} (h : isBlocked settings request = true) :
      Responds settings service system request (.refused insecureResponse)
  | answered {entropy : Entropy} {now : Instant} {request : Http.Request}
      {answer : Authentication.Answer} {registry : Registry}
      (h : isBlocked settings request = false)
      (hreceive : service.receive entropy now
        (authenticationRequest request (sessionIn settings entropy request system.registry))
        system.registry = (.answered answer, registry)) :
      Responds settings service system request
        (finish settings entropy now request (sessionIn settings entropy request system.registry)
          answer registry).1
  | resumed {thread : Thread} {verdict : Authentication.Verdict} (now : Instant)
      (hmem : thread ∈ system.threads) (hrest : thread.call.rest = .done verdict) :
      Responds settings service system thread.request
        (thread.finish settings service now verdict system.registry).1

/-- The parameters of a request, of its header and its query together. -/
def paramsOf (request : Http.Request) : Params :=
  Header.merge ((request.headers.text? "authorization").bind Header.parse?)
    ((request.query?.map Text.Form.fields).getD [])

/-- The server's signature in an answer is one over the nonce in the same answer. -/
def IsAnswered (service : Service) (request : Http.Request) (answer : Authentication.Answer) :
    Prop :=
  ∀ signature, answer.outcome.signature = some signature →
    service.Signs (paramsOf request) answer.serverNonce signature

/-! ### From the answer to the response -/

theorem values_unauthorized (diagnostics : List String) :
    (unauthorized diagnostics).headers.values challengeField = [] := by
  show (Http.Headers.empty.setText "content-type" "application/json").values challengeField = []
  decide

/-- The layer adds one challenge to a response, if any. -/
theorem mem_values_decorate {response : Http.Response} {challenge cookie : Option String}
    (h : value ∈ (decorate response challenge cookie).headers.values challengeField) :
    value ∈ response.headers.values challengeField ∨
      ∃ text, challenge = some text ∧ value = Text.Utf8.encode text := by
  have hother : Text.lowercase challengeField ≠ Text.lowercase "set-cookie" := by decide
  unfold decorate at h
  rw [Http.Headers.values_setText?_of_ne hother] at h
  exact Http.Headers.mem_values_setText? h

/-- It is the challenge of the answer, or tells errors alone. -/
theorem mem_values_conclude {secure : Bool} {inner : Outcome → Http.Response}
    (hinner : ∀ outcome, (inner outcome).headers.values challengeField = [])
    (h : value ∈ ((conclude settings secure session answer).respond inner).headers.values
      challengeField) :
    ∃ text, value = Text.Utf8.encode text ∧
      (challengeOf answer = some text ∨ text = renderErrors answer.outcome.diagnostics) := by
  unfold conclude at h
  simp only at h
  split at h
  · rcases mem_values_decorate h with hold | ⟨text, htext, rfl⟩
    · rw [values_unauthorized] at hold
      cases hold
    · refine ⟨text, rfl, ?_⟩
      cases hchallenge : challengeOf answer with
      | none =>
        rw [hchallenge] at htext
        exact .inr (Option.some.inj htext).symm
      | some told =>
        rw [hchallenge] at htext
        exact .inl htext
  · rcases mem_values_decorate h with hold | ⟨text, htext, rfl⟩
    · rw [hinner] at hold
      cases hold
    · exact ⟨text, rfl, .inl htext⟩

/-- A challenge tells the nonce of its answer, and a signature only if the answer has one. -/
theorem signature_of_challengeOf {text : String} {params : Params} {written : String}
    (h : challengeOf answer = some text) (hparse : Header.parse? text = some params)
    (hwritten : params.get? "serverSignature" = some written) :
    ∃ signature, answer.outcome.signature = some signature ∧
      params.get? "nonce" = some (Text.Base64.encode answer.serverNonce) ∧
      params.get? "serverAlg" = some signature.algorithm ∧
      written = Text.Base64.encode signature.bytes := by
  unfold challengeOf at h
  split at h
  · cases h
    obtain ⟨read, hread, hnonce, halgorithm, hsignature⟩ := Challenge.parse?_render
      { sessionId := answer.sessionId, nonce := answer.serverNonce,
        signature := answer.outcome.signature, errors := answer.outcome.diagnostics }
    obtain rfl : read = params := Option.some.inj (hread.symm.trans hparse)
    rw [hwritten] at hsignature
    obtain ⟨signature, hsome, hbytes⟩ := Option.map_eq_some_iff.1 hsignature.symm
    have hsome : answer.outcome.signature = some signature := hsome
    exact ⟨signature, hsome, hnonce, halgorithm.trans (congrArg (Option.map _) hsome),
      hbytes.symm⟩
  · cases h

/-- After the answer a session goes on with it, or under a new nonce without a signature. -/
theorem exists_conclude_finish (settings : GatewaySettings) (entropy : Entropy) (now : Instant)
    (request : Http.Request) (session : SessionId) (answer : Authentication.Answer)
    (registry : Registry) :
    ∃ later told, (finish settings entropy now request session answer registry).1 =
        conclude settings (isSecure settings request) later told ∧
      (told = answer ∨ told.outcome.signature = none) := by
  unfold finish
  split
  · rcases Service.rotateSession entropy now session.id (SessionId.mint entropy).id registry with
      ⟨_ | nonce, after⟩
    · exact ⟨_, _, rfl, .inl rfl⟩
    · exact ⟨_, _, rfl, .inr rfl⟩
  · exact ⟨_, _, rfl, .inl rfl⟩

/-- What a response tells is an answer in which the signature is one over its nonce, or nothing but
errors. -/
theorem Responds.exists_answer (h : Responds settings service system request passage)
    (hreaches : Reaches settings service allowed history system) :
    (∃ errors, ∀ inner value,
        value ∈ (passage.respond inner).headers.values challengeField →
          value = Text.Utf8.encode (renderErrors errors)) ∨
      ∃ later told, passage = conclude settings (isSecure settings request) later told ∧
        IsAnswered service request told := by
  have hfinish : ∀ (entropy : Entropy) (now : Instant) (request : Http.Request)
      (session : SessionId) (answer : Authentication.Answer) (registry : Registry),
      IsAnswered service request answer →
      ∃ later told, (finish settings entropy now request session answer registry).1 =
          conclude settings (isSecure settings request) later told ∧
        IsAnswered service request told := by
    intro entropy now request session answer registry hanswered
    obtain ⟨later, told, hpassage, rfl | hnone⟩ :=
      exists_conclude_finish settings entropy now request session answer registry
    · exact ⟨later, told, hpassage, hanswered⟩
    · refine ⟨later, told, hpassage, fun signature hsome => ?_⟩
      cases hnone.symm.trans hsome
  cases h with
  | blocked hblocked =>
    refine .inl ⟨[Refusal.insecureTransport.diagnostic], fun inner value hmem => ?_⟩
    rcases mem_values_decorate hmem with hold | ⟨text, htext, rfl⟩
    · rw [values_unauthorized] at hold
      cases hold
    · rw [← Option.some.inj htext]
  | answered hblocked hreceive =>
    refine .inr (hfinish _ _ _ _ _ _ fun signature hsome => ?_)
    cases (Authentication.signature_eq_none_of_receive hreceive).symm.trans hsome
  | @resumed thread verdict now hmem hrest =>
    have hcall : thread.call ∈ system.core.calls := List.mem_map_of_mem hmem
    have hproved := hreaches.core.isProvedBy_of_mem_calls hcall
    have hsound := hreaches.core.sound.call _ hcall
    -- what the service read is what the layer read from the request
    have hparams : thread.call.visit.reading.params = paramsOf thread.request := by
      rw [hsound.visit_eq, (hreaches.admitted thread hmem).request_eq]
      rfl
    refine .inr (hfinish _ _ _ _ _ _ fun signature hsome => ?_)
    rw [← hparams]
    exact hproved.signature_settle_iff.1 hsome

/-- Every signature of the server is one over the nonce that it is sent with and the nonce of the
client that asked for it. The service gives it exactly where it can be made, whether or not the
session remembers it, and remembers nothing of an attempt to make it that fails; the layer tells it
next to the very nonce, or not at all. -/
theorem serverSignature_answers_nonce (service : Service) (allowed : KeyReply → Prop) :
    (∀ {history : List Event} {system : Authentication.System},
      Authentication.Reaches service allowed history system →
      (∀ {entropy now request answer registry},
        service.receive entropy now request system.registry = (.answered answer, registry) →
          answer.outcome.signature = none) ∧
      ∀ call ∈ system.calls, ∀ verdict, call.rest = .done verdict → ∀ now,
        let params := (Reading.ofRequest service.policy.allowBasic call.visit.request).params
        let ended := service.settle now call.visit verdict system.registry
        (∀ signature, ended.1.outcome.signature = some signature ↔
          service.Signs params ended.1.serverNonce signature) ∧
        ended.1.outcome.signature =
          (service.prove? params { call.visit.loginState verdict with proof := none }).map
            Prod.fst ∧
        ((∃ refusal, Claim.bytesOf params .cnonce = .error refusal) ∨
            (∃ signer clientNonce error, service.signer = some signer ∧
              Claim.bytesOf params .cnonce = .ok clientNonce ∧
              signer.sign (ended.1.serverNonce ++ clientNonce) = .error error) →
          ended.2 = (Service.recordLogin system.registry now call.visit verdict).2)) ∧
    ∀ (settings : GatewaySettings) {history : List Event} {system : System},
      Reaches settings service allowed history system →
      ∀ {request passage}, Responds settings service system request passage →
      ∀ inner : Outcome → Http.Response,
        (∀ outcome, (inner outcome).headers.values challengeField = []) →
      ∀ value ∈ (passage.respond inner).headers.values challengeField, ∀ text params written,
        Text.Utf8.decode? value = some text → Header.parse? text = some params →
        params.get? "serverSignature" = some written →
        ∃ serverNonce signature, params.get? "nonce" = some (Text.Base64.encode serverNonce) ∧
          params.get? "serverAlg" = some signature.algorithm ∧
          written = Text.Base64.encode signature.bytes ∧
          service.Signs (paramsOf request) serverNonce signature := by
  refine ⟨fun hreaches => ⟨fun hreceive =>
    Authentication.signature_eq_none_of_receive hreceive, ?_⟩, ?_⟩
  · intro call hmem verdict hrest now params ended
    have hproved := hreaches.isProvedBy_of_mem_calls hmem
    have hparams : params = call.visit.reading.params := by
      rw [(hreaches.sound.call call hmem).visit_eq]
      rfl
    refine ⟨fun signature => ?_, ?_, fun hfailed => ?_⟩
    · rw [hparams]
      exact hproved.signature_settle_iff
    · rw [hparams]
      exact hproved.signature_settle_eq
    · refine hproved.settle_of_not_signs ?_
      rw [← hparams, ← Service.serverNonce_settle]
      exact Authentication.not_signs_of_failure hfailed
  · intro settings history system hreaches request passage hresponds inner hinner value hmem text
      params written htext hparse hwritten
    have herrors : ∀ errors, value = Text.Utf8.encode (renderErrors errors) → False := by
      rintro errors rfl
      obtain ⟨read, hread, hnone⟩ := parse?_renderErrors errors
      rw [Text.Utf8.decode?_encode] at htext
      cases htext
      cases hread.symm.trans hparse
      cases hnone.symm.trans hwritten
    rcases hresponds.exists_answer hreaches with ⟨errors, hall⟩ | ⟨later, told, rfl, hanswered⟩
    · exact (herrors errors (hall inner value hmem)).elim
    · obtain ⟨written', rfl, hchallenge | rfl⟩ := mem_values_conclude hinner hmem
      · rw [Text.Utf8.decode?_encode] at htext
        cases htext
        obtain ⟨signature, hsome, hnonce, halgorithm, hbytes⟩ :=
          signature_of_challengeOf hchallenge hparse hwritten
        exact ⟨told.serverNonce, signature, hnonce, halgorithm, hbytes, hanswered signature hsome⟩
      · exact (herrors _ rfl).elim

/-- The response of a service that has nothing to add. -/
def plainResponse : Outcome → Http.Response := fun _ => { status := 200, headers := .empty, body := [] }

/-- The answer to a request for a signature in the first session. -/
def signedAnswer : Authentication.Answer where
  outcome := Outcome.notAttempted.withSignature (some { algorithm := "fixed", bytes := [1] })
  sessionId := openedSession.id
  serverNonce := List.replicate 16 0
  requiresSession := true

/-- What the client is told. -/
def signedChallenge : Challenge where
  sessionId := openedSession.id
  nonce := List.replicate 16 0
  signature := some { algorithm := "fixed", bytes := [1] }
  errors := []

/-- A client that asks for a signature is told one over the nonce of its challenge. -/
theorem asked_signature_told :
    ∃ history system passage params,
      Reaches .default signingService (fun _ => True) history system ∧
      Responds .default signingService system (requestWith "cnonce=BBBB") passage ∧
      Text.Utf8.encode signedChallenge.render ∈
        (passage.respond plainResponse).headers.values challengeField ∧
      Header.parse? signedChallenge.render = some params ∧
      params.get? "serverSignature" = some (Text.Base64.encode [1]) ∧
      ∃ serverNonce signature, params.get? "nonce" = some (Text.Base64.encode serverNonce) ∧
        params.get? "serverAlg" = some signature.algorithm ∧
        Text.Base64.encode [1] = Text.Base64.encode signature.bytes ∧
        signingService.Signs (paramsOf (requestWith "cnonce=BBBB")) serverNonce signature := by
  obtain ⟨history, h⟩ := exists_reaches_opened rfl fun _ => True
  obtain ⟨events, hstep⟩ : ∃ events, Step .default signingService (fun _ => True)
      { registry := openedRegistry, threads := [] } events
      { registry := (openedRegistry.get 0 openedSession.id).2
        threads := [threadWith 2 "cnonce=BBBB"] } :=
    exists_step_threadWith rfl _ 2 "cnonce=BBBB" [] (by decide +kernel) (by decide +kernel)
  have hreaches : Reaches .default signingService (fun _ => True) _ _ := h.tail hstep
  have hclaims : (threadWith 2 "cnonce=BBBB").call.visit.reading.claims = false := by
    decide +kernel
  have hnothing : (threadWith 2 "cnonce=BBBB").call.rest =
      .done { outcome := .notAttempted, verified := false } :=
    signingService.verdict_of_not_claims
      ((alike 2).draw .clientNonce Credential.clientNonceLength) hclaims
  have hresponds : Responds .default signingService
      { registry := (openedRegistry.get 0 openedSession.id).2
        threads := [threadWith 2 "cnonce=BBBB"] } (requestWith "cnonce=BBBB") _ :=
    .resumed 0 List.mem_cons_self hnothing
  have hanswer : (signingService.settle 0 (threadWith 2 "cnonce=BBBB").call.visit
      { outcome := .notAttempted, verified := false }
      (openedRegistry.get 0 openedSession.id).2).1 = signedAnswer := by decide +kernel
  have hpassage : ((threadWith 2 "cnonce=BBBB").finish .default signingService 0
      { outcome := .notAttempted, verified := false }
      (openedRegistry.get 0 openedSession.id).2).1 =
        .passed signedAnswer.outcome (some signedChallenge.render) none := by
    rw [Thread.finish, hanswer, finish_of_not_rotates rfl]
    rfl
  rw [hpassage] at hresponds
  have hvalue : Text.Utf8.encode signedChallenge.render ∈
      (decorate (plainResponse signedAnswer.outcome) (some signedChallenge.render)
        none).headers.values challengeField := by decide +kernel
  obtain ⟨params, hparse, -, -, hsignature⟩ := signedChallenge.parse?_render
  exact ⟨_, _, _, params, hreaches, hresponds, hvalue, hparse, hsignature,
    (serverSignature_answers_nonce signingService fun _ => True).2 .default hreaches hresponds
      plainResponse (fun _ => rfl) _ hvalue _ _ _ (Text.Utf8.decode?_encode _) hparse hsignature⟩

end Gateway

end HandleChallenge
