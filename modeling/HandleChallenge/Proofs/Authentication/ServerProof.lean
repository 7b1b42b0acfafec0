import HandleChallenge.Proofs.Authentication.System
import HandleChallenge.Proofs.Checks

/-!
# The server's own signature

A session remembers the last signature with which the server proved itself, and gives it again to
a client that asks with the same nonce. Only the client's nonce is compared, so a signature may be
kept no longer than the session's own nonce. `Reaches.isProvedBy` is that invariant: it holds of a
session that begins or gets a new nonce since these remember no signature, and what a call installs
has the nonce that the call read. By it the server says the same, whether it signs or remembers
(`map_fst_prove?_eq_some_iff`).
-/

namespace HandleChallenge

/-- A signer certifies a message with its signature, under its name. -/
theorem ServerSigner.certify_eq_ok_iff {signer : ServerSigner} {message : Bytes}
    {signature : ServerSignature} :
    signer.certify message = .ok signature ↔
      signature.algorithm = signer.algorithm ∧ signer.sign message = .ok signature.bytes := by
  obtain ⟨algorithm, bytes⟩ := signature
  unfold certify
  cases signer.sign message with
  | error error =>
    constructor
    · intro h
      cases h
    · rintro ⟨-, h⟩
      cases h
  | ok signed =>
    constructor
    · intro h
      cases h
      exact ⟨rfl, rfl⟩
    · rintro ⟨rfl, h⟩
      cases h
      rfl

namespace Authentication

open Header (Params)

variable {service : Service} {params : Params} {state : SessionState} {visit : Visit}
  {verdict : Verdict} {signature : ServerSignature}

/-- The server proves itself by the signature, to a client that asks for it and claims no identity:
it is the signer's own over the server's nonce and the client's. -/
structure Service.Signs (service : Service) (params : Params) (serverNonce : Bytes)
    (signature : ServerSignature) : Prop where
  serverSigning : service.policy.serverSigning = true
  has_cnonce : params.has .cnonce = true
  not_has_id : params.has .id = false
  exists_signer : ∃ signer clientNonce, service.signer = some signer ∧
    Claim.bytesOf params .cnonce = .ok clientNonce ∧
    signature.algorithm = signer.algorithm ∧
    signer.sign (serverNonce ++ clientNonce) = .ok signature.bytes

/-- The signature that a session remembers is the server's own over the nonce of the session. -/
def IsProvedBy (service : Service) (state : SessionState) : Prop :=
  ∀ proof, state.proof = some proof → ∃ signer, service.signer = some signer ∧
    signer.certify (state.proofMessage proof.clientNonce) = .ok proof.signature

theorem isProvedBy_of_no_proof (h : state.proof = none) : IsProvedBy service state := by
  intro proof hproof
  cases h.symm.trans hproof

/-! ### What is signed -/

/-- A signature that is remembered is the one that would be made. -/
theorem IsProvedBy.map_fst_prove (h : IsProvedBy service state) {signer : ServerSigner}
    (hsigner : service.signer = some signer) (clientNonce : Bytes) :
    Prod.fst <$> state.prove clientNonce signer.certify =
      signer.certify (state.proofMessage clientNonce) := by
  unfold SessionState.prove
  cases hfilter : state.proof.filter (·.clientNonce == clientNonce) with
  | some proof =>
    obtain ⟨hproof, hnonce⟩ := Option.filter_eq_some_iff.1 hfilter
    obtain rfl : proof.clientNonce = clientNonce := by simpa using hnonce
    obtain ⟨other, hother, hcertify⟩ := h proof hproof
    obtain rfl : other = signer := Option.some.inj (hother.symm.trans hsigner)
    exact hcertify.symm
  | none =>
    simp only
    cases signer.certify (state.proofMessage clientNonce) with
    | error error => rfl
    | ok fresh => rfl

/-- The server proves itself by its signature over the nonce of the session, remembered or not. -/
theorem IsProvedBy.map_fst_prove?_eq_some_iff (h : IsProvedBy service state) :
    (service.prove? params state).map Prod.fst = some signature ↔
      service.Signs params state.serverNonce signature := by
  constructor
  · intro hmap
    obtain ⟨⟨proved, next⟩, hprove, rfl⟩ := Option.map_eq_some_iff.1 hmap
    obtain ⟨hasks, hsigning, signer, clientNonce, hsigner, hnonce, hsigned⟩ :=
      Service.prove?_cases hprove
    obtain ⟨hcnonce, hid⟩ := Bool.and_eq_true_iff.1 hasks
    have hcertify := h.map_fst_prove hsigner clientNonce
    rw [hsigned] at hcertify
    obtain ⟨halgorithm, hsign⟩ := ServerSigner.certify_eq_ok_iff.1 hcertify.symm
    exact ⟨hsigning, hcnonce, by simpa using hid, signer, clientNonce, hsigner, hnonce, halgorithm,
      hsign⟩
  · rintro ⟨hsigning, hcnonce, hid, signer, clientNonce, hsigner, hnonce, hsign⟩
    have hcertify := h.map_fst_prove hsigner clientNonce
    rw [SessionState.proofMessage, ServerSigner.certify_eq_ok_iff.2 hsign] at hcertify
    obtain ⟨proved, hproved, rfl⟩ := Checks.map_eq_ok_iff.1 hcertify
    have hasked : (params.asksServerSignature && service.policy.serverSigning) = true := by
      simp [Params.asksServerSignature, hcnonce, hid, hsigning]
    have hprove : service.prove? params state = some proved := by
      simp only [Service.prove?, hasked, if_true, hsigner, hnonce]
      exact congrArg Except.toOption hproved
    rw [hprove]
    rfl

/-! ### What is remembered -/

@[simp] theorem Visit.proof_loginState (visit : Visit) (verdict : Verdict) :
    (visit.loginState verdict).proof = visit.state.proof := by
  unfold loginState
  split
  · rfl
  · rfl

/-- A login changes neither the nonce of a session nor the signature that it remembers. -/
theorem IsProvedBy.loginState (h : IsProvedBy service visit.state) (verdict : Verdict) :
    IsProvedBy service (visit.loginState verdict) := by
  intro proof hproof
  rw [Visit.proof_loginState] at hproof
  rw [SessionState.proofMessage, Visit.serverNonce_loginState]
  exact h proof hproof

/-- What a call installs remembers what it read, or a signature that was made for it. -/
theorem IsProvedBy.successor (h : IsProvedBy service visit.state)
    (hstate : service.successor? visit verdict = some state) : IsProvedBy service state := by
  unfold Service.successor? at hstate
  split at hstate
  · rename_i signature next hprove
    cases hstate
    obtain ⟨-, -, signer, clientNonce, hsigner, -, hproved⟩ := Service.prove?_cases hprove
    rcases Service.prove_cases hproved with ⟨hnone, -⟩ | ⟨hnext, hsign⟩
    · cases hnone
    · cases hnext
      rintro proof ⟨⟩
      exact ⟨signer, hsigner, hsign⟩
  · split at hstate
    · cases hstate
      exact h.loginState verdict
    · cases hstate

variable {allowed : KeyReply → Prop} {history : List Event} {system : System} {id : String}
  {snapshot : Snapshot}

/-- In every state that a run leads to, each session remembers a signature over its own nonce, or
none. -/
theorem Reaches.isProvedBy (h : Reaches service allowed history system)
    (hs : system.registry.snapshot? id = some snapshot) : IsProvedBy service snapshot.state := by
  refine h.induction (P := fun _ _ state => IsProvedBy service state) ?_ ?_ ?_ ?_ hs
  · exact fun _ hkept => hkept
  · exact fun _ => isProvedBy_of_no_proof rfl
  · exact fun _ _ hstate hread => hread.successor hstate
  · exact fun _ => isProvedBy_of_no_proof rfl

/-- So does each state that a call in flight has read. -/
theorem Reaches.isProvedBy_of_mem_calls (h : Reaches service allowed history system) {call : Call}
    (hmem : call ∈ system.calls) : IsProvedBy service call.visit.state := by
  obtain ⟨earlier, before, -, hreaches, hheld⟩ := h.wasHeld hmem
  exact hreaches.isProvedBy hheld

/-! ### What a client gets -/

/-- An answer that needs no verdict has no signature. -/
theorem signature_eq_none_of_receive {entropy : Entropy} {now : Instant} {request : Request}
    {before after : Registry} {answer : Answer}
    (h : service.receive entropy now request before = (.answered answer, after)) :
    answer.outcome.signature = none := by
  rcases Service.receive_answered h with rfl | ⟨snapshot, rfl⟩
  · rfl
  · rfl

theorem Service.serverNonce_settle (service : Service) (now : Instant) (visit : Visit)
    (verdict : Verdict) (registry : Registry) :
    (service.settle now visit verdict registry).1.serverNonce = visit.state.serverNonce := by
  rw [settle_fst]
  rfl

/-- The signature in an answer is the one that the server proves itself by, under the nonce in the
same answer. -/
theorem IsProvedBy.signature_settle_iff (h : IsProvedBy service visit.state) {now : Instant}
    {registry : Registry} :
    (service.settle now visit verdict registry).1.outcome.signature = some signature ↔
      service.Signs visit.reading.params
        (service.settle now visit verdict registry).1.serverNonce signature := by
  rw [Service.serverNonce_settle, ← visit.serverNonce_loginState verdict, Service.settle_fst]
  exact (h.loginState verdict).map_fst_prove?_eq_some_iff

/-- It does not depend on what the session remembers. -/
theorem IsProvedBy.signature_settle_eq (h : IsProvedBy service visit.state) {now : Instant}
    {registry : Registry} :
    (service.settle now visit verdict registry).1.outcome.signature =
      (service.prove? visit.reading.params
        { visit.loginState verdict with proof := none }).map Prod.fst := by
  have hforgotten : IsProvedBy service { visit.loginState verdict with proof := none } :=
    isProvedBy_of_no_proof rfl
  apply Option.ext
  intro signature
  rw [h.signature_settle_iff, hforgotten.map_fst_prove?_eq_some_iff, Service.serverNonce_settle]
  simp only [Visit.serverNonce_loginState]

/-- Without a signature nothing is remembered but the login. -/
theorem IsProvedBy.settle_of_not_signs (h : IsProvedBy service visit.state) {now : Instant}
    {registry : Registry}
    (hnone : ∀ signature, ¬ service.Signs visit.reading.params visit.state.serverNonce signature) :
    (service.settle now visit verdict registry).2 =
      (Service.recordLogin registry now visit verdict).2 := by
  have hprove : service.prove? visit.reading.params (visit.loginState verdict) = none := by
    cases hproved : service.prove? visit.reading.params (visit.loginState verdict) with
    | none => rfl
    | some proved =>
      have hsigns := (h.loginState verdict).map_fst_prove?_eq_some_iff.1
        (congrArg (Option.map Prod.fst) hproved)
      rw [Visit.serverNonce_loginState] at hsigns
      exact absurd hsigns (hnone proved.1)
  rw [Service.settle_snd, hprove]

/-- The server does not sign where it fails to, or cannot read the client's nonce. -/
theorem not_signs_of_failure {serverNonce : Bytes}
    (h : (∃ refusal, Claim.bytesOf params .cnonce = .error refusal) ∨
      ∃ signer clientNonce error, service.signer = some signer ∧
        Claim.bytesOf params .cnonce = .ok clientNonce ∧
        signer.sign (serverNonce ++ clientNonce) = .error error)
    (signature : ServerSignature) : ¬ service.Signs params serverNonce signature := by
  rintro ⟨-, -, -, signer, clientNonce, hsigner, hnonce, -, hsign⟩
  rcases h with ⟨refusal, hrefused⟩ | ⟨other, otherNonce, error, hother, hread, hfailed⟩
  · cases hnonce.symm.trans hrefused
  · obtain rfl : other = signer := Option.some.inj (hother.symm.trans hsigner)
    obtain rfl : otherNonce = clientNonce := Except.ok.inj (hread.symm.trans hnonce)
    cases hsign.symm.trans hfailed

end Authentication

end HandleChallenge
