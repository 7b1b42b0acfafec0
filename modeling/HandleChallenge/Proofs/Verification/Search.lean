import HandleChallenge.Proofs.Checks
import HandleChallenge.Verification

/-!
# The search for a key

Keys are tried one after the other, until the signature verifies under one. `IsFirstSigned` says
which value holds the one that is found: `run_tryKeys_eq_ok_iff` says that the search ends with it,
and `IsFirstSigned.tryKeys` that nothing behind it is looked into.
-/

namespace HandleChallenge.VerificationRequest

variable {answer : (question : KeyQuestion) → question.Answer} {request : VerificationRequest}
  {algorithm : Algorithm} {signature : Bytes} {values sorted before : List Value}
  {winner : Value}

/-- The source finds a key in the value, and the signature over the nonce pair verifies under it. -/
def IsSignedBy (answer : (question : KeyQuestion) → question.Answer)
    (request : VerificationRequest) (algorithm : Algorithm) (signature : Bytes) (value : Value) :
    Prop :=
  ∃ key, answer (.decode value) = .ok key ∧
    key.verify algorithm (request.serverNonce ++ request.clientNonce) signature = true

instance (answer : (question : KeyQuestion) → question.Answer) (request : VerificationRequest)
    (algorithm : Algorithm) (signature : Bytes) (value : Value) :
    Decidable (request.IsSignedBy answer algorithm signature value) :=
  match h : answer (.decode value) with
  | .ok key =>
    decidable_of_iff
      (key.verify algorithm (request.serverNonce ++ request.clientNonce) signature = true)
      ⟨fun hverify => ⟨key, h, hverify⟩, fun ⟨_, hother, hverify⟩ =>
        Except.ok.inj (h.symm.trans hother) ▸ hverify⟩
  | .error _ => .isFalse fun ⟨_, hother, _⟩ => nomatch h.symm.trans hother

/-- The value is the first one in the list under whose key the signature verifies, and the others
stand before it. -/
structure IsFirstSigned (answer : (question : KeyQuestion) → question.Answer)
    (request : VerificationRequest) (algorithm : Algorithm) (signature : Bytes)
    (values before : List Value) (winner : Value) : Prop where
  exists_after : ∃ after, values = before ++ winner :: after
  signed : request.IsSignedBy answer algorithm signature winner
  not_before : ∀ value ∈ before, ¬ request.IsSignedBy answer algorithm signature value

theorem tryKeys_cons_of_signed (h : request.IsSignedBy answer algorithm signature winner)
    (rest : List Value) :
    (request.tryKeys algorithm signature (winner :: rest)).run answer =
        .ok (request.identity.withIndex winner.index) ∧
      (request.tryKeys algorithm signature (winner :: rest)).transcript answer =
        [.decode winner] := by
  obtain ⟨key, hkey, hverify⟩ := h
  rw [tryKeys, Dialogue.run_ask, Dialogue.transcript_ask, hkey]
  simp only [signedBytes, hverify, if_true]
  exact ⟨rfl, rfl⟩

theorem tryKeys_cons_of_not_signed (h : ¬ request.IsSignedBy answer algorithm signature winner)
    (rest : List Value) :
    (request.tryKeys algorithm signature (winner :: rest)).run answer =
        (request.tryKeys algorithm signature rest).run answer ∧
      (request.tryKeys algorithm signature (winner :: rest)).transcript answer =
        .decode winner :: (request.tryKeys algorithm signature rest).transcript answer := by
  rw [tryKeys, Dialogue.run_ask, Dialogue.transcript_ask]
  cases hkey : answer (.decode winner) with
  | error error => exact ⟨rfl, rfl⟩
  | ok key =>
    have hverify : key.verify algorithm request.signedBytes signature = false :=
      Bool.eq_false_iff.2 fun hverify => h ⟨key, hkey, hverify⟩
    simp [hverify]

/-- Values in vain are looked into one after the other. -/
theorem tryKeys_append
    (h : ∀ value ∈ before, ¬ request.IsSignedBy answer algorithm signature value)
    (rest : List Value) :
    (request.tryKeys algorithm signature (before ++ rest)).run answer =
        (request.tryKeys algorithm signature rest).run answer ∧
      (request.tryKeys algorithm signature (before ++ rest)).transcript answer =
        before.map .decode ++ (request.tryKeys algorithm signature rest).transcript answer := by
  induction before with
  | nil => exact ⟨rfl, rfl⟩
  | cons first others ih =>
    obtain ⟨hfirst, hothers⟩ := List.forall_mem_cons.1 h
    obtain ⟨hrun, htranscript⟩ := ih hothers
    obtain ⟨hrunFirst, htranscriptFirst⟩ :=
      tryKeys_cons_of_not_signed hfirst (others ++ rest)
    refine ⟨hrunFirst.trans hrun, ?_⟩
    rw [List.cons_append, htranscriptFirst, htranscript]
    rfl

/-- The first key that verifies decides, and the values behind it are not looked into. -/
theorem IsFirstSigned.tryKeys
    (h : request.IsFirstSigned answer algorithm signature sorted before winner) :
    (request.tryKeys algorithm signature sorted).run answer =
        .ok (request.identity.withIndex winner.index) ∧
      (request.tryKeys algorithm signature sorted).transcript answer =
        (before ++ [winner]).map .decode := by
  obtain ⟨after, rfl⟩ := h.exists_after
  obtain ⟨hrun, htranscript⟩ := tryKeys_append h.not_before (winner :: after)
  obtain ⟨hrunWinner, htranscriptWinner⟩ := tryKeys_cons_of_signed h.signed after
  rw [hrun, htranscript, hrunWinner, htranscriptWinner]
  simp

/-- Where none verifies, every value is looked into. -/
theorem tryKeys_of_none_signed
    (h : ∀ value ∈ sorted, ¬ request.IsSignedBy answer algorithm signature value) :
    (request.tryKeys algorithm signature sorted).run answer = .error (.failed .publicKey) ∧
      (request.tryKeys algorithm signature sorted).transcript answer = sorted.map .decode := by
  obtain ⟨hrun, htranscript⟩ := tryKeys_append h []
  rw [List.append_nil] at hrun htranscript
  rw [hrun, htranscript]
  simp [VerificationRequest.tryKeys]

/-- Some value is the first that verifies, or none does. -/
theorem exists_isFirstSigned_or (answer : (question : KeyQuestion) → question.Answer)
    (request : VerificationRequest) (algorithm : Algorithm) (signature : Bytes)
    (values : List Value) :
    (∃ before winner, request.IsFirstSigned answer algorithm signature values before winner) ∨
      ∀ value ∈ values, ¬ request.IsSignedBy answer algorithm signature value := by
  rcases Checks.exists_first_or (request.IsSignedBy answer algorithm signature) values with
    ⟨before, winner, after, hsplit, hsigned, hbefore⟩ | hnone
  · exact .inl ⟨before, winner, ⟨after, hsplit⟩, hsigned, hbefore⟩
  · exact .inr hnone

/-- The search ends with an identity exactly if some value is the first that verifies. -/
theorem run_tryKeys_eq_ok_iff {identity : Identity} :
    (request.tryKeys algorithm signature sorted).run answer = .ok identity ↔
      ∃ before winner, request.IsFirstSigned answer algorithm signature sorted before winner ∧
        identity = request.identity.withIndex winner.index := by
  constructor
  · intro hrun
    rcases exists_isFirstSigned_or answer request algorithm signature sorted with
      ⟨before, winner, hfirst⟩ | hnone
    · rw [hfirst.tryKeys.1] at hrun
      exact ⟨before, winner, hfirst, (Except.ok.inj hrun).symm⟩
    · rw [(tryKeys_of_none_signed hnone).1] at hrun
      cases hrun
  · rintro ⟨before, winner, hfirst, rfl⟩
    exact hfirst.tryKeys.1

/-- It fails exactly if none does. -/
theorem run_tryKeys_eq_failed_iff :
    (request.tryKeys algorithm signature sorted).run answer = .error (.failed .publicKey) ↔
      ∀ value ∈ sorted, ¬ request.IsSignedBy answer algorithm signature value := by
  constructor
  · intro hrun
    rcases exists_isFirstSigned_or answer request algorithm signature sorted with
      ⟨before, winner, hfirst⟩ | hnone
    · rw [hfirst.tryKeys.1] at hrun
      cases hrun
    · exact hnone
  · intro hnone
    exact (tryKeys_of_none_signed hnone).1

/-- The keys in the values alone decide how a search ends and what it asks. -/
theorem tryKeys_congr {other : (question : KeyQuestion) → question.Answer}
    (h : ∀ value, other (.decode value) = answer (.decode value)) (request : VerificationRequest)
    (algorithm : Algorithm) (signature : Bytes) (sorted : List Value) :
    (request.tryKeys algorithm signature sorted).run other =
        (request.tryKeys algorithm signature sorted).run answer ∧
      (request.tryKeys algorithm signature sorted).transcript other =
        (request.tryKeys algorithm signature sorted).transcript answer := by
  induction sorted with
  | nil => exact ⟨rfl, rfl⟩
  | cons first rest ih =>
    obtain ⟨hrun, htranscript⟩ := ih
    rw [tryKeys, Dialogue.run_ask, Dialogue.run_ask, Dialogue.transcript_ask,
      Dialogue.transcript_ask, h first]
    cases answer (.decode first) with
    | error error => exact ⟨hrun, congrArg _ htranscript⟩
    | ok key =>
      simp only
      split
      · exact ⟨rfl, rfl⟩
      · exact ⟨hrun, congrArg _ htranscript⟩

end HandleChallenge.VerificationRequest
