import HandleChallenge.Proofs.Verification

/-!
# Which key decides

A source may name candidate keys in any order, several under one index, and among them values that
hold no key. They are tried in the order of their indices, and those under one index in the order in
which they came. `first_key_in_order_decides` says that the first under which the signature verifies
decides, and that no value behind it is looked into.
-/

namespace HandleChallenge

/-! ### The order of the candidates -/

namespace Value

variable {values sorted other : List Value} {value : Value}

/-- The values under one index. -/
def under (values : List Value) (index : UInt32) : List Value :=
  values.filter fun value => value.index == index

@[simp] theorem mem_under {index : UInt32} :
    value ∈ under values index ↔ value ∈ values ∧ value.index = index := by
  simp [under]

@[simp] theorem under_cons_self (first : Value) (rest : List Value) :
    under (first :: rest) first.index = first :: under rest first.index := by
  simp [under]

theorem under_cons_of_ne {first : Value} {index : UInt32} (h : first.index ≠ index)
    (rest : List Value) : under (first :: rest) index = under rest index := by
  simp [under, h]

/-- Lists with the same values under each index have the same values. -/
theorem mem_iff_of_under_eq (h : ∀ index, under sorted index = under other index) :
    value ∈ sorted ↔ value ∈ other := by
  have hvalue : value ∈ under sorted value.index ↔ value ∈ under other value.index := by rw [h]
  simpa using hvalue

/-- If they are in order too, they are the same. -/
theorem eq_of_under_eq (hsorted : sorted.Pairwise (·.index ≤ ·.index))
    (hother : other.Pairwise (·.index ≤ ·.index))
    (h : ∀ index, under sorted index = under other index) : sorted = other := by
  induction sorted generalizing other with
  | nil =>
    refine (List.eq_nil_iff_forall_not_mem.2 fun value hvalue => ?_).symm
    exact absurd ((mem_iff_of_under_eq h).2 hvalue) List.not_mem_nil
  | cons first rest ih =>
    cases other with
    | nil => exact absurd ((mem_iff_of_under_eq h).1 List.mem_cons_self) List.not_mem_nil
    | cons next more =>
      obtain ⟨hfirst, hrest⟩ := List.pairwise_cons.1 hsorted
      obtain ⟨hnext, hmore⟩ := List.pairwise_cons.1 hother
      -- both fronts have the least index that there is
      have hindex : first.index = next.index := by
        apply UInt32.le_antisymm
        · rcases List.mem_cons.1 ((mem_iff_of_under_eq h).2 List.mem_cons_self) with rfl | hin
          · exact UInt32.le_refl _
          · exact hfirst next hin
        · rcases List.mem_cons.1 ((mem_iff_of_under_eq h).1 List.mem_cons_self) with rfl | hin
          · exact UInt32.le_refl _
          · exact hnext first hin
      have hfronts := h first.index
      rw [under_cons_self, hindex, under_cons_self, ← hindex] at hfronts
      obtain ⟨rfl, hunder⟩ := List.cons.inj hfronts
      refine congrArg (first :: ·) (ih hrest hmore fun index => ?_)
      by_cases hsame : first.index = index
      · subst hsame
        exact hunder
      · have hwhole := h index
        rwa [under_cons_of_ne hsame, under_cons_of_ne hsame] at hwhole

/-- The second list is the first in the order of the indices, and values under one index keep their
order. -/
structure StablySorted (values sorted : List Value) : Prop where
  ordered : sorted.Pairwise (·.index ≤ ·.index)
  under_eq : ∀ index, under sorted index = under values index

theorem stablySorted_sortByIndex (values : List Value) :
    StablySorted values (sortByIndex values) where
  ordered := pairwise_sortByIndex values
  under_eq index := by
    have hordered : (under values index).Pairwise fun a b => decide (a.index ≤ b.index) = true := by
      refine List.pairwise_of_forall_mem_list fun a ha b hb => ?_
      rw [(mem_under.1 ha).2, (mem_under.1 hb).2]
      exact decide_eq_true (UInt32.le_refl index)
    -- the values under the index are in order already, so that sorting leaves them as they stand
    have hsublist : (under values index).Sublist (sortByIndex values) :=
      List.sublist_mergeSort indexLe_trans indexLe_total hordered List.filter_sublist
    have hunder := hsublist.filter fun value : Value => value.index == index
    rw [show (under values index).filter _ = under values index by simp [under]] at hunder
    have hlength : (under (sortByIndex values) index).length = (under values index).length :=
      ((List.mergeSort_perm values _).filter _).length_eq
    exact (hunder.eq_of_length hlength.symm).symm

namespace StablySorted

theorem eq_sortByIndex (h : StablySorted values sorted) : sorted = sortByIndex values := by
  refine eq_of_under_eq h.ordered (pairwise_sortByIndex values) fun index => ?_
  rw [h.under_eq, (stablySorted_sortByIndex values).under_eq]

theorem mem_iff (h : StablySorted values sorted) : value ∈ sorted ↔ value ∈ values :=
  mem_iff_of_under_eq h.under_eq

theorem eq_nil_iff (h : StablySorted values sorted) : sorted = [] ↔ values = [] := by
  simp only [List.eq_nil_iff_forall_not_mem, h.mem_iff]

/-- Values with different indices have one order, in whichever order they come. -/
theorem of_perm (h : StablySorted values sorted) (hperm : other.Perm values)
    (hdistinct : (values.map Value.index).Nodup) : StablySorted other sorted := by
  rw [h.eq_sortByIndex, ← sortByIndex_eq_of_perm hperm hdistinct]
  exact stablySorted_sortByIndex other

end StablySorted

end Value

/-! ### The whole check -/

namespace VerificationRequest

variable {answer : (question : KeyQuestion) → question.Answer} {request : VerificationRequest}
  {algorithm : Algorithm} {signature : Bytes} {values sorted : List Value}

/-- A source that names no values has its error passed on. -/
theorem verifySignature_of_error {refusal : Refusal}
    (h : answer (.candidates request.identity) = .error refusal) :
    (request.verifySignature algorithm signature).run answer = .error refusal ∧
      (request.verifySignature algorithm signature).transcript answer =
        [.candidates request.identity] := by
  rw [verifySignature, Dialogue.run_ask, Dialogue.transcript_ask, h]
  exact ⟨rfl, rfl⟩

/-- How a check ends under an answer, and what it asks about its values in their order. -/
structure SearchesInOrder (answer : (question : KeyQuestion) → question.Answer)
    (request : VerificationRequest) (algorithm : Algorithm) (signature : Bytes)
    (values sorted : List Value) (check : Consultation (Except Refusal Identity)) : Prop where
  /-- The identity is at the index of the first value whose key verifies the signature. -/
  run_eq_ok_iff : ∀ identity, check.run answer = .ok identity ↔
    ∃ before winner, request.IsFirstSigned answer algorithm signature sorted before winner ∧
      identity = { handle := request.identity.handle, index := winner.index }
  /-- That value is looked into last. -/
  transcript_of_first : ∀ before winner,
    request.IsFirstSigned answer algorithm signature sorted before winner →
    check.transcript answer = .candidates request.identity :: (before ++ [winner]).map .decode
  /-- Where there is none, every value is looked into. -/
  transcript_of_none : (∀ value ∈ values, ¬ request.IsSignedBy answer algorithm signature value) →
    check.transcript answer = .candidates request.identity :: sorted.map .decode
  run_eq_noPublicKey_iff :
    check.run answer = .error (.noPublicKey request.identity.text) ↔ values = []
  run_eq_failed_iff : check.run answer = .error (.failed .publicKey) ↔
    values ≠ [] ∧ ∀ value ∈ values, ¬ request.IsSignedBy answer algorithm signature value

/-- Where there are values, they are searched in their order. -/
theorem verifySignature_of_ne_nil (h : answer (.candidates request.identity) = .ok values)
    (hsorted : Value.StablySorted values sorted) (hne : sorted ≠ []) :
    (request.verifySignature algorithm signature).run answer =
        (request.tryKeys algorithm signature sorted).run answer ∧
      (request.verifySignature algorithm signature).transcript answer =
        .candidates request.identity ::
          (request.tryKeys algorithm signature sorted).transcript answer := by
  rw [verifySignature, Dialogue.run_ask, Dialogue.transcript_ask, h]
  obtain rfl := hsorted.eq_sortByIndex
  cases values with
  | nil => simp [Value.sortByIndex] at hne
  | cons first rest => exact ⟨rfl, rfl⟩

theorem searchesInOrder_verifySignature (h : answer (.candidates request.identity) = .ok values)
    (hsorted : Value.StablySorted values sorted) :
    request.SearchesInOrder answer algorithm signature values sorted
      (request.verifySignature algorithm signature) := by
  by_cases hnil : sorted = []
  · subst hnil
    obtain rfl := hsorted.eq_nil_iff.1 rfl
    have hrun : (request.verifySignature algorithm signature).run answer =
        .error (.noPublicKey request.identity.text) := by
      rw [verifySignature, Dialogue.run_ask, h]
      rfl
    have htranscript : (request.verifySignature algorithm signature).transcript answer =
        [.candidates request.identity] := by
      rw [verifySignature, Dialogue.transcript_ask, h]
      rfl
    have hfirst : ∀ before winner,
        ¬ request.IsFirstSigned answer algorithm signature [] before winner := by
      intro before winner hfirst
      obtain ⟨after, hafter⟩ := hfirst.exists_after
      simp at hafter
    exact {
      run_eq_ok_iff := by simp [hrun, hfirst]
      transcript_of_first := fun before winner hwinner => absurd hwinner (hfirst before winner)
      transcript_of_none := fun _ => htranscript
      run_eq_noPublicKey_iff := by simp [hrun]
      run_eq_failed_iff := by simp [hrun] }
  · obtain ⟨hrun, htranscript⟩ := verifySignature_of_ne_nil h hsorted hnil
    have hne : values ≠ [] := mt hsorted.eq_nil_iff.2 hnil
    have hnone : (∀ value ∈ values, ¬ request.IsSignedBy answer algorithm signature value) ↔
        ∀ value ∈ sorted, ¬ request.IsSignedBy answer algorithm signature value := by
      simp only [hsorted.mem_iff]
    exact {
      run_eq_ok_iff := fun identity => by
        rw [hrun]
        exact run_tryKeys_eq_ok_iff
      transcript_of_first := fun before winner hwinner => by rw [htranscript, hwinner.tryKeys.2]
      transcript_of_none := fun hvalues => by
        rw [htranscript, (tryKeys_of_none_signed (hnone.1 hvalues)).2]
      run_eq_noPublicKey_iff := by
        rw [hrun]
        refine iff_of_false (fun hempty => ?_) hne
        rcases exists_isFirstSigned_or answer request algorithm signature sorted with
          ⟨before, winner, hwinner⟩ | hsearched
        · cases hempty.symm.trans hwinner.tryKeys.1
        · cases hempty.symm.trans (tryKeys_of_none_signed hsearched).1
      run_eq_failed_iff := by
        rw [hrun, run_tryKeys_eq_failed_iff, hnone]
        exact (and_iff_right hne).symm }

/-- Values with different indices lead to the same end by the same questions, in whichever order
the source names them. -/
theorem verifySignature_of_perm {other : (question : KeyQuestion) → question.Answer}
    (hkeys : ∀ value, other (.decode value) = answer (.decode value))
    (h : answer (.candidates request.identity) = .ok values) {shuffled : List Value}
    (hother : other (.candidates request.identity) = .ok shuffled) (hperm : shuffled.Perm values)
    (hdistinct : (values.map Value.index).Nodup) :
    (request.verifySignature algorithm signature).run other =
        (request.verifySignature algorithm signature).run answer ∧
      (request.verifySignature algorithm signature).transcript other =
        (request.verifySignature algorithm signature).transcript answer := by
  have hsorted := Value.stablySorted_sortByIndex values
  have hshuffled := hsorted.of_perm hperm hdistinct
  by_cases hnil : Value.sortByIndex values = []
  · rw [hnil] at hsorted hshuffled
    obtain rfl := hsorted.eq_nil_iff.1 rfl
    obtain rfl := hperm.eq_nil
    rw [verifySignature, Dialogue.run_ask, Dialogue.run_ask, Dialogue.transcript_ask,
      Dialogue.transcript_ask, h, hother]
    exact ⟨rfl, rfl⟩
  · obtain ⟨hrun, htranscript⟩ := verifySignature_of_ne_nil h hsorted hnil
    obtain ⟨hrunOther, htranscriptOther⟩ := verifySignature_of_ne_nil hother hshuffled hnil
    obtain ⟨hsame, hsameTranscript⟩ := tryKeys_congr hkeys request algorithm signature
      (Value.sortByIndex values)
    rw [hrun, htranscript, hrunOther, htranscriptOther, hsame, hsameTranscript]
    exact ⟨rfl, rfl⟩

/-- The first candidate in order whose key verifies the signature is the one that is verified, and
no candidate behind it is looked into. The order of an answer with different indices does not
matter. -/
theorem first_key_in_order_decides (answer : (question : KeyQuestion) → question.Answer)
    (request : VerificationRequest) (algorithm : Algorithm) (signature : Bytes)
    (hresponse : request.response = .publicKey algorithm signature) :
    (∀ refusal, answer (.candidates request.identity) = .error refusal →
      request.verify.run answer = .error refusal ∧
        request.verify.transcript answer = [.candidates request.identity]) ∧
    ∀ values, answer (.candidates request.identity) = .ok values →
      (∀ sorted, Value.StablySorted values sorted →
        request.SearchesInOrder answer algorithm signature values sorted request.verify) ∧
      ∀ (other : (question : KeyQuestion) → question.Answer) (shuffled : List Value),
        (∀ value, other (.decode value) = answer (.decode value)) →
        other (.candidates request.identity) = .ok shuffled → shuffled.Perm values →
        (values.map Value.index).Nodup →
        request.verify.run other = request.verify.run answer ∧
          request.verify.transcript other = request.verify.transcript answer := by
  have hverify : request.verify = request.verifySignature algorithm signature := by
    rw [verify, hresponse]
  rw [hverify]
  refine ⟨fun refusal => verifySignature_of_error, fun values hvalues => ⟨fun sorted hsorted => ?_,
    fun other shuffled hkeys hother hperm hdistinct => ?_⟩⟩
  · exact searchesInOrder_verifySignature hvalues hsorted
  · exact verifySignature_of_perm hkeys hvalues hother hperm hdistinct

open KeySource (signedClaim dsaRecord)

/-- A value that holds no key. -/
def blankValue : Value := { index := 2, type := "HS_PUBKEY", data := [1, 2, 3] }

/-- One key under several indices. -/
def keyValue (index : UInt32) : Value := { index, type := "HS_PUBKEY", data := dsaRecord }

/-- A source that names the last index first. -/
def unsortedKeys : KeySource where
  candidates _ := .ok [keyValue 9, blankValue, keyValue 4]
  secret _ := .ok none

/-- The value without a key is passed over, the next in order decides, and the last is not looked
into. -/
theorem lower_key_decides :
    signedClaim.verify.run unsortedKeys.answer = .ok { handle := "20.1000/7", index := 4 } ∧
      signedClaim.verify.transcript unsortedKeys.answer =
        [.candidates signedClaim.identity, .decode blankValue, .decode (keyValue 4)] := by
  have hordered : Value.StablySorted [blankValue, keyValue 4, keyValue 9]
      [blankValue, keyValue 4, keyValue 9] := ⟨by decide, fun _ => rfl⟩
  have hsorted : Value.StablySorted [keyValue 9, blankValue, keyValue 4] _ :=
    hordered.of_perm (by decide) (by decide)
  have hfirst : signedClaim.IsFirstSigned unsortedKeys.answer .sha256 [48, 6, 2, 1, 64, 2, 1, 115]
      [blankValue, keyValue 4, keyValue 9] [blankValue] (keyValue 4) :=
    { exists_after := ⟨[keyValue 9], rfl⟩
      signed := by decide +kernel
      not_before := by decide +kernel }
  have hsearch := ((first_key_in_order_decides unsortedKeys.answer signedClaim .sha256 _ rfl).2 _
    rfl).1 _ hsorted
  exact ⟨(hsearch.run_eq_ok_iff _).2 ⟨_, _, hfirst, rfl⟩, hsearch.transcript_of_first _ _ hfirst⟩

end VerificationRequest

end HandleChallenge
