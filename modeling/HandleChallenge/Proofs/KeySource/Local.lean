import HandleChallenge.KeySource.Local
import HandleChallenge.Proofs.Checks
import Mathlib.Data.List.Nodup

/-!
# The secret that counts

Of the values that an identity may use a source tries the secrets in the order of their indices.
`map_find?_eq_some_iff` says that the first that is found in this order is the one with the least
index, and `secret_ofStore_eq_ok_some_iff` that the source names it, where every MAC can be checked.
-/

namespace HandleChallenge

variable {values : List Value} {family : String} {identity : Identity} {index : UInt32}

/-! ### The order of the candidates -/

theorem Value.mem_sortByIndex {value : Value} : value ∈ Value.sortByIndex values ↔ value ∈ values :=
  List.mem_mergeSort

theorem Value.indexLe_trans (a b c : Value) (hab : decide (a.index ≤ b.index) = true)
    (hbc : decide (b.index ≤ c.index) = true) : decide (a.index ≤ c.index) = true :=
  decide_eq_true (UInt32.le_trans (of_decide_eq_true hab) (of_decide_eq_true hbc))

theorem Value.indexLe_total (a b : Value) :
    (decide (a.index ≤ b.index) || decide (b.index ≤ a.index)) = true := by
  rw [Bool.or_eq_true, decide_eq_true_iff, decide_eq_true_iff]
  exact UInt32.le_total a.index b.index

theorem Value.pairwise_sortByIndex (values : List Value) :
    (Value.sortByIndex values).Pairwise (·.index ≤ ·.index) :=
  (List.pairwise_mergeSort indexLe_trans indexLe_total values).imp of_decide_eq_true

/-- Values that are in order stay as they are. -/
theorem Value.sortByIndex_of_pairwise (h : values.Pairwise (·.index ≤ ·.index)) :
    Value.sortByIndex values = values :=
  List.mergeSort_of_pairwise (h.imp decide_eq_true)

/-- Values with different indices have one order. -/
theorem Value.sortByIndex_eq_of_perm {other : List Value} (hperm : other.Perm values)
    (distinct : (values.map Value.index).Nodup) :
    Value.sortByIndex other = Value.sortByIndex values := by
  have hsorted : (Value.sortByIndex other).Perm (Value.sortByIndex values) :=
    (List.mergeSort_perm other _).trans (hperm.trans (List.mergeSort_perm values _).symm)
  refine hsorted.eq_of_pairwise (fun a b ha hb hab hba => ?_) (pairwise_sortByIndex other)
    (pairwise_sortByIndex values)
  have ha : a ∈ values := hperm.mem_iff.1 (mem_sortByIndex.1 ha)
  exact List.inj_on_of_nodup_map distinct ha (mem_sortByIndex.1 hb) (UInt32.le_antisymm hab hba)

theorem Identity.mem_select {value : Value} :
    value ∈ identity.select family values ↔
      value ∈ values ∧ value.inFamily family = true ∧
        (identity.hasIndex = true → value.index = identity.index) := by
  rw [Identity.select, Value.mem_sortByIndex, List.mem_filter, Bool.and_eq_true]
  cases identity.hasIndex with
  | true => simp
  | false => simp

theorem Identity.pairwise_select (identity : Identity) (family : String) (values : List Value) :
    (identity.select family values).Pairwise (·.index ≤ ·.index) :=
  Value.pairwise_sortByIndex _

/-- The first that is found in the order of the indices is the one with the least index. -/
theorem map_find?_eq_some_iff {p : Value → Bool} (sorted : values.Pairwise (·.index ≤ ·.index)) :
    (values.find? p).map Value.index = some index ↔
      (∃ value ∈ values, p value = true ∧ value.index = index) ∧
        ∀ value ∈ values, p value = true → index ≤ value.index := by
  induction values with
  | nil => simp
  | cons first rest ih =>
    obtain ⟨hfirst, hrest⟩ := List.pairwise_cons.1 sorted
    cases hp : p first with
    | false => simp [hp, ih hrest]
    | true =>
      simp only [List.find?_cons_of_pos hp, Option.map_some, Option.some.injEq]
      constructor
      · rintro rfl
        refine ⟨⟨first, List.mem_cons_self, hp, rfl⟩, fun value hmem _ => ?_⟩
        rcases List.mem_cons.1 hmem with rfl | hmem
        · exact UInt32.le_refl _
        · exact hfirst value hmem
      · rintro ⟨⟨value, hmem, -, rfl⟩, hleast⟩
        rcases List.mem_cons.1 hmem with rfl | hmem
        · rfl
        · exact UInt32.le_antisymm (hfirst value hmem) (hleast first List.mem_cons_self hp)

/-! ### The search -/

namespace KeySource

open Checks (bind_of_ok bind_of_error)

variable {challenge : SecretChallenge} {maxIterations : UInt32}

/-- The check of the MAC under a secret. -/
abbrev verifyUnder (challenge : SecretChallenge) (maxIterations : UInt32) (secret : Value) :
    Except Refusal Bool :=
  Mac.verify challenge.algorithm secret.data challenge.serverNonce challenge.clientNonce
    challenge.payload maxIterations

/-- Where every MAC can be checked, the search finds the first secret under which it is right. -/
theorem matchSecret_of_verify {p : Value → Bool}
    (h : ∀ secret ∈ values, verifyUnder challenge maxIterations secret = .ok (p secret)) :
    matchSecret challenge maxIterations values = .ok ((values.find? p).map Value.index) := by
  induction values with
  | nil => rfl
  | cons first rest ih =>
    have hrest := ih fun secret hmem => h secret (List.mem_cons_of_mem _ hmem)
    rw [matchSecret, bind_of_ok (h first List.mem_cons_self)]
    cases hp : p first with
    | false => rw [List.find?_cons_of_neg (by simp [hp])]; exact hrest
    | true => rw [List.find?_cons_of_pos hp]; rfl

/-- The index that a search finds is that of a secret under which the MAC is right. -/
theorem exists_of_matchSecret
    (h : matchSecret challenge maxIterations values = .ok (some index)) :
    ∃ secret ∈ values, secret.index = index ∧
      verifyUnder challenge maxIterations secret = .ok true := by
  induction values with
  | nil => cases h
  | cons first rest ih =>
    obtain ⟨right, hright, h⟩ := Checks.bind_eq_ok_iff.1 h
    cases right with
    | true =>
      cases h
      exact ⟨first, List.mem_cons_self, rfl, hright⟩
    | false =>
      obtain ⟨secret, hmem, hsecret⟩ := ih h
      exact ⟨secret, List.mem_cons_of_mem _ hmem, hsecret⟩

variable {store : String → Except Resolution.Error (List Value)}

/-- The values of a family that an identity may use are among those of its handle. -/
theorem localValues_eq_ok_iff {kind : CredentialKind} :
    localValues store identity kind = .ok values ↔
      ∃ stored, store identity.handle = .ok stored ∧ identity.select kind.tag stored = values := by
  unfold localValues
  cases store identity.handle with
  | error error => simp
  | ok stored => simp

/-- The values that a source finds for a handle. -/
def storedBy (store : String → Except Resolution.Error (List Value)) (handle : String) :
    List Value :=
  match store handle with
  | .ok values => values
  | .error _ => []

theorem storedBy_of_ok {handle : String} (h : store handle = .ok values) :
    storedBy store handle = values := by
  simp only [storedBy, h]

/-- A key is derived for a named index alone. -/
theorem secret_ofStore_of_unnamed (hmethod : challenge.algorithm.method = .pbkdf2)
    (hindex : challenge.identity.hasIndex = false) :
    (ofStore store maxIterations).secret challenge =
      .error (.incomplete "PBKDF2 response without a secret key index") := by
  simp only [ofStore, hmethod, hindex, and_self, if_true]
  rfl

/-- Otherwise the candidates among the values of the handle are searched, if it has any. -/
theorem secret_ofStore
    (h : challenge.algorithm.method = .pbkdf2 → challenge.identity.hasIndex = true) :
    (ofStore store maxIterations).secret challenge =
      localValues store challenge.identity .secretKey >>= matchSecret challenge maxIterations := by
  have hguard : ¬ (challenge.algorithm.method = .pbkdf2 ∧ challenge.identity.hasIndex = false) := by
    rintro ⟨hmethod, hunnamed⟩
    rw [h hmethod] at hunnamed
    cases hunnamed
  simp only [ofStore, if_neg hguard]

/-- Where every MAC can be checked, the source names the index of the first candidate under which it
is right. -/
theorem secret_ofStore_eq_ok_some_iff {p : Value → Bool}
    (hguard : challenge.algorithm.method = .pbkdf2 → challenge.identity.hasIndex = true)
    (h : ∀ secret, verifyUnder challenge maxIterations secret = .ok (p secret)) :
    (ofStore store maxIterations).secret challenge = .ok (some index) ↔
      ((challenge.identity.select CredentialKind.secretKey.tag
        (storedBy store challenge.identity.handle)).find? p).map Value.index = some index := by
  rw [secret_ofStore hguard]
  cases hstored : store challenge.identity.handle with
  | error error =>
    have hvalues : localValues store challenge.identity .secretKey = .error error.refusal := by
      simp [localValues, hstored]
    rw [bind_of_error hvalues]
    simp [storedBy, hstored, Identity.select, Value.sortByIndex]
  | ok stored =>
    have hvalues : localValues store challenge.identity .secretKey = _ :=
      localValues_eq_ok_iff.2 ⟨stored, hstored, rfl⟩
    rw [bind_of_ok hvalues, storedBy_of_ok hstored, matchSecret_of_verify fun secret _ => h secret,
      Except.ok.injEq]

/-- The index that the source names is that of a stored secret of the identity under which the MAC
is right. -/
theorem exists_of_secret_ofStore
    (h : (ofStore store maxIterations).secret challenge = .ok (some index)) :
    ∃ stored, store challenge.identity.handle = .ok stored ∧
      ∃ secret ∈ challenge.identity.select CredentialKind.secretKey.tag stored,
        secret.index = index ∧ verifyUnder challenge maxIterations secret = .ok true := by
  have hguard : challenge.algorithm.method = .pbkdf2 → challenge.identity.hasIndex = true := by
    intro hmethod
    cases hindex : challenge.identity.hasIndex with
    | true => rfl
    | false => cases h.symm.trans (secret_ofStore_of_unnamed hmethod hindex)
  obtain ⟨candidates, hcandidates, hfound⟩ :=
    Checks.bind_eq_ok_iff.1 ((secret_ofStore hguard).symm.trans h)
  obtain ⟨stored, hstored, rfl⟩ := localValues_eq_ok_iff.1 hcandidates
  exact ⟨stored, hstored, exists_of_matchSecret hfound⟩

end KeySource

end HandleChallenge
