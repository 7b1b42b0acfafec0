import HandleChallenge.Proofs.KeySource.Delegated
import Mathlib.Data.Set.Card

/-!
# Records as a map

What records hold is decided by the values that were put for each handle since it was last removed
(`puts`): under every index the last one put there (`lastPut?`). The order in which a handle's values
are kept depends on the whole history, but what is made of them does not: resolution selects from the
map, and key sources over two histories with one map cannot be told apart
(`records_refine_map`).
-/

namespace HandleChallenge

/-- The type is the family's name, or goes on behind it with a dot. -/
def Value.IsOfFamily (value : Value) (family : String) : Prop :=
  value.type = family ∨ ∃ branch, value.type = family ++ "." ++ branch

theorem Value.inFamily_iff {value : Value} {family : String} :
    value.inFamily family = true ↔ value.IsOfFamily family := by
  rw [inFamily, typeInFamily, Bool.and_eq_true, List.isPrefixOf_iff_prefix]
  constructor
  · rintro ⟨⟨behind, hbehind⟩, hdot⟩
    rw [← hbehind, List.drop_left] at hdot
    cases behind with
    | nil =>
      rw [List.append_nil] at hbehind
      exact .inl (String.toList_inj.1 hbehind.symm)
    | cons c branch =>
      obtain rfl : c = '.' := by simpa using hdot
      refine .inr ⟨String.ofList branch, String.toList_inj.1 ?_⟩
      rw [← hbehind]
      simp
  · rintro (h | ⟨branch, h⟩)
    · rw [h]
      simp
    · rw [h]
      simp

namespace Resolution

/-- What a query asks for: everything, or the values at the indices and of the families that it
lists. -/
def Query.AsksFor (query : Query) (value : Value) : Prop :=
  (query.types = [] ∧ query.indices = []) ∨ value.index ∈ query.indices ∨
    ∃ family ∈ query.types, value.IsOfFamily family

theorem Query.selects_iff {query : Query} {value : Value} :
    query.selects value = true ↔ query.AsksFor value := by
  simp [selects, AsksFor, Value.inFamily_iff, or_assoc]

/-! ### The history of a handle -/

namespace Edit

/-- The handle whose record is changed. -/
def handle : Edit → String
  | put handle _ => handle
  | remove handle => handle

/-- Of edits, the latest first, the values put for a handle since it was last removed. -/
def putsOf (handle : String) : List Edit → List Value
  | [] => []
  | .put other value :: earlier =>
    if other = handle then value :: putsOf handle earlier else putsOf handle earlier
  | .remove other :: earlier => if other = handle then [] else putsOf handle earlier

/-- The values put for a handle since it was last removed, the latest first. -/
def puts (edits : List Edit) (handle : String) : List Value := putsOf handle edits.reverse

/-- The last value put at an index of a handle since the handle was removed. -/
def lastPut? (edits : List Edit) (handle : String) (index : UInt32) : Option Value :=
  (puts edits handle).find? (·.index == index)

/-- A value was put for the handle since it was last removed. -/
def IsKept (edits : List Edit) (handle : String) : Prop := puts edits handle ≠ []

instance (edits : List Edit) (handle : String) : Decidable (IsKept edits handle) :=
  inferInstanceAs (Decidable (puts edits handle ≠ []))

variable {edits other : List Edit} {handle : String}

theorem puts_append_singleton (edits : List Edit) (edit : Edit) (handle : String) :
    puts (edits ++ [edit]) handle =
      match edit with
      | .put other value =>
        if other = handle then value :: puts edits handle else puts edits handle
      | .remove other => if other = handle then [] else puts edits handle := by
  rw [puts, List.reverse_append]
  cases edit with
  | put other value => rfl
  | remove other => rfl

/-- Other handles have no part in it. -/
theorem puts_filter (edits : List Edit) (handle : String) :
    puts (edits.filter (·.handle == handle)) handle = puts edits handle := by
  rw [puts, puts, ← List.filter_reverse]
  induction edits.reverse with
  | nil => rfl
  | cons edit earlier ih =>
    by_cases h : edit.handle = handle
    · rw [List.filter_cons_of_pos (by simpa using h)]
      cases edit with
      | put other value => simp only [putsOf, ih]
      | remove other => simp only [putsOf, ih]
    · rw [List.filter_cons_of_neg (by simpa using h), ih]
      cases edit with
      | put other value => exact (if_neg h).symm
      | remove other => exact (if_neg h).symm

theorem isKept_iff : IsKept edits handle ↔ ∃ index, lastPut? edits handle index ≠ none := by
  constructor
  · intro h
    obtain ⟨value, hmem⟩ := List.exists_mem_of_ne_nil _ h
    refine ⟨value.index, fun hnone => ?_⟩
    exact List.find?_eq_none.1 hnone value hmem (beq_self_eq_true _)
  · rintro ⟨index, h⟩ hnil
    rw [lastPut?, hnil] at h
    exact h rfl

/-- Histories with the same map keep the same handles. -/
theorem isKept_congr (h : ∀ index, lastPut? edits handle index = lastPut? other handle index) :
    IsKept edits handle ↔ IsKept other handle := by
  simp only [isKept_iff, h]

end Edit

open Edit (puts lastPut? IsKept)

/-! ### What records hold -/

variable {edits other : List Edit} {handle : String} {values : List Value}

/-- The values of a record are the entries of a map, each once. -/
structure Lists (map : UInt32 → Option Value) (values : List Value) : Prop where
  mem_iff : ∀ value, value ∈ values ↔ map value.index = some value
  distinct : (values.map Value.index).Nodup

/-- The values that are listed for one map differ in their order alone. -/
theorem Lists.perm {map : UInt32 → Option Value} {listed : List Value} (h : Lists map values)
    (hlisted : Lists map listed) : values.Perm listed := by
  rw [List.perm_ext_iff_of_nodup h.distinct.of_map hlisted.distinct.of_map]
  intro value
  rw [h.mem_iff, hlisted.mem_iff]

/-- What is found under the indices of distinct values is listed by them. -/
theorem lists_find? (distinct : (values.map Value.index).Nodup) :
    Lists (fun index => values.find? (·.index == index)) values where
  mem_iff value := by
    have hunder := filter_eq_toList_find? distinct (p := (·.index == value.index))
      fun other hother => by simpa using hother
    have hmem : value ∈ values ↔ value ∈ values.filter (·.index == value.index) := by simp
    rw [hmem, hunder, Option.mem_toList]
  distinct := distinct

/-- Values that are put one after the other, the latest first. -/
def replay (puts : List Value) : List Value := puts.foldr replaceValue []

theorem nodup_replay (puts : List Value) : ((replay puts).map Value.index).Nodup := by
  induction puts with
  | nil => exact .nil
  | cons value earlier ih => exact nodup_replaceValue ih value

/-- Of what is put under one index the latest is kept. -/
theorem find?_replay (puts : List Value) (index : UInt32) :
    (replay puts).find? (·.index == index) = puts.find? (·.index == index) := by
  induction puts with
  | nil => rfl
  | cons value earlier ih =>
    rw [replay, List.foldr_cons, Records.find?_replaceValue]
    by_cases h : index = value.index
    · rw [if_pos h, List.find?_cons_of_pos (by simp [h])]
    · rw [if_neg h, List.find?_cons_of_neg (by simpa using Ne.symm h)]
      exact ih

theorem lists_replay (edits : List Edit) (handle : String) :
    Lists (lastPut? edits handle) (replay (puts edits handle)) := by
  have h := lists_find? (nodup_replay (puts edits handle))
  simp only [find?_replay] at h
  exact h

namespace Records

/-- A record is what was put since the handle was last removed, in the place of what was put under
the same index before. -/
theorem record?_ofEdits (edits : List Edit) (handle : String) :
    (ofEdits edits).record? handle =
      if puts edits handle = [] then none else some (replay (puts edits handle)) := by
  induction edits using List.reverseRecOn with
  | nil => rfl
  | append_singleton edits edit ih =>
    have hlast : ofEdits (edits ++ [edit]) = (ofEdits edits).apply edit := by
      simp [ofEdits]
    rw [hlast, Edit.puts_append_singleton]
    cases edit with
    | put other value =>
      rw [apply, record?_put]
      by_cases h : handle = other
      · subst h
        simp only [if_pos, ih]
        by_cases hnil : puts edits handle = []
        · simp [hnil, replay]
        · simp [hnil, replay]
      · simp only [if_neg h, if_neg (Ne.symm h), ih]
    | remove other =>
      rw [apply, record?_removeHandle]
      by_cases h : handle = other
      · subst h
        simp
      · simp only [if_neg h, if_neg (Ne.symm h), ih]

theorem values_ofEdits_of_isKept (h : IsKept edits handle) :
    (ofEdits edits).values handle = .ok (replay (puts edits handle)) := by
  rw [values_eq_ok_iff, record?_ofEdits, if_neg h]

theorem values_ofEdits_of_not_isKept (h : ¬ IsKept edits handle) :
    (ofEdits edits).values handle = .error (.notFound handle) := by
  rw [values, record?_ofEdits, if_pos (not_not.1 h)]

theorem values_ofEdits_filter (edits : List Edit) (handle : String) :
    (ofEdits (edits.filter (·.handle == handle))).values handle = (ofEdits edits).values handle := by
  rw [values, values, record?_ofEdits, record?_ofEdits, Edit.puts_filter]

theorem contains_ofEdits_iff : (ofEdits edits).contains handle = true ↔ IsKept edits handle := by
  have hrecord : (ofEdits edits).contains handle = ((ofEdits edits).record? handle).isSome := rfl
  rw [hrecord, record?_ofEdits, IsKept]
  split
  · simp [*]
  · simp [*]

theorem count_ofEdits (edits : List Edit) :
    ((ofEdits edits).count : ℕ∞) = {handle | IsKept edits handle}.encard := by
  have hkeys : {handle | IsKept edits handle} = ((ofEdits edits).table.keys.toFinset : Set String) := by
    ext handle
    show IsKept edits handle ↔ _
    rw [← contains_ofEdits_iff, contains, Table.contains_iff]
    simp [Table.keys]
  have hcount : (ofEdits edits).table.keys.toFinset.card = (ofEdits edits).count :=
    (List.toFinset_card_of_nodup (ofEdits edits).table.distinct).trans (List.length_map _)
  rw [hkeys, Set.encard_coe_eq_coe_finsetCard, hcount]

/-- What records are after edits, read as a map from handles and indices to values. -/
structure Represent (records : Records) (edits : List Edit) : Prop where
  /-- A handle for which nothing was put since it was last removed is not found. -/
  notFound_iff : ∀ handle,
    records.values handle = .error (.notFound handle) ↔ ¬ IsKept edits handle
  /-- The values of any other handle are those that were put last under each index. -/
  lists : ∀ handle, IsKept edits handle →
    ∃ values, records.values handle = .ok values ∧ Lists (lastPut? edits handle) values
  /-- Edits of other handles make no difference, nor does their place among the others. -/
  values_filter : ∀ handle,
    (ofEdits (edits.filter (·.handle == handle))).values handle = records.values handle
  contains_iff : ∀ handle, records.contains handle = true ↔ IsKept edits handle
  /-- This is what removing a handle answers. -/
  removeHandle_iff : ∀ handle, (records.removeHandle handle).1 = true ↔ IsKept edits handle
  count_eq : (records.count : ℕ∞) = {handle | IsKept edits handle}.encard

theorem represent_ofEdits (edits : List Edit) : (ofEdits edits).Represent edits where
  notFound_iff handle := by
    constructor
    · intro h hkept
      cases (values_ofEdits_of_isKept hkept).symm.trans h
    · exact values_ofEdits_of_not_isKept
  lists handle h := ⟨_, values_ofEdits_of_isKept h, lists_replay edits handle⟩
  values_filter := values_ofEdits_filter edits
  contains_iff _ := contains_ofEdits_iff
  removeHandle_iff _ := contains_ofEdits_iff
  count_eq := count_ofEdits edits

end Records

/-! ### What is made of them -/

/-- The server with the records that edits led to. -/
def serverOf (edits : List Edit) (certifies : Bool) (maxIterations : UInt32) : Authority :=
  { records := Records.ofEdits edits, certifies, maxIterations }

/-- A query for a handle that is kept gets the values of the map that it asks for. -/
theorem exists_resolve {query : Query} (certifies : Bool) (maxIterations : UInt32)
    (h : IsKept edits query.handle) :
    ∃ response, (serverOf edits certifies maxIterations).resolve query = .ok response ∧
      (∀ value, value ∈ response.values ↔
        lastPut? edits query.handle value.index = some value ∧ query.AsksFor value) ∧
      (response.values.map Value.index).Nodup ∧
      response.certified = (query.certify && certifies) := by
  have hlists := lists_replay edits query.handle
  refine ⟨{ values := (replay (puts edits query.handle)).filter query.selects,
            certified := query.certify && certifies }, ?_, fun value => ?_,
    hlists.distinct.sublist (List.filter_sublist.map _), rfl⟩
  · rw [Authority.resolve, serverOf, Records.values_ofEdits_of_isKept h]
    rfl
  · rw [List.mem_filter, hlists.mem_iff, Query.selects_iff]

theorem resolve_of_not_isKept {query : Query} (certifies : Bool) (maxIterations : UInt32)
    (h : ¬ IsKept edits query.handle) :
    (serverOf edits certifies maxIterations).resolve query =
      .error (.notFound query.handle) := by
  rw [Authority.resolve, serverOf, Records.values_ofEdits_of_not_isKept h]
  rfl

/-- Histories with one map lead to records that differ in the order of values alone. -/
theorem values_or_notFound (h : ∀ index, lastPut? edits handle index = lastPut? other handle index) :
    (∃ values listed, (Records.ofEdits edits).values handle = .ok values ∧
      (Records.ofEdits other).values handle = .ok listed ∧
      values.Perm listed ∧ (values.map Value.index).Nodup) ∨
    (Records.ofEdits edits).values handle = .error (.notFound handle) ∧
      (Records.ofEdits other).values handle = .error (.notFound handle) := by
  have hmap : lastPut? edits handle = lastPut? other handle := funext h
  by_cases hkept : IsKept edits handle
  · obtain ⟨values, hvalues, hlists⟩ := (Records.represent_ofEdits edits).lists handle hkept
    obtain ⟨listed, hlisted, hothers⟩ :=
      (Records.represent_ofEdits other).lists handle ((Edit.isKept_congr h).1 hkept)
    rw [← hmap] at hothers
    exact .inl ⟨values, listed, hvalues, hlisted, hlists.perm hothers, hlists.distinct⟩
  · exact .inr ⟨Records.values_ofEdits_of_not_isKept hkept,
      Records.values_ofEdits_of_not_isKept (mt (Edit.isKept_congr h).2 hkept)⟩

/-- One value at most passes a test for an index, wherever it stands. -/
theorem find?_eq_of_perm {listed : List Value} {p : Value → Bool} {index : UInt32}
    (hperm : values.Perm listed) (distinct : (values.map Value.index).Nodup)
    (h : ∀ value, p value = true → value.index = index) : values.find? p = listed.find? p := by
  have hpassed := hperm.filter p
  rw [filter_eq_toList_find? distinct h,
    filter_eq_toList_find? ((hperm.map Value.index).nodup_iff.1 distinct) h] at hpassed
  revert hpassed
  rcases values.find? p with _ | first <;> rcases listed.find? p with _ | found <;> simp

end Resolution

namespace KeySource

open Resolution (Authority Edit Query Records serverOf)
open Resolution.Edit (lastPut?)

variable {edits other : List Edit} {identity : Identity} {family : String} {values : List Value}

/-- Values with different indices are selected in one order. -/
theorem select_eq_of_perm {listed : List Value} (hperm : values.Perm listed)
    (distinct : (values.map Value.index).Nodup) :
    identity.select family values = identity.select family listed := by
  refine (Value.sortByIndex_eq_of_perm (hperm.symm.filter _) ?_).symm
  exact distinct.sublist (List.filter_sublist.map _)

theorem localValues_congr
    (h : ∀ handle index, lastPut? edits handle index = lastPut? other handle index)
    (identity : Identity) (kind : CredentialKind) :
    localValues (Records.ofEdits edits).values identity kind =
      localValues (Records.ofEdits other).values identity kind := by
  rw [localValues, localValues]
  rcases Resolution.values_or_notFound (h identity.handle) with
    ⟨values, listed, hvalues, hlisted, hperm, distinct⟩ | ⟨hvalues, hlisted⟩
  · simp only [hvalues, hlisted, select_eq_of_perm hperm distinct]
  · rw [hvalues, hlisted]

theorem ofStore_congr
    (h : ∀ handle index, lastPut? edits handle index = lastPut? other handle index)
    (maxIterations : UInt32) :
    ofStore (Records.ofEdits edits).values maxIterations =
      ofStore (Records.ofEdits other).values maxIterations := by
  simp only [ofStore, localValues_congr h]

theorem candidates_delegated_congr
    (h : ∀ handle index, lastPut? edits handle index = lastPut? other handle index)
    (certifies requireCertified : Bool) (maxIterations : UInt32) (identity : Identity) :
    (delegated requireCertified (serverOf edits certifies maxIterations).answer).candidates identity =
      (delegated requireCertified (serverOf other certifies maxIterations).answer).candidates
        identity := by
  rw [candidates_delegated, candidates_delegated, Authority.resolve, Authority.resolve]
  rcases Resolution.values_or_notFound (h (Delegated.keyQuery identity).handle) with
    ⟨values, listed, hvalues, hlisted, hperm, distinct⟩ | ⟨hvalues, hlisted⟩
  · have hselect : identity.select CredentialKind.publicKey.tag _ = identity.select _ _ :=
      select_eq_of_perm (hperm.filter (Delegated.keyQuery identity).selects)
        (distinct.sublist (List.filter_sublist.map _))
    simp only [serverOf, hvalues, hlisted]
    show Delegated.keysOf _ _ _ = Delegated.keysOf _ _ _
    simp only [Delegated.keysOf, hselect]
  · simp only [serverOf, hvalues, hlisted]

theorem check_congr (h : ∀ handle index, lastPut? edits handle index = lastPut? other handle index)
    (certifies : Bool) (maxIterations : UInt32) (challenge : SecretChallenge) :
    (serverOf edits certifies maxIterations).check (Delegated.macCheck challenge) =
      (serverOf other certifies maxIterations).check (Delegated.macCheck challenge) := by
  rw [check_macCheck, check_macCheck]
  rcases Resolution.values_or_notFound (h challenge.identity.handle) with
    ⟨values, listed, hvalues, hlisted, hperm, distinct⟩ | ⟨hvalues, hlisted⟩
  · have hfind := Resolution.find?_eq_of_perm hperm distinct
      (p := isSecretAt challenge.identity.index) fun value hvalue =>
        beq_iff_eq.1 (Bool.and_eq_true_iff.1 hvalue).1
    simp only [serverOf, hvalues, hlisted]
    rw [Checks.bind_of_ok rfl, Checks.bind_of_ok rfl, hfind]
  · simp only [serverOf, hvalues, hlisted]

theorem delegated_congr
    (h : ∀ handle index, lastPut? edits handle index = lastPut? other handle index)
    (certifies requireCertified : Bool) (maxIterations : UInt32) :
    delegated requireCertified (serverOf edits certifies maxIterations).answer =
      delegated requireCertified (serverOf other certifies maxIterations).answer := by
  have hsecret : (delegated requireCertified (serverOf edits certifies maxIterations).answer).secret =
      (delegated requireCertified (serverOf other certifies maxIterations).answer).secret := by
    funext challenge
    cases hindex : challenge.identity.hasIndex with
    | true =>
      rw [secret_delegated _ _ hindex, secret_delegated _ _ hindex,
        check_congr h certifies maxIterations challenge]
    | false =>
      simp only [delegated, Delegated.secret, hindex, Bool.false_eq_true, if_false]
      rfl
  have hcandidates := funext
    (candidates_delegated_congr h certifies requireCertified maxIterations)
  exact (KeySource.mk.injEq _ _ _ _).mpr ⟨hcandidates, hsecret⟩

end KeySource

namespace Resolution

open Edit (puts lastPut? IsKept)

/-- Records are the map of what was put last under each index of a handle since the handle was
removed, and a query is answered with the values of this map that it asks for. So key sources over
records with one map are one and the same, whatever order the values were put in: they name the same
candidates and find the same secrets. -/
theorem records_refine_map (edits : List Edit) (certifies : Bool) (maxIterations : UInt32) :
    (Records.ofEdits edits).Represent edits ∧
    (∀ query : Query,
      (IsKept edits query.handle →
        ∃ response, (serverOf edits certifies maxIterations).resolve query = .ok response ∧
          (∀ value, value ∈ response.values ↔
            lastPut? edits query.handle value.index = some value ∧ query.AsksFor value) ∧
          (response.values.map Value.index).Nodup ∧
          response.certified = (query.certify && certifies)) ∧
      (¬ IsKept edits query.handle →
        (serverOf edits certifies maxIterations).resolve query =
          .error (.notFound query.handle))) ∧
    ∀ other : List Edit,
      (∀ handle index, lastPut? edits handle index = lastPut? other handle index) →
      KeySource.ofStore (Records.ofEdits edits).values maxIterations =
          KeySource.ofStore (Records.ofEdits other).values maxIterations ∧
        ∀ requireCertified,
          KeySource.delegated requireCertified (serverOf edits certifies maxIterations).answer =
            KeySource.delegated requireCertified (serverOf other certifies maxIterations).answer :=
  ⟨Records.represent_ofEdits edits,
    fun _ => ⟨exists_resolve certifies maxIterations, resolve_of_not_isKept certifies maxIterations⟩,
    fun _ h => ⟨KeySource.ofStore_congr h maxIterations,
      fun requireCertified => KeySource.delegated_congr h certifies requireCertified maxIterations⟩⟩

/-- Two keys of a handle, one of them put twice. -/
def keysInOrder : List Edit :=
  [.put "20.1000/7" { index := 4, type := "HS_PUBKEY", data := [4] },
    .put "20.1000/7" { index := 9, type := "HS_PUBKEY.dsa", data := [0] },
    .put "20.1000/7" { index := 9, type := "HS_PUBKEY.dsa", data := [9] }]

/-- The same keys the other way round, after a value that is gone with its handle. -/
def keysReversed : List Edit :=
  [.put "20.1000/7" { index := 1, type := "HS_SECKEY", data := [1] },
    .remove "20.1000/7",
    .put "20.1000/7" { index := 9, type := "HS_PUBKEY.dsa", data := [9] },
    .put "20.1000/7" { index := 4, type := "HS_PUBKEY", data := [4] }]

theorem lastPut?_keysInOrder (handle : String) (index : UInt32) :
    lastPut? keysInOrder handle index = lastPut? keysReversed handle index := by
  by_cases h : "20.1000/7" = handle
  · subst h
    by_cases hnine : 9 = index
    · subst hnine
      decide
    by_cases hfour : 4 = index
    · subst hfour
      decide
    simp [keysInOrder, keysReversed, lastPut?, puts, Edit.putsOf, hnine, hfour]
  · simp [keysInOrder, keysReversed, lastPut?, puts, Edit.putsOf, h]

theorem keysInOrder_resolved :
    (∃ response, (serverOf keysInOrder true 10000).resolve
        (Query.byType "20.1000/7" "HS_PUBKEY").certified = .ok response ∧
      { index := 9, type := "HS_PUBKEY.dsa", data := [9] } ∈ response.values) ∧
    KeySource.delegated true (serverOf keysInOrder true 10000).answer =
      KeySource.delegated true (serverOf keysReversed true 10000).answer := by
  obtain ⟨-, hresolve, hsame⟩ := records_refine_map keysInOrder true 10000
  obtain ⟨response, hresponse, hmem, -⟩ :=
    (hresolve (Query.byType "20.1000/7" "HS_PUBKEY").certified).1 (by decide)
  refine ⟨⟨response, hresponse, (hmem _).2 ⟨by decide, ?_⟩⟩,
    (hsame keysReversed lastPut?_keysInOrder).2 true⟩
  exact .inr (.inr ⟨"HS_PUBKEY", List.mem_singleton_self _, .inr ⟨"dsa", by decide⟩⟩)

end Resolution

end HandleChallenge
