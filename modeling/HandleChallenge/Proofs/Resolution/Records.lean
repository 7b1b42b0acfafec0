import HandleChallenge.Resolution.Records

/-!
# Records under edits

Records come about by values that are written and handles that are removed. `distinct_ofEdits` says
that the values of a handle then have distinct indices, so that at one index there is at most one
of them (`filter_eq_toList_find?`).
-/

namespace HandleChallenge.Resolution

/-- A change of records. -/
inductive Edit where
  | put (handle : String) (value : Value)
  | remove (handle : String)

/-- Among values with distinct indices, a test that only one index passes selects the first that
passes, if any does. -/
theorem filter_eq_toList_find? {values : List Value} (distinct : (values.map Value.index).Nodup)
    {p : Value → Bool} {index : UInt32} (h : ∀ value, p value = true → value.index = index) :
    values.filter p = (values.find? p).toList := by
  induction values with
  | nil => rfl
  | cons first rest ih =>
    obtain ⟨hfirst, hrest⟩ := List.nodup_cons.1 distinct
    cases hp : p first with
    | false => rw [List.filter_cons_of_neg (by simp [hp]), List.find?_cons_of_neg (by simp [hp]),
        ih hrest]
    | true =>
      have hnone : rest.filter p = [] := by
        refine List.filter_eq_nil_iff.2 fun value hmem hvalue => hfirst ?_
        rw [h first hp, ← h value hvalue]
        exact List.mem_map_of_mem hmem
      rw [List.filter_cons_of_pos hp, List.find?_cons_of_pos hp, hnone]
      rfl

theorem nodup_replaceValue {values : List Value} (distinct : (values.map Value.index).Nodup)
    (value : Value) : ((replaceValue value values).map Value.index).Nodup := by
  rw [replaceValue, List.map_append, List.nodup_append]
  refine ⟨distinct.sublist (List.filter_sublist.map _), by simp, ?_⟩
  rintro index hkept _ hnew rfl
  obtain ⟨kept, hmem, hindex⟩ := List.mem_map.1 hkept
  have hother : kept.index ≠ value.index := by simpa using (List.mem_filter.1 hmem).2
  exact hother (hindex.trans (List.mem_singleton.1 hnew))

namespace Records

variable {records : Records}

/-- The records after a change. -/
def apply (records : Records) : Edit → Records
  | .put handle value => records.put handle value
  | .remove handle => (records.removeHandle handle).2

/-- The records that changes lead to, one after the other. -/
def ofEdits (edits : List Edit) : Records := edits.foldl apply empty

/-- The values of each handle have distinct indices. -/
def Distinct (records : Records) : Prop :=
  ∀ handle values, records.record? handle = some values → (values.map Value.index).Nodup

theorem distinct_empty : empty.Distinct := by
  intro handle values h
  cases h

/-- A change keeps the indices distinct. -/
theorem Distinct.apply (h : records.Distinct) (edit : Edit) : (records.apply edit).Distinct := by
  intro other values hvalues
  cases edit with
  | put handle value =>
    rw [Records.apply, record?_put] at hvalues
    split at hvalues
    · cases hvalues
      refine nodup_replaceValue ?_ value
      cases hrecord : records.record? handle with
      | none => exact .nil
      | some written => exact h handle written hrecord
    · exact h other values hvalues
  | remove handle =>
    rw [Records.apply, record?_removeHandle] at hvalues
    split at hvalues
    · cases hvalues
    · exact h other values hvalues

theorem distinct_ofEdits (edits : List Edit) : (ofEdits edits).Distinct := by
  have hrun : ∀ {records : Records}, records.Distinct →
      (edits.foldl Records.apply records).Distinct := by
    induction edits with
    | nil => exact fun h => h
    | cons edit rest ih => exact fun h => ih (h.apply edit)
  exact hrun distinct_empty

/-- The values of a handle are those of its record. -/
theorem values_eq_ok_iff {handle : String} {values : List Value} :
    records.values handle = .ok values ↔ records.record? handle = some values := by
  unfold Records.values
  cases records.record? handle with
  | none => simp
  | some written => simp

end Records

end HandleChallenge.Resolution
