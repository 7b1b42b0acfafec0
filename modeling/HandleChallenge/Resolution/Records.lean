import HandleChallenge.Resolution.Basic
import HandleChallenge.Table

/-!
# Records

The values of the handles that a server keeps: for each handle, in the order in which they were
written, values with distinct indices. Writing a value touches the record of one handle
(`record?_put`), and in it one index (`find?_replaceValue`).
-/

namespace HandleChallenge.Resolution

/-- The values with one more, in the place of one with its index. -/
def replaceValue (value : Value) (values : List Value) : List Value :=
  values.filter (·.index != value.index) ++ [value]

/-- The values of handles. -/
structure Records where
  table : Table String (List Value)

namespace Records

/-- No handle has values. -/
def empty : Records := ⟨Table.empty⟩

/-- The values of a handle, if it has a record. -/
def record? (records : Records) (handle : String) : Option (List Value) :=
  records.table.get? handle

/-- The values of a handle. -/
def values (records : Records) (handle : String) : Except Error (List Value) :=
  match records.record? handle with
  | some values => .ok values
  | none => .error (.notFound handle)

/-- The records with a value written. -/
def put (records : Records) (handle : String) (value : Value) : Records :=
  ⟨records.table.insert handle (replaceValue value ((records.record? handle).getD []))⟩

/-- The records with values written, one after the other. -/
def putAll (records : Records) (entries : List (String × Value)) : Records :=
  entries.foldl (fun records (handle, value) => records.put handle value) records

/-- The records without a handle. -/
def remove (records : Records) (handle : String) : Records := ⟨records.table.erase handle⟩

/-- Whether a handle has a record. -/
def contains (records : Records) (handle : String) : Bool := records.table.contains handle

/-- Removes a handle, and tells whether it had a record. -/
def removeHandle (records : Records) (handle : String) : Bool × Records :=
  (records.contains handle, records.remove handle)

/-- The number of handles. -/
def count (records : Records) : Nat := records.table.size

theorem record?_put (records : Records) (handle other : String) (value : Value) :
    (records.put handle value).record? other =
      if other = handle then some (replaceValue value ((records.record? handle).getD []))
      else records.record? other := by
  simp [put, record?, Table.get?_insert]

theorem record?_removeHandle (records : Records) (handle other : String) :
    (records.removeHandle handle).2.record? other =
      if other = handle then none else records.record? other := by
  simp [removeHandle, remove, record?, Table.get?_erase]

theorem find?_replaceValue (value : Value) (values : List Value) (index : UInt32) :
    (replaceValue value values).find? (·.index == index) =
      if index = value.index then some value else values.find? (·.index == index) := by
  have hdropped : (values.filter (·.index != value.index)).find? (·.index == index) =
      if index = value.index then none else values.find? (·.index == index) := by
    rw [List.find?_filter]
    split
    · rename_i h
      subst h
      simp
    · rename_i h
      congr 1
      funext v
      by_cases hv : v.index = index <;> simp [hv, h]
  rw [replaceValue, List.find?_append, hdropped]
  by_cases h : index = value.index
  · simp [h]
  · simp [h, beq_eq_false_iff_ne.2 (Ne.symm h)]

end Records

end HandleChallenge.Resolution
