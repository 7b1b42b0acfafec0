import HandleChallenge.Header.Merge
import HandleChallenge.Session.State

/-!
# What merged parameters are

`get?_merge` gives the value of every name after merging: the header's, else the first one of the
request if the protocol knows the name, with the flag value in the place of an empty text. Two
headers that agree with their requests in this way are the same to every decision about the request.
-/

namespace HandleChallenge.Header

/-! ### Known names -/

theorem Known.key_injective {known other : Known} (h : known.key = other.key) : known = other := by
  revert h
  cases known <;> cases other <;> decide

@[simp] theorem Known.lowercase_key (known : Known) : Text.lowercase known.key = known.key :=
  Text.lowercase_lowercase known.spelling

theorem Known.mem_all (known : Known) : known ∈ Known.all := by
  cases known <;> decide

/-- A name spells a known parameter if it is its key in some case. -/
theorem Known.ofName?_eq_some_iff {name : String} {known : Known} :
    Known.ofName? name = some known ↔ Text.lowercase name = known.key := by
  constructor
  · intro h
    have hkey := List.find?_some h
    exact (beq_iff_eq.1 hkey).symm
  · intro h
    cases hfound : Known.ofName? name with
    | none =>
      have hnot := List.find?_eq_none.1 hfound known (Known.mem_all known)
      simp [h] at hnot
    | some other =>
      have hkey := List.find?_some hfound
      rw [beq_iff_eq, h] at hkey
      rw [Known.key_injective hkey]

theorem Known.ofName?_congr {name other : String} (h : Text.lowercase name = Text.lowercase other) :
    Known.ofName? name = Known.ofName? other := by
  rw [ofName?, ofName?, h]

namespace Params

theorem known?_eq (params : Params) (known : Known) :
    params.known? known = params.entries.lookup known.key := by
  simp [known?, get?]

@[simp] theorem known?_empty (known : Known) : empty.known? known = none := rfl

theorem lookup_map_snd (f : String → String) (name : String) (entries : List (String × String)) :
    (entries.map fun e => (e.1, f e.2)).lookup name = (entries.lookup name).map f := by
  induction entries with
  | nil => rfl
  | cons first rest ih =>
    obtain ⟨other, value⟩ := first
    simp only [List.map_cons, List.lookup_cons]
    cases name == other with
    | true => rfl
    | false => exact ih

theorem get?_congr {name other : String} (h : Text.lowercase name = Text.lowercase other)
    (params : Params) : params.get? name = params.get? other := by
  rw [get?, get?, h]

theorem get?_mapValues (params : Params) (f : String → String) (name : String) :
    (params.mapValues f).get? name = (params.get? name).map f :=
  lookup_map_snd f _ params.entries

/-- A request's parameter counts where it is known and has no value yet. -/
theorem get?_addFromRequest (params : Params) (entry : String × String) (name : String) :
    (params.addFromRequest entry).get? name =
      (params.get? name).or
        (if (Known.ofName? name).isSome ∧ Text.lowercase entry.1 = Text.lowercase name then
          some entry.2 else none) := by
  by_cases hname : Text.lowercase entry.1 = Text.lowercase name
  · rw [addFromRequest, contains, get?_congr hname, Known.ofName?_congr hname]
    cases hvalue : params.get? name with
    | none => cases hknown : (Known.ofName? name).isSome <;> simp [get?_insert, hname, hvalue]
    | some value => simp [hvalue]
  · have hother : ¬ ((Known.ofName? name).isSome = true ∧
        Text.lowercase entry.1 = Text.lowercase name) := fun h => hname h.2
    rw [if_neg hother, Option.or_none, addFromRequest]
    split
    · rw [get?_insert, if_neg fun h => hname h.symm]
    · rfl

/-- The value that a request offers for a name: of its values for a known name, in any case, the
first counts. -/
def offered? (request : List (String × String)) (name : String) : Option String :=
  if (Known.ofName? name).isSome then
    (request.find? fun entry => Text.lowercase entry.1 = Text.lowercase name).map Prod.snd
  else none

/-- Of the request's values for one parameter the first counts. -/
theorem get?_foldl_addFromRequest (params : Params) (request : List (String × String))
    (name : String) :
    (request.foldl addFromRequest params).get? name =
      (params.get? name).or (offered? request name) := by
  induction request generalizing params with
  | nil => simp [offered?]
  | cons entry rest ih =>
    rw [List.foldl_cons, ih, get?_addFromRequest, Option.or_assoc, offered?, offered?,
      List.find?_cons]
    by_cases hknown : (Known.ofName? name).isSome = true
    · by_cases hname : Text.lowercase entry.1 = Text.lowercase name
      · simp [hknown, hname]
      · simp [hknown, hname]
    · simp [hknown]

/-- What a request offers for a known parameter. -/
theorem offered?_key (request : List (String × String)) (known : Known) :
    offered? request known.key =
      (request.find? fun entry => Known.ofName? entry.1 = some known).map Prod.snd := by
  have hknown : Known.ofName? known.key = some known :=
    Known.ofName?_eq_some_iff.2 known.lowercase_key
  simp [offered?, hknown, Known.ofName?_eq_some_iff]

end Params

/-- The value that a parameter has after merging. -/
def normalize (value : String) : String := if value = "" then flagValue else value

/-- The header's value counts, else the first one of the request if the name is known. -/
theorem get?_merge (header : Option Params) (request : List (String × String)) (name : String) :
    (merge header request).get? name =
      (((header.getD Params.empty).get? name).or (Params.offered? request name)).map normalize := by
  rw [merge, Params.get?_mapValues, Params.get?_foldl_addFromRequest]
  rfl

/-- The header's value counts, else the first one of the request. -/
theorem known?_merge (header : Option Params) (request : List (String × String)) (known : Known) :
    (merge header request).known? known =
      (((header.getD Params.empty).known? known).or
        ((request.find? fun entry => Known.ofName? entry.1 = some known).map Prod.snd)).map
          normalize := by
  rw [Params.known?, get?_merge, Params.offered?_key]
  rfl

/-- What a header says is not changed where it gives a value. -/
theorem known?_merge_nil {params : Params} {known : Known} (h : params.known? known ≠ some "") :
    (merge (some params) []).known? known = params.known? known := by
  rw [known?_merge, List.find?_nil, Option.map_none, Option.or_none, Option.getD_some]
  cases hvalue : params.known? known with
  | none => rfl
  | some value =>
    have hne : value ≠ "" := fun hempty => h (hvalue.trans (congrArg some hempty))
    rw [Option.map_some, normalize, if_neg hne]

/-- One more parameter in the request changes that parameter alone. -/
theorem known?_merge_singleton_of_ne (header : Option Params) {added known : Known}
    (h : added ≠ known) (value : String) :
    (merge header [(added.key, value)]).known? known = (merge header []).known? known := by
  have hname : Known.ofName? added.key ≠ some known := by
    rw [Ne, Known.ofName?_eq_some_iff, Known.lowercase_key]
    exact fun hkey => h (Known.key_injective hkey)
  simp [known?_merge, hname]

/-- A parameter of the request is present after merging. -/
theorem has_merge_singleton (header : Option Params) (added : Known) (value : String) :
    (merge header [(added.key, value)]).has added = true := by
  have hname : Known.ofName? added.key = some added := by
    rw [Known.ofName?_eq_some_iff, Known.lowercase_key]
  simp [Params.has, known?_merge, hname]

/-- What the second parameters say besides the first contradicts them nowhere. -/
def Params.Extends (params more : Params) : Prop :=
  ∀ known value, params.known? known = some value → more.known? known = some value

/-- No request takes anything back that the header says. -/
theorem merge_extends (header : Option Params) (request : List (String × String)) :
    (merge header []).Extends (merge header request) := by
  intro known value h
  rw [known?_merge] at h ⊢
  cases hheader : (header.getD Params.empty).known? known with
  | none =>
    rw [hheader] at h
    cases h
  | some given =>
    rw [hheader] at h
    exact h

namespace Params

theorem has_eq_true_iff {params : Params} {known : Known} :
    params.has known = true ↔ ∃ value, params.known? known = some value :=
  Option.isSome_iff_exists

theorem Extends.has {params more : Params} (h : params.Extends more) {known : Known}
    (hhas : params.has known = true) : more.has known = true := by
  obtain ⟨value, hvalue⟩ := has_eq_true_iff.1 hhas
  exact has_eq_true_iff.2 ⟨value, h known value hvalue⟩

theorem Extends.known?_eq {params more : Params} (h : params.Extends more) {known : Known}
    (hhas : params.has known = true) : more.known? known = params.known? known := by
  obtain ⟨value, hvalue⟩ := has_eq_true_iff.1 hhas
  rw [hvalue, h known value hvalue]

/-- Nothing of a claim is absent exactly if each of its parts is present. -/
theorem missing?_eq_none_iff {params : Params} :
    params.missing? = none ↔
      ∀ known ∈ [Known.id, .cnonce, .type, .alg, .signature], params.has known = true := by
  simp [missing?, List.find?_eq_none]

/-- Parameters that name a session or none do so with fewer words too. -/
theorem Extends.isNamedBy_of {params more : Params} (h : params.Extends more)
    {state : SessionState} (hnamed : state.isNamedBy more = true) :
    state.isNamedBy params = true := by
  unfold SessionState.isNamedBy at hnamed ⊢
  cases hvalue : params.known? .sessionId with
  | none => rfl
  | some value =>
    rw [h .sessionId value hvalue] at hnamed
    exact hnamed

end Params

end HandleChallenge.Header
