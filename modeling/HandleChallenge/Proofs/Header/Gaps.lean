import HandleChallenge.Proofs.Header.Grammar
import HandleChallenge.Proofs.Header.Merge

/-!
# What a request adds to a header

The parameters of a request fill gaps that the header leaves, under the twelve names of the protocol
(`recognised`) and no others. So it matters which value a name comes with first, and not how the
parameters of different names are mixed (`merge_congr`), and what was added once is there already when
it is added again (`merge_merge`).
-/

namespace HandleChallenge.Header

/-- The names that the protocol knows, in small letters. -/
def recognised : List String :=
  ["version", "sessionid", "id", "cnonce", "type", "alg", "signature", "salt", "iterations",
    "length", "clientcert", "renegotiate"]

/-- A name is known if it is, in any case, one of these. -/
theorem isSome_ofName?_iff {name : String} :
    (Known.ofName? name).isSome = true ↔ Text.lowercase name ∈ recognised := by
  have hkeys : recognised = Known.all.map Known.key := by decide
  rw [hkeys, List.mem_map, Option.isSome_iff_exists]
  constructor
  · rintro ⟨known, hknown⟩
    exact ⟨known, known.mem_all, (Known.ofName?_eq_some_iff.1 hknown).symm⟩
  · rintro ⟨known, -, hkey⟩
    exact ⟨known, Known.ofName?_eq_some_iff.2 hkey.symm⟩

/-- The parameters of a request that have one name, in any case. -/
def named (name : String) (request : List (String × String)) : List (String × String) :=
  request.filter fun pair => Text.lowercase pair.1 = Text.lowercase name

/-- Two neighbours of different names may change places. -/
theorem named_swap (front back : List (String × String)) {first second : String × String}
    (h : Text.lowercase first.1 ≠ Text.lowercase second.1) (name : String) :
    named name (front ++ second :: first :: back) =
      named name (front ++ first :: second :: back) := by
  by_cases hfirst : Text.lowercase first.1 = Text.lowercase name
  · have hsecond : Text.lowercase second.1 ≠ Text.lowercase name := hfirst ▸ h.symm
    simp [named, hfirst, hsecond]
  · simp [named, List.filter_cons, hfirst]

namespace Params

/-- What a request offers is the first of its values for a known name. -/
theorem offered?_eq (request : List (String × String)) (name : String) :
    offered? request name =
      if Text.lowercase name ∈ recognised then (named name request).head?.map Prod.snd
      else none := by
  simp only [offered?, named, List.head?_filter, isSome_ofName?_iff]

theorem isSome_offered?_iff {request : List (String × String)} {name : String} :
    (offered? request name).isSome = true ↔
      Text.lowercase name ∈ recognised ∧
        ∃ pair ∈ request, Text.lowercase pair.1 = Text.lowercase name := by
  rw [offered?_eq]
  split
  · rename_i hknown
    simp [hknown, Option.isSome_iff_ne_none, named]
  · rename_i hunknown
    simp [hunknown]

/-- The value that a header gives a name is that of its parameters. -/
theorem get?_getD_empty (header : Option Params) (name : String) :
    (header.getD empty).get? name = header.bind (·.get? name) := by
  cases header with
  | none => rfl
  | some params => rfl

end Params

theorem normalize_normalize (value : String) : normalize (normalize value) = normalize value := by
  by_cases hempty : value = ""
  · subst hempty
    decide
  · simp [normalize, hempty]

section Merging

variable (header : Option Params) (request : List (String × String))

/-- A value is the header's, else the first that the request offers. -/
theorem get?_merge_eq (name : String) :
    (merge header request).get? name =
      ((header.bind (·.get? name)).or (Params.offered? request name)).map normalize := by
  rw [get?_merge, Params.get?_getD_empty]

/-- A name has a value if the header gives it one or the request offers one. -/
theorem contains_merge_iff (name : String) :
    (merge header request).contains name = true ↔
      (∃ params, header = some params ∧ params.contains name = true) ∨
        Text.lowercase name ∈ recognised ∧
          ∃ pair ∈ request, Text.lowercase pair.1 = Text.lowercase name := by
  rw [Params.contains, get?_merge_eq, Option.isSome_map, Option.isSome_or, Bool.or_eq_true,
    Params.isSome_offered?_iff]
  cases header with
  | none => simp
  | some params => simp [Params.contains]

/-- Only what a request offers counts, not in which order names take turns. -/
theorem merge_congr {other : List (String × String)}
    (h : ∀ name, named name other = named name request) :
    merge header other = merge header request :=
  Params.ext_get? fun name => by
    rw [get?_merge_eq, get?_merge_eq, Params.offered?_eq, Params.offered?_eq, h]

/-- What a request adds is not added twice. -/
theorem merge_merge : merge (some (merge header request)) request = merge header request := by
  refine Params.ext_get? fun name => ?_
  rw [get?_merge_eq, Option.bind_some, get?_merge_eq]
  cases header.bind (·.get? name) with
  | some value => simp [normalize_normalize]
  | none => cases Params.offered? request name <;> simp [normalize_normalize]

end Merging

/-- A name has a value after merging if the header gives it one, or if the protocol knows the name and
the request has it, in any case. The value is the header's, else the first one of the request, and a
flag if it is empty. So a name that the protocol does not know never comes from the request, the
parameters of different names may change places, and merging the same request again changes nothing. -/
theorem request_fills_gaps (header : Option Params) (request : List (String × String)) :
    (∀ name, (merge header request).contains name = true ↔
      (∃ params, header = some params ∧ params.contains name = true) ∨
        Text.lowercase name ∈ recognised ∧
          ∃ pair ∈ request, Text.lowercase pair.1 = Text.lowercase name) ∧
    (∀ name, (merge header request).get? name =
      ((header.bind (·.get? name)).or
        (if Text.lowercase name ∈ recognised then (named name request).head?.map Prod.snd
          else none)).map fun value => if value = "" then "true" else value) ∧
    (∀ name, Text.lowercase name ∉ recognised →
      (merge header request).get? name = (merge header []).get? name) ∧
    (∀ other, (∀ name, named name other = named name request) →
      merge header other = merge header request) ∧
    merge (some (merge header request)) request = merge header request := by
  refine ⟨contains_merge_iff header request, fun name => ?_, fun name hunknown => ?_,
    fun _ => merge_congr header request, merge_merge header request⟩
  · rw [get?_merge_eq, Params.offered?_eq]
    rfl
  · rw [get?_merge_eq, get?_merge_eq, Params.offered?_eq, Params.offered?_eq, if_neg hunknown,
      if_neg hunknown]

/-- Two parameters of a query may change places, and one that no one knows is left out. -/
theorem request_fills_gaps_of_query :
    merge none [("nonce", "5"), ("SALT", "a"), ("alg", ""), ("salt", "b")] =
        merge none [("nonce", "5"), ("alg", ""), ("SALT", "a"), ("salt", "b")] ∧
      (merge none [("nonce", "5"), ("SALT", "a"), ("alg", ""), ("salt", "b")]).get? "nonce" =
        (merge none []).get? "nonce" :=
  ⟨(request_fills_gaps none _).2.2.2.1 _ (named_swap [("nonce", "5")] [("salt", "b")] (by decide)),
    (request_fills_gaps none _).2.2.1 "nonce" (by decide)⟩

end HandleChallenge.Header
