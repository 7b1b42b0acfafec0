import HandleChallenge.Credential
import HandleChallenge.Proofs.Header.RoundTrip

/-!
# What the header of a credential says

The parameters that a credential writes are read back from its header (`parse?_serialize_params`),
and `known?_params` lists them.
-/

namespace HandleChallenge

namespace Header.Params

/-! ### Known names as entries -/

/-- Of the entries with a known name the last counts. -/
theorem known?_insertAll (params : Params) (entries : List (Known × String)) (known : Known) :
    (params.insertAll (entries.map fun e => (e.1.key, e.2))).known? known =
      (entries.reverse.lookup known).or (params.known? known) := by
  induction entries generalizing params with
  | nil => rfl
  | cons first rest ih =>
    obtain ⟨name, value⟩ := first
    have hinsert : (params.insert name.key value).known? known =
        ([(name, value)].lookup known).or (params.known? known) := by
      rw [known?, get?_insert, Known.lowercase_key, Known.lowercase_key, List.lookup_cons]
      by_cases h : known = name
      · subst h
        simp
      · rw [if_neg fun hkey => h (Known.key_injective hkey), beq_eq_false_iff_ne.2 h]
        rfl
    show ((params.insert name.key value).insertAll _).known? known = _
    rw [ih, hinsert, List.reverse_cons, List.lookup_append, Option.or_assoc]

/-- Inserted entries have the names that they were inserted under. -/
theorem name_mem_insertAll {params : Params} {entries : List (String × String)}
    {e : String × String} (h : e ∈ (params.insertAll entries).entries) :
    e ∈ params.entries ∨ ∃ entry ∈ entries, e.1 = Text.lowercase entry.1 := by
  induction entries generalizing params with
  | nil => exact .inl h
  | cons first rest ih =>
    rcases ih h with h | ⟨entry, hentry, hname⟩
    · rcases mem_insertEntry h with rfl | h
      · exact .inr ⟨first, List.mem_cons_self, rfl⟩
      · exact .inl h
    · exact .inr ⟨entry, List.mem_cons_of_mem _ hentry, hname⟩

end Header.Params

namespace Credential

open Header (Known Params IsName)

variable {credential : Credential} {session : Option String} {clientNonce raw : Bytes}

/-- The parameters of a header. -/
theorem known?_params (credential : Credential) (session : Option String) (clientNonce raw : Bytes)
    (known : Known) :
    (credential.params session clientNonce raw).known? known =
      match known with
      | .version => some protocolVersion
      | .sessionId => session
      | .id => some credential.identity.text
      | .cnonce => some (Text.Base64.encode clientNonce)
      | .type => some credential.kind.tag
      | .alg => some credential.algorithm.name
      | .signature => some (Text.Base64.encode raw)
      | .salt => credential.derivation?.map fun d => Text.Base64.encode d.salt
      | .iterations => credential.derivation?.map fun d => Text.Decimal.text d.iterations.toNat
      | .length => credential.derivation?.map fun d => Text.Decimal.text d.lengthBits.toNat
      | .clientCert | .renegotiate => none := by
  unfold params Params.ofList
  simp only []
  rw [Params.known?_insertAll]
  cases session <;> cases credential.derivation? <;> cases known <;> rfl

/-- The names of a header are names. -/
theorem isName_params {e : String × String}
    (h : e ∈ (credential.params session clientNonce raw).entries) : IsName e.1.toList := by
  rcases Params.name_mem_insertAll h with h | ⟨entry, hentry, hname⟩
  · cases h
  · obtain ⟨⟨known, value⟩, -, rfl⟩ := List.mem_map.1 hentry
    rw [hname, Known.lowercase_key]
    exact known.isName_key

/-- A header is read back as the parameters of its credential. -/
theorem parse?_serialize_params :
    Header.parse? (Header.serialize (credential.params session clientNonce raw)) =
      some (credential.params session clientNonce raw) := by
  refine Header.parse?_serialize (fun hnil => ?_) fun e he => isName_params he
  have hversion := credential.known?_params session clientNonce raw .version
  rw [Params.known?_eq, hnil] at hversion
  cases hversion

end Credential

end HandleChallenge
