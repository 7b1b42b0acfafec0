/-!
# Checks in sequence

A sequence of checks goes through exactly if each of them does. These are the laws by which a
computation that may refuse is taken apart, one check after the other.
-/

namespace HandleChallenge.Checks

variable {ε α β : Type}

theorem bind_of_ok {first : Except ε α} {middle : α} (h : first = .ok middle)
    (rest : α → Except ε β) : (first >>= rest) = rest middle := by
  rw [h]
  rfl

theorem bind_of_error {first : Except ε α} {refusal : ε} (h : first = .error refusal)
    (rest : α → Except ε β) : (first >>= rest) = .error refusal := by
  rw [h]
  rfl

/-- A sequence goes through if its first part does and the rest does with the result. -/
theorem bind_eq_ok_iff {first : Except ε α} {rest : α → Except ε β} {result : β} :
    (first >>= rest) = .ok result ↔ ∃ middle, first = .ok middle ∧ rest middle = .ok result := by
  cases first with
  | error refusal =>
    constructor
    · intro h
      cases h
    · rintro ⟨middle, h, -⟩
      cases h
  | ok middle =>
    constructor
    · intro h
      exact ⟨middle, rfl, h⟩
    · rintro ⟨other, h, hrest⟩
      cases h
      exact hrest

theorem map_eq_ok_iff {checked : Except ε α} {f : α → β} {result : β} :
    f <$> checked = .ok result ↔ ∃ value, checked = .ok value ∧ f value = result := by
  cases checked with
  | error refusal =>
    constructor
    · intro h
      cases h
    · rintro ⟨value, h, -⟩
      cases h
  | ok value =>
    constructor
    · intro h
      cases h
      exact ⟨value, rfl, rfl⟩
    · rintro ⟨other, h, rfl⟩
      cases h
      rfl

/-- Telling an error in other words lets nothing more through. -/
theorem mapError_eq_ok_iff {δ : Type} {checked : Except ε α} {f : ε → δ} {value : α} :
    checked.mapError f = .ok value ↔ checked = .ok value := by
  cases checked with
  | error refusal =>
    constructor
    · intro h
      cases h
    · intro h
      cases h
  | ok result =>
    constructor
    · intro h
      cases h
      rfl
    · intro h
      cases h
      rfl

theorem pure_eq_ok_iff {value result : α} :
    (pure value : Except ε α) = .ok result ↔ value = result := by
  constructor
  · intro h
    cases h
    rfl
  · rintro rfl
    rfl

/-! ### The first check that fails -/

section Order

variable {γ : Type} {passes : γ → Prop} {tells : γ → ε → Prop} {checks more : List γ} {check : γ}

/-- Of the members with a property one is the first, or no member has it. -/
theorem exists_first_or (p : γ → Prop) (checks : List γ) :
    (∃ before check after, checks = before ++ check :: after ∧ p check ∧
        ∀ earlier ∈ before, ¬ p earlier) ∨
      ∀ check ∈ checks, ¬ p check := by
  classical
  cases hfind : checks.find? fun check => decide (p check) with
  | none => exact .inr fun check hmem => by simpa using List.find?_eq_none.1 hfind check hmem
  | some check =>
    obtain ⟨hcheck, before, after, hsplit, hbefore⟩ := List.find?_eq_some_iff_append.1 hfind
    exact .inl ⟨before, check, after, hsplit, of_decide_eq_true hcheck,
      fun earlier hmem => by simpa using hbefore earlier hmem⟩

/-- The computation makes the checks in their order: it goes through if all of them pass, and else
is refused as the first that fails says. -/
structure Runs (passes : γ → Prop) (tells : γ → ε → Prop) (checks : List γ)
    (checked : Except ε α) : Prop where
  ok : (∀ check ∈ checks, passes check) → ∃ value, checked = .ok value
  error : ∀ before check after, checks = before ++ check :: after →
    (∀ earlier ∈ before, passes earlier) → ¬ passes check →
      ∃ refusal, tells check refusal ∧ checked = .error refusal

theorem Runs.of_ok (value : α) : Runs passes tells [] (.ok value : Except ε α) where
  ok _ := ⟨value, rfl⟩
  error before check after h := by simp at h

theorem Runs.single {checked : Except ε α} (hok : passes check → ∃ value, checked = .ok value)
    (herror : ¬ passes check → ∃ refusal, tells check refusal ∧ checked = .error refusal) :
    Runs passes tells [check] checked where
  ok h := hok (h check List.mem_cons_self)
  error before other after h _ hfails := by
    obtain ⟨rfl, hcons⟩ : before = [] ∧ check :: [] = other :: after := by
      cases before with
      | nil => exact ⟨rfl, h⟩
      | cons first rest => simp at h
    cases hcons
    exact herror hfails

/-- The checks of one computation come before those of the next. -/
theorem Runs.bind {first : Except ε α} {rest : α → Except ε β}
    (hfirst : Runs passes tells checks first)
    (hrest : ∀ middle, first = .ok middle → Runs passes tells more (rest middle)) :
    Runs passes tells (checks ++ more) (first >>= rest) where
  ok h := by
    obtain ⟨middle, hmiddle⟩ := hfirst.ok fun check hmem => h check (List.mem_append_left _ hmem)
    rw [bind_of_ok hmiddle]
    exact (hrest middle hmiddle).ok fun check hmem => h check (List.mem_append_right _ hmem)
  error before check after h hbefore hfails := by
    rcases List.append_eq_append_iff.1 h with ⟨passed, rfl, hmore⟩ | ⟨left, rfl, hleft⟩
    · obtain ⟨middle, hmiddle⟩ :=
        hfirst.ok fun check hmem => hbefore check (List.mem_append_left _ hmem)
      rw [bind_of_ok hmiddle]
      exact (hrest middle hmiddle).error passed check after hmore
        (fun earlier hmem => hbefore earlier (List.mem_append_right _ hmem)) hfails
    · cases left with
      | nil =>
        obtain ⟨middle, hmiddle⟩ := hfirst.ok fun check hmem => hbefore check (by simpa using hmem)
        rw [bind_of_ok hmiddle]
        exact (hrest middle hmiddle).error [] check after hleft.symm (by simp) hfails
      | cons other left =>
        cases hleft
        obtain ⟨refusal, htold, hrefused⟩ := hfirst.error before check left rfl hbefore hfails
        exact ⟨refusal, htold, bind_of_error hrefused _⟩

theorem Runs.map {checked : Except ε α} (h : Runs passes tells checks checked) (f : α → β) :
    Runs passes tells checks (f <$> checked) := by
  have hbind : Runs passes tells (checks ++ []) (checked >>= fun value => .ok (f value)) :=
    h.bind fun value _ => .of_ok (f value)
  rw [List.append_nil] at hbind
  cases checked with
  | error refusal => exact hbind
  | ok value => exact hbind

end Order

end HandleChallenge.Checks
