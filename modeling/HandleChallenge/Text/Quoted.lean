/-!
# Quoted strings

A quoted string stands between double quotes; a backslash makes the next character literal.
`Quoted.write` escapes quotes and backslashes, and `Quoted.read?` finds the closing quote. Main
statement: what is written reads back, with all that follows left over (`read?_write`).
-/

namespace HandleChallenge.Text.Quoted

/-- The characters between the quotes. -/
def escape : List Char → List Char
  | [] => []
  | c :: cs => if c = '"' ∨ c = '\\' then '\\' :: c :: escape cs else c :: escape cs

/-- The quoted string of a sequence of characters. -/
def write (cs : List Char) : List Char := '"' :: escape cs ++ ['"']

/-- The characters up to the closing quote and the rest behind it; `none` when there is no
closing quote. The opening quote has been read. -/
def read? : List Char → Option (List Char × List Char)
  | [] => none
  | '"' :: cs => some ([], cs)
  | ['\\'] => none
  | '\\' :: literal :: cs => (read? cs).map fun (value, rest) => (literal :: value, rest)
  | c :: cs => (read? cs).map fun (value, rest) => (c :: value, rest)

/-- What is written reads back, and the rest is left. -/
theorem read?_write (cs rest : List Char) :
    read? (escape cs ++ '"' :: rest) = some (cs, rest) := by
  induction cs with
  | nil => simp [escape, read?]
  | cons c cs ih =>
    by_cases h : c = '"' ∨ c = '\\'
    · simp [escape, h, read?, ih]
    · have hq : c ≠ '"' := fun hc => h (.inl hc)
      have hb : c ≠ '\\' := fun hc => h (.inr hc)
      simp [escape, hq, hb, read?, ih]

/-- The rest behind a quoted string is shorter than the text. -/
theorem length_lt_of_read? {cs value rest : List Char} (h : read? cs = some (value, rest)) :
    rest.length < cs.length := by
  fun_induction read? cs generalizing value with
  | case1 => simp at h
  | case2 => simp_all
  | case3 => simp at h
  | case4 literal cs ih =>
    obtain ⟨⟨v, r⟩, hv, hr⟩ := Option.map_eq_some_iff.1 h
    simp only [Prod.mk.injEq] at hr
    have := ih (hv.trans (by rw [hr.2]))
    simp only [List.length_cons]
    omega
  | case5 c cs _ _ _ ih =>
    obtain ⟨⟨v, r⟩, hv, hr⟩ := Option.map_eq_some_iff.1 h
    simp only [Prod.mk.injEq] at hr
    have := ih (hv.trans (by rw [hr.2]))
    simp only [List.length_cons]
    omega

end HandleChallenge.Text.Quoted
