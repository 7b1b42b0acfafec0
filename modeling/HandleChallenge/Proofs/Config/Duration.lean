import HandleChallenge.Config.Duration
import HandleChallenge.Proofs.Text.Fields

/-!
# Durations and their texts

A duration is written as a number, with a unit behind it or alone (`Duration.Writes`), and a text is
read as what it writes (`parse_eq_ok_iff`): a number that ends in `ms` counts milliseconds, since
neither `s` alone nor `m` can stand behind the other. The durations that texts write are those that
sixty-four bits of milliseconds or of seconds hold, and each of them is read back from its own text
(`parse_text_eq_ok_iff`), which names the longer unit where it can.
-/

namespace HandleChallenge

/-- The units of durations. -/
inductive TimeUnit where
  | milliseconds
  | seconds
  | minutes
  | hours
  deriving DecidableEq

namespace TimeUnit

/-- What stands behind a number of the unit. -/
def suffix : TimeUnit → List Char
  | milliseconds => ['m', 's']
  | seconds => ['s']
  | minutes => ['m']
  | hours => ['h']

/-- The milliseconds in the unit. -/
def millis : TimeUnit → Nat
  | milliseconds => 1
  | seconds => 1000
  | minutes => 60000
  | hours => 3600000

/-- What is said of a number of the unit that cannot be read. -/
def error : TimeUnit → Duration.ParseError
  | milliseconds => .milliseconds
  | seconds => .seconds
  | minutes => .minutes
  | hours => .hours

/-- All units but the shortest are whole seconds. -/
theorem millis_eq_one_or (unit : TimeUnit) : unit.millis = 1 ∨ 1000 ∣ unit.millis := by
  cases unit with
  | milliseconds => exact .inl rfl
  | seconds => exact .inr (by decide)
  | minutes => exact .inr (by decide)
  | hours => exact .inr (by decide)

/-- A unit ends in a letter. -/
theorem exists_getLast?_suffix (unit : TimeUnit) :
    ∃ c, unit.suffix.getLast? = some c ∧ Text.isBlank c = false ∧
      Text.Decimal.isDigit c = false := by
  cases unit with
  | milliseconds => exact ⟨'s', by decide⟩
  | seconds => exact ⟨'s', by decide⟩
  | minutes => exact ⟨'m', by decide⟩
  | hours => exact ⟨'h', by decide⟩

end TimeUnit

namespace Duration

open Text (AllBlank trim)
open Text.Decimal (IsNumber)

/-- A number and its unit, or a number of seconds alone. Blanks may stand in front, behind, and
between the two. -/
inductive Writes : List Char → Nat → TimeUnit → Prop
  | alone {before number after : List Char} {n : Nat} (hbefore : AllBlank before)
      (hnumber : Text.Decimal.Writes number n) (hafter : AllBlank after) :
      Writes (before ++ number ++ after) n .seconds
  | measured {before number gap after : List Char} {n : Nat} {unit : TimeUnit}
      (hbefore : AllBlank before) (hnumber : Text.Decimal.Writes number n) (hgap : AllBlank gap)
      (hafter : AllBlank after) :
      Writes (before ++ (number ++ gap ++ unit.suffix) ++ after) n unit

variable {text : String} {cs number : List Char} {n : Nat} {unit : TimeUnit} {duration : Duration}

/-! ### What a text is read as -/

theorem ofNumber_eq_ok_iff {error : ParseError} {millis : Nat} :
    ofNumber error millis cs = .ok duration ↔
      ∃ n, Text.Decimal.Writes (trim cs) n ∧ n < bound ∧ n * (millis / 1000) < bound ∧
        duration = ⟨n * millis⟩ := by
  unfold ofNumber
  constructor
  · intro h
    split at h
    · rename_i n hparse
      obtain ⟨hwrites, hlt⟩ := Text.Decimal.parse?_eq_some_iff.1 hparse
      split at h
      · rename_i hbound
        exact ⟨n, hwrites, hlt, hbound, (Except.ok.inj h).symm⟩
      · cases h
    · cases h
  · rintro ⟨n, hwrites, hlt, hbound, rfl⟩
    rw [Text.Decimal.parse?_eq_some_iff.2 ⟨hwrites, hlt⟩]
    exact if_pos hbound

/-- A number that is written is read, or refused for its size alone. -/
theorem ofNumber_of_writes (h : Text.Decimal.Writes (trim number) n)
    (error : ParseError) (millis : Nat) :
    ofNumber error millis number =
      if n < bound ∧ n * (millis / 1000) < bound then .ok ⟨n * millis⟩ else .error error := by
  split
  · rename_i hbounds
    exact ofNumber_eq_ok_iff.2 ⟨n, h, hbounds.1, hbounds.2, rfl⟩
  · rename_i hbounds
    unfold ofNumber
    split
    · rename_i read hparse
      obtain ⟨hread, hlt⟩ := Text.Decimal.parse?_eq_some_iff.1 hparse
      obtain rfl := hread.unique h
      exact if_neg fun hseconds => hbounds ⟨hlt, hseconds⟩
    · rfl

/-- A unit is read from the end. Behind `m` the letter `s` makes milliseconds. -/
theorem parse_of_suffix (h : trim text.toList = number ++ unit.suffix)
    (hms : unit = .seconds → number.getLast? ≠ some 'm') :
    parse text = ofNumber unit.error unit.millis number := by
  have hreverse : (trim text.toList).reverse = unit.suffix.reverse ++ number.reverse := by
    rw [h, List.reverse_append]
  unfold parse
  simp only [hreverse]
  cases unit with
  | milliseconds => simp [TimeUnit.suffix, TimeUnit.error, TimeUnit.millis]
  | seconds =>
    simp only [TimeUnit.suffix, List.reverse_singleton, List.singleton_append]
    split
    · rename_i number' hm
      have hlast : number.reverse = 'm' :: number' := by simpa using hm
      refine absurd ?_ (hms rfl)
      rw [← List.head?_reverse, hlast]
      rfl
    · rename_i back _ hm
      obtain rfl : number.reverse = back := by simpa using hm
      rw [List.reverse_reverse]
      rfl
    · rename_i hm
      simp at hm
    · rename_i hm
      simp at hm
    · rename_i _ hs _ _
      exact absurd rfl (hs _)
  | minutes => simp [TimeUnit.suffix, TimeUnit.error, TimeUnit.millis]
  | hours => simp [TimeUnit.suffix, TimeUnit.error, TimeUnit.millis]

/-- Without a unit the whole text counts seconds. -/
theorem parse_of_no_suffix (h : ∀ number unit, trim text.toList ≠ number ++ TimeUnit.suffix unit) :
    parse text = ofNumber .noUnit 1000 (trim text.toList) := by
  have hends : ∀ unit number,
      (trim text.toList).reverse ≠ (TimeUnit.suffix unit).reverse ++ number := by
    intro unit number hreverse
    apply h number.reverse unit
    rw [← List.reverse_reverse (trim text.toList), hreverse, List.reverse_append,
      List.reverse_reverse]
  unfold parse
  simp only
  split
  · rename_i hm
    exact absurd hm (hends .milliseconds _)
  · rename_i hm
    exact absurd hm (hends .seconds _)
  · rename_i hm
    exact absurd hm (hends .minutes _)
  · rename_i hm
    exact absurd hm (hends .hours _)
  · rfl

/-- A text ends in a unit, milliseconds before seconds, or in none. -/
theorem exists_suffix_or (cs : List Char) :
    (∃ number unit, cs = number ++ TimeUnit.suffix unit ∧
      (unit = .seconds → number.getLast? ≠ some 'm')) ∨
    ∀ number unit, cs ≠ number ++ TimeUnit.suffix unit := by
  by_cases h : ∃ number unit, cs = number ++ TimeUnit.suffix unit
  · obtain ⟨number, unit, rfl⟩ := h
    -- seconds of a number that ends in `m` are milliseconds
    by_cases hms : unit = .seconds ∧ number.getLast? = some 'm'
    · obtain ⟨rfl, hlast⟩ := hms
      obtain ⟨front, rfl⟩ := List.getLast?_eq_some_iff.1 hlast
      exact .inl ⟨front, .milliseconds, by simp [TimeUnit.suffix], fun hunit => by cases hunit⟩
    · exact .inl ⟨number, unit, rfl, fun hunit hlast => hms ⟨hunit, hlast⟩⟩
  · exact .inr fun number unit hcs => h ⟨number, unit, hcs⟩

/-- What is read from a text is written there. -/
theorem writes_of_parse (h : parse text = .ok duration) :
    ∃ n unit, Writes text.toList n unit ∧ n < bound ∧ n * (unit.millis / 1000) < bound ∧
      duration = ⟨n * unit.millis⟩ := by
  obtain ⟨before, after, hbefore, hafter, htext⟩ := Text.exists_trim_eq text.toList
  rw [htext]
  rcases exists_suffix_or (trim text.toList) with ⟨number, unit, hcs, hms⟩ | hcs
  · rw [parse_of_suffix hcs hms] at h
    obtain ⟨n, hnumber, hread⟩ := ofNumber_eq_ok_iff.1 h
    obtain ⟨front, gap, hfront, hgap, hcore⟩ := Text.exists_trim_eq number
    refine ⟨n, unit, ?_, hread⟩
    have hwrites : Writes (_ ++ (_ ++ _ ++ unit.suffix) ++ _) n unit :=
      .measured (hbefore.append hfront) hnumber hgap hafter
    rw [hcs]
    generalize trim number = core at hcore hwrites
    subst hcore
    simpa using hwrites
  · rw [parse_of_no_suffix hcs] at h
    obtain ⟨n, hnumber, hread⟩ := ofNumber_eq_ok_iff.1 h
    obtain ⟨front, back, hfront, hback, hcore⟩ := Text.exists_trim_eq (trim text.toList)
    refine ⟨n, .seconds, ?_, hread⟩
    have hwrites := Writes.alone (hbefore.append hfront) hnumber (hback.append hafter)
    generalize trim (trim text.toList) = core at hcore hwrites
    rw [hcore]
    simpa using hwrites

/-- Blanks around a number and its unit are dropped. -/
theorem trim_measured {before gap after : List Char} (hbefore : AllBlank before)
    (hnumber : Text.Decimal.Writes number n) (hafter : AllBlank after) :
    trim (before ++ (number ++ gap ++ unit.suffix) ++ after) = number ++ gap ++ unit.suffix := by
  obtain ⟨hne, hblank⟩ := hnumber.isBlank
  obtain ⟨first, others, rfl⟩ := List.exists_cons_of_ne_nil hne
  obtain ⟨last, hlast, hletter, -⟩ := unit.exists_getLast?_suffix
  refine Text.trim_append_blanks hbefore hafter (List.cons_ne_nil _ _) ?_ ?_
  · rintro c hc
    exact hblank c (List.mem_of_head? hc)
  · rintro c hc
    rw [List.getLast?_append, hlast] at hc
    cases hc
    exact hletter

/-- Neither a number nor the blanks behind it end in a letter. -/
theorem getLast?_number_ne {gap : List Char} (hnumber : Text.Decimal.Writes number n)
    (hgap : AllBlank gap) : (number ++ gap).getLast? ≠ some 'm' := by
  intro hlast
  rw [List.getLast?_append] at hlast
  cases hblank : gap.getLast? with
  | none =>
    rw [hblank] at hlast
    exact absurd (hnumber.isDigit_getLast? hlast) (by decide)
  | some c =>
    rw [hblank] at hlast
    cases hlast
    exact absurd (hgap 'm' (List.mem_of_getLast? hblank)) (by decide)

/-- What a text writes is read from it, or refused for its size alone: sixty-four bits have to
hold the number and the seconds. -/
theorem exists_parse_of_writes (h : Writes text.toList n unit) :
    ∃ error, parse text =
      if n < bound ∧ n * (unit.millis / 1000) < bound then .ok ⟨n * unit.millis⟩
      else .error error := by
  generalize htext : text.toList = cs at h
  cases h with
  | @alone before number after _ hbefore hnumber hafter =>
    have htrim : trim text.toList = number := by rw [htext, hnumber.trim_append hbefore hafter]
    have hcs : ∀ front unit, trim text.toList ≠ front ++ TimeUnit.suffix unit := by
      intro front unit hends
      obtain ⟨last, hlast, -, hletter⟩ := unit.exists_getLast?_suffix
      have hdigit : number.getLast? = some last := by
        rw [← htrim, hends, List.getLast?_append, hlast]
        rfl
      cases hletter.symm.trans (hnumber.isDigit_getLast? hdigit)
    rw [parse_of_no_suffix hcs, htrim]
    refine ⟨_, ofNumber_of_writes ?_ _ _⟩
    rwa [Text.trim_of_no_blanks hnumber.isBlank.2]
  | @measured before number gap after _ _ hbefore hnumber hgap hafter =>
    have htrim : trim text.toList = number ++ gap ++ unit.suffix := by
      rw [htext, trim_measured hbefore hnumber hafter]
    have hnil : AllBlank [] := by simp [AllBlank]
    have hgapped : trim (number ++ gap) = number := hnumber.trim_append hnil hgap
    rw [parse_of_suffix htrim fun _ => getLast?_number_ne hnumber hgap]
    refine ⟨_, ofNumber_of_writes ?_ _ _⟩
    rwa [hgapped]

theorem parse_of_writes (h : Writes text.toList n unit) (hn : n < bound)
    (hseconds : n * (unit.millis / 1000) < bound) : parse text = .ok ⟨n * unit.millis⟩ := by
  obtain ⟨error, hread⟩ := exists_parse_of_writes h
  rw [hread, if_pos ⟨hn, hseconds⟩]

/-- A text is read as the number of a unit that it writes, if sixty-four bits hold the number and
the seconds. -/
theorem parse_eq_ok_iff :
    parse text = .ok duration ↔
      ∃ n unit, Writes text.toList n unit ∧ n < bound ∧ n * (unit.millis / 1000) < bound ∧
        duration = ⟨n * unit.millis⟩ := by
  refine ⟨writes_of_parse, ?_⟩
  rintro ⟨n, unit, hwrites, hn, hseconds, rfl⟩
  exact parse_of_writes hwrites hn hseconds

/-- Minutes or hours of more seconds than sixty-four bits hold. -/
def Overflows (cs : List Char) : Prop :=
  ∃ n unit, Writes cs n unit ∧ n < bound ∧ bound ≤ n * (unit.millis / 1000)

theorem not_overflows_of_parse (h : parse text = .ok duration) : ¬ Overflows text.toList := by
  rintro ⟨n, unit, hwrites, -, hseconds⟩
  obtain ⟨error, hread⟩ := exists_parse_of_writes hwrites
  rw [hread, if_neg fun hbounds => absurd hbounds.2 (Nat.not_lt.2 hseconds)] at h
  cases h

/-- Where nothing overflows, sixty-four bits have to hold the number alone. -/
theorem parse_eq_ok_iff_of_not_overflows (h : ¬ Overflows text.toList) :
    parse text = .ok duration ↔
      ∃ n unit, Writes text.toList n unit ∧ n < bound ∧ duration = ⟨n * unit.millis⟩ := by
  rw [parse_eq_ok_iff]
  constructor
  · rintro ⟨n, unit, hwrites, hn, -, hduration⟩
    exact ⟨n, unit, hwrites, hn, hduration⟩
  · rintro ⟨n, unit, hwrites, hn, hduration⟩
    refine ⟨n, unit, hwrites, hn, ?_, hduration⟩
    exact Nat.lt_of_not_le fun hseconds => h ⟨n, unit, hwrites, hn, hseconds⟩

theorem ofNumber_eq_error {error told : ParseError} {millis : Nat}
    (h : ofNumber error millis cs = .error told) : told = error := by
  unfold ofNumber at h
  split at h
  · split at h
    · cases h
    · exact (Except.error.inj h).symm
  · exact (Except.error.inj h).symm

/-- A text that ends in `ms` is read as milliseconds or refused for them, whatever stands before. -/
theorem parse_of_milliseconds {body after : List Char} (hafter : AllBlank after)
    (htext : text.toList = body ++ TimeUnit.milliseconds.suffix ++ after) :
    (∀ duration, parse text = .ok duration ↔
      Text.Decimal.Writes (trim body) duration.millis ∧ duration.millis < bound) ∧
    ∀ error, parse text = .error error → error = .milliseconds := by
  obtain ⟨front, core, hfront, hcore, hstart⟩ : ∃ front core,
      AllBlank front ∧ body = front ++ core ∧
        ∀ c, core.head? = some c → Text.isBlank c = false := by
    refine ⟨body.takeWhile Text.isBlank, body.dropWhile Text.isBlank,
      List.all_eq_true.1 List.all_takeWhile, List.takeWhile_append_dropWhile.symm, fun c hc => ?_⟩
    have hhead := List.head?_dropWhile_not Text.isBlank body
    rwa [hc] at hhead
  have htrim : trim text.toList = core ++ TimeUnit.milliseconds.suffix := by
    rw [htext, hcore, List.append_assoc front]
    refine Text.trim_append_blanks hfront hafter (by simp [TimeUnit.suffix]) ?_ ?_
    · intro c hc
      cases core with
      | nil =>
        cases hc
        decide
      | cons first others => exact hstart c hc
    · intro c hc
      rw [List.getLast?_append] at hc
      cases hc
      decide
  rw [parse_of_suffix htrim nofun, hcore, Text.trim_append_of_allBlank hfront]
  refine ⟨fun duration => ofNumber_eq_ok_iff.trans ?_, fun error => ofNumber_eq_error⟩
  constructor
  · rintro ⟨n, hwrites, hn, -, rfl⟩
    simpa [TimeUnit.millis] using ⟨hwrites, hn⟩
  · rintro ⟨hwrites, hn⟩
    exact ⟨duration.millis, hwrites, hn, by simp [TimeUnit.millis, bound],
      by simp [TimeUnit.millis]⟩

/-! ### What a duration is written as -/

/-- Sixty-four bits hold the milliseconds or, of whole seconds, the seconds. -/
def InRange (duration : Duration) : Prop :=
  duration.millis < bound ∨ duration.millis % 1000 = 0 ∧ duration.millis / 1000 < bound

/-- Milliseconds are read below the bound, and longer units as whole seconds below it. -/
theorem inRange_of_parse (h : parse text = .ok duration) : duration.InRange := by
  obtain ⟨n, unit, -, hn, hseconds, rfl⟩ := parse_eq_ok_iff.1 h
  rcases unit.millis_eq_one_or with hone | hwhole
  · refine .inl ?_
    show n * unit.millis < bound
    rwa [hone, Nat.mul_one]
  · refine .inr ⟨Nat.mod_eq_zero_of_dvd (Nat.dvd_mul_left_of_dvd hwhole n), ?_⟩
    show n * unit.millis / 1000 < bound
    rwa [Nat.mul_div_assoc n hwhole]

theorem toList_text (duration : Duration) : duration.text.toList = duration.print :=
  String.toList_ofList

/-- A duration writes itself, in whole seconds where it can. -/
theorem writes_print (duration : Duration) :
    Writes duration.print
      (if duration.millis % 1000 = 0 then duration.millis / 1000 else duration.millis)
      (if duration.millis % 1000 = 0 then .seconds else .milliseconds) := by
  have hunit (n : Nat) (unit : TimeUnit) :
      Writes (Text.Decimal.print n ++ unit.suffix) n unit := by
    have hnil : AllBlank [] := by simp [AllBlank]
    simpa using Writes.measured hnil (Text.Decimal.writes_print n) hnil hnil
  unfold print
  split
  · exact hunit _ .seconds
  · exact hunit _ .milliseconds

/-- Exactly the durations that sixty-four bits hold are read back. -/
theorem parse_text_eq_ok_iff : parse duration.text = .ok duration ↔ duration.InRange := by
  refine ⟨inRange_of_parse, fun h => ?_⟩
  have hwrites := writes_print duration
  rw [← toList_text] at hwrites
  unfold InRange at h
  split at hwrites
  · rename_i hwhole
    have hread := parse_of_writes hwrites (by omega) (by simp only [TimeUnit.millis]; omega)
    rwa [show TimeUnit.seconds.millis = 1000 from rfl, Nat.div_mul_cancel (by omega)] at hread
  · rename_i hpart
    have hread := parse_of_writes hwrites (by omega) (by simp [TimeUnit.millis, bound])
    rwa [show TimeUnit.milliseconds.millis = 1 from rfl, Nat.mul_one] at hread

end Duration

end HandleChallenge
