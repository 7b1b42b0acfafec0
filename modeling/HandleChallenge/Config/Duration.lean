import HandleChallenge.Text.Blank
import HandleChallenge.Text.Decimal

/-!
# Durations

A duration is written as a number and a unit (`ms`, `s`, `m` or `h`), or a number of seconds
alone; blanks may stand around the number. It is written back in seconds, or in milliseconds
where it is not a whole number of seconds.
-/

namespace HandleChallenge

/-- A span of time. -/
structure Duration where
  millis : Nat
  deriving DecidableEq

namespace Duration

def ofSeconds (seconds : Nat) : Duration := ⟨seconds * 1000⟩

/-- Why a text is no duration: the number of the given unit is not one. -/
inductive ParseError where
  | milliseconds
  | seconds
  | minutes
  | hours
  | noUnit
  deriving DecidableEq

/-- The wording of a parse error. -/
def ParseError.message : ParseError → String
  | milliseconds => "invalid milliseconds"
  | seconds => "invalid seconds"
  | minutes => "invalid minutes"
  | hours => "invalid hours"
  | noUnit => "invalid duration"

/-- The bound of the numbers in durations: milliseconds and seconds have sixty-four bits. -/
def bound : Nat := UInt64.size

/-- The number of a unit that is `millis` milliseconds long. Units longer than a second may not
exceed the largest number of seconds: minutes and hours that overflow it are refused here, where a
product of machine words panics or wraps around. -/
def ofNumber (error : ParseError) (millis : Nat) (cs : List Char) : Except ParseError Duration :=
  match Text.Decimal.parse? bound (Text.trim cs) with
  | some n => if n * (millis / 1000) < bound then .ok ⟨n * millis⟩ else .error error
  | none => .error error

/-- The duration that a text writes. The unit `ms` is looked for before `s` and `m`. -/
def parse (text : String) : Except ParseError Duration :=
  let cs := Text.trim text.toList
  match cs.reverse with
  | 's' :: 'm' :: number => ofNumber .milliseconds 1 number.reverse
  | 's' :: number => ofNumber .seconds 1000 number.reverse
  | 'm' :: number => ofNumber .minutes 60000 number.reverse
  | 'h' :: number => ofNumber .hours 3600000 number.reverse
  | _ => ofNumber .noUnit 1000 cs

/-- The characters of a duration. -/
def print (duration : Duration) : List Char :=
  if duration.millis % 1000 = 0 then Text.Decimal.print (duration.millis / 1000) ++ ['s']
  else Text.Decimal.print duration.millis ++ ['m', 's']

/-- The text of a duration. -/
def text (duration : Duration) : String := String.ofList duration.print

end Duration

end HandleChallenge
