/-!
# JSON documents

A document as far as settings and records need it: natural numbers are kept, other numbers only
noted; the members of an object are kept in order and with their repetitions, so that a reader
can refuse a member given twice.
-/

namespace HandleChallenge

/-- A JSON document. -/
inductive Json where
  | null
  | bool (value : Bool)
  | natural (value : Nat)
  /-- A number that is not written as a natural number. -/
  | otherNumber
  | string (text : String)
  /-- A string with a surrogate that lacks its partner, which stands for no text. -/
  | brokenString
  | array (items : List Json)
  /-- The members in order. A name may be broken as a string may. -/
  | object (members : List (Option String × Json))

namespace Json

def bool? : Json → Option Bool
  | bool value => some value
  | _ => none

/-- A natural number below a bound. -/
def naturalBelow? (bound : Nat) : Json → Option Nat
  | natural value => if value < bound then some value else none
  | _ => none

def string? : Json → Option String
  | string text => some text
  | _ => none

/-- The items of an array, each read. -/
def arrayOf? {α : Type} (read? : Json → Option α) : Json → Option (List α)
  | array items => items.mapM read?
  | _ => none

/-- The members of an object of which no name is broken. -/
def object? : Json → Option (List (String × Json))
  | object members => members.mapM fun (name, value) => name.map (·, value)
  | _ => none

/-- The fields of a record: the members of an object, or the items of an array, which are the first
of the fields in order. -/
def record? (names : List String) : Json → Option (List (String × Json))
  | array items => if items.length ≤ names.length then some (names.zip items) else none
  | json => json.object?

/-- The members with a name. -/
def named (name : String) (members : List (String × Json)) : List Json :=
  (members.filter (·.1 == name)).map Prod.snd

/-- The member with a name, which has to come exactly once. -/
def required? {α : Type} (members : List (String × Json)) (name : String)
    (read? : Json → Option α) : Option α :=
  match named name members with
  | [value] => read? value
  | _ => none

/-- The member with a name, or a default where there is none. -/
def withDefault? {α : Type} (members : List (String × Json)) (name : String)
    (read? : Json → Option α) (default : α) : Option α :=
  match named name members with
  | [] => some default
  | [value] => read? value
  | _ => none

end Json

end HandleChallenge
