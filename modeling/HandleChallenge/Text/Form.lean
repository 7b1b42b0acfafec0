import HandleChallenge.Text.Percent

/-!
# Form fields

The fields of a query string: pieces between `&`, each a name and a value around the first
`=`. Empty pieces are skipped, a piece without `=` has an empty value, a `+` is a space, and
percent escapes are undone.
-/

namespace HandleChallenge.Text.Form

/-- A name or value with its escapes undone. -/
def decode (cs : List Char) : String :=
  String.ofList (Percent.decodeText (cs.map fun c => if c = '+' then ' ' else c))

/-- The name and value of a piece. -/
def field (piece : List Char) : String × String :=
  (decode (piece.takeWhile (· != '=')), decode ((piece.dropWhile (· != '=')).drop 1))

/-- The fields of a query string, in order. -/
def fields (query : String) : List (String × String) :=
  ((query.toList.splitOn '&').filter (· ≠ [])).map field

end HandleChallenge.Text.Form
