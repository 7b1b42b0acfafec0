import HandleChallenge.Header.Params

/-!
# Parameters from the header and from the request

A request may carry the known parameters outside its header too, for instance in its query. The
header's values win, of two request values the first, and a parameter without a value is a flag.
-/

namespace HandleChallenge.Header

/-- The value of a flag. -/
def flagValue : String := "true"

/-- The parameters with a request's known parameter added, unless it has a value. -/
def Params.addFromRequest (params : Params) (entry : String × String) : Params :=
  if (Known.ofName? entry.1).isSome && !params.contains entry.1 then
    params.insert entry.1 entry.2
  else params

/-- The parameters of a header, if any, and of a request together. -/
def merge (header : Option Params) (request : List (String × String)) : Params :=
  (request.foldl Params.addFromRequest (header.getD Params.empty)).mapValues fun value =>
    if value = "" then flagValue else value

end HandleChallenge.Header
