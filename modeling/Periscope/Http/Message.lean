/-!
# HTTP messages

Requests and responses as values.
-/

namespace Periscope.Http

/-- A request. -/
structure Request where
  method : String
  /-- The path with the query behind it. -/
  target : String
  headers : List (String × String)
  body : String
  deriving DecidableEq

/-- A response. -/
structure Response where
  status : Nat
  headers : List (String × String)
  body : String
  deriving DecidableEq

/-- A small letter of the ASCII alphabet in the place of a capital one. -/
def lowerText (s : String) : String := String.ofList (s.toList.map Char.toLower)

namespace Request

/-- The first header of a name, in whatever letters it is written. -/
def header? (r : Request) (name : String) : Option String :=
  (r.headers.find? fun h => lowerText h.1 == name).map Prod.snd

/-- The path without query and fragment. -/
def path (r : Request) : String :=
  String.ofList (r.target.toList.takeWhile fun c => c != '?' && c != '#')

end Request

/-- Whether a status stands for success. -/
def Response.isSuccess (r : Response) : Bool := 200 ≤ r.status && r.status < 300

end Periscope.Http
