import EdgeRoutes.Number.Layout

/-!
JSON values. The fields of an object stand in the order in which they are written.
-/

namespace EdgeRoutes

inductive Json where
  | null
  | bool (b : Bool)
  | int (n : Int)
  | float (x : Binary64)
  | text (s : String)
  | array (items : List Json)
  | object (fields : List (String × Json))
deriving BEq, Repr, Inhabited

namespace Json

def field? (name : String) : Json → Option Json
  | .object fields => fields.lookup name
  | _ => none

/-- How a binary64 number is written: whole numbers with a point and a zero, and in exponent form
from 17 digits before the point and from five zeros after it. -/
def floatLayout : Layout := { lowest := -5, highest := 16, marksWhole := true, tie := .even }

def floatText (x : Binary64) : String :=
  String.ofList ((if x.negative then ['-'] else []) ++ floatLayout.magnitude x.units)

end Json

end EdgeRoutes
