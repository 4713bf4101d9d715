import EdgeRoutes.Json.Basic
import EdgeRoutes.Text.Segments

/-!
Pointers into a value: the names and positions on the way to a part, each after a slash, in which
`~1` stands for a slash and `~0` for a tilde.
-/

namespace EdgeRoutes.Json

def unescape : List Char → List Char
  | '~' :: '1' :: cs => '/' :: unescape cs
  | '~' :: '0' :: cs => '~' :: unescape cs
  | c :: cs => c :: unescape cs
  | [] => []

/-- The position that a step names, written without leading zeros. -/
def position? (step : List Char) : Option Nat :=
  if step.isEmpty ∨ step.any (!·.isDigit) ∨ (step.head? = some '0' ∧ 1 < step.length) then none
  else some (Numeral.value step)

def step? (j : Json) (step : List Char) : Option Json :=
  match j with
  | .object fields => fields.lookup (String.ofList (unescape step))
  | .array items => (position? step).bind (items[·]?)
  | _ => none

def pointer? (j : Json) (pointer : String) : Option Json :=
  match Text.segments '/' pointer.toList with
  | [] :: steps => steps.foldlM step? j
  | _ => none

end EdgeRoutes.Json
