/-!
YAML documents as trees. Where the text of a document cannot be read any further, the tree ends in
broken nodes, so that what stands before can still be used in order.
-/

namespace EdgeRoutes.Yaml

inductive Style where
  | plain
  | singleQuoted
  | doubleQuoted
  | literal
  | folded
deriving DecidableEq, Repr

structure Scalar where
  text : String
  style : Style
  tag : Option String
deriving DecidableEq, Repr

inductive Node where
  | scalar (s : Scalar)
  | sequence (tag : Option String) (items : List Node)
  | mapping (tag : Option String) (entries : List (Node × Node))
  | alias (slot : Nat)
  /-- What an empty document holds. -/
  | nothing
  /-- The text cannot be read from here on. -/
  | broken
deriving Repr, Inhabited

/-- The nodes that aliases stand for, by slot. -/
abbrev Anchors := List (Nat × Node)

def Node.resolve (anchors : Anchors) : Node → Node
  | .alias slot => (anchors.lookup slot).getD .broken
  | node => node

structure Document where
  root : Node
  anchors : Anchors
  /-- Nothing but the end of the text follows. -/
  isWhole : Bool
deriving Repr

/-- Why a document does not give a value: it does not fit, or it holds a duration out of range, on
which reading stops. -/
inductive Failure where
  | unfit
  | outOfRange
deriving DecidableEq, Repr

end EdgeRoutes.Yaml
