import EdgeRoutes.Number.Binary64

/-!
The shortest decimal that reads back as a given binary64 magnitude. Grids of decimal step are tried
from coarse to fine; the first with a point in the rounding interval of the magnitude gives the
digits, and of two such points the nearer is taken.
-/

namespace EdgeRoutes

structure Decimal where
  coefficient : Nat
  exponent : Int
deriving DecidableEq, Repr

inductive Tie where
  | up
  | even
deriving DecidableEq, Repr

namespace Binary64

/-- Grid `p` has the step `10 ^ (p - gridOffset)`. -/
def gridOffset : Nat := 400

/-- Grids from this one on are coarser than every finite magnitude. -/
def gridCount : Nat := gridOffset + 310

/-- The step of grid `p`, where a unit counts `10 ^ gridOffset`. -/
def gridStep (p : Nat) : Nat := one * Nat.pow 10 p

/-- The lower end of the rounding interval, in quarters of a unit. The gap below a power of two is
half as wide as the gap above it. -/
def lowerQuarters (units : Nat) : Nat :=
  let step := spacing units
  if 1 < step ∧ units = 0x10000000000000 * step then 4 * units - step else 4 * units - 2 * step

def upperQuarters (units : Nat) : Nat := 4 * units + 2 * spacing units

/-- Point `c` of grid `p` rounds to `units`. Even significands have the ends of their interval. -/
def reads (units p c : Nat) : Bool :=
  let point := 4 * c * gridStep p
  let lower := lowerQuarters units * Nat.pow 10 gridOffset
  let upper := upperQuarters units * Nat.pow 10 gridOffset
  if units / spacing units % 2 = 0 then lower ≤ point && point ≤ upper
  else lower < point && point < upper

/-- A neighbour that reads back, the nearer if both do. -/
def gridPoint (tie : Tie) (units p : Nat) : Option Nat :=
  let scaled := units * Nat.pow 10 gridOffset
  let below := scaled / gridStep p
  let twice := 2 * (scaled % gridStep p)
  match reads units p below, reads units p (below + 1) with
  | true, true =>
    if twice < gridStep p then some below
    else if gridStep p < twice then some (below + 1)
    else match tie with
      | .up => some (below + 1)
      | .even => some (if below % 2 = 0 then below else below + 1)
  | true, false => some below
  | false, true => some (below + 1)
  | false, false => none

/-- The point on the coarsest of the grids below `p` that has one. -/
def coarsest (tie : Tie) (units : Nat) : Nat → Decimal
  | 0 => ⟨0, 0⟩
  | p + 1 => match gridPoint tie units p with
    | some c => ⟨c, (p : Int) - gridOffset⟩
    | none => coarsest tie units p

def shortest (tie : Tie) (units : Nat) : Decimal :=
  if units = 0 then ⟨0, 0⟩ else coarsest tie units gridCount

end EdgeRoutes.Binary64
