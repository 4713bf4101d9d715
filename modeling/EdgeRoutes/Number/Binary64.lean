/-!
Finite values of IEEE 754 binary64, with magnitudes as exact natural numbers. Every magnitude is a
whole number of units of `2 ^ -1074`, so it is given by that number, and an operation is its exact
rational result followed by one rounding.
-/

namespace EdgeRoutes

structure Binary64 where
  negative : Bool
  units : Nat
deriving DecidableEq, Repr

namespace Binary64

/-- Equality of the numbers: the two zeros are equal. -/
instance : BEq Binary64 where
  beq x y := x.units == y.units && (x.negative == y.negative || x.units == 0)

/-- The number of units in one. -/
def one : Nat := Nat.pow 2 1074

/-- The distance between neighbouring magnitudes at `units`: 53 significant bits. -/
def spacing (units : Nat) : Nat := Nat.pow 2 (units.log2 - 52)

def roundHalfEven (num den : Nat) : Nat :=
  let whole := num / den
  let twice := 2 * (num % den)
  if twice < den then whole
  else if den < twice then whole + 1
  else if whole % 2 = 0 then whole else whole + 1

/-- The magnitude nearest to `num / den` units; a half goes to the even significand. -/
def round (num den : Nat) : Nat :=
  let step := spacing (num / den)
  roundHalfEven num (den * step) * step

def ofRatio (num den : Nat) : Nat := round (num * one) den

def ofNat (n : Nat) : Nat := ofRatio n 1

def add (x y : Nat) : Nat := round (x + y) 1

def mul (x y : Nat) : Nat := round (x * y) one

/-- Exponents are cut where no magnitude changes any more. -/
def ofDecimal (digits : Nat) (exponent : Int) : Nat :=
  let e := max (-100000) (min exponent 100000)
  if 0 ≤ e then ofRatio (digits * Nat.pow 10 e.toNat) 1 else ofRatio digits (Nat.pow 10 (-e).toNat)

def infinity : Nat := Nat.pow 2 1024 * one

end Binary64

end EdgeRoutes
