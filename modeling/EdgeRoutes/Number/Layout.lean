import EdgeRoutes.Number.Numeral
import EdgeRoutes.Number.Shortest

namespace EdgeRoutes

structure Layout where
  /-- The least decimal exponent written in positional form. -/
  lowest : Int
  /-- The least decimal exponent past those written in positional form. -/
  highest : Int
  /-- A whole number in positional form ends in a point and a zero. -/
  marksWhole : Bool
  tie : Tie
deriving Repr

namespace Decimal

def magnitude (d : Decimal) : Int := d.exponent + (Numeral.digits d.coefficient).length - 1

def zeros (n : Int) : List Char := List.replicate n.toNat '0'

def positional (marksWhole : Bool) (d : Decimal) : List Char :=
  let ds := Numeral.digits d.coefficient
  if d.magnitude < 0 then '0' :: '.' :: zeros (-d.magnitude - 1) ++ ds
  else if 0 ≤ d.exponent then
    ds ++ zeros d.exponent ++ (if marksWhole then ['.', '0'] else [])
  else
    let whole := (d.magnitude + 1).toNat
    ds.take whole ++ '.' :: ds.drop whole

/-- One digit before the point, and the exponent with its sign and at least two digits. -/
def scientific (d : Decimal) : List Char :=
  let ds := Numeral.digits d.coefficient
  let fraction := if ds.length ≤ 1 then [] else '.' :: ds.drop 1
  let sign := if d.magnitude < 0 then '-' else '+'
  ds.take 1 ++ fraction ++ 'e' :: sign :: Numeral.atLeast 2 d.magnitude.natAbs

end Decimal

def Layout.write (l : Layout) (d : Decimal) : List Char :=
  if l.lowest ≤ d.magnitude ∧ d.magnitude < l.highest then d.positional l.marksWhole
  else d.scientific

def Layout.magnitude (l : Layout) (units : Nat) : List Char :=
  l.write (Binary64.shortest l.tie units)

end EdgeRoutes
