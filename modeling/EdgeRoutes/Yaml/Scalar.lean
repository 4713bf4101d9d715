import EdgeRoutes.Number.Binary64
import EdgeRoutes.Number.Numeral
import EdgeRoutes.Yaml.Node

namespace EdgeRoutes.Yaml

def isNull (s : String) : Bool := ["null", "Null", "NULL", "~"].contains s

def bool? (s : String) : Option Bool :=
  if ["true", "True", "TRUE"].contains s then some true
  else if ["false", "False", "FALSE"].contains s then some false
  else none

/-- Digits that start with a zero are no number, except for the zero itself. -/
def isZeroPadded (cs : List Char) : Bool :=
  let digits := match cs with
    | '-' :: cs | '+' :: cs => cs
    | cs => cs
  1 < digits.length && digits.head? == some '0' && digits.all Char.isDigit

def magnitude? : List Char → Option Nat
  | '0' :: 'x' :: cs => Numeral.valueIn? 16 cs
  | '0' :: 'o' :: cs => Numeral.valueIn? 8 cs
  | '0' :: 'b' :: cs => Numeral.valueIn? 2 cs
  | cs => Numeral.valueIn? 10 cs

/-- The integer that a plain scalar denotes. It has at most 128 bits. -/
def int? (s : String) : Option Int :=
  let cs := s.toList
  if isZeroPadded cs then none
  else
    let n := match cs with
      | '+' :: cs => (magnitude? cs).map fun n => (n : Int)
      | '-' :: cs => (magnitude? cs).map fun n => -(n : Int)
      | cs => (magnitude? cs).map fun n => (n : Int)
    n.filter fun n =>
      -0x80000000000000000000000000000000 ≤ n ∧ n ≤ 0xffffffffffffffffffffffffffffffff

/-- The magnitude of a decimal literal: digits with at most one point and an optional exponent. -/
def decimal? (cs : List Char) : Option Nat :=
  let whole := cs.takeWhile Char.isDigit
  let (fraction, cs) := match cs.dropWhile Char.isDigit with
    | '.' :: cs => (cs.takeWhile Char.isDigit, cs.dropWhile Char.isDigit)
    | cs => ([], cs)
  if whole.isEmpty && fraction.isEmpty then none
  else
    let exponent : Option Int := match cs with
      | [] => some 0
      | 'e' :: cs | 'E' :: cs =>
        let (negative, ds) := match cs with
          | '-' :: cs => (true, cs)
          | '+' :: cs => (false, cs)
          | cs => (false, cs)
        if ds.isEmpty || !ds.all Char.isDigit then none
        else some (if negative then -(Numeral.value ds : Int) else (Numeral.value ds : Int))
      | _ => none
    exponent.map fun e =>
      Binary64.ofDecimal (Numeral.value (whole ++ fraction)) (e - fraction.length)

/-- A number with a point or an exponent, an infinity, or no number at all. -/
inductive Real where
  | finite (x : Binary64)
  | infinite
  | undefined
deriving DecidableEq, Repr

def real? (s : String) : Option Real :=
  if [".nan", ".NaN", ".NAN"].contains s then some .undefined
  else if [".inf", ".Inf", ".INF", "+.inf", "+.Inf", "+.INF",
      "-.inf", "-.Inf", "-.INF"].contains s then
    some .infinite
  else
    let (negative, cs) := match s.toList with
      | '-' :: cs => (true, cs)
      | '+' :: cs => (false, cs)
      | cs => (false, cs)
    (decimal? cs).bind fun units =>
      if units < Binary64.infinity then some (.finite ⟨negative, units⟩) else none

/-- A text that, as a plain scalar, would be read as something else where the reader looks for no
type in particular, or that only looks like a number. -/
def isAmbiguous (s : String) : Bool :=
  s = "" || isNull s || (bool? s).isSome || (int? s).isSome || isZeroPadded s.toList ||
    (real? s).isSome

end EdgeRoutes.Yaml
