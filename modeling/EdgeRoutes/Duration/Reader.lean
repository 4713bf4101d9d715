import EdgeRoutes.Duration.Basic
import EdgeRoutes.Text.Alphabetic

/-!
Reading durations such as `1h2m3.5s`: a sign, then components of a number and a unit. Each component
is computed in binary64 seconds and rounded to nanoseconds; a component below zero and a sum out of
range have no duration.
-/

namespace EdgeRoutes.Duration

inductive Malformed where
  | noUnit
  | unknownUnit
  | emptyNumber
  | badNumber
deriving DecidableEq, Repr

def Malformed.message : Malformed → String
  | .noUnit => "missing a unit: expected one of 'ns', 'us', 'µs', 'ms', 's', 'm', or 'h'"
  | .unknownUnit => "invalid unit: expected one of 'ns', 'us', 'µs', 'ms', 's', 'm', or 'h'"
  | .emptyNumber => "invalid floating-point number: cannot parse float from empty string"
  | .badNumber => "invalid floating-point number: invalid float literal"

/-- Why reading a text gives no duration: the text is malformed, or it denotes a duration that
cannot be represented, on which reading stops altogether. -/
inductive Unreadable where
  | malformed (reason : Malformed)
  | outOfRange
deriving DecidableEq, Repr

def unitNanos? (unit : List Char) : Option Nat :=
  if unit = ['n', 's'] then some 1
  else if unit = ['u', 's'] ∨ unit = ['µ', 's'] ∨ unit = ['μ', 's'] then some 1000
  else if unit = ['m', 's'] then some 1000000
  else if unit = ['s'] then some 1000000000
  else if unit = ['m'] then some 60000000000
  else if unit = ['h'] then some 3600000000000
  else none

/-- A literal without exponent: at most one point, and at least one digit. -/
def magnitude? (cs : List Char) : Option Nat :=
  let whole := cs.takeWhile Char.isDigit
  match cs.dropWhile Char.isDigit with
  | [] => if whole.isEmpty then none else some (Binary64.ofRatio (Numeral.value whole) 1)
  | '.' :: fraction =>
    if fraction.all Char.isDigit && !(whole.isEmpty && fraction.isEmpty) then
      some (Binary64.ofRatio (Numeral.value (whole ++ fraction)) (Nat.pow 10 fraction.length))
    else none
  | _ :: _ => none

def factor? : List Char → Except Malformed Binary64
  | [] => .error .emptyNumber
  | '-' :: cs => (magnitude? cs).elim (.error .badNumber) fun u => .ok ⟨true, u⟩
  | '+' :: cs => (magnitude? cs).elim (.error .badNumber) fun u => .ok ⟨false, u⟩
  | cs => (magnitude? cs).elim (.error .badNumber) fun u => .ok ⟨false, u⟩

/-- The nanoseconds of `factor` times a unit, if that is no negative amount. -/
def componentNanos? (factor : Binary64) (unitNanos : Nat) : Option Nat :=
  let unit := Binary64.add (Binary64.ofNat (unitNanos / 1000000000))
    (Binary64.ofRatio (unitNanos % 1000000000) 1000000000)
  let seconds := Binary64.mul factor.units unit
  if factor.negative && seconds != 0 then none
  else some (Binary64.roundHalfEven (seconds * 1000000000) Binary64.one)

structure Component where
  number : List Char
  unit : List Char
  rest : List Char

/-- A number ends at the first alphabetic character, and the unit is the run of these. -/
def Component.read (cs : List Char) : Component :=
  let number := cs.takeWhile (!Text.isAlphabetic ·)
  let tail := cs.dropWhile (!Text.isAlphabetic ·)
  ⟨number, tail.takeWhile Text.isAlphabetic, tail.dropWhile Text.isAlphabetic⟩

theorem Component.length_rest_lt {cs : List Char} (h : (Component.read cs).unit ≠ []) :
    (Component.read cs).rest.length < cs.length := by
  have hsplit := congrArg List.length
    (List.takeWhile_append_dropWhile (p := Text.isAlphabetic)
      (l := cs.dropWhile (!Text.isAlphabetic ·)))
  have hle := (List.dropWhile_sublist (!Text.isAlphabetic ·) (l := cs)).length_le
  have hpos := List.length_pos_iff.2 h
  simp only [List.length_append] at hsplit
  simp only [Component.read] at hpos ⊢
  omega

/-- The sum of the components in `cs`, added to `total` nanoseconds. The text `0` needs no unit. -/
def sumNanos (total : Nat) (cs : List Char) : Except Unreadable Nat :=
  if cs = [] ∨ cs = ['0'] then .ok total
  else
    let c := Component.read cs
    if c.unit = [] then .error (.malformed .noUnit)
    else match factor? c.number with
      | .error e => .error (.malformed e)
      | .ok factor => match unitNanos? c.unit with
        | none => .error (.malformed .unknownUnit)
        | some unit => match componentNanos? factor unit with
          | none => .error .outOfRange
          | some n =>
            if (total + n) / 1000000000 < 0x10000000000000000 then sumNanos (total + n) c.rest
            else .error .outOfRange
termination_by cs.length
decreasing_by exact Component.length_rest_lt ‹_›

/-- The duration that a text denotes. A leading `-` makes it negative; further signs in front, all
plus signs before all minus signs, change nothing. -/
def ofText (s : String) : Except Unreadable Duration :=
  let cs := s.toList
  let body := (cs.dropWhile (· = '+')).dropWhile (· = '-')
  match sumNanos 0 body with
  | .error e => .error e
  | .ok total => match ofNanos? (cs.head? = some '-') total with
    | some d => .ok d
    | none => .error .outOfRange

end EdgeRoutes.Duration
