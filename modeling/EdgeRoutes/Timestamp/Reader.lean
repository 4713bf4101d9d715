import EdgeRoutes.Text.Blank
import EdgeRoutes.Timestamp.Basic

/-!
Reading points in time such as `2024-03-01T00:00:00.5+05:30`. Blanks are allowed around the parts,
and a blank may stand for the `T`. Each reader gives the part it read and the characters after it.
-/

namespace EdgeRoutes.Timestamp

inductive Malformed where
  | outOfRange
  | impossible
  | invalid
  | tooShort
  | tooLong
deriving DecidableEq, Repr

def Malformed.message : Malformed → String
  | .outOfRange => "input is out of range"
  | .impossible => "no possible date and time matching input"
  | .invalid => "input contains invalid characters"
  | .tooShort => "premature end of input"
  | .tooLong => "trailing input"

def number (most : Nat) (cs : List Char) : Except Malformed (Nat × List Char) :=
  let ds := (cs.take most).takeWhile Char.isDigit
  if ds.isEmpty then .error (if cs.isEmpty then .tooShort else .invalid)
  else .ok (Numeral.value ds, cs.drop ds.length)

/-- A number of one or two digits between two bounds, after blanks. -/
def twoDigits (least most : Nat) (cs : List Char) : Except Malformed (Nat × List Char) := do
  let (n, cs) ← number 2 (Text.dropBlank cs)
  if least ≤ n ∧ n ≤ most then .ok (n, cs) else .error .outOfRange

def mark (c : Char) (cs : List Char) : Except Malformed (List Char) :=
  match Text.dropBlank cs with
  | [] => .error .tooShort
  | d :: cs => if d = c then .ok cs else .error .invalid

/-- A year: up to four digits, or any number of them after a sign. -/
def year (cs : List Char) : Except Malformed (Int × List Char) := do
  let (y, cs) ← match Text.dropBlank cs with
    | '-' :: cs => do
      let (n, cs) ← number cs.length.succ cs
      pure (-(n : Int), cs)
    | '+' :: cs => do
      let (n, cs) ← number cs.length.succ cs
      pure ((n : Int), cs)
    | cs => do
      let (n, cs) ← number 4 cs
      pure ((n : Int), cs)
  if -0x80000000 ≤ y ∧ y ≤ 0x7fffffff then .ok (y, cs) else .error .outOfRange

def date (cs : List Char) : Except Malformed (Date × List Char) := do
  let (y, cs) ← year cs
  let cs ← mark '-' cs
  let (m, cs) ← twoDigits 1 12 cs
  let cs ← mark '-' cs
  let (d, cs) ← twoDigits 1 31 cs
  .ok (⟨y, m, d⟩, cs)

/-- The nanoseconds of a fraction, which may be absent; digits past the ninth are passed over. -/
def fraction : List Char → Except Malformed (Nat × List Char)
  | '.' :: cs => do
    let (n, rest) ← number 9 cs
    .ok (n * Nat.pow 10 (9 - (cs.length - rest.length)), rest.dropWhile Char.isDigit)
  | cs => .ok (0, cs)

def timeOfDay (cs : List Char) : Except Malformed ((Nat × Nat) × List Char) := do
  let (h, cs) ← twoDigits 0 23 cs
  let cs ← mark ':' cs
  let (m, cs) ← twoDigits 0 59 cs
  let cs ← mark ':' cs
  let (s, cs) ← twoDigits 0 60 cs
  let (nanos, cs) ← fraction cs
  if s = 60 then .ok ((3600 * h + 60 * m + 59, 1000000000 + nanos), cs)
  else .ok ((3600 * h + 60 * m + s, nanos), cs)

/-- What is wrong with fewer than two characters in the place of two digits: one of several bytes
fills the place, but is no digit. -/
def unpaired : List Char → Malformed
  | [a] => if a.utf8Size = 1 then .tooShort else .invalid
  | _ => .tooShort

/-- The minutes that a sign and two pairs of digits put a place ahead of universal time. -/
def offset (cs : List Char) : Except Malformed (Int × List Char) := do
  let (sign, cs) ← match cs with
    | '+' :: cs => .ok ((1 : Int), cs)
    | '-' :: cs | '−' :: cs => .ok (-1, cs)
    | [] => .error .tooShort
    | _ => .error .invalid
  let (hours, cs) ← match cs with
    | a :: b :: cs =>
      if a.isDigit && b.isDigit then .ok (Numeral.value [a, b], cs) else .error .invalid
    | cs => .error (unpaired cs)
  match cs.dropWhile (fun c => c = ':' || Text.isBlank c) with
  | a :: b :: cs =>
    if !(a.isDigit && b.isDigit) then .error .invalid
    else if '6' ≤ a then .error .outOfRange
    else .ok (sign * (60 * hours + Numeral.value [a, b] : Nat), cs)
  | cs => .error (unpaired cs)

/-- The offset in minutes: `Z`, `UTC` in any case, or a sign and digits. -/
def zone (cs : List Char) : Except Malformed (Int × List Char) :=
  match Text.dropBlank cs with
  | 'Z' :: cs | 'z' :: cs => .ok (0, cs)
  | a :: b :: c :: cs =>
    if [a, b, c].map Char.toUpper = ['U', 'T', 'C'] then .ok (0, cs) else offset (a :: b :: c :: cs)
  | cs => offset cs

/-- The years that a point in time may fall into. -/
def hasYear (d : Date) : Bool := -262143 ≤ d.year && d.year ≤ 262142

def ofParts (d : Date) (second nanos : Nat) (minutes : Int) : Except Malformed Timestamp :=
  if !hasYear d || Date.daysInMonth d.year d.month < d.day then .error .outOfRange
  else if minutes ≤ -1440 ∨ 1440 ≤ minutes then .error .outOfRange
  else
    let utc := d.toDays * 86400 + second - minutes * 60
    if !hasYear (Date.ofDays (utc / 86400)) then .error .impossible
    else if hn : nanos < 2000000000 then
      .ok ⟨utc / 86400, (utc % 86400).toNat, nanos, by omega, hn⟩
    else .error .outOfRange

def ofText (s : String) : Except Malformed Timestamp := do
  let (d, cs) ← date s.toList
  let cs ← match cs with
    | 't' :: cs | 'T' :: cs | ' ' :: cs => .ok cs
    | [] => .error .tooShort
    | _ => .error .invalid
  let ((second, nanos), cs) ← timeOfDay cs
  let (minutes, cs) ← zone cs
  if (Text.dropBlank cs).isEmpty then ofParts d second nanos minutes else .error .tooLong

end EdgeRoutes.Timestamp
