import EdgeRoutes.Number.Numeral

/-!
Points in time, counted in days and seconds from the start of 1970, and their text
`2024-02-29T12:30:45Z`, which leaves out the fraction of a second.
-/

namespace EdgeRoutes

/-- A point in time. In a leap second `nanos` is a billion or more. -/
structure Timestamp where
  day : Int
  second : Nat
  nanos : Nat
  second_lt : second < 86400
  nanos_lt : nanos < 2000000000
deriving DecidableEq

structure Date where
  year : Int
  month : Nat
  day : Nat
deriving DecidableEq, Repr

namespace Date

def isLeap (year : Int) : Bool := year % 4 = 0 && (year % 100 != 0 || year % 400 = 0)

def daysInMonth (year : Int) (month : Nat) : Nat :=
  match month with
  | 2 => if isLeap year then 29 else 28
  | 4 | 6 | 9 | 11 => 30
  | _ => 31

/-- The days from the start of 1970. Years are counted from March here, so that the leap day is the
last of its year, and in eras of 400 years, which all have 146097 days. -/
def toDays (d : Date) : Int :=
  let year := if d.month ≤ 2 then d.year - 1 else d.year
  let era := year / 400
  let yearOfEra := year % 400
  let month : Int := ((d.month + 9) % 12 : Nat)
  let dayOfYear := (153 * month + 2) / 5 + d.day - 1
  let dayOfEra := yearOfEra * 365 + yearOfEra / 4 - yearOfEra / 100 + dayOfYear
  era * 146097 + dayOfEra - 719468

def ofDays (days : Int) : Date :=
  let shifted := days + 719468
  let era := shifted / 146097
  let dayOfEra := shifted % 146097
  let yearOfEra := (dayOfEra - dayOfEra / 1460 + dayOfEra / 36524 - dayOfEra / 146096) / 365
  let dayOfYear := dayOfEra - (365 * yearOfEra + yearOfEra / 4 - yearOfEra / 100)
  let month := (5 * dayOfYear + 2) / 153
  let day := dayOfYear - (153 * month + 2) / 5 + 1
  let monthOfYear := if month < 10 then month + 3 else month - 9
  let year := yearOfEra + era * 400
  ⟨if monthOfYear ≤ 2 then year + 1 else year, monthOfYear.toNat, day.toNat⟩

end Date

namespace Timestamp

/-- Four digits, with a sign outside of the years 0 to 9999. -/
def yearText (year : Int) : List Char :=
  (if year < 0 then ['-'] else if 9999 < year then ['+'] else []) ++ Numeral.atLeast 4 year.natAbs

def text (t : Timestamp) : String :=
  let date := Date.ofDays t.day
  let second := t.second % 60 + t.nanos / 1000000000
  String.ofList <| yearText date.year ++ '-' :: Numeral.padded 2 date.month
    ++ '-' :: Numeral.padded 2 date.day ++ 'T' :: Numeral.padded 2 (t.second / 3600)
    ++ ':' :: Numeral.padded 2 (t.second / 60 % 60) ++ ':' :: Numeral.padded 2 second ++ ['Z']

end Timestamp

end EdgeRoutes
