import EdgeRoutes.Number.Layout

namespace EdgeRoutes

/-- A duration of `seconds` and `nanos`, with a sign of its own, so that zero has two forms. -/
structure Duration where
  negative : Bool
  seconds : Nat
  nanos : Nat
  seconds_lt : seconds < 0x10000000000000000
  nanos_lt : nanos < 1000000000
deriving DecidableEq

namespace Duration

instance : Inhabited Duration := ⟨⟨false, 0, 0, by decide, by decide⟩⟩

def ofNanos? (negative : Bool) (total : Nat) : Option Duration :=
  if h : total / 1000000000 < 0x10000000000000000 then
    some ⟨negative, total / 1000000000, total % 1000000000, h, Nat.mod_lt _ (by decide)⟩
  else none

def totalNanos (d : Duration) : Nat := d.seconds * 1000000000 + d.nanos

def ofSeconds (seconds : Nat) (h : seconds < 0x10000000000000000) : Duration :=
  ⟨false, seconds, 0, h, by decide⟩

/-- The duration in seconds as a binary64 magnitude: the whole seconds and the fraction are rounded
each, then their sum. -/
def asSeconds (d : Duration) : Nat :=
  Binary64.add (Binary64.ofNat d.seconds) (Binary64.ofRatio d.nanos 1000000000)

/-- Seconds are written in positional form from `0.0001` up to 21 digits before the point, and in
exponent form outside. -/
def secondsLayout : Layout := { lowest := -4, highest := 21, marksWhole := false, tie := .up }

/-- The value of a timeout annotation: the seconds, then `s`. -/
def annotation (d : Duration) : String :=
  String.ofList ((if d.negative then ['-'] else []) ++ secondsLayout.magnitude d.asSeconds ++ ['s'])

end Duration

end EdgeRoutes
