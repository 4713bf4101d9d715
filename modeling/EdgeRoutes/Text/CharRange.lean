namespace EdgeRoutes.Text

/-- A set of characters, as inclusive ranges of code points. -/
abbrev CharRanges := List (Nat × Nat)

def CharRanges.contains (ranges : CharRanges) (c : Char) : Bool :=
  ranges.any fun r => r.1 ≤ c.toNat && c.toNat ≤ r.2

end EdgeRoutes.Text
