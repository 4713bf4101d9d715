namespace EdgeRoutes.Numeral

/-- The decimal digits of `n`, most significant first and without leading zeros. -/
def digits (n : Nat) : List Char :=
  if n < 10 then [Nat.digitChar n] else digits (n / 10) ++ [Nat.digitChar (n % 10)]

def padded : Nat → Nat → List Char
  | 0, _ => []
  | width + 1, n => padded width (n / 10) ++ [Nat.digitChar (n % 10)]

def atLeast (width n : Nat) : List Char :=
  List.replicate (width - (digits n).length) '0' ++ digits n

def trimZeros (ds : List Char) : List Char := (ds.reverse.dropWhile (· = '0')).reverse

def digitValue (c : Char) : Nat := c.toNat - '0'.toNat

def value (ds : List Char) : Nat := ds.foldl (fun n c => 10 * n + digitValue c) 0

def text (n : Nat) : String := String.ofList (digits n)

def signed (n : Int) : String := if n < 0 then "-" ++ text n.natAbs else text n.natAbs

theorem toList_signed (n : Int) :
    (signed n).toList = (if decide (n < 0) then ['-'] else []) ++ digits n.natAbs := by
  rw [signed]
  by_cases h : n < 0 <;> simp [h, text]

/-- The digit that a character stands for in base 16; smaller bases take the smaller values only. -/
def hexValue? (c : Char) : Option Nat :=
  if c.isDigit then some (c.toNat - '0'.toNat)
  else if 'a' ≤ c ∧ c ≤ 'f' then some (c.toNat - 'a'.toNat + 10)
  else if 'A' ≤ c ∧ c ≤ 'F' then some (c.toNat - 'A'.toNat + 10)
  else none

def valueIn? (base : Nat) : List Char → Option Nat
  | [] => none
  | cs => cs.foldl (fun acc c => do
      let n ← acc
      let d ← hexValue? c
      if d < base then some (base * n + d) else none) (some 0)

end EdgeRoutes.Numeral
