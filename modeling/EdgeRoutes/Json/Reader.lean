import EdgeRoutes.Json.Basic
import EdgeRoutes.Table

/-!
Reading JSON text. A reader gives the value it read and the characters after it; an integer outside
of 64 bits, a minus zero and a number with a point or an exponent are binary64 numbers.
-/

namespace EdgeRoutes.Json

def isSpace (c : Char) : Bool := c = ' ' || c = '\n' || c = '\r' || c = '\t'

def skipSpace (cs : List Char) : List Char := cs.dropWhile isSpace

def codeUnit? : List Char → Option (Nat × List Char)
  | a :: b :: c :: d :: cs => (Numeral.valueIn? 16 [a, b, c, d]).map (·, cs)
  | _ => none

/-- The character of the escape after a backslash and a `u`; two units may form a pair. -/
def codePoint? (cs : List Char) : Option (Char × List Char) := do
  let (high, cs) ← codeUnit? cs
  if 0xd800 ≤ high ∧ high < 0xdc00 then
    match cs with
    | '\\' :: 'u' :: cs =>
      let (low, cs) ← codeUnit? cs
      if 0xdc00 ≤ low ∧ low < 0xe000 then
        some (Char.ofNat (0x10000 + (high - 0xd800) * 0x400 + (low - 0xdc00)), cs)
      else none
    | _ => none
  else if 0xdc00 ≤ high ∧ high < 0xe000 then none
  else some (Char.ofNat high, cs)

def simpleEscape? : Char → Option Char
  | '"' => some '"'
  | '\\' => some '\\'
  | '/' => some '/'
  | 'b' => some '\x08'
  | 'f' => some '\x0c'
  | 'n' => some '\n'
  | 'r' => some '\r'
  | 't' => some '\t'
  | _ => none

/-- The rest of a text after its opening quote, at most `fuel` characters; `done` is what came
before, in reverse. -/
def textTail? : Nat → List Char → List Char → Option (String × List Char)
  | 0, _, _ => none
  | _ + 1, done, '"' :: cs => some (String.ofList done.reverse, cs)
  | fuel + 1, done, '\\' :: 'u' :: cs => do
    let (c, cs) ← codePoint? cs
    textTail? fuel (c :: done) cs
  | fuel + 1, done, '\\' :: e :: cs => do
    let c ← simpleEscape? e
    textTail? fuel (c :: done) cs
  | fuel + 1, done, c :: cs => if c.toNat < 32 then none else textTail? fuel (c :: done) cs
  | _ + 1, _, [] => none

def exponent? (cs : List Char) : Option (Int × List Char) :=
  let (negative, cs) := match cs with
    | '-' :: cs => (true, cs)
    | '+' :: cs => (false, cs)
    | cs => (false, cs)
  let ds := cs.takeWhile Char.isDigit
  if ds.isEmpty then none
  else
    let n : Int := Numeral.value ds
    some (if negative then -n else n, cs.dropWhile Char.isDigit)

def number? (cs : List Char) : Option (Json × List Char) := do
  let (negative, cs) := match cs with
    | '-' :: cs => (true, cs)
    | cs => (false, cs)
  let whole := cs.takeWhile Char.isDigit
  let cs := cs.dropWhile Char.isDigit
  if whole.isEmpty ∨ (whole.head? = some '0' ∧ 1 < whole.length) then none
  else
    let (fraction, cs) ← match cs with
      | '.' :: cs =>
        let ds := cs.takeWhile Char.isDigit
        if ds.isEmpty then none else some (some ds, cs.dropWhile Char.isDigit)
      | cs => some (none, cs)
    let (exponent, cs) ← match cs with
      | 'e' :: cs | 'E' :: cs => (exponent? cs).map fun (e, cs) => (some e, cs)
      | cs => some (none, cs)
    let n := Numeral.value whole
    if fraction = none ∧ exponent = none ∧ ((negative ∧ 0 < n ∧ n ≤ 0x8000000000000000) ∨
        (¬negative ∧ n ≤ 0xffffffffffffffff)) then
      some (.int (if negative then -(n : Int) else n), cs)
    else
      let fraction := fraction.getD []
      let units := Binary64.ofDecimal (Numeral.value (whole ++ fraction))
        (exponent.getD 0 - fraction.length)
      if units < Binary64.infinity then some (.float ⟨negative, units⟩, cs) else none

def word? : List Char → List Char → Option (List Char)
  | [], cs => some cs
  | w :: ws, c :: cs => if w = c then word? ws cs else none
  | _ :: _, [] => none

/-- The fields of an object in ascending order of their names; of equal names the last counts. -/
def sortedObject (fields : List (String × Json)) : Json := .object (Table.ofList fields).entries

mutual

/-- One value; `fuel` bounds the number of values, items and fields in it. -/
def value? : Nat → List Char → Option (Json × List Char)
  | 0, _ => none
  | fuel + 1, cs => match skipSpace cs with
    | '"' :: cs => (textTail? (cs.length + 1) [] cs).map fun (s, cs) => (.text s, cs)
    | '[' :: cs => match skipSpace cs with
      | ']' :: cs => some (.array [], cs)
      | cs => do
        let (items, cs) ← items? fuel cs
        some (.array items, cs)
    | '\x7b' :: cs => match skipSpace cs with
      | '\x7d' :: cs => some (.object [], cs)
      | cs => do
        let (fields, cs) ← fields? fuel cs
        some (sortedObject fields, cs)
    | 'n' :: cs => (word? ['u', 'l', 'l'] cs).map (.null, ·)
    | 't' :: cs => (word? ['r', 'u', 'e'] cs).map (.bool true, ·)
    | 'f' :: cs => (word? ['a', 'l', 's', 'e'] cs).map (.bool false, ·)
    | cs => number? cs

def items? : Nat → List Char → Option (List Json × List Char)
  | 0, _ => none
  | fuel + 1, cs => do
    let (item, cs) ← value? fuel cs
    match skipSpace cs with
    | ',' :: cs => do
      let (items, cs) ← items? fuel cs
      some (item :: items, cs)
    | ']' :: cs => some ([item], cs)
    | _ => none

def fields? : Nat → List Char → Option (List (String × Json) × List Char)
  | 0, _ => none
  | fuel + 1, cs => match skipSpace cs with
    | '"' :: cs => do
      let (name, cs) ← textTail? (cs.length + 1) [] cs
      match skipSpace cs with
      | ':' :: cs => do
        let (item, cs) ← value? fuel cs
        match skipSpace cs with
        | ',' :: cs => do
          let (fields, cs) ← fields? fuel cs
          some ((name, item) :: fields, cs)
        | '\x7d' :: cs => some ([(name, item)], cs)
        | _ => none
      | _ => none
    | _ => none

end

def ofText? (s : String) : Option Json := do
  let cs := s.toList
  let (j, rest) ← value? (cs.length + 1) cs
  if (skipSpace rest).isEmpty then some j else none

end EdgeRoutes.Json
