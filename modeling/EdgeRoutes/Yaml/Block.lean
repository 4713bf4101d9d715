import EdgeRoutes.Yaml.Cursor

/-!
Block scalars: the lines below a mark that are indented further than what is around them. A literal
one keeps its line breaks; in a folded one a single break between two unindented lines is a space.
-/

namespace EdgeRoutes.Yaml

/-- What becomes of the line breaks at the end of a block scalar. -/
inductive Chomping where
  | strip
  | clip
  | keep
deriving DecidableEq, Repr

namespace Chomping

def ofMark? : Char → Option Chomping
  | '+' => some keep
  | '-' => some strip
  | _ => none

end Chomping

def indentMark? (c : Cursor) : Option (Option Nat × Cursor) :=
  match c.head? with
  | some d =>
    if d = '0' then none
    else if d.isDigit then some (some (d.toNat - '0'.toNat), c.skip)
    else some (none, c)
  | none => some (none, c)

def chompMark (c : Cursor) : Option Chomping × Cursor :=
  match c.head?.bind Chomping.ofMark? with
  | some chomping => (some chomping, c.skip)
  | none => (none, c)

def blockMarks (c : Cursor) : Option (Chomping × Option Nat × Cursor) := do
  match chompMark c with
  | (some chomping, c) =>
    let (width, c) ← indentMark? c
    some (chomping, width, c)
  | (none, c) =>
    let (width, c) ← indentMark? c
    let (chomping, c) := if width.isSome then chompMark c else (none, c)
    some (chomping.getD .clip, width, c)

/-- The empty lines from here on: their breaks, the widest indentation seen, and the place of the
first character that is neither. With an indentation known, only that much is passed over. -/
def emptyLines (indent : Option Nat) :
    Nat → Cursor → List Char → Nat → Option (List Char × Nat × Cursor)
  | 0, c, breaks, widest => some (breaks, widest, c)
  | fuel + 1, c, breaks, widest =>
    let within (column : Nat) : Bool := indent.all (column < ·)
    match c.head? with
    | some d =>
      if d = ' ' && within c.column then emptyLines indent fuel c.skip breaks widest
      else
        let widest := max widest c.column
        if d = '\t' && within c.column then none
        else if isBreak d then
          emptyLines indent fuel c.skipBreak (breaks ++ c.breakText) widest
        else some (breaks, widest, c)
    | none => some (breaks, max widest c.column, c)

structure BlockText where
  done : List Char := []
  lastBreak : List Char := []
  /-- The breaks of the empty lines after it. -/
  emptyBreaks : List Char := []
  isIndented : Bool := false

def BlockText.joined (t : BlockText) (isLiteral startsBlank : Bool) : List Char :=
  if !isLiteral && t.lastBreak = ['\n'] && !t.isIndented && !startsBlank then
    t.done ++ (if t.emptyBreaks.isEmpty then [' '] else t.emptyBreaks)
  else t.done ++ t.lastBreak ++ t.emptyBreaks

def blockLines (isLiteral : Bool) (indent : Nat) :
    Nat → Cursor → BlockText → Option (BlockText × Cursor)
  | 0, c, t => some (t, c)
  | fuel + 1, c, t =>
    if c.column ≠ indent ∨ c.isAtEnd then some (t, c)
    else do
      let startsBlank := c.starts isSpace
      let (line, after) := c.span (!isBreak ·)
      let next := after.skipBreak
      let (breaks, _, next) ← emptyLines (some indent) (fuel + 1) next [] 0
      blockLines isLiteral indent fuel next
        { done := t.joined isLiteral startsBlank ++ line, lastBreak := after.breakText,
          emptyBreaks := breaks, isIndented := startsBlank }

/-- A block scalar from its mark on, inside of a collection with indentation `parent`. -/
def blockScalar (isLiteral : Bool) (parent : Int) (c : Cursor) : Option (String × Cursor) := do
  let (chomping, width, c) ← blockMarks c.skip
  let c := c.skipWhile isSpace
  let c := if c.starts (· = '#') then c.skipWhile (!isBreak ·) else c
  if !c.atLineEnd then none
  else
    let c := c.skipBreak
    let known := width.map fun w => (max parent 0).toNat + w
    let (breaks, widest, c) ← emptyLines known (c.rest.length + 1) c [] 0
    let indent := known.getD (max (max widest (parent + 1).toNat) 1)
    let (t, c) ← blockLines isLiteral indent (c.rest.length + 1) c { emptyBreaks := breaks }
    let tail := match chomping with
      | .strip => []
      | .clip => t.lastBreak
      | .keep => t.lastBreak ++ t.emptyBreaks
    some (String.ofList (t.done ++ tail), c)

end EdgeRoutes.Yaml
