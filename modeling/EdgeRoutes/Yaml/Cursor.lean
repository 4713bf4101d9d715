import EdgeRoutes.Number.Numeral

/-!
A place in the text of a YAML stream: the characters to come, how many came before, and where in its
line it is. The end of the text counts as a blank and as the end of a line.
-/

namespace EdgeRoutes.Yaml

/-- A tab, a line break, or a character with a form of its own. -/
def isAllowed (c : Char) : Bool :=
  let n := c.toNat
  n = 0x9 || n = 0xa || n = 0xd || (0x20 ≤ n && n ≤ 0x7e) || n = 0x85 || (0xa0 ≤ n && n ≤ 0xfffd)
    || 0x10000 ≤ n

def isBreak (c : Char) : Bool :=
  c = '\n' || c = '\r' || c = '\x85' || c = '\u2028' || c = '\u2029'

def isSpace (c : Char) : Bool := c = ' ' || c = '\t'

def isSpaceOrBreak (c : Char) : Bool := isSpace c || isBreak c

def isNameChar (c : Char) : Bool := c.isAlphanum || c = '-' || c = '_'

structure Cursor where
  rest : List Char
  index : Nat
  line : Nat
  column : Nat

namespace Cursor

def head? (c : Cursor) : Option Char := c.rest.head?

def starts (c : Cursor) (p : Char → Bool) : Bool := c.head?.any p

def at? (c : Cursor) (n : Nat) : Option Char := c.rest[n]?

/-- The character `n` places on is a blank, a line break, or past the end. -/
def blankAt (c : Cursor) (n : Nat) : Bool := (c.at? n).all isSpaceOrBreak

def atLineEnd (c : Cursor) : Bool := c.head?.all isBreak

def isAtEnd (c : Cursor) : Bool := c.rest.isEmpty

def skip (c : Cursor) (n : Nat := 1) : Cursor :=
  { c with rest := c.rest.drop n, index := c.index + n, column := c.column + n }

def skipBreak (c : Cursor) : Cursor :=
  match c.rest with
  | '\r' :: '\n' :: cs => ⟨cs, c.index + 2, c.line + 1, 0⟩
  | d :: cs => if isBreak d then ⟨cs, c.index + 1, c.line + 1, 0⟩ else c
  | [] => c

/-- What a line break stands for: a line feed, except for the separators of lines and paragraphs. -/
def breakText (c : Cursor) : List Char :=
  match c.rest with
  | d :: _ => if d = '\u2028' ∨ d = '\u2029' then [d] else if isBreak d then ['\n'] else []
  | [] => []

def span (c : Cursor) (p : Char → Bool) : List Char × Cursor :=
  let cs := c.rest.takeWhile p
  (cs, c.skip cs.length)

def skipWhile (c : Cursor) (p : Char → Bool) : Cursor := (c.span p).2

/-- A line that starts with three hyphens or three periods and a blank parts two documents. -/
def atDocumentMark (c : Cursor) : Bool :=
  c.column = 0 && ((['-', '-', '-'].isPrefixOf c.rest) || (['.', '.', '.'].isPrefixOf c.rest))
    && c.blankAt 3

end Cursor

end EdgeRoutes.Yaml
