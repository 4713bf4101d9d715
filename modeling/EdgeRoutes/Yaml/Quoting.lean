import EdgeRoutes.Yaml.Cursor
import EdgeRoutes.Yaml.Scalar

/-!
How a text is written as a scalar: as it is where it is read back as that text, in quotes where it
would be taken for something else, as a literal block where it has several lines, and with escapes
where it holds characters that no other style can show.
-/

namespace EdgeRoutes.Yaml

def spaces (n : Nat) : List Char := List.replicate n ' '

def isPrintable (c : Char) : Bool :=
  let n := c.toNat
  n = 0xa || (0x20 ≤ n && n ≤ 0x7e) || (0xa0 ≤ n && n ≤ 0xfffd && n ≠ 0xfeff) || 0x10000 ≤ n

/-- A character after which, or before which, a mark counts as one. -/
def isGap (c : Char) : Bool := isSpaceOrBreak c || c = '\x00'

def opensMarked (cs : List Char) : Bool :=
  ['-', '-', '-'].isPrefixOf cs || ['.', '.', '.'].isPrefixOf cs || match cs with
    | c :: rest =>
      "#,[]\x7b\x7d&*!|>'\"%@\x60".toList.contains c ||
        (['?', ':', '-'].contains c && rest.head?.all isGap)
    | [] => false

/-- A colon that ends a word or a hash that starts one, past the first character. -/
def hasInnerMark : List Char → Bool
  | a :: b :: rest =>
    (b = '#' && isGap a) || (b = ':' && rest.head?.all isGap) || hasInnerMark (b :: rest)
  | _ => false

def hasPair (p q : Char → Bool) : List Char → Bool
  | a :: b :: rest => (p a && q b) || hasPair p q (b :: rest)
  | _ => false

def fitsPlain (cs : List Char) : Bool :=
  cs.all (fun c => isPrintable c && !isBreak c) && cs.head? != some ' ' && cs.getLast? != some ' '
    && !opensMarked cs && !hasInnerMark cs

/-- Blanks next to line breaks are lost in single quotes. -/
def fitsSingleQuotes (cs : List Char) : Bool :=
  cs.all isPrintable && !hasPair isBreak (· = ' ') cs && !hasPair (· = ' ') isBreak cs

def fitsLiteral (cs : List Char) : Bool :=
  cs.all isPrintable && !hasPair (· = ' ') isBreak cs && cs.getLast? != some ' '

def Style.ofText (s : String) : Style :=
  let cs := s.toList
  if cs.contains '\n' then (if fitsLiteral cs then .literal else .doubleQuoted)
  else if !isAmbiguous s && fitsPlain cs then .plain
  else if fitsSingleQuotes cs then .singleQuoted
  else .doubleQuoted

/-- Text in single quotes after the opening one: a quote is doubled, and a line is indented. -/
def singleQuoted (indent : Nat) (afterBreak : Bool) : List Char → List Char
  | [] => (if afterBreak then spaces indent else []) ++ ['\'']
  | c :: cs =>
    if isBreak c then c :: singleQuoted indent true cs
    else (if afterBreak then spaces indent else []) ++ (if c = '\'' then ['\'', '\''] else [c])
      ++ singleQuoted indent false cs

def hexDigits : Nat → Nat → List Char
  | 0, _ => []
  | width + 1, n => hexDigits width (n / 16) ++ [(Nat.digitChar (n % 16)).toUpper]

def escaped (c : Char) : List Char :=
  match c with
  | '\x00' => ['\\', '0']
  | '\x07' => ['\\', 'a']
  | '\x08' => ['\\', 'b']
  | '\t' => ['\\', 't']
  | '\n' => ['\\', 'n']
  | '\x0b' => ['\\', 'v']
  | '\x0c' => ['\\', 'f']
  | '\r' => ['\\', 'r']
  | '\x1b' => ['\\', 'e']
  | '"' => ['\\', '"']
  | '\\' => ['\\', '\\']
  | '\x85' => ['\\', 'N']
  | '\u2028' => ['\\', 'L']
  | '\u2029' => ['\\', 'P']
  | c =>
    if isPrintable c then [c]
    else if c.toNat ≤ 0xff then '\\' :: 'x' :: hexDigits 2 c.toNat
    else if c.toNat ≤ 0xffff then '\\' :: 'u' :: hexDigits 4 c.toNat
    else '\\' :: 'U' :: hexDigits 8 c.toNat

/-- The lines of a literal block, each that is not empty indented, and the last one ended. -/
def literalLines (indent : Nat) (afterBreak : Bool) : List Char → List Char
  | [] => if afterBreak then [] else ['\n']
  | c :: cs =>
    if isBreak c then c :: literalLines indent true cs
    else (if afterBreak then spaces indent else []) ++ c :: literalLines indent false cs

/-- Without a mark a literal block ends in one break. -/
def chompHint (cs : List Char) : List Char :=
  match cs.reverse with
  | c :: rest =>
    if !isBreak c then ['-'] else if rest.head?.all isBreak then ['+'] else []
  | [] => ['-']

/-- The width of an indentation is given where it cannot be seen in the first line. -/
def indentHint (cs : List Char) : List Char :=
  if cs.head?.any fun c => c = ' ' || isBreak c then ['2'] else []

def scalarLine (indent : Nat) (s : String) : List Char :=
  let cs := s.toList
  match Style.ofText s with
  | .plain => cs ++ ['\n']
  | .singleQuoted => '\'' :: singleQuoted indent false cs ++ ['\n']
  | .literal => '|' :: indentHint cs ++ chompHint cs ++ '\n' :: literalLines indent true cs
  | _ => '"' :: cs.flatMap escaped ++ ['"', '\n']

end EdgeRoutes.Yaml
