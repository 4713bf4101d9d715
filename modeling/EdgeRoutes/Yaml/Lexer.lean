import EdgeRoutes.Yaml.Block
import EdgeRoutes.Yaml.Flowing
import EdgeRoutes.Yaml.Tag
import EdgeRoutes.Yaml.Token

/-!
Cutting a YAML stream into tokens. A token that may turn out to be the key of a mapping is
remembered; when a colon follows on the same line, a key token is put in front of it, and with a new
indentation the start of a mapping. The tokens end at the first place that cannot be read.
-/

namespace EdgeRoutes.Yaml

/-- A token that may be a key: its position among the tokens and its place in the text. -/
structure PossibleKey where
  position : Nat
  index : Nat
  line : Nat
  column : Nat
  /-- The indentation leaves no other reading. -/
  isRequired : Bool

structure Lexer where
  cursor : Cursor
  /-- The tokens so far, the last one first. -/
  tokens : List Token := []
  indent : Int := -1
  outerIndents : List Int := []
  keyAllowed : Bool := true
  /-- The possible keys of the flow collections around, the innermost first. -/
  keys : List (Option PossibleKey) := [none]

namespace Lexer

def inFlow (l : Lexer) : Bool := 1 < l.keys.length

def emit (l : Lexer) (t : Token) : Lexer := { l with tokens := t :: l.tokens }

def skip (l : Lexer) (n : Nat := 1) : Lexer := { l with cursor := l.cursor.skip n }

def insertAt (l : Lexer) (position : Nat) (t : Token) : Lexer :=
  { l with tokens := l.tokens.insertIdx (l.tokens.length - position) t }

/-- A key has to end on its line and within 1024 characters. -/
def isStale (c : Cursor) (k : PossibleKey) : Bool := k.line < c.line || k.index + 1024 < c.index

/-- Without the keys that can no longer be ones; there is none left that had to be one. -/
def dropStaleKeys (l : Lexer) : Option Lexer := do
  let keys ← l.keys.mapM fun k => match k with
    | some key =>
      if isStale l.cursor key then (if key.isRequired then none else some none) else some k
    | none => some none
  some { l with keys }

def dropKey (l : Lexer) : Option Lexer :=
  match l.keys with
  | some key :: rest => if key.isRequired then none else some { l with keys := none :: rest }
  | _ => some l

def saveKey (l : Lexer) : Option Lexer :=
  if l.keyAllowed then do
    let isRequired := !l.inFlow && l.indent = l.cursor.column
    let l ← l.dropKey
    some { l with keys := some ⟨l.tokens.length, l.cursor.index, l.cursor.line, l.cursor.column,
      isRequired⟩ :: l.keys.tail }
  else some l

def openBlock (l : Lexer) (column : Nat) (position : Nat) (t : Token) : Lexer :=
  if !l.inFlow && l.indent < column then
    { l.insertAt position t with indent := column, outerIndents := l.indent :: l.outerIndents }
  else l

def closeBlocksTo (column : Int) : List Int → Lexer → Lexer
  | outer, l =>
    if l.indent ≤ column then { l with outerIndents := outer }
    else match outer with
      | [] => l.emit .blockEnd
      | indent :: rest => closeBlocksTo column rest { l.emit .blockEnd with indent }

def closeBlocks (l : Lexer) (column : Int) : Lexer :=
  if l.inFlow then l else closeBlocksTo column l.outerIndents l

/-- Over blanks, comments and line breaks. A byte order mark may open the stream; a tab may not
stand where a key may. -/
def skipToToken : Nat → Lexer → Lexer
  | 0, l => l
  | fuel + 1, l =>
    let c :=
      if l.cursor.index = 0 && l.cursor.starts (· = '\ufeff') then l.cursor.skip else l.cursor
    let c := c.skipWhile fun d => d = ' ' || (d = '\t' && (l.inFlow || !l.keyAllowed))
    let c := if c.starts (· = '#') then c.skipWhile (!isBreak ·) else c
    if c.starts isBreak then
      skipToToken fuel { l with cursor := c.skipBreak, keyAllowed := l.keyAllowed || !l.inFlow }
    else { l with cursor := c }

def streamEnd (l : Lexer) : Option Lexer := do
  let l ← (l.closeBlocks (-1)).dropKey
  some ({ l with keyAllowed := false }.emit .streamEnd)

def directive (l : Lexer) : Option Lexer := do
  let l ← (l.closeBlocks (-1)).dropKey
  let (d, cursor) ← directive? l.cursor
  let token := match d with
    | .version major minor => Token.versionDirective major minor
    | .tag handle stem => .tagDirective handle stem
  some ({ l with cursor, keyAllowed := false }.emit token)

def documentMark (l : Lexer) (t : Token) : Option Lexer := do
  let l ← (l.closeBlocks (-1)).dropKey
  some (({ l with keyAllowed := false }.skip 3).emit t)

def flowStart (l : Lexer) (t : Token) : Option Lexer := do
  let l ← l.saveKey
  some (({ l with keys := none :: l.keys, keyAllowed := true }.skip).emit t)

def flowEnd (l : Lexer) (t : Token) : Option Lexer := do
  let l ← l.dropKey
  let keys := if l.inFlow then l.keys.tail else l.keys
  some (({ l with keys, keyAllowed := false }.skip).emit t)

def flowEntry (l : Lexer) : Option Lexer := do
  let l ← l.dropKey
  some (({ l with keyAllowed := true }.skip).emit .flowEntry)

def blockEntry (l : Lexer) : Option Lexer := do
  if !l.inFlow && !l.keyAllowed then none
  else
    let l ← (l.openBlock l.cursor.column l.tokens.length .blockSequenceStart).dropKey
    some (({ l with keyAllowed := true }.skip).emit .blockEntry)

def keyMark (l : Lexer) : Option Lexer := do
  if !l.inFlow && !l.keyAllowed then none
  else
    let l ← (l.openBlock l.cursor.column l.tokens.length .blockMappingStart).dropKey
    some (({ l with keyAllowed := !l.inFlow }.skip).emit .key)

/-- A colon: the value of the possible key, or of a key that had a mark of its own or is missing. -/
def valueMark (l : Lexer) : Option Lexer :=
  match l.keys with
  | some key :: rest =>
    let l := (l.insertAt key.position .key).openBlock key.column key.position .blockMappingStart
    some (({ l with keys := none :: rest, keyAllowed := false }.skip).emit .value)
  | _ =>
    if !l.inFlow && !l.keyAllowed then none
    else
      let l := l.openBlock l.cursor.column l.tokens.length .blockMappingStart
      some (({ l with keyAllowed := !l.inFlow }.skip).emit .value)

def anchorName (l : Lexer) (token : String → Token) : Option Lexer := do
  let l ← l.saveKey
  let (name, cursor) := l.cursor.skip.span isNameChar
  if name.isEmpty then none
  else if cursor.blankAt 0
      || cursor.starts (['?', ':', ',', ']', '}', '%', '@', '\x60'].contains ·) then
    some ({ l with cursor, keyAllowed := false }.emit (token (String.ofList name)))
  else none

def tag (l : Lexer) : Option Lexer := do
  let l ← l.saveKey
  let (handle, suffix, cursor) ← tag? l.inFlow l.cursor
  some ({ l with cursor, keyAllowed := false }.emit (.tag handle suffix))

def blockText (l : Lexer) (isLiteral : Bool) : Option Lexer := do
  let l ← l.dropKey
  let (text, cursor) ← blockScalar isLiteral l.indent l.cursor
  some ({ l with cursor, keyAllowed := true }.emit
    (.scalar text (if isLiteral then .literal else .folded)))

def quotedText (l : Lexer) (single : Bool) : Option Lexer := do
  let l ← l.saveKey
  let (text, cursor) ← quotedScalar single l.cursor
  some ({ l with cursor, keyAllowed := false }.emit
    (.scalar text (if single then .singleQuoted else .doubleQuoted)))

def plainText (l : Lexer) : Option Lexer := do
  let l ← l.saveKey
  let (text, hasBreak, cursor) ← plainScalar l.inFlow (l.indent + 1).toNat l.cursor
  some ({ l with cursor, keyAllowed := hasBreak }.emit (.scalar text .plain))

/-- A character that opens plain text where a mark of its own would be followed by a blank. -/
def opensPlain (l : Lexer) (d : Char) : Bool :=
  if d = '-' then !(l.cursor.at? 1).any isSpace
  else if d = '?' || d = ':' then !l.inFlow && !l.cursor.blankAt 1
  else d != '#' && d != '%' && d != '@' && d != '\x60'

def tokenAt (l : Lexer) (d : Char) : Option Lexer :=
  let marks (n : Nat) : Bool := l.cursor.blankAt n
  if d = '%' && l.cursor.column = 0 then l.directive
  else if l.cursor.atDocumentMark then
    l.documentMark (if d = '-' then .documentStart else .documentEnd)
  else if d = '[' then l.flowStart .flowSequenceStart
  else if d = '{' then l.flowStart .flowMappingStart
  else if d = ']' then l.flowEnd .flowSequenceEnd
  else if d = '}' then l.flowEnd .flowMappingEnd
  else if d = ',' then l.flowEntry
  else if d = '-' && marks 1 then l.blockEntry
  else if d = '?' && (l.inFlow || marks 1) then l.keyMark
  else if d = ':' && (l.inFlow || marks 1) then l.valueMark
  else if d = '*' then l.anchorName .alias
  else if d = '&' then l.anchorName .anchor
  else if d = '!' then l.tag
  else if d = '|' && !l.inFlow then l.blockText true
  else if d = '>' && !l.inFlow then l.blockText false
  else if d = '\'' then l.quotedText true
  else if d = '"' then l.quotedText false
  else if d != '|' && d != '>' && l.opensPlain d then l.plainText
  else none

/-- The next token, together with the starts and ends of collections around it. -/
def next (l : Lexer) : Option Lexer := do
  let l ← (skipToToken (l.cursor.rest.length + 1) l).dropStaleKeys
  match l.cursor.head? with
  | none => (l.closeBlocks l.cursor.column).streamEnd
  | some d => if isSpaceOrBreak d then none else (l.closeBlocks l.cursor.column).tokenAt d

/-- The tokens that are settled: those before the first one that may still become a key. -/
def settled (l : Lexer) : List Token :=
  let pending := l.keys.filterMap fun k => match k with
    | some key => if isStale l.cursor key then none else some key.position
    | none => none
  l.tokens.reverse.take (pending.foldl min l.tokens.length)

def run : Nat → Lexer → List Token
  | 0, l => l.settled
  | fuel + 1, l => match l.next with
    | none => l.settled
    | some l => if l.tokens.head? = some .streamEnd then l.tokens.reverse else run fuel l

end Lexer

/-- The tokens of a text; they end in that of the end of the stream if all of it can be read. -/
def Token.ofText (s : String) : List Token :=
  let cs := s.toList
  if cs.all isAllowed then Lexer.run (cs.length + 1) { cursor := ⟨cs, 0, 0, 0⟩ } else []

end EdgeRoutes.Yaml
