import EdgeRoutes.Yaml.Cursor

/-!
Scalars whose lines flow together: plain ones and quoted ones. A single line break between two lines
becomes a space, and of several the first is left out.
-/

namespace EdgeRoutes.Yaml

structure Gap where
  hasBreak : Bool := false
  blanks : List Char := []
  firstBreak : List Char := []
  laterBreaks : List Char := []

namespace Gap

def text (g : Gap) : List Char :=
  if g.hasBreak then
    if g.firstBreak = ['\n'] then (if g.laterBreaks.isEmpty then [' '] else g.laterBreaks)
    else g.firstBreak ++ g.laterBreaks
  else g.blanks

/-- The gap from here on. In a plain scalar a tab may not stand where a line is indented. -/
def read (tabsFrom : Nat) : Nat → Cursor → Gap → Option (Gap × Cursor)
  | 0, c, g => some (g, c)
  | fuel + 1, c, g => match c.head? with
    | some d =>
      if isSpace d then
        if g.hasBreak then
          if d = '\t' ∧ c.column < tabsFrom then none else read tabsFrom fuel c.skip g
        else read tabsFrom fuel c.skip { g with blanks := g.blanks ++ [d] }
      else if isBreak d then
        if g.hasBreak then
          read tabsFrom fuel c.skipBreak { g with laterBreaks := g.laterBreaks ++ c.breakText }
        else read tabsFrom fuel c.skipBreak { hasBreak := true, firstBreak := c.breakText }
      else some (g, c)
    | none => some (g, c)

end Gap

/-- Before one of these a colon cannot stand in plain text. -/
def isFlowMark (c : Char) : Bool := c = ',' || c = '[' || c = ']' || c = '{' || c = '}'

/-- The run of plain text from here on: up to a blank, a colon before a blank, or in a flow
collection one of its marks. -/
def plainRun (inFlow : Bool) : List Char → Option (List Char)
  | [] => some []
  | d :: ds =>
    if isSpaceOrBreak d then some []
    else if inFlow && d = ':' && ds.head?.any (fun e => isFlowMark e || e = '?') then none
    else if d = ':' && ds.head?.all isSpaceOrBreak then some []
    else if inFlow && isFlowMark d then some []
    else (plainRun inFlow ds).map (d :: ·)

/-- The rest of a plain scalar after `done`, whether it ends in a gap with line breaks, and the
place after that gap. Continued lines are indented at least to `indent`. -/
def plainTail (inFlow : Bool) (indent : Nat) :
    Nat → Cursor → List Char → Gap → Option (List Char × Bool × Cursor)
  | 0, c, done, g => some (done, g.hasBreak, c)
  | fuel + 1, c, done, g =>
    if c.atDocumentMark || c.starts (· = '#') then some (done, g.hasBreak, c)
    else do
      let run ← plainRun inFlow c.rest
      let after := c.skip run.length
      let (done, g) := if run.isEmpty then (done, g) else (done ++ g.text ++ run, {})
      if !after.starts isSpaceOrBreak then some (done, g.hasBreak, after)
      else
        let (g, next) ← g.read indent fuel after
        if !inFlow && next.column < indent then some (done, g.hasBreak, next)
        else plainTail inFlow indent fuel next done g

def plainScalar (inFlow : Bool) (indent : Nat) (c : Cursor) : Option (String × Bool × Cursor) :=
  (plainTail inFlow indent c.rest.length c [] {}).map fun (cs, b, c) => (String.ofList cs, b, c)

def escape? : Char → Option Char
  | '0' => some '\x00'
  | 'a' => some '\x07'
  | 'b' => some '\x08'
  | 't' | '\t' => some '\t'
  | 'n' => some '\n'
  | 'v' => some '\x0b'
  | 'f' => some '\x0c'
  | 'r' => some '\r'
  | 'e' => some '\x1b'
  | ' ' => some ' '
  | '"' => some '"'
  | '/' => some '/'
  | '\\' => some '\\'
  | 'N' => some '\x85'
  | '_' => some '\xa0'
  | 'L' => some '\u2028'
  | 'P' => some '\u2029'
  | _ => none

def escapeWidth? : Char → Option Nat
  | 'x' => some 2
  | 'u' => some 4
  | 'U' => some 8
  | _ => none

def codePoint? (width : Nat) (cs : List Char) : Option Char := do
  let ds := cs.take width
  let n ← if ds.length = width then Numeral.valueIn? 16 ds else none
  if (0xd800 ≤ n ∧ n ≤ 0xdfff) ∨ 0x10ffff < n then none else some (Char.ofNat n)

/-- The run of quoted text from here on: up to a blank, the closing quote, or an escaped line break,
which is the case for the second part of the result. -/
def quotedRun (single : Bool) : Nat → Cursor → List Char → Option (List Char × Bool × Cursor)
  | 0, c, done => some (done, false, c)
  | fuel + 1, c, done => match c.rest with
    | [] => some (done, false, c)
    | d :: ds =>
      if isSpaceOrBreak d then some (done, false, c)
      else if single then
        if d = '\'' then
          if ds.head? = some '\'' then quotedRun single fuel (c.skip 2) (done ++ ['\''])
          else some (done, false, c)
        else quotedRun single fuel c.skip (done ++ [d])
      else if d = '"' then some (done, false, c)
      else if d = '\\' then
        match ds with
        | [] => none
        | e :: es =>
          if isBreak e then some (done, true, c.skip.skipBreak)
          else match escapeWidth? e with
            | some width => do
              let x ← codePoint? width es
              quotedRun single fuel (c.skip (2 + width)) (done ++ [x])
            | none => do
              let x ← escape? e
              quotedRun single fuel (c.skip 2) (done ++ [x])
      else quotedRun single fuel c.skip (done ++ [d])

def quotedTail (single : Bool) : Nat → Cursor → List Char → Option (List Char × Cursor)
  | 0, _, _ => none
  | fuel + 1, c, done =>
    if c.atDocumentMark || c.isAtEnd then none
    else do
      let (done, isJoined, after) ← quotedRun single fuel c done
      if after.starts (· = if single then '\'' else '"') then some (done, after.skip)
      else
        let (g, next) ← Gap.read 0 fuel after { hasBreak := isJoined }
        quotedTail single fuel next (done ++ g.text)

def quotedScalar (single : Bool) (c : Cursor) : Option (String × Cursor) :=
  (quotedTail single (c.rest.length + 1) c.skip []).map fun (cs, c) => (String.ofList cs, c)

end EdgeRoutes.Yaml
