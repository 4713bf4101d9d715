import EdgeRoutes.Yaml.Cursor

/-!
Tags and directives: a tag is a handle that stands for a stem, and a suffix.
-/

namespace EdgeRoutes.Yaml

/-- A character of a resource name; inside of angle brackets a few flow marks are allowed too. -/
def isTagChar (isVerbatim : Bool) (c : Char) : Bool :=
  isNameChar c || [';', '/', '?', ':', '@', '&', '=', '+', '$', '.', '%', '!', '~', '*', '\'', '(',
    ')'].contains c || (isVerbatim && (c = ',' || c = '[' || c = ']'))

def escapedByte? : List Char → Option (Nat × List Char)
  | '%' :: a :: b :: cs => (Numeral.valueIn? 16 [a, b]).map (·, cs)
  | _ => none

def escapedBytes? : Nat → List Char → Option (List Nat × List Char)
  | 0, cs => some ([], cs)
  | n + 1, cs => do
    let (b, cs) ← escapedByte? cs
    let (bs, cs) ← escapedBytes? n cs
    if 0x80 ≤ b ∧ b < 0xc0 then some (b :: bs, cs) else none

def escapedChar? (cs : List Char) : Option (Char × List Char) := do
  let (first, cs) ← escapedByte? cs
  let (more, top) ←
    if first < 0x80 then some (0, first)
    else if 0xc0 ≤ first ∧ first < 0xe0 then some (1, first - 0xc0)
    else if 0xe0 ≤ first ∧ first < 0xf0 then some (2, first - 0xe0)
    else if 0xf0 ≤ first ∧ first < 0xf8 then some (3, first - 0xf0)
    else none
  let (bs, cs) ← escapedBytes? more cs
  some (Char.ofNat (bs.foldl (fun n b => 64 * n + (b - 0x80)) top), cs)

def tagText? (isVerbatim : Bool) : Nat → List Char → Option (List Char × List Char)
  | 0, cs => some ([], cs)
  | _ + 1, [] => some ([], [])
  | fuel + 1, c :: cs =>
    if c = '%' then do
      let (d, cs) ← escapedChar? (c :: cs)
      let (ds, cs) ← tagText? isVerbatim fuel cs
      some (d :: ds, cs)
    else if isTagChar isVerbatim c then do
      let (ds, cs) ← tagText? isVerbatim fuel cs
      some (c :: ds, cs)
    else some ([], c :: cs)

def Cursor.moveTo (c : Cursor) (rest : List Char) : Cursor := c.skip (c.rest.length - rest.length)

def tagSuffix? (isVerbatim : Bool) (c : Cursor) : Option (List Char × Cursor) :=
  (tagText? isVerbatim c.rest.length c.rest).map fun (cs, rest) => (cs, c.moveTo rest)

def tagHandle? (c : Cursor) : Option (List Char × Cursor) :=
  if c.starts (· = '!') then
    let (name, c) := c.skip.span isNameChar
    if c.starts (· = '!') then some ('!' :: name ++ ['!'], c.skip) else some ('!' :: name, c)
  else none

/-- The handle and suffix of a tag. A lone mark is a suffix without handle. -/
def tagParts? (c : Cursor) : Option (List Char × List Char × Cursor) := do
  if c.at? 1 = some '<' then
    let (suffix, c) ← tagSuffix? true (c.skip 2)
    if suffix.isEmpty ∨ !c.starts (· = '>') then none else some ([], suffix, c.skip)
  else
    let (handle, c) ← tagHandle? c
    if 1 < handle.length ∧ handle.getLast? = some '!' then
      let (suffix, c) ← tagSuffix? false c
      if suffix.isEmpty then none else some (handle, suffix, c)
    else
      let (suffix, c) ← tagSuffix? false c
      let suffix := handle.drop 1 ++ suffix
      if suffix.isEmpty then some ([], ['!'], c) else some (['!'], suffix, c)

/-- A tag from its mark on; a blank follows it, or in a flow collection a comma. -/
def tag? (inFlow : Bool) (c : Cursor) : Option (String × String × Cursor) := do
  let (handle, suffix, c) ← tagParts? c
  if c.blankAt 0 || (inFlow && c.starts (· = ',')) then
    some (String.ofList handle, String.ofList suffix, c)
  else none

/-- The part of a version number from here on: one to nine digits. -/
def versionNumber? (c : Cursor) : Option (Nat × Cursor) :=
  let (ds, c) := c.span Char.isDigit
  if ds.isEmpty ∨ 9 < ds.length then none else some (Numeral.value ds, c)

inductive Directive where
  | version (major minor : Nat)
  | tag (handle stem : String)

def directiveBody? (name : String) (c : Cursor) : Option (Directive × Cursor) := do
  if name = "YAML" then
    let (major, c) ← versionNumber? (c.skipWhile isSpace)
    if !c.starts (· = '.') then none
    else
      let (minor, c) ← versionNumber? c.skip
      some (.version major minor, c)
  else if name = "TAG" then
    let (handle, c) ← tagHandle? (c.skipWhile isSpace)
    if handle ≠ ['!'] ∧ !(1 < handle.length ∧ handle.getLast? = some '!') then none
    else if !c.starts isSpace then none
    else
      let (stem, c) ← tagSuffix? true (c.skipWhile isSpace)
      if stem.isEmpty ∨ !c.blankAt 0 then none
      else some (.tag (String.ofList handle) (String.ofList stem), c)
  else none

def directive? (c : Cursor) : Option (Directive × Cursor) := do
  let (name, c) := c.skip.span isNameChar
  if name.isEmpty ∨ !c.blankAt 0 then none
  else
    let (d, c) ← directiveBody? (String.ofList name) c
    let c := c.skipWhile isSpace
    let c := if c.starts (· = '#') then c.skipWhile (!isBreak ·) else c
    if c.atLineEnd then some (d, c.skipBreak) else none

end EdgeRoutes.Yaml
