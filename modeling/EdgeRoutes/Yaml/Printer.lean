import EdgeRoutes.Json.Printer
import EdgeRoutes.Yaml.Quoting

/-!
Values as YAML documents in block style: an entry or item on a line of its own, nested maps indented
by two, and the items of a list in a map as far as the map.
-/

namespace EdgeRoutes.Yaml

/-- Where a value is written: what stands before it, depending on its kind, and how far its further
lines are indented. -/
structure Place where
  beforeScalar : List Char
  beforeItems : List Char
  beforeEntries : List Char
  itemIndent : Nat
  indent : Nat

namespace Place

def onLine (lead : List Char) (indent : Nat) : Place := ⟨lead, lead, lead, indent, indent⟩

/-- After the colon of an entry: a scalar on the same line, a collection on the next ones. -/
def ofEntry (indent : Nat) : Place where
  beforeScalar := [' ']
  beforeItems := '\n' :: spaces indent
  beforeEntries := '\n' :: spaces (indent + 2)
  itemIndent := indent
  indent := indent + 2

end Place

/-- A key that fits on the line of its value: one line of at most 128 bytes. -/
def isSimpleKey (name : String) : Bool := name.utf8ByteSize ≤ 128 && !name.toList.any isBreak

def keyLine (indent : Nat) (name : String) : List Char × Place :=
  let line := scalarLine (indent + 2) name
  if isSimpleKey name then (line.dropLast ++ [':'], .ofEntry indent)
  else ('?' :: ' ' :: line, .onLine (spaces indent ++ [':', ' ']) (indent + 2))

mutual

/-- A value at its place. The further lines of a text are indented even at the top. -/
def block (place : Place) : Json → List Char
  | .null => place.beforeScalar ++ "null\n".toList
  | .bool b => place.beforeScalar ++ (if b then "true\n" else "false\n").toList
  | .int n => place.beforeScalar ++ (Numeral.signed n).toList ++ ['\n']
  | .float x => place.beforeScalar ++ (Json.floatText x).toList ++ ['\n']
  | .text s => place.beforeScalar ++ scalarLine (max 2 place.indent) s
  | .array items =>
    if items.isEmpty then place.beforeScalar ++ "[]\n".toList
    else itemLines place.beforeItems place.itemIndent items
  | .object fields =>
    if fields.isEmpty then place.beforeScalar ++ "\x7b\x7d\n".toList
    else entryLines place.beforeEntries place.indent fields

def itemLines (lead : List Char) (indent : Nat) : List Json → List Char
  | [] => []
  | j :: rest =>
    block (.onLine (lead ++ ['-', ' ']) (indent + 2)) j ++ itemLines (spaces indent) indent rest

def entryLines (lead : List Char) (indent : Nat) : List (String × Json) → List Char
  | [] => []
  | (name, j) :: rest =>
    lead ++ (keyLine indent name).1 ++ block (keyLine indent name).2 j
      ++ entryLines (spaces indent) indent rest

end

def render (j : Json) : String := String.ofList (block (.onLine [] 0) j)

def renderStream (js : List Json) : String := String.join (js.map fun j => "---\n" ++ render j)

end EdgeRoutes.Yaml
