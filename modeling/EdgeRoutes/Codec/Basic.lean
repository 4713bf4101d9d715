import EdgeRoutes.Codec.Mismatch
import EdgeRoutes.Codec.Schema
import EdgeRoutes.Duration.Printer
import EdgeRoutes.Table
import EdgeRoutes.Yaml.Scalar

/-!
Codecs: how the values of a type are read from JSON and from YAML, written, and described by a
schema. In YAML a scalar has the type that the reader looks for, and an empty one is an empty list
or map.
-/

namespace EdgeRoutes

structure Codec (α : Type) where
  read : Json → Except Failure α
  readYaml : Yaml.Anchors → Yaml.Node → Except Yaml.Failure α
  write : α → Json
  schema : Schema

namespace Codec

variable {α β : Type}

def fail (m : Mismatch) : Except Failure α := .error (.mismatch m)

def unfit : Except Yaml.Failure α := .error .unfit

/-- A scalar whose text alone decides, whatever its style and tag. -/
def scalarText (anchors : Yaml.Anchors) (node : Yaml.Node) : Except Yaml.Failure String :=
  match node.resolve anchors with
  | .scalar s => .ok s.text
  | _ => unfit

/-- A scalar that may stand for something else than its text: a plain one, or a literal one with the
tag of the type. -/
def typedText (tag : String) (anchors : Yaml.Anchors) (node : Yaml.Node) :
    Except Yaml.Failure String :=
  match node.resolve anchors with
  | .scalar s =>
    if s.style = .plain ∨ (s.style = .literal ∧ s.tag = some ("tag:yaml.org,2002:" ++ tag)) then
      .ok s.text
    else unfit
  | _ => unfit

def ofOption : Option α → Except Yaml.Failure α
  | some a => .ok a
  | none => unfit

def text : Codec String where
  read
    | .text s => .ok s
    | j => fail (.wrongType j .text)
  readYaml := scalarText
  write := .text
  schema := .text none

def boolean : Codec Bool where
  read
    | .bool b => .ok b
    | j => fail (.wrongType j .boolean)
  readYaml anchors node := do ofOption (Yaml.bool? (← typedText "bool" anchors node))
  write := .bool
  schema := .boolean

/-- Where there are no negative numbers a sign is refused. -/
def integerInRange? (range : IntRange) (s : String) : Option Int := do
  let n ← Yaml.int? s
  if range.contains n && !(range.least = 0 && s.toList.head? = some '-') then some n else none

def integer (range : IntRange) (format : String) : Codec Int where
  read
    | .int n => if range.contains n then .ok n else fail (.wrongInteger n range)
    | j => fail (.wrongType j (.integer range))
  readYaml anchors node := do ofOption (integerInRange? range (← typedText "int" anchors node))
  write := .int
  schema := .integer format

def imap (c : Codec α) (forward : α → β) (back : β → α) : Codec β where
  read j := (c.read j).map forward
  readYaml anchors node := (c.readYaml anchors node).map forward
  write b := c.write (back b)
  schema := c.schema

def word : Codec UInt64 :=
  (integer .u64 "uint64").imap (fun n => UInt64.ofNat n.toNat) fun w => w.toNat

def duration : Codec Duration where
  read
    | .text s => match Duration.ofText s with
      | .ok d => .ok d
      | .error (.malformed reason) => fail (.duration reason)
      | .error .outOfRange => .error .outOfRange
    | j => fail (.wrongType j .duration)
  readYaml anchors node := do match Duration.ofText (← scalarText anchors node) with
    | .ok d => .ok d
    | .error (.malformed _) => unfit
    | .error .outOfRange => .error .outOfRange
  write d := .text d.text
  schema := .text none

def timestampDescription : String :=
  "Time is a wrapper around time.Time which supports correct marshaling to YAML and JSON.  " ++
  "Wrappers are provided for many of the factory methods that the time package offers."

def timestamp : Codec Timestamp where
  read
    | .text s => match Timestamp.ofText s with
      | .ok t => .ok t
      | .error reason => fail (.timestamp reason)
    | j => fail (.wrongType j .timestamp)
  readYaml anchors node := do match Timestamp.ofText (← scalarText anchors node) with
    | .ok t => .ok t
    | .error _ => unfit
  write t := .text t.text
  schema := .described timestampDescription (.text (some "date-time"))

def list (c : Codec α) : Codec (List α) where
  read
    | .array items => items.mapM c.read
    | j => fail (.wrongType j .sequence)
  readYaml anchors node := match node.resolve anchors with
    | .sequence _ items => items.mapM (c.readYaml anchors)
    | .scalar s => if s.text = "" ∧ s.style = .plain then .ok [] else unfit
    | .nothing => .ok []
    | _ => unfit
  write xs := .array (xs.map c.write)
  schema := .list c.schema

def readEntry (c : Codec α) (entry : String × Json) : Except Failure (String × α) :=
  (c.read entry.2).map (entry.1, ·)

def readYamlEntry (c : Codec α) (anchors : Yaml.Anchors) (entry : Yaml.Node × Yaml.Node) :
    Except Yaml.Failure (String × α) := do
  let key ← scalarText anchors entry.1
  let value ← c.readYaml anchors entry.2
  .ok (key, value)

def table (c : Codec α) : Codec (Table α) where
  read
    | .object fields => (fields.mapM (readEntry c)).map Table.ofList
    | j => fail (.wrongType j .map)
  readYaml anchors node := match node.resolve anchors with
    | .mapping _ entries => (entries.mapM (readYamlEntry c anchors)).map Table.ofList
    | .scalar s => if s.text = "" ∧ s.style = .plain then .ok Table.empty else unfit
    | .nothing => .ok Table.empty
    | _ => unfit
  write t := .object (t.entries.map fun e => (e.1, c.write e.2))
  schema := .table c.schema

/-- The variant that a local tag such as `!Edge` names. -/
def localTag? : Option String → Option String
  | some tag => match tag.toList with
    | '!' :: name => some (String.ofList name)
    | _ => none
  | none => none

def variant? (variants : List (String × α)) (name : String) : Except Failure α :=
  match variants.lookup name with
  | some a => .ok a
  | none => fail (.unknownVariant name (variants.map Prod.fst))

/-- One of a few named variants: a text, or a map from the name alone to nothing. -/
def choice (variants : List (String × α)) (name : α → String) : Codec α where
  read
    | .text s => variant? variants s
    | .object [(s, j)] => do
      let a ← variant? variants s
      if j matches .null then .ok a else fail (.wrongType j .unit)
    | .object _ => fail .notOneKey
    | j => fail (.wrongType j .variant)
  readYaml anchors node := match node.resolve anchors with
    | .scalar s => match localTag? s.tag with
      | some tag =>
        if s.style = .plain ∧ (s.text = "" ∨ Yaml.isNull s.text) then ofOption (variants.lookup tag)
        else unfit
      | none => ofOption (variants.lookup s.text)
    | _ => unfit
  write a := .text (name a)
  schema := .choice (variants.map Prod.fst)

end Codec

inductive Port where
  | number (n : Int)
  | name (s : String)
deriving DecidableEq, Repr

namespace Codec

def portDescription : String :=
  "IntOrString is a type that can hold an int32 or a string.  When used in JSON or YAML " ++
  "marshalling and unmarshalling, it produces or consumes the inner type.  This allows you to " ++
  "have, for example, a JSON field that can accept a name or number."

def wordValue (n : Int) : Except Yaml.Failure Json :=
  if IntRange.i64.contains n || IntRange.u64.contains n then .ok (.int n) else unfit

/-- What an untyped scalar denotes. A type tag decides alone, a quoted text stands for itself, and a
tagged variant is no value. -/
def untyped (s : Yaml.Scalar) : Except Yaml.Failure Json :=
  let plain : Except Yaml.Failure Json :=
    if s.text = "" ∨ Yaml.isNull s.text then .ok .null
    else match Yaml.bool? s.text with
      | some b => .ok (.bool b)
      | none => match Yaml.int? s.text with
        | some n => wordValue n
        | none =>
          if Yaml.isZeroPadded s.text.toList then .ok (.text s.text)
          else match Yaml.real? s.text with
            | some (.finite x) => .ok (.float x)
            | some _ => .ok .null
            | none => .ok (.text s.text)
  match s.tag with
  | none => if s.style = .plain then plain else .ok (.text s.text)
  | some "tag:yaml.org,2002:bool" => (ofOption (Yaml.bool? s.text)).map .bool
  | some "tag:yaml.org,2002:int" => do
    wordValue (← ofOption (Yaml.int? s.text))
  | some "tag:yaml.org,2002:float" => match Yaml.real? s.text with
    | some (.finite x) => .ok (.float x)
    | some _ => .ok .null
    | none => unfit
  | some "tag:yaml.org,2002:null" => if Yaml.isNull s.text then .ok .null else unfit
  | some tag => if (localTag? (some tag)).isSome then unfit else .ok (.text s.text)

def port : Codec Port where
  read
    | .int n => if IntRange.i32.contains n then .ok (.number n) else fail (.wrongPort n)
    | .text s => .ok (.name s)
    | j => fail (.wrongType j .port)
  readYaml anchors node := match node.resolve anchors with
    | .scalar s => do match ← untyped s with
      | .int n => if IntRange.i32.contains n then .ok (.number n) else unfit
      | .text s => .ok (.name s)
      | _ => unfit
    | _ => unfit
  write
    | .number n => .int n
    | .name s => .text s
  schema := .described portDescription .port

def anythingYaml (anchors : Yaml.Anchors) : Nat → Yaml.Node → Except Yaml.Failure Json
  | 0, node => match node.resolve anchors with
    | .scalar s => untyped s
    | .nothing => .ok .null
    | _ => unfit
  | depth + 1, node => match node.resolve anchors with
    | .scalar s => untyped s
    | .nothing => .ok .null
    | .sequence tag items =>
      if (localTag? tag).isSome then unfit
      else (items.mapM (anythingYaml anchors depth)).map .array
    | .mapping tag entries =>
      if (localTag? tag).isSome then unfit
      else do
        let fields ← entries.mapM fun entry => do
          let key ← scalarText anchors entry.1
          let value ← anythingYaml anchors depth entry.2
          .ok (key, value)
        .ok (.object (Table.ofList fields).entries)
    | _ => unfit

/-- Any value at all, as it is; in YAML `depth` levels of it are read. -/
def anything (depth : Nat) : Codec Json where
  read := .ok
  readYaml anchors := anythingYaml anchors depth
  write := id
  schema := .anything

end Codec

end EdgeRoutes
