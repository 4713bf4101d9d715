import EdgeRoutes.Codec.Basic

/-!
Codecs of records. The fields are declared once, in order; reading collects the faults of all of
them and reports the one that stands first in the order of reading:

* the fields of a JSON object are visited in ascending order of their names,
* the items of a JSON array are the fields in declared order,
* the entries of a YAML mapping are visited in document order,

and fields without an entry come last, in declared order.
-/

namespace EdgeRoutes

variable {ρ α β γ δ ε : Type}

/-- A fault of a field, at the place where the field is visited, if it has an entry at all. -/
structure Fault (ε : Type) where
  place : Option Nat
  cause : ε

def Fault.precedes (f g : Fault ε) : Bool :=
  match f.place, g.place with
  | some m, some n => m < n
  | some _, none => true
  | none, _ => false

def Fault.earliest (f : Fault ε) (fs : List (Fault ε)) : Fault ε :=
  fs.foldl (fun best g => if g.precedes best then g else best) f

inductive Reading (ε α : Type) where
  | value (a : α)
  | faults (first : Fault ε) (more : List (Fault ε))

namespace Reading

/-- The function and its argument are read whatever becomes of the other. -/
def apply : Reading ε (α → β) → Reading ε α → Reading ε β
  | .value f, .value a => .value (f a)
  | .value _, .faults e es => .faults e es
  | .faults e es, .value _ => .faults e es
  | .faults e es, .faults e' es' => .faults e (es ++ e' :: es')

def settle : Reading ε α → Except ε α
  | .value a => .ok a
  | .faults e es => .error (e.earliest es).cause

end Reading

/-- What a record is read from: the entries of each name with the places where they are visited. -/
structure Source (δ ε : Type) where
  find : String → List (Nat × δ)
  missing : Nat → String → ε
  /-- The fields stand in a list, in which not every field may be left out. -/
  isList : Bool
  /-- The failure of a second entry of one name; without it the last entry counts. -/
  repeated : Option ε

namespace Source

def readAll (read : δ → Except ε β) (last : β) : List (Nat × δ) → Except (Fault ε) β
  | [] => .ok last
  | (place, d) :: rest => match read d with
    | .ok b => readAll read b rest
    | .error e => .error ⟨some place, e⟩

def read? (s : Source δ ε) (read : δ → Except ε β) (name : String) :
    Option (Except (Fault ε) β) :=
  match s.find name with
  | [] => none
  | (place, d) :: rest => some <| match read d with
    | .error e => .error ⟨some place, e⟩
    | .ok b => match s.repeated, rest with
      | some e, (again, _) :: _ => .error ⟨some again, e⟩
      | _, _ => readAll read b rest

end Source

structure Slot (β : Type) where
  read : Json → Except Failure β
  readYaml : Yaml.Anchors → Yaml.Node → Except Yaml.Failure β
  write : β → Option Json
  whenAbsent : Option β
  /-- The default counts in a list of fields too. -/
  defaultsInList : Bool
  schema : Schema

namespace Slot

def required (c : Codec β) : Slot β :=
  ⟨c.read, c.readYaml, some ∘ c.write, none, false, c.schema⟩

def shown (c : Codec β) (default : β) : Slot β :=
  ⟨c.read, c.readYaml, some ∘ c.write, some default, true, .withDefault (c.write default) c.schema⟩

/-- A field that is left out exactly when it is the default. -/
def hidden (c : Codec β) (default : β) (isDefault : β → Bool) : Slot β :=
  ⟨c.read, c.readYaml, fun b => if isDefault b then none else some (c.write b), some default, true,
    c.schema⟩

def readOption (c : Codec β) : Json → Except Failure (Option β)
  | .null => .ok none
  | j => (c.read j).map some

/-- A node that stands for no value. A null tag admits nothing else. -/
def isAbsent (anchors : Yaml.Anchors) (node : Yaml.Node) : Except Yaml.Failure Bool :=
  match node.resolve anchors with
  | .scalar s =>
    if s.style ≠ .plain then .ok false
    else match s.tag with
      | none => .ok (s.text = "" || Yaml.isNull s.text)
      | some tag =>
        if tag = "tag:yaml.org,2002:null" then
          if Yaml.isNull s.text then .ok true else .error .unfit
        else .ok false
  | .nothing => .ok true
  | _ => .ok false

def readYamlOption (c : Codec β) (anchors : Yaml.Anchors) (node : Yaml.Node) :
    Except Yaml.Failure (Option β) := do
  if ← isAbsent anchors node then .ok none else (c.readYaml anchors node).map some

def optional (c : Codec β) : Slot (Option β) :=
  ⟨readOption c, readYamlOption c, fun b => b.map c.write, some none, true, .nullable c.schema⟩

/-- An optional field that has to be present, if only as null, in a list of fields. -/
def optionalInMap (c : Codec β) : Slot (Option β) := { optional c with defaultsInList := false }

def lenientText : Slot String :=
  { optional Codec.text with
    read := fun j => (readOption Codec.text j).map (·.getD "")
    readYaml := fun anchors node => (readYamlOption Codec.text anchors node).map (·.getD "")
    write := fun s => some (.text s)
    whenAbsent := some ""
    schema := .text none }

def described (description : String) (s : Slot β) : Slot β :=
  { s with schema := .described description s.schema }

def readFrom (s : Slot β) (source : Source δ ε) (read : δ → Except ε β) (position : Nat)
    (name : String) : Reading ε β :=
  match source.read? read name with
  | some (.ok b) => .value b
  | some (.error fault) => .faults fault []
  | none => match s.whenAbsent with
    | some b =>
      if source.isList && !s.defaultsInList then .faults ⟨none, source.missing position name⟩ []
      else .value b
    | none => .faults ⟨none, source.missing position name⟩ []

end Slot

/-- The fields of a record `ρ` declared so far, and what they determine of it. -/
structure Fields (ρ α : Type) where
  names : List String
  read : Source Json Failure → Reading Failure α
  readYaml : Yaml.Anchors → Source Yaml.Node Yaml.Failure → Reading Yaml.Failure α
  write : ρ → List (String × Json)
  properties : List (String × Schema)
  required : List String

namespace Fields

def build (a : α) : Fields ρ α :=
  ⟨[], fun _ => .value a, fun _ _ => .value a, fun _ => [], [], []⟩

def field (fs : Fields ρ (β → α)) (name : String) (get : ρ → β) (slot : Slot β) : Fields ρ α where
  names := fs.names ++ [name]
  read source := (fs.read source).apply (slot.readFrom source slot.read fs.names.length name)
  readYaml anchors source :=
    (fs.readYaml anchors source).apply
      (slot.readFrom source (slot.readYaml anchors) fs.names.length name)
  write r := fs.write r ++ ((slot.write (get r)).map (name, ·)).toList
  properties := fs.properties ++ [(name, slot.schema)]
  required := fs.required ++ if slot.whenAbsent.isNone then [name] else []

def keyed (anchors : Yaml.Anchors) : Nat → List (Yaml.Node × Yaml.Node) →
    List (Nat × String × Yaml.Node) × Option (Fault Yaml.Failure)
  | _, [] => ([], none)
  | place, (key, value) :: rest => match Codec.scalarText anchors key with
    | .error e => ([], some ⟨some place, e⟩)
    | .ok name =>
      let (entries, fault) := keyed anchors (place + 1) rest
      ((place, name, value) :: entries, fault)

mutual

/-- The node is broken somewhere. What an alias stands for does not count. -/
def isBroken : Yaml.Node → Bool
  | .broken => true
  | .sequence _ items => anyBroken items
  | .mapping _ entries => anyBrokenEntry entries
  | _ => false

def anyBroken : List Yaml.Node → Bool
  | [] => false
  | node :: rest => isBroken node || anyBroken rest

def anyBrokenEntry : List (Yaml.Node × Yaml.Node) → Bool
  | [] => false
  | (key, value) :: rest => isBroken key || isBroken value || anyBrokenEntry rest

end

def unknownFault (names : List String) (entries : List (Nat × String × Yaml.Node)) :
    Option (Fault Yaml.Failure) :=
  (entries.find? fun e => !names.contains e.2.1 && isBroken e.2.2).map fun e => ⟨some e.1, .unfit⟩

def withFault (fault : Option (Fault ε)) (r : Reading ε α) : Reading ε α :=
  match fault, r with
  | none, r => r
  | some f, .value _ => .faults f []
  | some f, .faults e es => .faults e (es ++ [f])

def readMapping (fs : Fields ρ ρ) (repeated : Option Yaml.Failure) (anchors : Yaml.Anchors)
    (nodes : List (Yaml.Node × Yaml.Node)) : Except Yaml.Failure ρ :=
  let (entries, keyFault) := keyed anchors 0 nodes
  let source : Source Yaml.Node Yaml.Failure :=
    { find := fun name => (entries.filter (·.2.1 = name)).map fun e => (e.1, e.2.2)
      missing := fun _ _ => .unfit
      isList := false
      repeated }
  (withFault keyFault
    (withFault (unknownFault fs.names entries) (fs.readYaml anchors source))).settle

def readNode (fs : Fields ρ ρ) (repeated : Option Yaml.Failure) (anchors : Yaml.Anchors)
    (node : Yaml.Node) : Except Yaml.Failure ρ :=
  match node.resolve anchors with
  | .mapping _ entries => fs.readMapping repeated anchors entries
  | .scalar s =>
    if s.text = "" ∧ s.style = .plain then fs.readMapping repeated anchors [] else .error .unfit
  | .nothing => fs.readMapping repeated anchors []
  | _ => .error .unfit

def rank (fs : Fields ρ α) (name : String) : Nat := (fs.names.filter (· < name)).length

def ofObject (fs : Fields ρ α) (fields : List (String × Json)) : Source Json Failure where
  find name := ((fields.lookup name).map (fs.rank name, ·)).toList
  missing _ name := .mismatch (.missingField name)
  isList := false
  repeated := none

def ofArray (record : String) (fs : Fields ρ α) (items : List Json) : Source Json Failure where
  find name := (items[fs.names.idxOf name]?.map (fs.names.idxOf name, ·)).toList
  missing position _ := .mismatch (.tooFewFields position record fs.names.length)
  isList := true
  repeated := none

def schema (fs : Fields ρ α) : Schema := .record fs.properties fs.required

end Fields

namespace Codec

def record (name : String) (fs : Fields ρ ρ) : Codec ρ where
  read
    | .object fields => (fs.read (fs.ofObject fields)).settle
    | .array items => match (fs.read (Fields.ofArray name fs items)).settle with
      | .ok r => if fs.names.length < items.length then fail (.tooManyItems items.length) else .ok r
      | .error e => .error e
    | j => fail (.wrongType j (.record name))
  readYaml := fs.readNode (some .unfit)
  write r := .object (fs.write r)
  schema := fs.schema

/-- A record that is read from an object only, and in YAML from the last entry of each name. -/
def object (name : String) (fs : Fields ρ ρ) : Codec ρ where
  read
    | .object fields => (fs.read (fs.ofObject fields)).settle
    | j => fail (.wrongType j (.object name))
  readYaml := fs.readNode none
  write r := .object (fs.write r)
  schema := fs.schema

def described (description : String) (c : Codec α) : Codec α :=
  { c with schema := .described description c.schema }

end Codec

end EdgeRoutes
