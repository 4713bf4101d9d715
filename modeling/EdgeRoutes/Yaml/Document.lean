import EdgeRoutes.Codec.Basic
import EdgeRoutes.Yaml.Lexer

/-!
Trees from tokens. Where no token is left, or one that cannot stand there, the node in the making
and all that would follow is broken.
-/

namespace EdgeRoutes.Yaml

structure Anchored where
  slot : Nat
  order : Nat
  node : Node

structure Builder where
  tokens : List Token
  stems : List (String × String)
  /-- A name takes the slot numbered by the names known before. -/
  slots : List (String × Nat) := []
  anchored : List Anchored := []
  count : Nat := 0
  isStopped : Bool := false

namespace Builder

def stop (b : Builder) : Builder := { b with tokens := [], isStopped := true }

def pop (b : Builder) : Builder := { b with tokens := b.tokens.tail }

def broken (b : Builder) : Node × Builder := (.broken, b.stop)

def emptyScalar : Node := .scalar ⟨"", .plain, none⟩

def resolveTag? (b : Builder) (handle suffix : String) : Option String :=
  if handle = "" then some suffix else (b.stems.lookup handle).map (· ++ suffix)

structure Properties where
  anchor : Option String := none
  tag : Option String := none

def Properties.isEmpty (p : Properties) : Bool := p.anchor.isNone && p.tag.isNone

def takeTag (b : Builder) (p : Properties) : Option (Properties × Builder) :=
  match b.tokens with
  | .tag handle suffix :: _ =>
    (b.resolveTag? handle suffix).map fun t => ({ p with tag := some t }, b.pop)
  | _ => some (p, b)

def takeAnchor (b : Builder) (p : Properties) : Properties × Builder :=
  match b.tokens with
  | .anchor name :: _ => ({ p with anchor := some name }, b.pop)
  | _ => (p, b)

/-- The properties from here on; there are none if the handle of the tag is unknown. -/
def properties? (b : Builder) : Option (Properties × Builder) :=
  match b.tokens with
  | .anchor _ :: _ =>
    let (p, b) := b.takeAnchor {}
    b.takeTag p
  | .tag .. :: _ => (b.takeTag {}).map fun (p, b) => b.takeAnchor p
  | _ => some ({}, b)

def nameAnchor (b : Builder) (anchor : Option String) : Option (Nat × Nat) × Builder :=
  match anchor with
  | some name =>
    let slot := b.slots.length
    (some (slot, b.count),
      { b with slots := (name, slot) :: b.slots.filter (·.1 != name), count := b.count + 1 })
  | none => (none, b)

def keep (b : Builder) (anchor : Option (Nat × Nat)) (node : Node) : Builder :=
  match anchor with
  | some (slot, order) => { b with anchored := ⟨slot, order, node⟩ :: b.anchored }
  | none => b

/-- A lone exclamation mark is no tag of a scalar. -/
def scalarTag (tag : Option String) : Option String := if tag = some "!" then none else tag

/-- After these a block entry, key or value is empty. -/
def endsEntry (isIndentless : Bool) : Token → Bool
  | .blockEntry | .blockEnd => true
  | .key | .value => isIndentless
  | _ => false

def endsPair : Token → Bool
  | .key | .value | .blockEnd => true
  | _ => false

mutual

/-- One node. A block node may be a block collection, and where it is the key or value of a block
mapping it may be a sequence that is not indented. -/
def node (isBlock isIndentless : Bool) : Nat → Builder → Node × Builder
  | 0, b => b.broken
  | fuel + 1, b => match b.tokens with
    | .alias name :: _ => match b.slots.lookup name with
      | some slot => (.alias slot, b.pop)
      | none => b.broken
    | _ => match b.properties? with
      | none => b.broken
      | some (p, b) => match b.tokens with
        | [] => b.broken
        | t :: _ =>
          let finish (anchor : Option (Nat × Nat)) (node : Node) (b : Builder) : Node × Builder :=
            (node, b.keep anchor node)
          let collection (read : Builder → Node × Builder) : Node × Builder :=
            let (anchor, b) := b.nameAnchor p.anchor
            let (n, b) := read b
            finish anchor n b
          let sequence (read : Builder → List Node × Builder) : Node × Builder :=
            collection fun b => let (items, b) := read b; (.sequence p.tag items, b)
          let mapping (read : Builder → List (Node × Node) × Builder) : Node × Builder :=
            collection fun b => let (entries, b) := read b; (.mapping p.tag entries, b)
          match t with
          | .scalar text style =>
            collection fun b => (.scalar ⟨text, style, scalarTag p.tag⟩, b.pop)
          | .flowSequenceStart => sequence fun b => flowItems true fuel b.pop
          | .flowMappingStart => mapping fun b => flowPairs true fuel b.pop
          | t =>
            if isIndentless && t = .blockEntry then sequence (blockItems true fuel)
            else if isBlock && t = .blockSequenceStart then
              sequence fun b => blockItems false fuel b.pop
            else if isBlock && t = .blockMappingStart then mapping fun b => blockPairs fuel b.pop
            else if !p.isEmpty then collection fun b => (.scalar ⟨"", .plain, p.tag⟩, b)
            else b.broken

def blockItems (isIndentless : Bool) : Nat → Builder → List Node × Builder
  | 0, b => ([.broken], b.stop)
  | fuel + 1, b => match b.tokens with
    | .blockEntry :: t :: _ =>
      let (item, b) :=
        if endsEntry isIndentless t then (emptyScalar, b.pop) else node true false fuel b.pop
      if b.isStopped then ([item], b)
      else
        let (items, b) := blockItems isIndentless fuel b
        (item :: items, b)
    | .blockEntry :: [] => ([.broken], b.stop)
    | .blockEnd :: _ => ([], if isIndentless then b else b.pop)
    | _ :: _ => if isIndentless then ([], b) else ([.broken], b.stop)
    | [] => ([.broken], b.stop)

def blockPairs : Nat → Builder → List (Node × Node) × Builder
  | 0, b => ([(.broken, .broken)], b.stop)
  | fuel + 1, b => match b.tokens with
    | .key :: t :: _ =>
      let (key, b) := if endsPair t then (emptyScalar, b.pop) else node true true fuel b.pop
      blockValue key fuel b
    | .value :: _ => ([(.broken, .broken)], b.stop)
    | .blockEnd :: _ => ([], b.pop)
    | _ => ([(.broken, .broken)], b.stop)

def blockValue (key : Node) : Nat → Builder → List (Node × Node) × Builder
  | 0, b => ([(key, .broken)], b.stop)
  | fuel + 1, b =>
    if b.isStopped then ([(key, .broken)], b)
    else
      let (value, b) := match b.tokens with
        | .value :: t :: _ =>
          if endsPair t then (emptyScalar, b.pop) else node true true fuel b.pop
        | .value :: [] | [] => b.broken
        | _ => (emptyScalar, b)
      if b.isStopped then ([(key, value)], b)
      else
        let (pairs, b) := blockPairs fuel b
        ((key, value) :: pairs, b)

/-- The items of a flow sequence from here on. An item with a key mark is a mapping of one pair. -/
def flowItems (isFirst : Bool) : Nat → Builder → List Node × Builder
  | 0, b => ([.broken], b.stop)
  | fuel + 1, b => match b.tokens with
    | .flowSequenceEnd :: _ => ([], b.pop)
    | t :: _ =>
      if !isFirst && t ≠ .flowEntry then ([.broken], b.stop)
      else
        let b := if isFirst then b else b.pop
        match b.tokens with
        | [] => ([.broken], b.stop)
        | .flowSequenceEnd :: _ => ([], b.pop)
        | t :: _ =>
          let (item, b) := if t = .key then singlePair fuel b.pop else node false false fuel b
          if b.isStopped then ([item], b)
          else
            let (items, b) := flowItems false fuel b
            (item :: items, b)
    | [] => ([.broken], b.stop)

def singlePair : Nat → Builder → Node × Builder
  | 0, b => (.mapping none [(.broken, .broken)], b.stop)
  | fuel + 1, b =>
    let (key, b) := match b.tokens with
      | [] => b.broken
      | .value :: _ | .flowEntry :: _ | .flowSequenceEnd :: _ => (emptyScalar, b.pop)
      | _ => node false false fuel b
    let (value, b) := if b.isStopped then b.broken else match b.tokens with
      | [] | .value :: [] => b.broken
      | .value :: .flowEntry :: _ | .value :: .flowSequenceEnd :: _ => (emptyScalar, b.pop)
      | .value :: _ => node false false fuel b.pop
      | _ => (emptyScalar, b)
    (.mapping none [(key, value)], b)

def flowPairs (isFirst : Bool) : Nat → Builder → List (Node × Node) × Builder
  | 0, b => ([(.broken, .broken)], b.stop)
  | fuel + 1, b => match b.tokens with
    | .flowMappingEnd :: _ => ([], b.pop)
    | t :: _ =>
      if !isFirst && t ≠ .flowEntry then ([(.broken, .broken)], b.stop)
      else
        let b := if isFirst then b else b.pop
        match b.tokens with
        | [] => ([(.broken, .broken)], b.stop)
        | .flowMappingEnd :: _ => ([], b.pop)
        | .key :: rest =>
          let (key, b) := match rest with
            | [] => b.broken
            | .value :: _ | .flowEntry :: _ | .flowMappingEnd :: _ => (emptyScalar, b.pop)
            | _ => node false false fuel b.pop
          flowValue key true fuel b
        | _ =>
          let (key, b) := node false false fuel b
          flowValue key false fuel b
    | [] => ([(.broken, .broken)], b.stop)

/-- The value of a key in a flow mapping, and the pairs after it. A key without a mark has none. -/
def flowValue (key : Node) (isMarked : Bool) : Nat → Builder → List (Node × Node) × Builder
  | 0, b => ([(key, .broken)], b.stop)
  | fuel + 1, b =>
    if b.isStopped then ([(key, .broken)], b)
    else
      let (value, b) := match b.tokens with
        | [] => b.broken
        | .value :: rest =>
          if !isMarked then (emptyScalar, b)
          else match rest with
            | [] => b.broken
            | .flowEntry :: _ | .flowMappingEnd :: _ => (emptyScalar, b.pop)
            | _ => node false false fuel b.pop
        | _ => (emptyScalar, b)
      if b.isStopped then ([(key, value)], b)
      else
        let (pairs, b) := flowPairs false fuel b
        ((key, value) :: pairs, b)

end

def standardStems : List (String × String) := [("!", "!"), ("!!", "tag:yaml.org,2002:")]

/-- The directives before a document: at most one version, which has to be 1.1 or 1.2, and at most
one stem for a handle. The tokens after them are left. -/
def directives? : List Token → Bool → List (String × String) →
    Option (List (String × String) × List Token)
  | .versionDirective major minor :: ts, hasVersion, stems =>
    if hasVersion ∨ major ≠ 1 ∨ (minor ≠ 1 ∧ minor ≠ 2) then none else directives? ts true stems
  | .tagDirective handle stem :: ts, hasVersion, stems =>
    if stems.any (·.1 = handle) then none
    else directives? ts hasVersion (stems ++ [(handle, stem)])
  | ts, _, stems => some (stems, ts)

/-- The node of each slot: of the anchors with one slot the last. -/
def anchors (b : Builder) : Anchors :=
  let latest (slot : Nat) : List Anchored := b.anchored.filter (·.slot = slot)
  b.anchored.filterMap fun a =>
    if (latest a.slot).all (·.order ≤ a.order) then some (a.slot, a.node) else none

/-- The document after its root has been built. Nothing follows it but ends of documents and the end
of the stream. -/
def document (root : Node) (b : Builder) : Document :=
  let isWhole := match b.tokens with
    | [.streamEnd] => true
    | .documentEnd :: ts => ts.dropWhile (· = .documentEnd) = [.streamEnd]
    | _ => false
  ⟨root, b.anchors, isWhole && !b.isStopped⟩

end Builder

def Document.unreadable : Document := ⟨.broken, [], false⟩

def Document.ofTokens (ts : List Token) : Document :=
  match ts with
  | [] => .unreadable
  | .streamEnd :: _ => ⟨.nothing, [], true⟩
  | t :: _ =>
    let isImplicit := match t with
      | .versionDirective .. | .tagDirective .. | .documentStart => false
      | _ => true
    if isImplicit then
      let (root, b) := Builder.node true false (2 * ts.length + 2)
        { tokens := ts, stems := Builder.standardStems }
      b.document root
    else match Builder.directives? ts false [] with
      | some (stems, .documentStart :: ts) =>
        let b : Builder := { tokens := ts, stems := stems ++ Builder.standardStems }
        match ts with
        | .versionDirective .. :: _ | .tagDirective .. :: _ | .documentStart :: _
        | .documentEnd :: _ | .streamEnd :: _ => b.document Builder.emptyScalar
        | _ =>
          let (root, b) := Builder.node true false (2 * ts.length + 2) b
          b.document root
      | _ => .unreadable

def Document.ofText (s : String) : Document := .ofTokens (Token.ofText s)

end EdgeRoutes.Yaml

namespace EdgeRoutes.Codec

/-- What stands before an unreadable place is read first. -/
def ofYaml {α : Type} (c : Codec α) (s : String) : Except Yaml.Failure α :=
  let d := Yaml.Document.ofText s
  match c.readYaml d.anchors d.root with
  | .ok a => if d.isWhole then .ok a else .error .unfit
  | .error e => .error e

end EdgeRoutes.Codec
