import EdgeRoutes.Codec.Record
import EdgeRoutes.Proofs.Codec.Faults
import Mathlib.Data.List.Forall2

/-!
Documents on the wire, JSON values and YAML nodes alike. A record that was read from a document has
in each of its fields what was read from the entry of that field, and a list has the items of the
document in their order.
-/

namespace EdgeRoutes

variable {ρ α β γ δ ε : Type}

def Reading.value? : Reading ε α → Option α
  | .value a => some a
  | .faults _ _ => none

theorem Reading.settle_eq_ok {r : Reading ε α} {a : α} : r.settle = .ok a ↔ r.value? = some a := by
  cases r <;> simp [settle, value?]

theorem Reading.value?_apply {f : Reading ε (α → β)} {r : Reading ε α} {b : β} :
    (f.apply r).value? = some b ↔ ∃ g a, f.value? = some g ∧ r.value? = some a ∧ b = g a := by
  cases f <;> cases r <;> simp [apply, value?, eq_comm]

/-- What a record is read from, in either format. -/
inductive Run where
  | json (src : Source Json Failure)
  | yaml (anchors : Yaml.Anchors) (src : Source Yaml.Node Yaml.Failure)

namespace Run

def fields? (run : Run) (fs : Fields ρ α) : Option α :=
  match run with
  | json src => (fs.read src).value?
  | yaml anchors src => (fs.readYaml anchors src).value?

def field? (run : Run) (s : Slot β) (position : Nat) (name : String) : Option β :=
  match run with
  | json src => (s.readFrom src s.read position name).value?
  | yaml anchors src => (s.readFrom src (s.readYaml anchors) position name).value?

theorem fields?_build {run : Run} {a b : α} :
    run.fields? (Fields.build a : Fields ρ α) = some b ↔ b = a := by
  cases run <;> simp [fields?, Fields.build, Reading.value?, eq_comm]

theorem fields?_field {run : Run} {fs : Fields ρ (β → α)} {name : String} {get : ρ → β} {s : Slot β}
    {a : α} :
    run.fields? (fs.field name get s) = some a ↔
      ∃ g b, run.fields? fs = some g ∧ run.field? s fs.names.length name = some b ∧ a = g b := by
  cases run <;> exact Reading.value?_apply

end Run

namespace Fields

/-- Whatever is read from the fields has a property, which may depend on what it is read from. -/
def Ensures (fs : Fields ρ α) (p : Run → α → Prop) : Prop :=
  ∀ run a, run.fields? fs = some a → p run a

theorem Ensures.build {a : α} {p : Run → α → Prop} (h : ∀ run, p run a) :
    (Fields.build a : Fields ρ α).Ensures p := by
  intro run b hb
  rw [Run.fields?_build.1 hb]
  exact h run

theorem Ensures.field {fs : Fields ρ (β → α)} {name : String} {get : ρ → β} {s : Slot β}
    {p : Run → α → Prop}
    (h : fs.Ensures fun run g => ∀ b, run.field? s fs.names.length name = some b → p run (g b)) :
    (fs.field name get s).Ensures p := by
  intro run a ha
  obtain ⟨g, b, hg, hb, rfl⟩ := Run.fields?_field.1 ha
  exact h run g hg b hb

def Declares (fs : Fields ρ ρ) (name : String) (s : Slot β) (get : ρ → β) : Prop :=
  fs.Ensures fun run r => ∃ position, run.field? s position name = some (get r)

end Fields

/-- A part of a document on the wire. -/
inductive Wire where
  | json (j : Json)
  | yaml (anchors : Yaml.Anchors) (node : Yaml.Node)

namespace Wire

def read (c : Codec α) : Wire → Option α
  | json j => (c.read j).toOption
  | yaml anchors node => (c.readYaml anchors node).toOption

def readSlot (s : Slot α) : Wire → Option α
  | json j => (s.read j).toOption
  | yaml anchors node => (s.readYaml anchors node).toOption

/-- The document gives a value to a field of a record: by name in an object or a mapping, by
position in an array. -/
inductive HasEntry (fs : Fields ρ α) (name : String) : Wire → Wire → Prop
  | object {fields : List (String × Json)} {v : Json} (h : fields.lookup name = some v) :
    HasEntry fs name (json (.object fields)) (json v)
  | array {items : List Json} {v : Json} (h : items[fs.names.idxOf name]? = some v) :
    HasEntry fs name (json (.array items)) (json v)
  | mapping {anchors : Yaml.Anchors} {node : Yaml.Node} {tag : Option String}
    {entries : List (Yaml.Node × Yaml.Node)} {key v : Yaml.Node}
    (hnode : node.resolve anchors = .mapping tag entries) (hmem : (key, v) ∈ entries)
    (hkey : Codec.scalarText anchors key = .ok name) :
    HasEntry fs name (yaml anchors node) (yaml anchors v)

def items? : Wire → Option (List Wire)
  | json (.array items) => some (items.map json)
  | json _ => none
  | yaml anchors node => match node.resolve anchors with
    | .sequence _ items => some (items.map (yaml anchors))
    | _ => none

def text? : Wire → Option String
  | json (.text s) => some s
  | json _ => none
  | yaml anchors node => (Codec.scalarText anchors node).toOption

def IsAbsent : Wire → Prop
  | json j => j = .null
  | yaml anchors node => Slot.isAbsent anchors node = .ok true

end Wire

theorem toOption_eq_some {x : Except ε α} {a : α} : x.toOption = some a ↔ x = .ok a := by
  cases x <;> simp [Except.toOption]

theorem map_eq_ok {f : α → β} {x : Except ε α} {b : β} :
    x.map f = .ok b ↔ ∃ a, x = .ok a ∧ b = f a := by
  cases x <;> simp [Except.map, eq_comm]

theorem bind_eq_ok {x : Except ε α} {f : α → Except ε β} {b : β} :
    x >>= f = .ok b ↔ ∃ a, x = .ok a ∧ f a = .ok b := by
  cases x <;> simp [bind, Except.bind]

theorem mapM_eq_ok {read : δ → Except ε α} {ds : List δ} {as : List α} :
    ds.mapM read = .ok as ↔ List.Forall₂ (fun d a => read d = .ok a) ds as := by
  induction ds generalizing as with
  | nil =>
    cases as <;> simp [pure, Except.pure]
  | cons d ds ih =>
    rw [List.mapM_cons]
    constructor
    · intro h
      obtain ⟨a, ha, h⟩ := bind_eq_ok.1 h
      obtain ⟨bs, hbs, h⟩ := bind_eq_ok.1 h
      cases h
      exact .cons ha (ih.1 hbs)
    · rintro (_ | ⟨ha, hds⟩)
      rw [ha, ih.2 hds]
      rfl

theorem Slot.readOption_of_ne_null {c : Codec α} {j : Json} (h : j ≠ .null) :
    Slot.readOption c j = (c.read j).map some := by
  cases j with
  | null => exact absurd rfl h
  | bool | int | float | text | array | object => rfl

theorem Codec.scalarText_eq_ok {anchors : Yaml.Anchors} {node : Yaml.Node} {s : String}
    (h : scalarText anchors node = .ok s) : ∃ t, node.resolve anchors = .scalar t ∧ t.text = s := by
  unfold scalarText at h
  split at h
  · next t hn =>
    cases h
    exact ⟨t, hn, rfl⟩
  · cases h

theorem Slot.value?_readFrom {src : Source δ ε} {s : Slot β} {read : δ → Except ε β}
    {position : Nat} {name : String} {p : Nat} {d : δ} (h : src.find name = [(p, d)]) :
    (s.readFrom src read position name).value? = (read d).toOption := by
  unfold readFrom Source.read?
  rw [h]
  cases hd : read d <;> cases src.repeated <;>
    simp [hd, Source.readAll, Reading.value?, Except.toOption]

/-- Where entries must not be repeated, a field that was read has a single one. -/
theorem Slot.find_of_value?_readFrom {src : Source δ ε} {s : Slot β} {read : δ → Except ε β}
    {position : Nat} {name : String} {b : β} {e : ε} (hrep : src.repeated = some e)
    (h : (s.readFrom src read position name).value? = some b) {q : Nat × δ}
    (hq : q ∈ src.find name) :
    src.find name = [q] := by
  unfold readFrom Source.read? at h
  rw [hrep] at h
  cases hf : src.find name with
  | nil =>
    rw [hf] at hq
    cases hq
  | cons first rest =>
    rw [hf] at h hq
    cases rest with
    | nil => rw [List.mem_singleton.1 hq]
    | cons again rest =>
      cases hd : read first.2 <;> simp [hd, Reading.value?] at h

theorem Fields.exists_mem_keyed {anchors : Yaml.Anchors} {place : Nat}
    {nodes : List (Yaml.Node × Yaml.Node)} (h : (keyed anchors place nodes).2 = none)
    {key v : Yaml.Node} {name : String} (hmem : (key, v) ∈ nodes)
    (hkey : Codec.scalarText anchors key = .ok name) :
    ∃ p, (p, name, v) ∈ (keyed anchors place nodes).1 := by
  induction nodes generalizing place with
  | nil => cases hmem
  | cons node nodes ih =>
    rw [keyed] at h ⊢
    cases hn : Codec.scalarText anchors node.1 with
    | error e => simp [hn] at h
    | ok other =>
      simp only [hn] at h ⊢
      obtain rfl | hmem := List.mem_cons.1 hmem
      · rw [hkey] at hn
        cases hn
        exact ⟨place, List.mem_cons_self⟩
      · obtain ⟨p, hp⟩ := ih h hmem
        exact ⟨p, List.mem_cons_of_mem _ hp⟩

def Fields.ofMapping (repeated : Option Yaml.Failure) (entries : List (Nat × String × Yaml.Node)) :
    Source Yaml.Node Yaml.Failure where
  find name := (entries.filter (·.2.1 = name)).map fun e => (e.1, e.2.2)
  missing _ _ := .unfit
  isList := false
  repeated := repeated

theorem Fields.value?_withFault {fault : Option (Fault ε)} {r : Reading ε α} {a : α} :
    (withFault fault r).value? = some a ↔ fault = none ∧ r.value? = some a := by
  cases fault <;> cases r <;> simp [withFault, Reading.value?]

namespace Wire

variable {fs : Fields ρ ρ} {name : String} {s : Slot β} {get : ρ → β}

/-- A record that was read has in a field what was read from the entry of the field. -/
theorem readSlot_of_hasEntry (hd : fs.Declares name s get) {record : String} {w v : Wire} {r : ρ}
    (hr : w.read (Codec.record record fs) = some r) (he : w.HasEntry fs name v) :
    v.readSlot s = some (get r) := by
  cases he with
  | @object fields v h =>
    have hfind : (fs.ofObject fields).find name = [(fs.rank name, v)] := by
      simp [Fields.ofObject, h]
    have hval : (Run.json (fs.ofObject fields)).fields? fs = some r :=
      Reading.settle_eq_ok.1 (toOption_eq_some.1 hr)
    obtain ⟨position, hfield⟩ := hd _ _ hval
    rwa [Run.field?, Slot.value?_readFrom hfind] at hfield
  | @array items v h =>
    have hfind : (Fields.ofArray record fs items).find name = [(fs.names.idxOf name, v)] := by
      simp [Fields.ofArray, h]
    have hval : (Run.json (Fields.ofArray record fs items)).fields? fs = some r := by
      have hok := toOption_eq_some.1 hr
      simp only [Codec.record] at hok
      cases hs : (fs.read (Fields.ofArray record fs items)).settle with
      | error e => simp [hs] at hok
      | ok a =>
        rw [hs] at hok
        dsimp only at hok
        split at hok
        · cases hok
        · cases hok
          exact Reading.settle_eq_ok.1 hs
    obtain ⟨position, hfield⟩ := hd _ _ hval
    rwa [Run.field?, Slot.value?_readFrom hfind] at hfield
  | @mapping anchors node tag entries key v hnode hmem hkey =>
    have hok : fs.readNode (some .unfit) anchors node = .ok r := toOption_eq_some.1 hr
    rw [Fields.readNode, hnode] at hok
    obtain ⟨hkeys, hval⟩ := Fields.value?_withFault.1 (Reading.settle_eq_ok.1 hok)
    obtain ⟨-, hval⟩ := Fields.value?_withFault.1 hval
    obtain ⟨p, hp⟩ := Fields.exists_mem_keyed hkeys hmem hkey
    let src := Fields.ofMapping (some .unfit) (Fields.keyed anchors 0 entries).1
    have hentry : (p, v) ∈ src.find name :=
      List.mem_map.2 ⟨(p, name, v), List.mem_filter.2 ⟨hp, by simp⟩, rfl⟩
    obtain ⟨position, hfield⟩ := hd (.yaml anchors src) r hval
    have hfind := Slot.find_of_value?_readFrom rfl hfield hentry
    rwa [Run.field?, Slot.value?_readFrom hfind] at hfield

theorem readSlot_optional {c : Codec α} {w : Wire} {b : Option α}
    (h : w.readSlot (Slot.optional c) = some b) :
    w.IsAbsent ∨ ∃ a, b = some a ∧ w.read c = some a := by
  cases w with
  | json j =>
    have hok : Slot.readOption c j = .ok b := toOption_eq_some.1 h
    by_cases hj : j = .null
    · exact .inl hj
    · rw [Slot.readOption_of_ne_null hj] at hok
      obtain ⟨a, ha, rfl⟩ := map_eq_ok.1 hok
      exact .inr ⟨a, rfl, toOption_eq_some.2 ha⟩
  | yaml anchors node =>
    have hok : Slot.readYamlOption c anchors node = .ok b := toOption_eq_some.1 h
    unfold Slot.readYamlOption at hok
    cases hn : Slot.isAbsent anchors node with
    | error e =>
      rw [hn] at hok
      cases hok
    | ok absent =>
      rw [hn] at hok
      cases absent with
      | true => exact .inl hn
      | false =>
        obtain ⟨a, ha, rfl⟩ := map_eq_ok.1 hok
        exact .inr ⟨a, rfl, toOption_eq_some.2 ha⟩

theorem HasEntry.not_isAbsent {fs : Fields ρ α} {name : String} {w v : Wire}
    (h : w.HasEntry fs name v) : ¬ w.IsAbsent := by
  intro hw
  cases h with
  | object | array => cases hw
  | mapping hnode =>
    rw [IsAbsent, Slot.isAbsent, hnode] at hw
    cases hw

theorem IsAbsent.text? {w : Wire} (h : w.IsAbsent) {s : String} (hs : w.text? = some s) :
    s = "" ∨ Yaml.isNull s = true := by
  cases w with
  | json j =>
    rw [IsAbsent] at h
    rw [h] at hs
    cases hs
  | yaml anchors node =>
    obtain ⟨t, hn, rfl⟩ := Codec.scalarText_eq_ok (toOption_eq_some.1 hs)
    have habsent : Slot.isAbsent anchors node = .ok true := h
    rw [Slot.isAbsent, hn] at habsent
    dsimp only at habsent
    split at habsent
    · cases habsent
    · split at habsent
      · simpa using habsent
      · split at habsent
        · split at habsent
          · next hnull => exact .inr hnull
          · cases habsent
        · cases habsent

theorem read_duration {w : Wire} {s : String} {d : Duration} (hs : w.text? = some s)
    (h : w.read Codec.duration = some d) : Duration.ofText s = .ok d := by
  cases w with
  | json j =>
    have hok := toOption_eq_some.1 h
    cases j with
    | text t =>
      cases hs
      simp only [Codec.duration] at hok
      split at hok
      · next hd =>
        cases hok
        exact hd
      · cases hok
      · cases hok
    | null | bool | int | float | array | object => cases hs
  | yaml anchors node =>
    have htext : Codec.scalarText anchors node = .ok s := toOption_eq_some.1 hs
    have hok := toOption_eq_some.1 h
    simp only [Codec.duration, htext, bind, Except.bind] at hok
    split at hok
    · next hd =>
      cases hok
      exact hd
    · cases hok
    · cases hok

theorem forall₂_read_list {c : Codec α} {w : Wire} {items : List Wire} {as : List α}
    (hw : w.items? = some items) (h : w.read (Codec.list c) = some as) :
    List.Forall₂ (fun v a => v.read c = some a) items as := by
  cases w with
  | json j =>
    cases j with
    | array js =>
      cases hw
      rw [List.forall₂_map_left_iff]
      exact (mapM_eq_ok.1 (toOption_eq_some.1 h)).imp fun _ _ => toOption_eq_some.2
    | null | bool | int | float | text | object => cases hw
  | yaml anchors node =>
    unfold items? at hw
    dsimp only at hw
    split at hw
    · next tag nodes hn =>
      cases hw
      have hok : (Codec.list c).readYaml anchors node = .ok as := toOption_eq_some.1 h
      simp only [Codec.list, hn] at hok
      rw [List.forall₂_map_left_iff]
      exact (mapM_eq_ok.1 hok).imp fun _ _ => toOption_eq_some.2
    · cases hw

end Wire

end EdgeRoutes
