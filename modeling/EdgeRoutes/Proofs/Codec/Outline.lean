import EdgeRoutes.Proofs.Codec.Wire
import EdgeRoutes.Proofs.Table
import EdgeRoutes.Resource.Definition
import Mathlib.Data.List.Nodup
import Mathlib.Logic.Relation

/-!
Outlines of documents: where in a document records stand, which fields they know, and what a field
may be given instead of being left out. An edit changes a document at one of these places, in a way
that reading overlooks: it leaves the value, or the failure, as it was.
-/

namespace EdgeRoutes

variable {ρ α β : Type}

structure Outline.PartOf (τ : Type) where
  name : String
  /-- What the field may be given instead of being left out. -/
  implied : Option Json
  outline : τ

/-- The records in a document, down to the values that are read as a whole. -/
inductive Outline where
  | whole
  | list (items : Outline)
  | table (values : Outline)
  | record (parts : List (Outline.PartOf Outline))

namespace Outline

abbrev Part := PartOf Outline

def PartOf.required (name : String) (outline : Outline := .whole) : Part := ⟨name, none, outline⟩

/-- A field that may be null instead of being left out. -/
def PartOf.optional (name : String) (outline : Outline := .whole) : Part :=
  ⟨name, some .null, outline⟩

def PartOf.defaulted (name : String) (default : Json) (outline : Outline := .whole) : Part :=
  ⟨name, some default, outline⟩

def AgreeExcept (name : String) (fields fields' : List (String × Json)) : Prop :=
  ∀ other, other ≠ name → fields.lookup other = fields'.lookup other

theorem agreeExcept_add (name : String) (v : Json) (fields : List (String × Json)) :
    AgreeExcept name fields ((name, v) :: fields) :=
  fun _ h => (Entries.lookup_cons_of_ne h v fields).symm

theorem agreeExcept_change (name : String) (v v' : Json) (fields : List (String × Json)) :
    AgreeExcept name ((name, v) :: fields) ((name, v') :: fields) :=
  fun _ h => (Entries.lookup_cons_of_ne h v fields).trans
    (Entries.lookup_cons_of_ne h v' fields).symm

/-- One change to a document: in a record, or in a part of the document. -/
inductive Edit : Outline → Json → Json → Prop
  /-- A field that the record doesn't know is added, changed or removed. -/
  | unknown {parts : List Part} {name : String} {fields fields' : List (String × Json)}
    (unknown : ∀ part ∈ parts, part.name ≠ name) (agree : AgreeExcept name fields fields') :
    Edit (.record parts) (.object fields) (.object fields')
  /-- A field that was left out is given what it stands for then. -/
  | spellOut {parts : List Part} {part : Part} {v : Json} {fields fields' : List (String × Json)}
    (mem : part ∈ parts) (implied : part.implied = some v) (before : fields.lookup part.name = none)
    (after : fields'.lookup part.name = some v) (agree : AgreeExcept part.name fields fields') :
    Edit (.record parts) (.object fields) (.object fields')
  | field {parts : List Part} {part : Part} {v v' : Json} {fields fields' : List (String × Json)}
    (mem : part ∈ parts) (before : fields.lookup part.name = some v)
    (after : fields'.lookup part.name = some v') (agree : AgreeExcept part.name fields fields')
    (inside : Edit part.outline v v') : Edit (.record parts) (.object fields) (.object fields')
  /-- A record may stand as an array of its fields, and a field in it may be edited. -/
  | position {parts : List Part} {part : Part} {items : List Json} {n : Nat} {v v' : Json}
    (declared : parts[n]? = some part) (before : items[n]? = some v)
    (inside : Edit part.outline v v') :
    Edit (.record parts) (.array items) (.array (items.set n v'))
  | item {outline : Outline} {items : List Json} {n : Nat} {v v' : Json}
    (before : items[n]? = some v) (inside : Edit outline v v') :
    Edit (.list outline) (.array items) (.array (items.set n v'))
  | entry {outline : Outline} {entries : List (String × Json)} {n : Nat} {key : String}
    {v v' : Json} (before : entries[n]? = some (key, v)) (inside : Edit outline v v') :
    Edit (.table outline) (.object entries) (.object (entries.set n (key, v')))

/-- Any number of edits, in either direction. -/
def Edits (outline : Outline) : Json → Json → Prop := Relation.EqvGen outline.Edit

theorem Edits.field {parts : List Part} {part : Part} {v v' : Json} (mem : part ∈ parts)
    (h : part.outline.Edits v v') (rest : List (String × Json)) :
    Edits (.record parts) (.object ((part.name, v) :: rest))
      (.object ((part.name, v') :: rest)) := by
  induction h with
  | rel v v' edit =>
    exact .rel _ _ (.field mem List.lookup_cons_self List.lookup_cons_self
      (agreeExcept_change _ _ _ _) edit)
  | refl v => exact .refl _
  | symm v v' _ ih => exact .symm _ _ ih
  | trans v v' v'' _ _ ih ih' => exact .trans _ _ _ ih ih'

theorem Edit.ne_null {outline : Outline} {j j' : Json} (h : outline.Edit j j') :
    j ≠ .null ∧ j' ≠ .null := by
  cases h <;> exact ⟨nofun, nofun⟩

end Outline

open Outline (Part Edit Edits AgreeExcept)

/-! Records -/

namespace Source

variable {src src' : Source Json Failure} {part : Part}

inductive Alike (src src' : Source Json Failure) (part : Part) : Prop
  | same (h : src.find part.name = src'.find part.name)
  | spelledOut {p : Nat} {v : Json} (implied : part.implied = some v) (object : src.isList = false)
    (before : src.find part.name = []) (after : src'.find part.name = [(p, v)])
  | inside {p : Nat} {v v' : Json} (before : src.find part.name = [(p, v)])
    (after : src'.find part.name = [(p, v')]) (edit : part.outline.Edit v v')

structure Matches (src src' : Source Json Failure) (parts : List Part) : Prop where
  missing_eq : src.missing = src'.missing
  isList_eq : src.isList = src'.isList
  repeated_eq : src.repeated = src'.repeated
  alike : ∀ part ∈ parts, src.Alike src' part

theorem Matches.mono {parts parts' : List Part} (h : src.Matches src' parts)
    (hsub : ∀ part ∈ parts', part ∈ parts) : src.Matches src' parts' where
  missing_eq := h.missing_eq
  isList_eq := h.isList_eq
  repeated_eq := h.repeated_eq
  alike part hpart := h.alike part (hsub part hpart)

end Source

/-- Reading overlooks the edits of an outline. -/
class Codec.Overlooks (c : Codec α) (outline : outParam Outline) : Prop where
  read_eq : ∀ j j', outline.Edit j j' → c.read j = c.read j'

/-- Reading a field overlooks edits in it, and whether it is spelled out. -/
class Slot.Overlooks (s : Slot β) (implied : outParam (Option Json)) (outline : outParam Outline) :
    Prop where
  read_implied : ∀ v, implied = some v → ∃ b, s.whenAbsent = some b ∧ s.read v = .ok b
  read_eq : ∀ v v', outline.Edit v v' → s.read v = s.read v'

class Fields.Overlooks (fs : Fields ρ α) (parts : outParam (List Part)) : Prop where
  names_eq : fs.names = parts.map (·.name)
  read_eq : ∀ src src' : Source Json Failure, src.Matches src' parts → fs.read src = fs.read src'

namespace Slot

variable {s : Slot β} {part : Part} {src src' : Source Json Failure}

theorem readFrom_of_find {p : Nat} {v : Json} {position : Nat} {name : String}
    (h : src.find name = [(p, v)]) :
    s.readFrom src s.read position name = match s.read v with
      | .ok b => .value b
      | .error e => .faults ⟨some p, e⟩ [] := by
  unfold readFrom
  rw [read?_of_find h]
  cases s.read v <;> rfl

theorem readFrom_of_find_nil {position : Nat} {name : String} (h : src.find name = [])
    (hobject : src.isList = false) {b : β} (habsent : s.whenAbsent = some b) :
    s.readFrom src s.read position name = .value b := by
  unfold readFrom
  rw [read?_of_find_nil h, habsent, hobject]
  rfl

theorem readFrom_congr (hfind : src.find part.name = src'.find part.name)
    (hmissing : src.missing = src'.missing) (hlist : src.isList = src'.isList)
    (hrepeated : src.repeated = src'.repeated) (position : Nat) :
    s.readFrom src s.read position part.name = s.readFrom src' s.read position part.name := by
  unfold readFrom Source.read?
  rw [hfind, hmissing, hlist, hrepeated]

theorem Overlooks.readFrom_eq (part : Part) [hs : s.Overlooks part.implied part.outline]
    {parts : List Part} (h : src.Matches src' parts) (hpart : part ∈ parts) (position : Nat) :
    s.readFrom src s.read position part.name = s.readFrom src' s.read position part.name := by
  cases h.alike part hpart with
  | same hfind => exact readFrom_congr hfind h.missing_eq h.isList_eq h.repeated_eq position
  | spelledOut implied object before after =>
    obtain ⟨b, habsent, hread⟩ := hs.read_implied _ implied
    rw [readFrom_of_find_nil before object habsent, readFrom_of_find after, hread]
  | inside before after edit =>
    rw [readFrom_of_find before, readFrom_of_find after, hs.read_eq _ _ edit]

variable {c : Codec β} {outline : Outline}

instance [hc : c.Overlooks outline] : (required c).Overlooks none outline where
  read_implied := nofun
  read_eq := hc.read_eq

instance [hc : c.Overlooks outline] : (optional c).Overlooks (some .null) outline where
  read_implied v hv := by
    cases hv
    exact ⟨none, rfl, rfl⟩
  read_eq v v' h := by
    change readOption c v = readOption c v'
    rw [readOption_of_ne_null h.ne_null.1, readOption_of_ne_null h.ne_null.2, hc.read_eq v v' h]

instance [hs : (optional c).Overlooks (some .null) outline] :
    (optionalInMap c).Overlooks (some .null) outline where
  read_implied := hs.read_implied
  read_eq := hs.read_eq

theorem overlooks_shown [hc : c.Overlooks outline] {default : β}
    (hd : c.read (c.write default) = .ok default) :
    (shown c default).Overlooks (some (c.write default)) outline where
  read_implied v hv := by
    cases hv
    exact ⟨default, rfl, hd⟩
  read_eq := hc.read_eq

theorem overlooks_hidden [hc : c.Overlooks outline] {default : β} {isDefault : β → Bool}
    (hd : c.read (c.write default) = .ok default) :
    (hidden c default isDefault).Overlooks (some (c.write default)) outline where
  read_implied v hv := by
    cases hv
    exact ⟨default, rfl, hd⟩
  read_eq := hc.read_eq

instance {implied : Option Json} [hs : s.Overlooks implied outline] (description : String) :
    (s.described description).Overlooks implied outline where
  read_implied := hs.read_implied
  read_eq := hs.read_eq

end Slot

namespace Fields

instance (a : α) : (build a : Fields ρ α).Overlooks [] where
  names_eq := rfl
  read_eq _ _ _ := rfl

instance {fs : Fields ρ (β → α)} {parts : List Part} [hfs : fs.Overlooks parts] (name : String)
    (get : ρ → β) {s : Slot β} {implied : Option Json} {outline : Outline}
    [hs : s.Overlooks implied outline] :
    (fs.field name get s).Overlooks (parts ++ [⟨name, implied, outline⟩]) where
  names_eq := by
    rw [List.map_append, ← hfs.names_eq]
    rfl
  read_eq src src' h := by
    have hfront : fs.read src = fs.read src' :=
      hfs.read_eq src src' (h.mono fun part hpart => List.mem_append_left _ hpart)
    have hlast : s.readFrom src s.read fs.names.length name =
        s.readFrom src' s.read fs.names.length name :=
      Slot.Overlooks.readFrom_eq ⟨name, implied, outline⟩ h
        (List.mem_append_right _ (List.mem_singleton_self _)) fs.names.length
    change (fs.read src).apply _ = (fs.read src').apply _
    rw [hfront, hlast]

variable {fs : Fields ρ α} {parts : List Part}

theorem find_ofObject (fs : Fields ρ α) (fields : List (String × Json)) (name : String) :
    (fs.ofObject fields).find name = ((fields.lookup name).map (fs.rank name, ·)).toList := rfl

theorem find_ofObject_congr {fields fields' : List (String × Json)} {name : String}
    (h : fields.lookup name = fields'.lookup name) :
    (fs.ofObject fields).find name = (fs.ofObject fields').find name := by
  rw [find_ofObject, find_ofObject, h]

theorem find_ofObject_of_lookup {fields : List (String × Json)} {name : String} {v : Json}
    (h : fields.lookup name = some v) : (fs.ofObject fields).find name = [(fs.rank name, v)] := by
  rw [find_ofObject, h]
  rfl

theorem eq_of_name_eq (hnodup : (parts.map (·.name)).Nodup) {p q : Part} (hp : p ∈ parts)
    (hq : q ∈ parts) (h : p.name = q.name) : p = q :=
  List.inj_on_of_nodup_map hnodup hp hq h

/-- An edit of an object changes at most what one field is given. -/
theorem matches_ofObject (hnodup : (parts.map (·.name)).Nodup)
    {fields fields' : List (String × Json)}
    (h : Edit (.record parts) (.object fields) (.object fields')) :
    (fs.ofObject fields).Matches (fs.ofObject fields') parts where
  missing_eq := rfl
  isList_eq := rfl
  repeated_eq := rfl
  alike part hpart := by
    cases h with
    | unknown unknown agree => exact .same (find_ofObject_congr (agree _ (unknown part hpart)))
    | @spellOut _ edited v _ _ mem implied before after agree =>
      by_cases hname : part.name = edited.name
      · obtain rfl := eq_of_name_eq hnodup hpart mem hname
        refine .spelledOut implied rfl ?_ (find_ofObject_of_lookup after)
        rw [find_ofObject, before]
        rfl
      · exact .same (find_ofObject_congr (agree _ hname))
    | @field _ edited v v' _ _ mem before after agree inside =>
      by_cases hname : part.name = edited.name
      · obtain rfl := eq_of_name_eq hnodup hpart mem hname
        exact .inside (find_ofObject_of_lookup before) (find_ofObject_of_lookup after) inside
      · exact .same (find_ofObject_congr (agree _ hname))

theorem find_ofArray (record : String) (fs : Fields ρ α) (items : List Json) (name : String) :
    (ofArray record fs items).find name =
      (items[fs.names.idxOf name]?.map (fs.names.idxOf name, ·)).toList := rfl

theorem Overlooks.idxOf_names [hfs : fs.Overlooks parts] (hnodup : (parts.map (·.name)).Nodup)
    {n : Nat} {part : Part} (h : parts[n]? = some part) : fs.names.idxOf part.name = n := by
  have hname : (parts.map (·.name))[n]? = some part.name := by
    rw [List.getElem?_map, h, Option.map_some]
  obtain ⟨hn, hget⟩ := List.getElem?_eq_some_iff.1 hname
  rw [hfs.names_eq, ← hget]
  exact hnodup.idxOf_getElem n hn

theorem matches_ofArray [hfs : fs.Overlooks parts] (hnodup : (parts.map (·.name)).Nodup)
    (record : String) {items : List Json} {n : Nat} {edited : Part} {v v' : Json}
    (declared : parts[n]? = some edited) (before : items[n]? = some v)
    (inside : edited.outline.Edit v v') :
    (ofArray record fs items).Matches (ofArray record fs (items.set n v')) parts where
  missing_eq := rfl
  isList_eq := rfl
  repeated_eq := rfl
  alike part hpart := by
    have hplace := hfs.idxOf_names hnodup declared
    by_cases hname : part.name = edited.name
    · obtain rfl := eq_of_name_eq hnodup hpart (List.mem_of_getElem? declared) hname
      have hn : n < items.length := (List.getElem?_eq_some_iff.1 before).1
      refine .inside (p := n) ?_ ?_ inside
      · rw [find_ofArray, hplace, before]
        rfl
      · rw [find_ofArray, hplace, List.getElem?_set_self hn]
        rfl
    · have hne : n ≠ fs.names.idxOf part.name := by
        rintro rfl
        have hmem : part.name ∈ fs.names := hfs.names_eq ▸ List.mem_map_of_mem hpart
        exact hname ((List.idxOf_inj hmem).1 hplace.symm)
      exact .same (by rw [find_ofArray, find_ofArray, List.getElem?_set_ne hne])

end Fields

/-! Codecs -/

namespace Codec

theorem overlooks_whole (c : Codec α) : c.Overlooks .whole := ⟨nofun⟩

instance : text.Overlooks .whole := overlooks_whole _

instance : boolean.Overlooks .whole := overlooks_whole _

instance (range : IntRange) (format : String) : (integer range format).Overlooks .whole :=
  overlooks_whole _

instance : duration.Overlooks .whole := overlooks_whole _

instance : timestamp.Overlooks .whole := overlooks_whole _

instance : port.Overlooks .whole := overlooks_whole _

instance (variants : List (String × α)) (name : α → String) :
    (choice variants name).Overlooks .whole := overlooks_whole _

variable {c : Codec α} {outline : Outline}

instance [hc : c.Overlooks outline] (description : String) :
    (c.described description).Overlooks outline where
  read_eq := hc.read_eq

theorem mapM_set {δ ε : Type} {read : δ → Except ε α} {ds : List δ} {n : Nat} {d d' : δ}
    (h : ds[n]? = some d) (hread : read d = read d') : ds.mapM read = (ds.set n d').mapM read := by
  induction ds generalizing n with
  | nil => cases h
  | cons first ds ih =>
    cases n with
    | zero =>
      cases h
      rw [List.set_cons_zero, List.mapM_cons, List.mapM_cons, hread]
    | succ n =>
      rw [List.set_cons_succ, List.mapM_cons, List.mapM_cons, ih h]

instance [hc : c.Overlooks outline] : (list c).Overlooks (.list outline) where
  read_eq j j' h := by
    cases h with
    | item before inside => exact mapM_set before (hc.read_eq _ _ inside)

instance [hc : c.Overlooks outline] : (table c).Overlooks (.table outline) where
  read_eq j j' h := by
    cases h with
    | @entry _ entries n key v v' before inside =>
      have hentry : readEntry c (key, v) = readEntry c (key, v') := by
        rw [readEntry, readEntry, hc.read_eq _ _ inside]
      change (entries.mapM (readEntry c)).map Table.ofList = _
      rw [mapM_set before hentry]
      rfl

/-- A record overlooks edits around its fields and, through them, edits in their values. -/
theorem overlooks_record {fs : Fields ρ ρ} {parts : List Part} [hfs : fs.Overlooks parts]
    (hnodup : (parts.map (·.name)).Nodup) (name : String) :
    (record name fs).Overlooks (.record parts) where
  read_eq j j' h := by
    have hobject : ∀ fields fields' : List (String × Json),
        Edit (.record parts) (.object fields) (.object fields') →
        (record name fs).read (.object fields) = (record name fs).read (.object fields') := by
      intro fields fields' hedit
      simp only [record, hfs.read_eq _ _ (Fields.matches_ofObject hnodup hedit)]
    cases h with
    | unknown unknown agree => exact hobject _ _ (.unknown unknown agree)
    | spellOut mem implied before after agree =>
      exact hobject _ _ (.spellOut mem implied before after agree)
    | field mem before after agree inside =>
      exact hobject _ _ (.field mem before after agree inside)
    | @position _ _ items n v v' declared before inside =>
      have hread : fs.read (Fields.ofArray name fs items) =
          fs.read (Fields.ofArray name fs (items.set n v')) :=
        hfs.read_eq _ _ (Fields.matches_ofArray hnodup name declared before inside)
      simp only [record, hread, List.length_set]

instance [hc : c.Overlooks outline] (k : ResourceKind) : (k.codec c).Overlooks outline where
  read_eq := hc.read_eq

theorem Overlooks.read_congr [hc : c.Overlooks outline] {j j' : Json} (h : outline.Edits j j') :
    c.read j = c.read j' := by
  induction h with
  | rel j j' edit => exact hc.read_eq j j' edit
  | refl j => rfl
  | symm j j' _ ih => exact ih.symm
  | trans j j' j'' _ _ ih ih' => exact ih.trans ih'

end Codec

end EdgeRoutes
