import EdgeRoutes.Proofs.Codec.Restore
import EdgeRoutes.Proofs.Json.Text

/-!
Codecs that write different values differently, even to a reader for whom the fields of an object
have no order. A field that is left out tells its value as well, as long as it is left out for one
value only.
-/

namespace EdgeRoutes

variable {ρ α β : Type}

namespace Json

mutual

/-- The value as a reader has it: the fields of each object in order of their names. -/
def sorted : Json → Json
  | .array items => .array (sortedItems items)
  | .object fields => sortedObject (sortedFields fields)
  | j => j

def sortedItems : List Json → List Json
  | [] => []
  | j :: js => sorted j :: sortedItems js

def sortedFields : List (String × Json) → List (String × Json)
  | [] => []
  | (name, j) :: fs => (name, sorted j) :: sortedFields fs

end

theorem sortedItems_eq (js : List Json) : sortedItems js = js.map sorted := by
  induction js with
  | nil => rfl
  | cons j js ih => rw [sortedItems, ih, List.map_cons]

theorem sortedFields_eq (fs : List (String × Json)) :
    sortedFields fs = fs.map fun e => (e.1, sorted e.2) := by
  induction fs with
  | nil => rfl
  | cons e fs ih => rw [sortedFields, ih, List.map_cons]

theorem map_fst_sortedFields (fs : List (String × Json)) :
    (sortedFields fs).map Prod.fst = fs.map Prod.fst := by
  rw [sortedFields_eq, List.map_map]
  rfl

theorem map_sorted_lookup {fs gs : List (String × Json)} (hfs : (fs.map Prod.fst).Nodup)
    (hgs : (gs.map Prod.fst).Nodup) (h : sorted (.object fs) = sorted (.object gs))
    (name : String) :
    (fs.lookup name).map sorted = (gs.lookup name).map sorted := by
  rw [sorted, sorted] at h
  have htables : Table.ofList (sortedFields fs) = Table.ofList (sortedFields gs) :=
    Table.eq_of_entries_eq (Json.object.inj h)
  have hget := congrArg (·.get? name) htables
  rwa [Table.get?_ofList (by rwa [map_fst_sortedFields]),
    Table.get?_ofList (by rwa [map_fst_sortedFields]),
    sortedFields_eq, sortedFields_eq, Entries.lookup_map, Entries.lookup_map] at hget

theorem sorted_object {fs : List (String × Json)} (h : (fs.map Prod.fst).Pairwise (· < ·)) :
    sorted (.object fs) = .object (fs.map fun e => (e.1, sorted e.2)) := by
  rw [sorted, sortedObject, Table.entries_ofList (by rwa [map_fst_sortedFields]), sortedFields_eq]

end Json

class Codec.Faithful (c : Codec α) : Prop where
  isExact : ∀ a, (c.write a).Exact
  eq_of_sorted : ∀ a b, (c.write a).sorted = (c.write b).sorted → a = b

namespace Codec

instance : text.Faithful where
  isExact := .text
  eq_of_sorted _ _ h := Json.text.inj h

instance (range : IntRange) (format : String) : (integer range format).Faithful where
  isExact := .int
  eq_of_sorted _ _ h := Json.int.inj h

instance : duration.Faithful where
  isExact d := .text d.text
  eq_of_sorted _ _ h := Duration.text_injective (Json.text.inj h)

/-- A number is not written like the text of its digits. -/
instance : port.Faithful where
  isExact p := by
    cases p with
    | number n => exact .int n
    | name s => exact .text s
  eq_of_sorted p q h := by
    cases p <;> cases q <;> cases h <;> rfl

theorem faithful_choice {variants : List (String × α)} {name : α → String}
    (h : Function.Injective name) : (choice variants name).Faithful where
  isExact a := .text (name a)
  eq_of_sorted _ _ heq := h (Json.text.inj heq)

variable {c : Codec α}

theorem Faithful.described (hc : c.Faithful) (description : String) :
    (c.described description).Faithful where
  isExact := hc.isExact
  eq_of_sorted := hc.eq_of_sorted

instance [hc : c.Faithful] : (list c).Faithful where
  isExact as := by
    apply Json.Exact.array
    intro j hj
    obtain ⟨a, -, rfl⟩ := List.mem_map.1 hj
    exact hc.isExact a
  eq_of_sorted as bs h := by
    simp only [list, Json.sorted, Json.sortedItems_eq, List.map_map, Json.array.injEq] at h
    exact List.map_injective_iff.2 hc.eq_of_sorted h

instance [hc : c.Faithful] : (table c).Faithful where
  isExact t := by
    apply Json.Exact.object
    intro e he
    obtain ⟨d, -, rfl⟩ := List.mem_map.1 he
    exact hc.isExact d.2
  eq_of_sorted t u h := by
    have hkeys : ∀ t : Table α,
        ((t.entries.map fun e => (e.1, c.write e.2)).map Prod.fst).Pairwise (· < ·) := by
      intro t
      rw [List.map_map]
      exact t.ascending
    have hinj : Function.Injective fun e : String × α => (e.1, (c.write e.2).sorted) := by
      rintro ⟨k, a⟩ ⟨l, b⟩ h
      obtain ⟨rfl, hab⟩ := Prod.mk.inj h
      rw [hc.eq_of_sorted a b hab]
    simp only [table, Json.sorted_object (hkeys _), List.map_map, Json.object.injEq] at h
    exact Table.eq_of_entries_eq (List.map_injective_iff.2 hinj h)

theorem Faithful.tfae (hc : c.Faithful) (a b : α) :
    [a = b, c.write a = c.write b, (c.write a).sorted = (c.write b).sorted,
      (c.write a).compact = (c.write b).compact].TFAE := by
  tfae_have 1 → 4 := by
    rintro rfl
    rfl
  tfae_have 4 → 2 := (hc.isExact a).eq_of_compact_eq (hc.isExact b)
  tfae_have 2 → 3 := congrArg Json.sorted
  tfae_have 3 → 1 := hc.eq_of_sorted a b
  tfae_finish

end Codec

/-- The entry of a field, or that there is none, tells its value. -/
class Slot.Faithful (s : Slot β) : Prop where
  isExact : ∀ b, ∀ j ∈ s.write b, j.Exact
  eq_of_sorted : ∀ b b', (s.write b).map Json.sorted = (s.write b').map Json.sorted → b = b'

namespace Slot

variable {c : Codec β}

instance [hc : c.Faithful] : (required c).Faithful where
  isExact b := by
    rintro _ ⟨rfl⟩
    exact hc.isExact b
  eq_of_sorted b b' h := hc.eq_of_sorted b b' (Option.some.inj h)

instance [hc : c.Faithful] (default : β) : (shown c default).Faithful where
  isExact b := by
    rintro _ ⟨rfl⟩
    exact hc.isExact b
  eq_of_sorted b b' h := hc.eq_of_sorted b b' (Option.some.inj h)

theorem faithful_hidden [hc : c.Faithful] {default : β} {isDefault : β → Bool}
    (hd : ∀ b, isDefault b = true ↔ b = default) : (hidden c default isDefault).Faithful where
  isExact b j hj := by
    simp only [hidden] at hj
    split at hj
    · cases hj
    · cases hj
      exact hc.isExact b
  eq_of_sorted b b' h := by
    by_cases hb : isDefault b = true <;> by_cases hb' : isDefault b' = true <;>
      simp only [hidden, hb, hb', if_true, if_false, Bool.false_eq_true] at h
    · rw [(hd b).1 hb, (hd b').1 hb']
    · cases h
    · cases h
    · exact hc.eq_of_sorted b b' (Option.some.inj h)

instance [hc : c.Faithful] : (optional c).Faithful where
  isExact o j hj := by
    obtain ⟨b, -, rfl⟩ := Option.map_eq_some_iff.1 hj
    exact hc.isExact b
  eq_of_sorted o o' h := by
    cases o <;> cases o'
    · rfl
    · cases h
    · cases h
    · exact congrArg some (hc.eq_of_sorted _ _ (Option.some.inj h))

instance {s : Slot β} [hs : s.Faithful] (description : String) :
    (s.described description).Faithful where
  isExact := hs.isExact
  eq_of_sorted := hs.eq_of_sorted

end Slot

namespace Fields

/-- The entries that are written tell what the fields determine of the record. -/
structure Shows (fs : Fields ρ α) (value : ρ → α) : Prop where
  isExact : ∀ r, ∀ e ∈ fs.write r, e.2.Exact
  names_sublist : ∀ r, ((fs.write r).map Prod.fst).Sublist fs.names
  eq_of_sorted : fs.names.Nodup → ∀ r r',
    (∀ name ∈ fs.names,
      ((fs.write r).lookup name).map Json.sorted = ((fs.write r').lookup name).map Json.sorted) →
    value r = value r'

theorem Shows.build {a : α} : (Fields.build a : Fields ρ α).Shows fun _ => a :=
  ⟨nofun, fun _ => .slnil, fun _ _ _ _ => rfl⟩

theorem Shows.field {fs : Fields ρ (β → α)} {value : ρ → β → α} (h : fs.Shows value) {name : String}
    {get : ρ → β} {s : Slot β} [hs : s.Faithful] :
    (fs.field name get s).Shows fun r => value r (get r) := by
  refine ⟨fun r e he => ?_, fun r => ?_, fun hnodup r r' heq => ?_⟩
  · obtain he | he := List.mem_append.1 he
    · exact h.isExact r e he
    · obtain ⟨j, hj, rfl⟩ := Option.map_eq_some_iff.1 (Option.mem_toList.1 he)
      exact hs.isExact (get r) j hj
  · rw [Fields.field, List.map_append]
    apply (h.names_sublist r).append
    cases s.write (get r) <;> simp
  · obtain ⟨hnames, -, hfresh⟩ := List.nodup_append.1 hnodup
    have hne : ∀ other ∈ fs.names, other ≠ name := fun other ho => hfresh other ho name (by simp)
    have hwrite : ∀ r, ((fs.field name get s).write r).lookup name = s.write (get r) := by
      intro r
      apply lookup_write_field
      intro e he
      exact hne e.1 ((h.names_sublist r).subset (List.mem_map_of_mem he))
    have hfs : value r = value r' := by
      apply h.eq_of_sorted hnames
      intro other ho
      have hother := heq other (List.mem_append_left _ ho)
      rwa [lookup_write_field_of_ne (hne other ho),
        lookup_write_field_of_ne (hne other ho)] at hother
    have hslot : get r = get r' := by
      apply hs.eq_of_sorted
      have hname := heq name (by simp [Fields.field])
      rwa [hwrite, hwrite] at hname
    rw [hfs, hslot]

end Fields

theorem Codec.faithful_record {name : String} {fs : Fields ρ ρ} (hnodup : fs.names.Nodup)
    (h : fs.Shows fun r => r) : (record name fs).Faithful where
  isExact r := .object (h.isExact r)
  eq_of_sorted r r' heq := by
    apply h.eq_of_sorted hnodup
    intro field _
    have hentries : ∀ r, ((fs.write r).map Prod.fst).Nodup :=
      fun r => (h.names_sublist r).nodup hnodup
    exact Json.map_sorted_lookup (hentries r) (hentries r') heq field

end EdgeRoutes
