import EdgeRoutes.Codec.Record
import EdgeRoutes.Proofs.Codec.Published

namespace EdgeRoutes

variable {ρ α β : Type}

/-- Whatever is written is admitted by the schema. -/
class Codec.Conforms (c : Codec α) : Prop where
  admits : ∀ a, c.schema.Admits (c.write a)

/-- A field without default is never left out. -/
class Slot.Conforms (s : Slot β) : Prop where
  admits : ∀ b, ∀ j ∈ s.write b, s.schema.Admits j
  isSome_write : s.whenAbsent = none → ∀ b, (s.write b).isSome = true

class Fields.Conforms (fs : Fields ρ α) : Prop where
  admits : (fs.properties.map Prod.fst).Nodup →
    ∀ r, ∀ f ∈ fs.write r, Schema.AdmitsProperty fs.properties f.1 f.2
  mem_write : ∀ r, ∀ name ∈ fs.required, name ∈ (fs.write r).map Prod.fst

namespace Codec

instance : text.Conforms where
  admits s := ⟨s, rfl⟩

instance : boolean.Conforms where
  admits b := ⟨b, rfl⟩

instance (range : IntRange) (format : String) : (integer range format).Conforms where
  admits n := ⟨n, rfl⟩

instance : duration.Conforms where
  admits d := ⟨d.text, rfl⟩

instance : timestamp.Conforms where
  admits t := ⟨t.text, rfl⟩

instance : port.Conforms where
  admits
    | .number n => .inl ⟨n, rfl⟩
    | .name s => .inr ⟨s, rfl⟩

theorem conforms_choice {variants : List (String × α)} {name : α → String}
    (h : ∀ a, name a ∈ variants.map Prod.fst) : (choice variants name).Conforms where
  admits a := ⟨name a, h a, rfl⟩

variable {c : Codec α}

theorem conforms_described {description : String} (hc : c.Conforms) :
    (c.described description).Conforms where
  admits := hc.admits

instance [hc : c.Conforms] : (list c).Conforms where
  admits as := ⟨as.map c.write, rfl, List.forall_mem_map.2 fun a _ => hc.admits a⟩

instance [hc : c.Conforms] : (table c).Conforms where
  admits _ := ⟨_, rfl, List.forall_mem_map.2 fun e _ => hc.admits e.2⟩

theorem conforms_record {name : String} {fs : Fields ρ ρ} [hfs : fs.Conforms]
    (h : (fs.properties.map Prod.fst).Nodup) : (record name fs).Conforms where
  admits r := ⟨fs.write r, rfl, hfs.mem_write r, hfs.admits h r⟩

end Codec

namespace Slot

variable {c : Codec β}

instance [hc : c.Conforms] : (required c).Conforms where
  admits b _ hj := Option.some.inj hj ▸ hc.admits b
  isSome_write _ _ := rfl

instance [hc : c.Conforms] (default : β) : (shown c default).Conforms where
  admits b _ hj := Option.some.inj hj ▸ hc.admits b
  isSome_write _ _ := rfl

instance [hc : c.Conforms] (default : β) (isDefault : β → Bool) :
    (hidden c default isDefault).Conforms where
  admits b j hj := by
    simp only [hidden, Option.mem_def] at hj
    split at hj
    · cases hj
    · exact Option.some.inj hj ▸ hc.admits b
  isSome_write := nofun

instance [hc : c.Conforms] : (optional c).Conforms where
  admits b j hj := by
    obtain ⟨a, -, rfl⟩ := Option.map_eq_some_iff.1 hj
    exact .inr (hc.admits a)
  isSome_write := nofun

instance {s : Slot β} [hs : s.Conforms] (description : String) :
    (s.described description).Conforms where
  admits := hs.admits
  isSome_write := hs.isSome_write

end Slot

namespace Schema

theorem admitsProperty_append_left {properties : List (String × Schema)} {name : String} {j : Json}
    (h : AdmitsProperty properties name j) (more : List (String × Schema)) :
    AdmitsProperty (properties ++ more) name j := by
  obtain ⟨s, hs, hj⟩ := (admitsProperty_iff ..).1 h
  exact (admitsProperty_iff ..).2 ⟨s, by rw [List.lookup_append, hs, Option.some_or], hj⟩

theorem admitsProperty_append_singleton {properties : List (String × Schema)} {name : String}
    {s : Schema} {j : Json} (hname : name ∉ properties.map Prod.fst) (h : s.Admits j) :
    AdmitsProperty (properties ++ [(name, s)]) name j := by
  have hnone : properties.lookup name = none :=
    Entries.lookup_eq_none fun p hp heq => hname (List.mem_map.2 ⟨p, hp, heq⟩)
  refine (admitsProperty_iff ..).2 ⟨s, ?_, h⟩
  rw [List.lookup_append, hnone, Option.none_or, List.lookup_cons_self]

end Schema

namespace Fields

instance (a : α) : (build a : Fields ρ α).Conforms where
  admits _ _ := nofun
  mem_write _ := nofun

theorem map_fst_write_field {fs : Fields ρ (β → α)} {name : String} {get : ρ → β} {s : Slot β}
    {r : ρ} :
    ((fs.field name get s).write r).map Prod.fst =
      (fs.write r).map Prod.fst ++ if (s.write (get r)).isSome then [name] else [] := by
  change (fs.write r ++ ((s.write (get r)).map (name, ·)).toList).map Prod.fst = _
  cases s.write (get r) <;> simp

instance {fs : Fields ρ (β → α)} [hfs : fs.Conforms] (name : String) (get : ρ → β) {s : Slot β}
    [hs : s.Conforms] : (fs.field name get s).Conforms where
  admits hnodup r f hf := by
    change (List.map Prod.fst (fs.properties ++ [(name, s.schema)])).Nodup at hnodup
    rw [List.map_append, List.nodup_append] at hnodup
    obtain ⟨hfront, -, hnew⟩ := hnodup
    -- an entry of an earlier field is declared before, and the last field has a name that is not
    obtain hf | hf := List.mem_append.1 hf
    · exact Schema.admitsProperty_append_left (hfs.admits hfront r f hf) _
    · obtain ⟨j, hj, rfl⟩ := Option.map_eq_some_iff.1 (Option.mem_toList.1 hf)
      exact Schema.admitsProperty_append_singleton (fun hname => hnew name hname name (by simp) rfl)
        (hs.admits (get r) j hj)
  mem_write r n hn := by
    rw [map_fst_write_field]
    obtain hn | hn := List.mem_append.1 hn
    · exact List.mem_append_left _ (hfs.mem_write r n hn)
    · split at hn
      · next habsent =>
        rw [if_pos (hs.isSome_write (Option.isNone_iff_eq_none.1 habsent) (get r))]
        exact List.mem_append_right _ hn
      · cases hn

end Fields

end EdgeRoutes
