import EdgeRoutes.Proofs.Codec.Wire
import EdgeRoutes.Proofs.Duration.RoundTrip
import EdgeRoutes.Proofs.Table
import EdgeRoutes.Proofs.Timestamp.RoundTrip
import EdgeRoutes.Resource.Definition

/-!
Codecs that restore what they read. Only values that were read from a JSON document count, because a
type may hold more of them: an integer out of range, or a null where a value is expected.
-/

namespace EdgeRoutes

variable {ρ α β : Type}

/-- A value that was read is written so that it reads back, and as null only if it was null. -/
class Codec.Restores (c : Codec α) (p : outParam (α → Prop)) : Prop where
  restore : ∀ j a, c.read j = .ok a → p a →
    c.read (c.write a) = .ok a ∧ (c.write a = .null → j = .null)

namespace Codec

instance : text.Restores fun _ => True where
  restore j a h _ := by
    cases j with
    | text s => cases h; exact ⟨rfl, nofun⟩
    | null | bool | int | float | array | object => cases h

instance : boolean.Restores fun _ => True where
  restore j a h _ := by
    cases j with
    | bool b => cases h; exact ⟨rfl, nofun⟩
    | null | int | float | text | array | object => cases h

instance (range : IntRange) (format : String) : (integer range format).Restores fun _ => True where
  restore j a h _ := by
    cases j with
    | int n =>
      simp only [integer] at h ⊢
      split at h
      · next hrange =>
        cases h
        exact ⟨if_pos hrange, nofun⟩
      · cases h
    | null | bool | float | text | array | object => cases h

instance : duration.Restores Duration.IsShort where
  restore j d _ hd := ⟨by simp only [duration, d.ofText_text hd], nofun⟩

instance : timestamp.Restores Timestamp.IsPlain where
  restore j t _ ht := ⟨by simp only [timestamp, Timestamp.ofText_text ht], nofun⟩

instance : port.Restores fun _ => True where
  restore j a h _ := by
    cases j with
    | int n =>
      simp only [port] at h
      split at h
      · next hrange =>
        cases h
        exact ⟨if_pos hrange, nofun⟩
      · cases h
    | text s => cases h; exact ⟨rfl, nofun⟩
    | null | bool | float | array | object => cases h

instance (depth : Nat) : (anything depth).Restores fun _ => True where
  restore j a h _ := by
    cases h
    exact ⟨rfl, id⟩

theorem restores_choice {variants : List (String × α)} {name : α → String}
    (h : ∀ a, variants.lookup (name a) = some a) :
    (choice variants name).Restores fun _ => True where
  restore j a _ _ := ⟨by simp only [choice, variant?, h], nofun⟩

theorem exists_of_mapM_eq_ok {ε δ : Type} {read : δ → Except ε α} {ds : List δ} {as : List α}
    (h : ds.mapM read = .ok as) {a : α} (ha : a ∈ as) : ∃ d, read d = .ok a := by
  have hread := mapM_eq_ok.1 h
  clear h
  induction hread with
  | nil => cases ha
  | cons hd _ ih =>
    obtain rfl | ha := List.mem_cons.1 ha
    · exact ⟨_, hd⟩
    · exact ih ha

theorem mapM_map_eq_ok {ε δ : Type} {read : δ → Except ε α} {write : α → δ} {as : List α}
    (h : ∀ a ∈ as, read (write a) = .ok a) : (as.map write).mapM read = .ok as := by
  rw [mapM_eq_ok, List.forall₂_map_left_iff, List.forall₂_same]
  exact h

variable {c : Codec α} {p : α → Prop}

instance [hc : c.Restores p] (description : String) : (c.described description).Restores p where
  restore := hc.restore

instance [hc : c.Restores p] : (list c).Restores fun as => ∀ a ∈ as, p a where
  restore j as h has := by
    cases j with
    | array items =>
      refine ⟨mapM_map_eq_ok fun a ha => ?_, nofun⟩
      obtain ⟨d, hd⟩ := exists_of_mapM_eq_ok h ha
      exact (hc.restore d a hd (has a ha)).1
    | null | bool | int | float | text | object => cases h

instance [hc : c.Restores p] : (table c).Restores fun t => ∀ e ∈ t.entries, p e.2 where
  restore j t h ht := by
    cases j with
    | object fields =>
      obtain ⟨es, hes, rfl⟩ := map_eq_ok.1 h
      refine ⟨map_eq_ok.2 ⟨_, mapM_map_eq_ok fun e he => ?_, (Table.ofList_entries _).symm⟩, nofun⟩
      obtain ⟨f, hf⟩ := exists_of_mapM_eq_ok hes (Table.mem_of_mem_ofList he)
      obtain ⟨a, ha, rfl⟩ := map_eq_ok.1 hf
      exact map_eq_ok.2 ⟨a, (hc.restore f.2 a ha (ht _ he)).1, rfl⟩
    | null | bool | int | float | text | array => cases h

end Codec

/-! Fields -/

namespace Slot

/-- The value comes from an entry, or is the default. -/
def Obtained (s : Slot β) (b : β) : Prop := s.whenAbsent = some b ∨ ∃ j, s.read j = .ok b

/-- The value is written so that it reads back, or left out where it is the default. -/
def Returns (s : Slot β) (b : β) : Prop :=
  match s.write b with
  | some j => s.read j = .ok b
  | none => s.whenAbsent = some b

class Restores (s : Slot β) (p : outParam (β → Prop)) : Prop where
  restore : ∀ b, s.Obtained b → p b → s.Returns b

variable {c : Codec β} {p : β → Prop}

instance [hc : c.Restores p] : (required c).Restores p where
  restore b h hb := by
    obtain h | ⟨j, hj⟩ := h
    · cases h
    · exact (hc.restore j b hj hb).1

theorem restores_shown [hc : c.Restores p] {default : β}
    (hd : c.read (c.write default) = .ok default) :
    (shown c default).Restores p where
  restore b h hb := by
    obtain h | ⟨j, hj⟩ := h
    · cases h
      exact hd
    · exact (hc.restore j b hj hb).1

theorem restores_hidden [hc : c.Restores p] {default : β} {isDefault : β → Bool}
    (hd : ∀ b, isDefault b = true ↔ b = default) : (hidden c default isDefault).Restores p where
  restore b h hb := by
    by_cases hdef : isDefault b = true
    · simp only [Returns, hidden, if_pos hdef]
      rw [(hd b).1 hdef]
    · simp only [Returns, hidden, if_neg hdef]
      obtain h | ⟨j, hj⟩ := h
      · exact absurd ((hd b).2 (Option.some.inj h).symm) hdef
      · exact (hc.restore j b hj hb).1

instance [hc : c.Restores p] : (optional c).Restores fun o => ∀ b ∈ o, p b where
  restore o h ho := by
    cases o with
    | none => rfl
    | some b =>
      obtain h | ⟨j, hj⟩ := h
      · cases h
      · have hnull : j ≠ .null := by
          rintro rfl
          cases hj
        have hsome : readOption c j = .ok (some b) := hj
        have hread : c.read j = .ok b := by
          rw [readOption_of_ne_null hnull] at hsome
          obtain ⟨a, ha, hab⟩ := map_eq_ok.1 hsome
          cases hab
          exact ha
        obtain ⟨hback, hwritten⟩ := hc.restore j b hread (ho b rfl)
        change readOption c (c.write b) = .ok (some b)
        rw [readOption_of_ne_null fun h => hnull (hwritten h), hback]
        rfl

instance [hs : (optional c).Restores fun o => ∀ b ∈ o, p b] :
    (optionalInMap c).Restores fun o => ∀ b ∈ o, p b where
  restore := hs.restore

instance : lenientText.Restores fun _ => True where
  restore _ _ _ := rfl

instance {s : Slot β} [hs : s.Restores p] (description : String) :
    (s.described description).Restores p where
  restore := hs.restore

theorem exists_of_readAll {δ ε : Type} {read : δ → Except ε β} {last b : β}
    {entries : List (Nat × δ)}
    (h : Source.readAll read last entries = .ok b) : b = last ∨ ∃ d, read d = .ok b := by
  induction entries generalizing last with
  | nil =>
    cases h
    exact .inl rfl
  | cons entry entries ih =>
    rw [Source.readAll] at h
    split at h
    · next hd =>
      obtain rfl | h := ih h
      · exact .inr ⟨_, hd⟩
      · exact .inr h
    · cases h

theorem exists_of_read? {δ ε : Type} {src : Source δ ε} {read : δ → Except ε β} {name : String}
    {b : β} (h : src.read? read name = some (.ok b)) : ∃ d, read d = .ok b := by
  unfold Source.read? at h
  split at h
  · cases h
  · split at h
    · cases h
    · next hd =>
      split at h
      · cases h
      · obtain rfl | h := exists_of_readAll (Option.some.inj h)
        · exact ⟨_, hd⟩
        · exact h

theorem obtained_of_readFrom {s : Slot β} {src : Source Json Failure} {position : Nat}
    {name : String}
    {b : β} (h : (s.readFrom src s.read position name).value? = some b) : s.Obtained b := by
  unfold readFrom at h
  split at h
  · next hread =>
    cases h
    exact .inr (exists_of_read? hread)
  · cases h
  · split at h
    · next hdefault =>
      split at h
      · cases h
      · cases h
        exact .inl hdefault
    · cases h

theorem Returns.readFrom {s : Slot β} {b : β} (h : s.Returns b) {src : Source Json Failure}
    (hlist : src.isList = false) (position : Nat) {name : String}
    (hfind : (src.find name).map Prod.snd = (s.write b).toList) :
    s.readFrom src s.read position name = .value b := by
  unfold Returns at h
  cases hw : s.write b with
  | none =>
    rw [hw] at h hfind
    have hempty : src.find name = [] := List.map_eq_nil_iff.1 hfind
    simp [Slot.readFrom, Source.read?, hempty, h, hlist]
  | some j =>
    rw [hw] at h hfind
    obtain ⟨entry, hentry, rfl⟩ := List.map_eq_singleton_iff.1 hfind
    cases hr : src.repeated <;> simp [Slot.readFrom, Source.read?, hentry, h, hr, Source.readAll]

end Slot

namespace Fields

variable {fs : Fields ρ α}

def Yields (fs : Fields ρ α) (p : α → Prop) : Prop :=
  ∀ src a, (fs.read src).value? = some a → p a

theorem Yields.build {a : α} {p : α → Prop} (h : p a) : (Fields.build a : Fields ρ α).Yields p := by
  rintro src b hb
  cases hb
  exact h

theorem Yields.field {fs : Fields ρ (β → α)} {name : String} {get : ρ → β} {s : Slot β}
    {p : α → Prop}
    (h : fs.Yields fun g => ∀ b, s.Obtained b → p (g b)) : (fs.field name get s).Yields p := by
  intro src a ha
  obtain ⟨g, b, hg, hb, rfl⟩ := Reading.value?_apply.1 ha
  exact h src g hg b (Slot.obtained_of_readFrom hb)

section Lookup

variable {fs : Fields ρ (β → α)} {r : ρ} {name : String} {get : ρ → β} {s : Slot β}

theorem fst_eq_of_mem_entry {o : Option Json} {e : String × Json}
    (h : e ∈ (o.map (name, ·)).toList) :
    e.1 = name := by
  cases o with
  | none => cases h
  | some j => rw [List.mem_singleton.1 h]

theorem lookup_write_field (h : ∀ e ∈ fs.write r, e.1 ≠ name) :
    ((fs.field name get s).write r).lookup name = s.write (get r) := by
  rw [field, List.lookup_append, Entries.lookup_eq_none h]
  cases s.write (get r) <;> simp

theorem lookup_write_field_of_ne {other : String} (h : other ≠ name) :
    ((fs.field name get s).write r).lookup other = (fs.write r).lookup other := by
  have hnone : ((s.write (get r)).map (name, ·)).toList.lookup other = none :=
    Entries.lookup_eq_none fun e he => fst_eq_of_mem_entry he ▸ h.symm
  rw [field, List.lookup_append, hnone, Option.or_none]

end Lookup

/-- Where every field of `r` has the entry that is written for it, `a` is read. -/
structure Returns (fs : Fields ρ α) (r : ρ) (a : α) : Prop where
  name_mem : ∀ e ∈ fs.write r, e.1 ∈ fs.names
  read_eq : fs.names.Nodup → ∀ src : Source Json Failure, src.isList = false →
    (∀ name ∈ fs.names, (src.find name).map Prod.snd = ((fs.write r).lookup name).toList) →
    fs.read src = .value a

theorem Returns.build {r : ρ} {a : α} : (Fields.build a : Fields ρ α).Returns r a :=
  ⟨nofun, fun _ _ _ _ => rfl⟩

theorem Returns.field {fs : Fields ρ (β → α)} {r : ρ} {g : β → α} (h : fs.Returns r g)
    {name : String}
    {get : ρ → β} {s : Slot β} {p : β → Prop} [hs : s.Restores p] (hget : s.Obtained (get r))
    (hp : p (get r) := by simp) : (fs.field name get s).Returns r (g (get r)) := by
  refine ⟨fun e he => ?_, fun hnodup src hlist hfind => ?_⟩
  · obtain he | he := List.mem_append.1 he
    · exact List.mem_append_left _ (h.name_mem e he)
    · exact List.mem_append_right _ (List.mem_singleton.2 (fst_eq_of_mem_entry he))
  · obtain ⟨hnames, -, hfresh⟩ := List.nodup_append.1 hnodup
    have hne : ∀ other ∈ fs.names, other ≠ name := fun other ho => hfresh other ho name (by simp)
    have hfs : fs.read src = .value g := by
      refine h.read_eq hnames src hlist fun other ho => ?_
      rw [hfind other (List.mem_append_left _ ho), lookup_write_field_of_ne (hne other ho)]
    have hlookup : ((fs.field name get s).write r).lookup name = s.write (get r) :=
      lookup_write_field fun e he => hne e.1 (h.name_mem e he)
    have hslot := (hs.restore _ hget hp).readFrom hlist fs.names.length
      (hlookup ▸ hfind name (by simp [Fields.field]))
    change (fs.read src).apply _ = _
    rw [hfs, hslot]
    rfl

theorem Returns.settle_ofObject {fs : Fields ρ ρ} {r : ρ} (h : fs.Returns r r)
    (hnodup : fs.names.Nodup)
    (extra : List (String × Json)) (hextra : ∀ e ∈ extra, e.1 ∉ fs.names) :
    (fs.read (fs.ofObject (extra ++ fs.write r))).settle = .ok r := by
  have hread : fs.read (fs.ofObject (extra ++ fs.write r)) = .value r := by
    refine h.read_eq hnodup _ rfl fun name hname => ?_
    have hnone : extra.lookup name = none :=
      Entries.lookup_eq_none fun e he heq => hextra e he (heq ▸ hname)
    have hlookup : (extra ++ fs.write r).lookup name = (fs.write r).lookup name := by
      rw [List.lookup_append, hnone, Option.none_or]
    simp only [ofObject, hlookup]
    cases (fs.write r).lookup name <;> rfl
  rw [hread]
  rfl

end Fields

namespace Codec

variable {fs : Fields ρ ρ} {p : ρ → Prop}

theorem returns_of_read_record {name : String} (h : fs.Yields fun r => p r → fs.Returns r r)
    {j : Json} {r : ρ} (hr : (record name fs).read j = .ok r) (hp : p r) : fs.Returns r r := by
  cases j with
  | object fields => exact h _ r (Reading.settle_eq_ok.1 hr) hp
  | array items =>
    simp only [record] at hr
    split at hr
    · next hs =>
      split at hr
      · cases hr
      · cases hr
        exact h _ _ (Reading.settle_eq_ok.1 hs) hp
    · cases hr
  | null | bool | int | float | text => cases hr

theorem restores_record {name : String} (hnodup : fs.names.Nodup)
    (h : fs.Yields fun r => p r → fs.Returns r r) : (record name fs).Restores p where
  restore _ _ hr hp :=
    ⟨(returns_of_read_record h hr hp).settle_ofObject hnodup [] nofun, nofun⟩

theorem restores_object {name : String} (hnodup : fs.names.Nodup)
    (h : fs.Yields fun r => p r → fs.Returns r r) : (object name fs).Restores p where
  restore j r hr hp := by
    cases j with
    | object fields =>
      have hreturns := h _ r (Reading.settle_eq_ok.1 hr) hp
      exact ⟨hreturns.settle_ofObject hnodup [] nofun, nofun⟩
    | null | bool | int | float | text | array => cases hr

end Codec

theorem ResourceKind.restores_codec (k : ResourceKind) {name : String} {fs : Fields ρ ρ}
    {p : ρ → Prop}
    (hnodup : fs.names.Nodup) (hversion : "apiVersion" ∉ fs.names) (hkind : "kind" ∉ fs.names)
    (h : fs.Yields fun r => p r → fs.Returns r r) : (k.codec (.record name fs)).Restores p where
  restore _ _ hr hp := by
    refine ⟨(Codec.returns_of_read_record h hr hp).settle_ofObject hnodup
      [("apiVersion", .text k.apiVersion), ("kind", .text k.kind)] fun e he => ?_, nofun⟩
    obtain rfl | rfl : e = _ ∨ e = _ := by simpa using he
    · exact hversion
    · exact hkind

end EdgeRoutes
