import EdgeRoutes.Proofs.Codec.Faults
import Mathlib.Data.List.Basic

/-!
How far reading a record gets. Of the fields of a record one at most may hold durations, and the
record is out of range exactly when reading comes to that field before any fault, and the field is
out of range.
-/

namespace EdgeRoutes

variable {ρ α β γ δ ε : Type}

/-- Reading finds no duration out of range. -/
def Codec.Untimed (c : Codec α) : Prop := ∀ j, c.read j ≠ .error .outOfRange

def Slot.Untimed (s : Slot β) : Prop := ∀ j, s.read j ≠ .error .outOfRange

theorem Slot.Untimed.of_mem_readFrom {s : Slot β} (hs : s.Untimed) {src : Source Json Failure}
    (hsrc : src.Orderly) {fields : String → Prop} {name : String} (hname : fields name)
    {position : Nat} {f : Fault Failure} (hf : f ∈ (s.readFrom src s.read position name).all) :
    f.cause ≠ .outOfRange ∧ f.StandsAt src fields := by
  obtain ⟨p, v, hfind, hp, hv⟩ | ⟨hnone, hcause⟩ := mem_all_readFrom hsrc hf
  · refine ⟨?_, Fault.standsAt_of_find hname hfind hp⟩
    intro hcause
    exact hs v (hcause ▸ hv)
  · exact ⟨hcause, Fault.standsAt_of_place_eq_none hnone⟩

namespace Fields

def Untimed (fs : Fields ρ α) : Prop :=
  ∀ src : Source Json Failure, src.Orderly → ∀ f ∈ (fs.read src).all,
    f.cause ≠ .outOfRange ∧ f.StandsAt src (· ∈ fs.names)

theorem Untimed.build (a : α) : (build a : Fields ρ α).Untimed := by
  intro src hs f hf
  simp [Fields.build, Reading.all] at hf

theorem mem_names_field {fs : Fields ρ (β → α)} {name other : String} {get : ρ → β} {s : Slot β} :
    other ∈ (fs.field name get s).names ↔ other ∈ fs.names ∨ other = name := by
  simp [field]

theorem mem_all_read_field {fs : Fields ρ (β → α)} {name : String} {get : ρ → β} {s : Slot β}
    {src : Source Json Failure} {f : Fault Failure} :
    f ∈ ((fs.field name get s).read src).all ↔
      f ∈ (fs.read src).all ∨ f ∈ (s.readFrom src s.read fs.names.length name).all := by
  simp [field]

theorem Untimed.field {fs : Fields ρ (β → α)} (h : fs.Untimed) {s : Slot β} (hs : s.Untimed)
    (name : String) (get : ρ → β) : (fs.field name get s).Untimed := by
  intro src hsrc f hf
  obtain hf | hf := mem_all_read_field.1 hf
  · obtain ⟨hcause, hplace⟩ := h src hsrc f hf
    exact ⟨hcause, hplace.mono fun n hn => mem_names_field.2 (.inl hn)⟩
  · exact hs.of_mem_readFrom hsrc (mem_names_field.2 (.inr rfl)) hf

/-- Of the fields only `name` may hold durations. -/
inductive Carries (name : String) (slot : Slot β) : {α : Type} → Fields ρ α → Prop
  | last {α : Type} {fs : Fields ρ (β → α)} (get : ρ → β) (front : fs.Untimed)
      (fresh : name ∉ fs.names) : Carries name slot (fs.field name get slot)
  | before {α γ : Type} {fs : Fields ρ (γ → α)} {other : String} (get : ρ → γ) {s : Slot γ}
      (front : Carries name slot fs) (untimed : s.Untimed) (ne : other ≠ name) :
      Carries name slot (fs.field other get s)

namespace Carries

variable {name : String} {slot : Slot β} {src : Source Json Failure}

theorem mem_names {fs : Fields ρ α} (h : Carries name slot fs) : name ∈ fs.names := by
  induction h with
  | last => exact mem_names_field.2 (.inr rfl)
  | before get front untimed ne ih => exact mem_names_field.2 (.inl ih)

theorem mem_all {fs : Fields ρ α} (h : Carries name slot fs) (hsrc : src.Orderly)
    {f : Fault Failure} (hf : f ∈ (fs.read src).all) :
    (∃ p v, src.find name = [(p, v)] ∧ f.place = some p ∧ slot.read v = .error f.cause) ∨
      (f.cause ≠ .outOfRange ∧ f.StandsAt src fun n => n ∈ fs.names ∧ n ≠ name) := by
  induction h with
  | last get front fresh =>
    obtain hf | hf := mem_all_read_field.1 hf
    · obtain ⟨hcause, hplace⟩ := front src hsrc f hf
      refine .inr ⟨hcause, hplace.mono fun n hn => ⟨mem_names_field.2 (.inl hn), ?_⟩⟩
      rintro rfl
      exact fresh hn
    · obtain hentry | ⟨hnone, hcause⟩ := Slot.mem_all_readFrom hsrc hf
      · exact .inl hentry
      · exact .inr ⟨hcause, Fault.standsAt_of_place_eq_none hnone⟩
  | before get front untimed ne ih =>
    obtain hf | hf := mem_all_read_field.1 hf
    · obtain hentry | ⟨hcause, hplace⟩ := ih hf
      · exact .inl hentry
      · exact .inr ⟨hcause, hplace.mono fun n hn => ⟨mem_names_field.2 (.inl hn.1), hn.2⟩⟩
    · exact .inr (untimed.of_mem_readFrom hsrc ⟨mem_names_field.2 (.inr rfl), ne⟩ hf)

theorem fault_mem {fs : Fields ρ α} (h : Carries name slot fs) {p : Nat} {v : Json} {e : Failure}
    (hfind : src.find name = [(p, v)]) (hv : slot.read v = .error e) :
    ⟨some p, e⟩ ∈ (fs.read src).all := by
  induction h with
  | last => exact mem_all_read_field.2 (.inr (Slot.fault_mem_readFrom hfind hv))
  | before get front untimed ne ih => exact mem_all_read_field.2 (.inl ih)

end Carries

def source? (record : String) (fs : Fields ρ α) : Json → Option (Source Json Failure)
  | .object fields => some (fs.ofObject fields)
  | .array items => some (ofArray record fs items)
  | _ => none

theorem rank_lt_rank {fs : Fields ρ α} {m n : String} (hm : m ∈ fs.names) (h : m < n) :
    fs.rank m < fs.rank n := by
  have hfilter : fs.names.filter (· < m) = (fs.names.filter (· < n)).filter (· < m) := by
    rw [List.filter_filter]
    refine List.filter_congr fun k _ => ?_
    have htrans : k < m → k < n := fun hk => String.lt_trans hk h
    simpa using htrans
  rw [rank, rank, hfilter]
  refine List.length_filter_lt_length_iff_exists.2 ⟨m, ?_, ?_⟩
  · exact List.mem_filter.2 ⟨hm, decide_eq_true h⟩
  · simp

theorem rank_inj {fs : Fields ρ α} {m n : String} (hm : m ∈ fs.names) (hn : n ∈ fs.names)
    (h : fs.rank m = fs.rank n) : m = n := by
  refine String.le_antisymm ?_ ?_
  · exact String.not_lt.1 fun hlt => absurd (rank_lt_rank hn hlt) (by omega)
  · exact String.not_lt.1 fun hlt => absurd (rank_lt_rank hm hlt) (by omega)

theorem orderly_of_source? {record : String} {fs : Fields ρ α} {j : Json}
    {src : Source Json Failure} (h : fs.source? record j = some src) : src.Orderly := by
  unfold source? at h
  split at h
  · next fields =>
    cases h
    refine ⟨fun name => ?_, fun position name he => by cases he⟩
    cases hl : fields.lookup name with
    | none => exact .inl (by simp [ofObject, hl])
    | some v => exact .inr ⟨fs.rank name, v, by simp [ofObject, hl]⟩
  · next items =>
    cases h
    refine ⟨fun name => ?_, fun position name he => by cases he⟩
    cases hi : items[fs.names.idxOf name]? with
    | none => exact .inl (by simp [ofArray, hi])
    | some v => exact .inr ⟨fs.names.idxOf name, v, by simp [ofArray, hi]⟩
  · cases h

theorem distinct_of_source? {record : String} {fs : Fields ρ α} {j : Json}
    {src : Source Json Failure} (h : fs.source? record j = some src) : src.Distinct fs.names := by
  intro m hm n hn p v w hv hw
  unfold source? at h
  split at h
  · cases h
    simp only [ofObject, Option.toList_eq_singleton_iff, Option.map_eq_some_iff, Prod.mk.injEq]
      at hv hw
    obtain ⟨_, _, hp, -⟩ := hv
    obtain ⟨_, _, hq, -⟩ := hw
    exact rank_inj hm hn (hp.trans hq.symm)
  · cases h
    simp only [ofArray, Option.toList_eq_singleton_iff, Option.map_eq_some_iff, Prod.mk.injEq]
      at hv hw
    obtain ⟨_, _, hp, -⟩ := hv
    obtain ⟨_, _, hq, -⟩ := hw
    exact (List.idxOf_inj hm).1 (hp.trans hq.symm)
  · cases h

/-- Reading comes to the value of a field: no fault of the record is visited before it. -/
def Reaches (record : String) (fs : Fields ρ α) (name : String) (j v : Json) : Prop :=
  ∃ src p, fs.source? record j = some src ∧ src.find name = [(p, v)] ∧
    ∀ f ∈ (fs.read src).all, WithTop.some p ≤ f.visit

theorem Reaches.ne_null {record : String} {fs : Fields ρ α} {name : String} {j v : Json}
    (h : fs.Reaches record name j v) : j ≠ .null := by
  obtain ⟨src, p, hsrc, -⟩ := h
  rintro rfl
  cases hsrc

theorem read_record_eq_error {record : String} {fs : Fields ρ ρ} {j : Json}
    {src : Source Json Failure} (hsrc : fs.source? record j = some src) {e : Failure}
    (h : (fs.read src).settle = .error e) : (Codec.record record fs).read j = .error e := by
  unfold source? at hsrc
  split at hsrc
  · cases hsrc
    exact h
  · cases hsrc
    simp only [Codec.record, h]
  · cases hsrc

theorem exists_source_of_read_record {record : String} {fs : Fields ρ ρ} {j : Json}
    (h : (Codec.record record fs).read j = .error .outOfRange) :
    ∃ src, fs.source? record j = some src ∧ (fs.read src).settle = .error .outOfRange := by
  cases j with
  | object fields => exact ⟨_, rfl, h⟩
  | array items =>
    refine ⟨_, rfl, ?_⟩
    simp only [Codec.record] at h
    split at h
    · split at h <;> cases h
    · next e he => rw [he, ← h]
  | null | bool | int | float | text => cases h

/-- A failure in the field becomes the failure of the record, once reading comes to it. -/
theorem Carries.read_error {name : String} {slot : Slot β} {record : String} {fs : Fields ρ ρ}
    (h : Carries name slot fs) {j v : Json} (hreach : fs.Reaches record name j v) {e : Failure}
    (hv : slot.read v = .error e) : (Codec.record record fs).read j = .error e := by
  obtain ⟨src, p, hsrc, hfind, hfirst⟩ := hreach
  have hmem := h.fault_mem hfind hv
  obtain ⟨hnone, -⟩ | ⟨f, hf, hsettle, hle⟩ := (fs.read src).settle_spec
  · rw [hnone] at hmem
    cases hmem
  · -- the fault of the field has the first place there is, and no other field has an entry there
    have hplace := Fault.visit_eq_some.1 (le_antisymm (hle _ hmem) (hfirst f hf))
    suffices hcause : f.cause = e from read_record_eq_error hsrc (hcause ▸ hsettle)
    obtain ⟨q, w, hw, -, hread⟩ | ⟨-, hother⟩ := h.mem_all (orderly_of_source? hsrc) hf
    · rw [hfind] at hw
      cases hw
      exact Except.error.inj (hread.symm.trans hv)
    · obtain ⟨n, ⟨hn, hne⟩, w, hw⟩ := hother p hplace
      exact absurd (distinct_of_source? hsrc n hn name h.mem_names p w v hw hfind) hne

theorem Carries.read_outOfRange_iff {name : String} {slot : Slot β} {record : String}
    {fs : Fields ρ ρ} (h : Carries name slot fs) (j : Json) :
    (Codec.record record fs).read j = .error .outOfRange ↔
      ∃ v, fs.Reaches record name j v ∧ slot.read v = .error .outOfRange := by
  constructor
  · intro hj
    obtain ⟨src, hsrc, hsettle⟩ := exists_source_of_read_record hj
    obtain ⟨-, a, ha⟩ | ⟨f, hf, he, hle⟩ := (fs.read src).settle_spec
    · rw [hsettle] at ha
      cases ha
    · have hcause : f.cause = .outOfRange := Except.error.inj (he.symm.trans hsettle)
      obtain ⟨p, v, hfind, hp, hv⟩ | ⟨hne, -⟩ := h.mem_all (orderly_of_source? hsrc) hf
      · refine ⟨v, ⟨src, p, hsrc, hfind, fun g hg => ?_⟩, hcause ▸ hv⟩
        rw [← Fault.visit_eq_some.2 hp]
        exact hle g hg
      · exact absurd hcause hne
  · rintro ⟨v, hreach, hv⟩
    exact h.read_error hreach hv

theorem Carries.reaches_only {name : String} {slot : Slot β} {fs : Fields ρ α}
    (h : Carries name slot fs) (record : String) (v : Json) :
    fs.Reaches record name (.object [(name, v)]) v := by
  have hsrc : fs.source? record (.object [(name, v)]) = some (fs.ofObject [(name, v)]) := rfl
  have hfind : (fs.ofObject [(name, v)]).find name = [(fs.rank name, v)] := by
    simp [ofObject]
  refine ⟨_, fs.rank name, hsrc, hfind, fun f hf => Fault.some_le_visit_iff.2 fun q hq => ?_⟩
  obtain ⟨r, w, hr, hplace, -⟩ | ⟨-, hother⟩ := h.mem_all (orderly_of_source? hsrc) hf
  · rw [hfind] at hr
    cases hr
    exact le_of_eq (Option.some.inj (hplace.symm.trans hq))
  · obtain ⟨n, ⟨-, hne⟩, w, hw⟩ := hother q hq
    have hlookup : [(name, v)].lookup n = none := by
      rw [List.lookup_cons, beq_eq_false_iff_ne.2 hne, List.lookup_nil]
    simp [ofObject, hlookup] at hw

theorem Untimed.settle_ne {fs : Fields ρ ρ} (h : fs.Untimed) {src : Source Json Failure}
    (hsrc : src.Orderly) : (fs.read src).settle ≠ .error .outOfRange := by
  intro hsettle
  obtain ⟨-, a, ha⟩ | ⟨f, hf, he, -⟩ := (fs.read src).settle_spec
  · rw [hsettle] at ha
    cases ha
  · exact (h src hsrc f hf).1 (Except.error.inj (he.symm.trans hsettle))

end Fields

namespace Codec

theorem mapM_eq_error_iff (read : δ → Except ε α) (items : List δ) (e : ε) :
    items.mapM read = .error e ↔ ∃ front d back, items = front ++ d :: back ∧
      (∀ b ∈ front, ∃ a, read b = .ok a) ∧ read d = .error e := by
  induction items with
  | nil => simp [pure, Except.pure]
  | cons j items ih =>
    rw [List.mapM_cons]
    cases hj : read j with
    | error e' =>
      constructor
      · intro h
        cases h
        exact ⟨[], j, items, rfl, by simp, hj⟩
      · rintro ⟨front, d, back, hitems, hfront, hd⟩
        cases front with
        | nil =>
          cases hitems
          rw [hj] at hd
          cases hd
          rfl
        | cons b front =>
          cases hitems
          obtain ⟨a, ha⟩ := hfront j (by simp)
          rw [ha] at hj
          cases hj
    | ok a =>
      have hstep : (do let as ← items.mapM read; pure (a :: as) : Except ε (List α)) = .error e ↔
          items.mapM read = .error e := by
        cases items.mapM read <;> simp [bind, Except.bind, pure, Except.pure]
      refine Iff.trans hstep (ih.trans ?_)
      constructor
      · rintro ⟨front, d, back, rfl, hfront, hd⟩
        exact ⟨j :: front, d, back, rfl, List.forall_mem_cons.2 ⟨⟨a, hj⟩, hfront⟩, hd⟩
      · rintro ⟨front, d, back, hitems, hfront, hd⟩
        cases front with
        | nil =>
          cases hitems
          rw [hj] at hd
          cases hd
        | cons b front =>
          cases hitems
          exact ⟨front, d, back, rfl, (List.forall_mem_cons.1 hfront).2, hd⟩

/-- Reading a list comes to an item: all items before it can be read. -/
def ReachesItem (c : Codec α) (j v : Json) : Prop :=
  ∃ front back, j = .array (front ++ v :: back) ∧ ∀ w ∈ front, ∃ a, c.read w = .ok a

variable {c : Codec α}

theorem read_list_error {j v : Json} (hreach : c.ReachesItem j v) {e : Failure}
    (hv : c.read v = .error e) : (list c).read j = .error e := by
  obtain ⟨front, back, rfl, hfront⟩ := hreach
  exact (mapM_eq_error_iff c.read _ e).2 ⟨front, v, back, rfl, hfront, hv⟩

theorem read_list_outOfRange_iff (j : Json) :
    (list c).read j = .error .outOfRange ↔
      ∃ v, c.ReachesItem j v ∧ c.read v = .error .outOfRange := by
  constructor
  · intro h
    cases j with
    | array items =>
      obtain ⟨front, v, back, rfl, hfront, hv⟩ := (mapM_eq_error_iff c.read items _).1 h
      exact ⟨v, ⟨front, back, rfl, hfront⟩, hv⟩
    | null | bool | int | float | text | object => cases h
  · rintro ⟨v, hreach, hv⟩
    exact read_list_error hreach hv

end Codec

end EdgeRoutes
