import EdgeRoutes.Codec.Record
import Mathlib.Order.WithBot

/-!
The faults of a record. Reading ends with the one that is visited first, and a fault has a place
exactly when the field it belongs to has an entry there.
-/

namespace EdgeRoutes

variable {ρ α β γ δ ε : Type}

namespace Fault

/-- When a fault is visited: at its place, and after all places if it has none. -/
def visit (f : Fault ε) : WithTop Nat := f.place

theorem visit_eq_some {f : Fault ε} {p : Nat} : f.visit = WithTop.some p ↔ f.place = some p :=
  Iff.rfl

theorem some_le_visit_iff {f : Fault ε} {p : Nat} :
    WithTop.some p ≤ f.visit ↔ ∀ q, f.place = some q → p ≤ q := by
  unfold visit
  cases f.place with
  | none => exact iff_of_true le_top fun q hq => by cases hq
  | some q =>
    refine WithTop.coe_le_coe.trans ⟨fun hle r hr => ?_, fun h => h q rfl⟩
    exact Option.some.inj hr ▸ hle

theorem precedes_iff (f g : Fault ε) : f.precedes g = true ↔ f.visit < g.visit := by
  unfold precedes visit
  cases hf : f.place with
  | none => exact iff_of_false Bool.false_ne_true not_top_lt
  | some p =>
    cases hg : g.place with
    | none => exact iff_of_true rfl (WithTop.coe_lt_top p)
    | some q => exact decide_eq_true_iff.trans WithTop.coe_lt_coe.symm

theorem earliest_spec (f : Fault ε) (fs : List (Fault ε)) :
    f.earliest fs ∈ f :: fs ∧ ∀ g ∈ f :: fs, (f.earliest fs).visit ≤ g.visit := by
  induction fs generalizing f with
  | nil => simp [earliest]
  | cons g fs ih =>
    have hstep : f.earliest (g :: fs) = (if g.precedes f then g else f).earliest fs := rfl
    rw [hstep]
    by_cases hg : g.precedes f = true
    · rw [if_pos hg]
      obtain ⟨hmem, hfirst⟩ := ih g
      have hle := le_of_lt ((precedes_iff g f).1 hg)
      refine ⟨List.mem_cons_of_mem _ hmem, List.forall_mem_cons.2 ⟨?_, hfirst⟩⟩
      exact le_trans (hfirst g (by simp)) hle
    · rw [if_neg hg]
      obtain ⟨hmem, hfirst⟩ := ih f
      have hle := not_lt.1 (fun hlt => hg ((precedes_iff g f).2 hlt))
      simp only [List.forall_mem_cons] at hfirst ⊢
      refine ⟨?_, hfirst.1, le_trans hfirst.1 hle, hfirst.2⟩
      obtain h | h := List.mem_cons.1 hmem
      · rw [h]
        exact List.mem_cons_self
      · exact List.mem_cons_of_mem _ (List.mem_cons_of_mem _ h)

end Fault

namespace Reading

def all : Reading ε α → List (Fault ε)
  | .value _ => []
  | .faults e es => e :: es

@[simp]
theorem all_apply (f : Reading ε (α → β)) (a : Reading ε α) : (f.apply a).all = f.all ++ a.all := by
  cases f <;> cases a <;> simp [apply, all]

/-- A reading ends with the value, or with the cause of a fault that no other is visited before. -/
theorem settle_spec (r : Reading ε α) :
    (r.all = [] ∧ ∃ a, r.settle = .ok a) ∨
      ∃ f ∈ r.all, r.settle = .error f.cause ∧ ∀ g ∈ r.all, f.visit ≤ g.visit := by
  cases r with
  | value a => exact .inl ⟨rfl, a, rfl⟩
  | faults e es =>
    obtain ⟨hmem, hfirst⟩ := e.earliest_spec es
    exact .inr ⟨_, hmem, rfl, hfirst⟩

end Reading

/-- A source in which a name has one entry at most. -/
structure Source.Orderly (src : Source Json Failure) : Prop where
  single : ∀ name, src.find name = [] ∨ ∃ p v, src.find name = [(p, v)]
  missing : ∀ position name, src.missing position name ≠ .outOfRange

def Source.Distinct (src : Source Json Failure) (names : List String) : Prop :=
  ∀ m ∈ names, ∀ n ∈ names, ∀ p v w, src.find m = [(p, v)] → src.find n = [(p, w)] → m = n

namespace Fault

/-- The fault is that of an entry of one of the fields, unless it has no place. -/
def StandsAt (f : Fault Failure) (src : Source Json Failure) (fields : String → Prop) : Prop :=
  ∀ p, f.place = some p → ∃ name, fields name ∧ ∃ v, src.find name = [(p, v)]

variable {f : Fault Failure} {src : Source Json Failure} {fields fields' : String → Prop}

theorem standsAt_of_place_eq_none (h : f.place = none) : f.StandsAt src fields := by
  intro p hp
  rw [h] at hp
  cases hp

theorem standsAt_of_find {name : String} (hname : fields name) {p : Nat} {v : Json}
    (h : src.find name = [(p, v)]) (hp : f.place = some p) : f.StandsAt src fields := by
  intro q hq
  refine ⟨name, hname, v, ?_⟩
  rw [h, Option.some.inj (hp.symm.trans hq)]

theorem StandsAt.mono (h : f.StandsAt src fields) (hsub : ∀ name, fields name → fields' name) :
    f.StandsAt src fields' := by
  intro p hp
  obtain ⟨name, hname, hfind⟩ := h p hp
  exact ⟨name, hsub name hname, hfind⟩

end Fault

namespace Slot

variable {src : Source Json Failure} {s : Slot β} {position : Nat} {name : String}

theorem read?_of_find {p : Nat} {v : Json} (h : src.find name = [(p, v)]) :
    src.read? s.read name = some ((s.read v).mapError (⟨some p, ·⟩)) := by
  unfold Source.read?
  rw [h]
  cases hv : s.read v <;> cases src.repeated <;> simp [hv, Source.readAll, Except.mapError]

theorem read?_of_find_nil (h : src.find name = []) : src.read? s.read name = none := by
  unfold Source.read?
  rw [h]

theorem mem_all_readFrom (hs : src.Orderly) {f : Fault Failure}
    (hf : f ∈ (s.readFrom src s.read position name).all) :
    (∃ p v, src.find name = [(p, v)] ∧ f.place = some p ∧ s.read v = .error f.cause) ∨
      (f.place = none ∧ f.cause ≠ .outOfRange) := by
  unfold readFrom at hf
  obtain h | ⟨p, v, h⟩ := hs.single name
  · rw [read?_of_find_nil h] at hf
    have hm := hs.missing position name
    right
    cases ha : s.whenAbsent with
    | none =>
      simp only [ha, Reading.all, List.mem_singleton] at hf
      rw [hf]
      exact ⟨rfl, hm⟩
    | some b =>
      simp only [ha] at hf
      split at hf
      · rw [Reading.all, List.mem_singleton] at hf
        rw [hf]
        exact ⟨rfl, hm⟩
      · simp [Reading.all] at hf
  · rw [read?_of_find h] at hf
    left
    cases hv : s.read v with
    | ok b => simp [hv, Except.mapError, Reading.all] at hf
    | error e =>
      simp only [hv, Except.mapError, Reading.all, List.mem_singleton] at hf
      rw [hf]
      exact ⟨p, v, h, rfl, hv⟩

theorem fault_mem_readFrom {p : Nat} {v : Json} {e : Failure} (h : src.find name = [(p, v)])
    (hv : s.read v = .error e) :
    ⟨some p, e⟩ ∈ (s.readFrom src s.read position name).all := by
  unfold readFrom
  rw [read?_of_find h, hv]
  exact List.mem_singleton_self _

end Slot

end EdgeRoutes
