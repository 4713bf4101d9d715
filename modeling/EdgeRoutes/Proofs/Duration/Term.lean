import EdgeRoutes.Duration.Reader
import EdgeRoutes.Proofs.Number.Numeral

namespace EdgeRoutes.Duration

theorem le_of_mem_alphabeticRanges : ∀ r ∈ Text.alphabeticRanges, 0xaa ≤ r.1 := by decide +kernel

theorem isAlphabetic_of_lt {c : Char} (h : c.toNat < 0xaa) : Text.isAlphabetic c = c.isAlpha := by
  have hr : Text.alphabeticRanges.contains c = false := by
    simp only [Text.CharRanges.contains, List.any_eq_false]
    intro r hm
    have := le_of_mem_alphabeticRanges r hm
    simp only [Bool.and_eq_true, decide_eq_true_eq]
    omega
  rw [Text.isAlphabetic, hr, Bool.or_false]

theorem isAlphabetic_of_isDigit {c : Char} (h : c.isDigit = true) :
    Text.isAlphabetic c = false := by
  simp only [Char.isDigit, Bool.and_eq_true, decide_eq_true_eq, UInt32.le_iff_toNat_le, ge_iff_le]
    at h
  change 48 ≤ c.toNat ∧ c.toNat ≤ 57 at h
  rw [isAlphabetic_of_lt (by omega), Bool.eq_false_iff]
  simp only [Char.isAlpha, Char.isUpper, Char.isLower, Bool.or_eq_true, Bool.and_eq_true,
    decide_eq_true_eq, UInt32.le_iff_toNat_le, ge_iff_le, ne_eq]
  change ¬ ((65 ≤ c.toNat ∧ c.toNat ≤ 90) ∨ (97 ≤ c.toNat ∧ c.toNat ≤ 122))
  omega

theorem isAlphabetic_of_mem_magnitude {cs : List Char} {u : Nat} (h : magnitude? cs = some u)
    {c : Char} (hc : c ∈ cs) : Text.isAlphabetic c = false := by
  rw [← List.takeWhile_append_dropWhile (p := Char.isDigit) (l := cs), List.mem_append] at hc
  obtain hc | hc := hc
  · exact isAlphabetic_of_isDigit (List.mem_takeWhile_imp hc)
  · simp only [magnitude?] at h
    split at h
    · next hd => simp [hd] at hc
    · next fraction hd =>
      split at h
      · next hf =>
        simp only [Bool.and_eq_true, List.all_eq_true] at hf
        rw [hd, List.mem_cons] at hc
        obtain rfl | hc := hc
        · decide +kernel
        · exact isAlphabetic_of_isDigit (hf.1 c hc)
      · cases h
    · cases h

theorem isAlphabetic_of_mem_factor {cs : List Char} {x : Binary64} (h : factor? cs = .ok x)
    {c : Char} (hc : c ∈ cs) : Text.isAlphabetic c = false := by
  have hm (ds : List Char) (b : Bool)
      (h : (magnitude? ds).elim (.error Malformed.badNumber) (fun u => .ok ⟨b, u⟩) = Except.ok x) :
      ∀ d ∈ ds, Text.isAlphabetic d = false := by
    cases hu : magnitude? ds with
    | none => simp [hu] at h
    | some u => exact fun d hd => isAlphabetic_of_mem_magnitude hu hd
  unfold factor? at h
  split at h
  · cases h
  · next ds =>
    obtain rfl | hc := List.mem_cons.1 hc
    · decide +kernel
    · exact hm ds true h c hc
  · next ds =>
    obtain rfl | hc := List.mem_cons.1 hc
    · decide +kernel
    · exact hm ds false h c hc
  · exact hm cs false h c hc

def units : List (List Char) :=
  [['n', 's'], ['u', 's'], ['µ', 's'], ['μ', 's'], ['m', 's'], ['s'], ['m'], ['h']]

theorem mem_units {unit : List Char} {n : Nat} (h : unitNanos? unit = some n) : unit ∈ units := by
  unfold unitNanos? at h
  simp only [units, List.mem_cons, List.not_mem_nil]
  grind

theorem isAlphabetic_of_mem_unit {unit : List Char} {n : Nat} (h : unitNanos? unit = some n)
    {c : Char} (hc : c ∈ unit) : Text.isAlphabetic c = true := by
  have hall : units.all (fun u => u.all Text.isAlphabetic) = true := by decide +kernel
  have hunit := List.all_eq_true.1 hall unit (mem_units h)
  exact List.all_eq_true.1 hunit c hc

/-- A component that the text of a duration can be put together from. -/
structure Term where
  number : List Char
  unit : List Char
  factor : Binary64
  scale : Nat
  factor_eq : factor? number = .ok factor
  scale_eq : unitNanos? unit = some scale

namespace Term

def text (t : Term) : List Char := t.number ++ t.unit

/-- The amount of a term in nanoseconds; an amount below zero has none. -/
def nanos? (t : Term) : Option Nat := componentNanos? t.factor t.scale

end Term

def EndsUnit (cs : List Char) : Prop := ∀ c, cs.head? = some c → Text.isAlphabetic c = false

theorem endsUnit_nil : EndsUnit [] := nofun

/-- The nanoseconds from which on a duration cannot be represented. -/
def limit : Nat := 0x10000000000000000 * 1000000000

/-- The text begins with terms whose amounts have a sum in range, and the term after them is
negative or takes the sum out of range. -/
def Overruns (cs : List Char) : Prop :=
  ∃ (ts : List Term) (ns : List Nat) (t : Term) (rest : List Char),
    cs = ts.flatMap Term.text ++ (t.text ++ rest) ∧ EndsUnit rest ∧
    ts.map Term.nanos? = ns.map some ∧ ns.sum < limit ∧
    (t.nanos? = none ∨ ∃ n, t.nanos? = some n ∧ limit ≤ ns.sum + n)

theorem Term.number_ne_nil (t : Term) : t.number ≠ [] := by
  intro h
  have := t.factor_eq
  rw [h] at this
  cases this

theorem Term.unit_ne_nil (t : Term) : t.unit ≠ [] := by
  intro h
  have := t.scale_eq
  rw [h] at this
  cases this

theorem Term.endsUnit (t : Term) (rest : List Char) : EndsUnit (t.text ++ rest) := by
  intro c hc
  cases hn : t.number with
  | nil => exact absurd hn t.number_ne_nil
  | cons d ds =>
    rw [text, hn] at hc
    cases hc
    exact isAlphabetic_of_mem_factor t.factor_eq (by simp [hn])

theorem endsUnit_flatMap (ts : List Term) {rest : List Char} (h : EndsUnit rest) :
    EndsUnit (ts.flatMap Term.text ++ rest) := by
  cases ts with
  | nil => exact h
  | cons t ts =>
    rw [List.flatMap_cons, List.append_assoc]
    exact t.endsUnit _

theorem Term.read_append (t : Term) {rest : List Char} (h : EndsUnit rest) :
    Component.read (t.text ++ rest) = ⟨t.number, t.unit, rest⟩ := by
  have hnumber : ∀ c ∈ t.number, (!Text.isAlphabetic c) = true := fun c hc => by
    simp [isAlphabetic_of_mem_factor t.factor_eq hc]
  have hunit : ∀ c ∈ t.unit, Text.isAlphabetic c = true := fun c hc =>
    isAlphabetic_of_mem_unit t.scale_eq hc
  have hhead : ∀ c, (t.unit ++ rest).head? = some c → (!Text.isAlphabetic c) = false := by
    intro c hc
    cases hu : t.unit with
    | nil => exact absurd hu t.unit_ne_nil
    | cons d ds =>
      rw [hu] at hc
      cases hc
      simp [hunit c (by simp [hu])]
  rw [Component.read, text, List.append_assoc, Numeral.takeWhile_append_of_ends hnumber hhead,
    Numeral.dropWhile_append_of_ends hnumber hhead, Numeral.takeWhile_append_of_ends hunit h,
    Numeral.dropWhile_append_of_ends hunit h]

theorem div_lt_iff_lt_limit (n : Nat) : n / 1000000000 < 0x10000000000000000 ↔ n < limit :=
  Nat.div_lt_iff_lt_mul (by decide)

/-- What one term does to the sum so far. -/
theorem sumNanos_term (total : Nat) (t : Term) {rest : List Char} (h : EndsUnit rest) :
    sumNanos total (t.text ++ rest) = match t.nanos? with
      | none => .error .outOfRange
      | some n => if total + n < limit then sumNanos (total + n) rest else .error .outOfRange := by
  have hne : ¬ (t.text ++ rest = [] ∨ t.text ++ rest = ['0']) := by
    have hl : 2 ≤ (t.text ++ rest).length := by
      have hnumber := List.length_pos_iff.2 t.number_ne_nil
      have hunit := List.length_pos_iff.2 t.unit_ne_nil
      simp only [Term.text, List.length_append]
      omega
    rintro (he | he) <;> simp [he] at hl
  rw [sumNanos, if_neg hne]
  simp only [t.read_append h, if_neg t.unit_ne_nil, t.factor_eq, t.scale_eq, div_lt_iff_lt_limit]
  rfl

theorem sumNanos_terms (total : Nat) (ts : List Term) (ns : List Nat)
    (hns : ts.map Term.nanos? = ns.map some) (hsum : total + ns.sum < limit) {rest : List Char}
    (h : EndsUnit rest) :
    sumNanos total (ts.flatMap Term.text ++ rest) = sumNanos (total + ns.sum) rest := by
  induction ts generalizing total ns with
  | nil =>
    cases ns with
    | nil => rfl
    | cons n ns => cases hns
  | cons t ts ih =>
    cases ns with
    | nil => cases hns
    | cons n ns =>
      obtain ⟨ht, hts⟩ := List.cons.inj hns
      rw [List.sum_cons] at hsum ⊢
      rw [List.flatMap_cons, List.append_assoc, sumNanos_term total t (endsUnit_flatMap ts h)]
      simp only [ht, if_pos (show total + n < limit by omega)]
      rw [ih (total + n) ns hts (by omega), Nat.add_assoc]

theorem exists_term_of_read {cs : List Char} {x : Binary64} {n : Nat}
    (hx : factor? (Component.read cs).number = .ok x)
    (hn : unitNanos? (Component.read cs).unit = some n) :
    ∃ t : Term, t.factor = x ∧ t.scale = n ∧ cs = t.text ++ (Component.read cs).rest ∧
      EndsUnit (Component.read cs).rest := by
  refine ⟨⟨_, _, x, n, hx, hn⟩, rfl, rfl, ?_, ?_⟩
  · simp only [Term.text, Component.read, List.append_assoc, List.takeWhile_append_dropWhile]
  · intro c hc
    have := List.head?_dropWhile_not Text.isAlphabetic (cs.dropWhile (!Text.isAlphabetic ·))
    simp only [Component.read] at hc
    rw [hc] at this
    simpa using this

theorem exists_overrun {total : Nat} {cs : List Char} (htotal : total < limit)
    (h : sumNanos total cs = .error .outOfRange) :
    ∃ (ts : List Term) (ns : List Nat) (t : Term) (rest : List Char),
      cs = ts.flatMap Term.text ++ (t.text ++ rest) ∧ EndsUnit rest ∧
      ts.map Term.nanos? = ns.map some ∧ total + ns.sum < limit ∧
      (t.nanos? = none ∨ ∃ n, t.nanos? = some n ∧ limit ≤ total + ns.sum + n) := by
  fun_induction sumNanos total cs with
  | case1 total cs hend => cases h
  | case2 total cs hend c hunit => cases h
  | case3 total cs hend c hunit e hfactor => cases h
  | case4 total cs hend c hunit x hfactor hscale => cases h
  | case5 total cs hend c hunit x hfactor n hscale hnone =>
    obtain ⟨t, rfl, rfl, hcs, hrest⟩ := exists_term_of_read hfactor hscale
    exact ⟨[], [], t, c.rest, hcs, hrest, rfl, htotal, .inl hnone⟩
  | case6 total cs hend c hunit x hfactor n hscale m hsome hlt ih =>
    obtain ⟨t, rfl, rfl, hcs, -⟩ := exists_term_of_read hfactor hscale
    rw [div_lt_iff_lt_limit] at hlt
    obtain ⟨ts, ns, u, rest, hc, hrest, hns, hsum, hu⟩ := ih hlt h
    refine ⟨t :: ts, m :: ns, u, rest, ?_, hrest, ?_, ?_, ?_⟩
    · rw [hcs, List.flatMap_cons, List.append_assoc, ← hc]
    · rw [List.map_cons, List.map_cons, hns]
      exact congrArg (· :: ns.map some) hsome
    · rwa [List.sum_cons, ← Nat.add_assoc]
    · rwa [List.sum_cons, ← Nat.add_assoc]
  | case7 total cs hend c hunit x hfactor n hscale m hsome hge =>
    obtain ⟨t, rfl, rfl, hcs, hrest⟩ := exists_term_of_read hfactor hscale
    rw [div_lt_iff_lt_limit] at hge
    exact ⟨[], [], t, c.rest, hcs, hrest, rfl, htotal, .inr ⟨m, hsome, by simpa using hge⟩⟩

theorem sumNanos_lt_limit {total : Nat} {cs : List Char} (htotal : total < limit) {n : Nat}
    (h : sumNanos total cs = .ok n) : n < limit := by
  fun_induction sumNanos total cs with
  | case1 => exact Except.ok.inj h ▸ htotal
  | case2 | case3 | case4 | case5 | case7 => cases h
  | case6 total cs hend c hunit x hfactor scale hscale m hsome hlt ih =>
    exact ih ((div_lt_iff_lt_limit _).1 hlt) h

theorem sumNanos_eq_outOfRange_iff (cs : List Char) :
    sumNanos 0 cs = .error .outOfRange ↔ Overruns cs := by
  constructor
  · intro h
    simpa only [Overruns, Nat.zero_add] using exists_overrun (by decide) h
  · rintro ⟨ts, ns, t, rest, rfl, hrest, hns, hsum, ht⟩
    rw [sumNanos_terms 0 ts ns hns (by omega) (t.endsUnit rest), Nat.zero_add,
      sumNanos_term _ _ hrest]
    obtain ht | ⟨n, ht, hge⟩ := ht
    · simp only [ht]
    · simp only [ht, if_neg (Nat.not_lt.2 hge)]

def unsigned (s : String) : List Char := (s.toList.dropWhile (· = '+')).dropWhile (· = '-')

theorem ofNanos?_eq_some_of_lt (negative : Bool) {n : Nat} (h : n < limit) :
    ∃ d, ofNanos? negative n = some d := by
  have hn := (div_lt_iff_lt_limit n).2 h
  unfold ofNanos?
  rw [dif_pos hn]
  exact ⟨_, rfl⟩

theorem ofText_eq_error {s : String} {u : Unreadable} (h : sumNanos 0 (unsigned s) = .error u) :
    ofText s = .error u := by
  unfold unsigned at h
  simp only [ofText, h]

theorem ofText_eq_ok {s : String} {n : Nat} {d : Duration} (h : sumNanos 0 (unsigned s) = .ok n)
    (hd : ofNanos? (s.toList.head? = some '-') n = some d) : ofText s = .ok d := by
  unfold unsigned at h
  simp only [ofText, h, hd]

/-- A text denotes a duration that cannot be represented exactly when its terms leave the range. -/
theorem ofText_eq_outOfRange_iff (s : String) :
    ofText s = .error .outOfRange ↔ Overruns (unsigned s) := by
  rw [← sumNanos_eq_outOfRange_iff]
  refine ⟨fun h => ?_, ofText_eq_error⟩
  cases hsum : sumNanos 0 (unsigned s) with
  | error e =>
    rw [ofText_eq_error hsum] at h
    cases h
    rfl
  | ok n =>
    obtain ⟨d, hd⟩ := ofNanos?_eq_some_of_lt (s.toList.head? = some '-')
      (sumNanos_lt_limit (by decide) hsum)
    unfold unsigned at hsum
    simp [ofText, hsum, hd] at h

end EdgeRoutes.Duration
