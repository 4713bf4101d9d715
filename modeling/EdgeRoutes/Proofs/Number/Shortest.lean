import EdgeRoutes.Proofs.Number.Interval
import EdgeRoutes.Proofs.Number.Whole

/-!
The shortest decimal of a magnitude reads back as the magnitude. Where the step of a decimal grid is
longer than the gap between magnitudes, a point of the grid that reads back is the only one; without
zeros at its end it is on no coarser grid, so it is the shortest decimal.
-/

namespace EdgeRoutes

namespace Binary64

variable {u p c c' : Nat}

/-! Points of a grid -/

theorem reads_iff : reads u p c = true ↔ Covers u (c * gridStep p) (Nat.pow 10 gridOffset) := by
  unfold reads Covers
  rw [Nat.mul_assoc]
  generalize Nat.pow 10 gridOffset = scale
  dsimp only
  by_cases heven : u / spacing u % 2 = 0
  · rw [if_pos heven, if_pos heven, Bool.and_eq_true, decide_eq_true_iff, decide_eq_true_iff]
  · rw [if_neg heven, if_neg heven, Bool.and_eq_true, decide_eq_true_iff, decide_eq_true_iff]

theorem gridStep_add (p k : Nat) : gridStep (p + k) = 10 ^ k * gridStep p := by
  have hpow : Nat.pow 10 (p + k) = Nat.pow 10 p * 10 ^ k := Nat.pow_add 10 p k
  rw [gridStep, gridStep, hpow]
  ring

theorem reads_add (k : Nat) : reads u (p + k) c = true ↔ reads u p (c * 10 ^ k) = true := by
  rw [reads_iff, reads_iff, gridStep_add, Nat.mul_assoc]

/-- The point below the magnitude is taken or the one above, as long as one of them reads back. -/
theorem gridPoint_cases (tie : Tie) (u p : Nat) :
    let below := u * Nat.pow 10 gridOffset / gridStep p
    (gridPoint tie u p = some below ∧ reads u p below = true) ∨
      (gridPoint tie u p = some (below + 1) ∧ reads u p (below + 1) = true) ∨
      (gridPoint tie u p = none ∧ reads u p below = false ∧ reads u p (below + 1) = false) := by
  intro below
  have hbelow : u * Nat.pow 10 gridOffset / gridStep p = below := rfl
  unfold gridPoint
  dsimp only
  rw [hbelow]
  cases hb : reads u p below with
  | false => cases ha : reads u p (below + 1) <;> simp
  | true =>
    cases ha : reads u p (below + 1) with
    | false => simp
    | true =>
      -- of two points the nearer is taken, and at the same distance the tie decides
      dsimp only
      split
      · simp
      · split
        · simp
        · cases tie with
          | up => simp
          | even =>
            dsimp only
            split <;> simp

theorem reads_of_gridPoint {tie : Tie} (h : gridPoint tie u p = some c) : reads u p c = true := by
  obtain ⟨hpoint, hreads⟩ | ⟨hpoint, hreads⟩ | ⟨hpoint, -⟩ := gridPoint_cases tie u p
  · rw [hpoint] at h
    cases h
    exact hreads
  · rw [hpoint] at h
    cases h
    exact hreads
  · rw [hpoint] at h
    cases h

theorem exists_gridPoint (tie : Tie) (hu : 0 < u) (h : reads u p c = true) :
    ∃ c', gridPoint tie u p = some c' := by
  obtain ⟨hpoint, -⟩ | ⟨hpoint, -⟩ | ⟨-, hbelow, habove⟩ := gridPoint_cases tie u p
  · exact ⟨_, hpoint⟩
  · exact ⟨_, hpoint⟩
  exfalso
  rw [Bool.eq_false_iff, Ne, reads_iff] at hbelow habove
  rw [reads_iff] at h
  have hscale := gridScale_pos
  have hstep := gridStep_pos p
  generalize Nat.pow 10 gridOffset = scale at *
  generalize gridStep p = step at *
  have hle := Nat.div_mul_le_self (u * scale) step
  have hlt := Nat.lt_div_mul_add (a := u * scale) hstep
  rw [← Nat.succ_mul] at hlt
  obtain hc | hc := Nat.lt_or_ge (u * scale / step) c
  · exact habove (h.of_between hu hscale (.inr ⟨hlt.le, Nat.mul_le_mul_right _ hc⟩))
  · exact hbelow (h.of_between hu hscale (.inl ⟨Nat.mul_le_mul_right _ hc, hle⟩))

/-- The step of grid `p` is longer than the spacing at `u`. -/
def Separates (p u : Nat) : Prop := spacing u * Nat.pow 10 gridOffset < gridStep p

/-- No two points of a wide grid read back. -/
theorem eq_of_reads_of_separates (hp : Separates p u) (h : reads u p c = true)
    (h' : reads u p c' = true) :
    c = c' := by
  rw [reads_iff] at h h'
  rw [Separates] at hp
  generalize Nat.pow 10 gridOffset = scale at *
  generalize gridStep p = step at *
  obtain ⟨hlow, -, hup⟩ := quarters_le u
  have hwidth : upperQuarters u * scale ≤ lowerQuarters u * scale + 4 * (spacing u * scale) := by
    rw [← Nat.mul_assoc, ← Nat.add_mul]
    exact Nat.mul_le_mul_right _ (by omega)
  -- points in order are a step apart, so the larger one would be out of the interval
  have hlt : ∀ {a b : Nat}, Covers u (a * step) scale → Covers u (b * step) scale → ¬ a < b := by
    intro a b ha hb hab
    have hnext := Nat.mul_le_mul_right step (Nat.succ_le_of_lt hab)
    rw [Nat.succ_mul] at hnext
    have hlower := ha.lower_le
    have hupper := hb.le_upper
    omega
  have hge := hlt h h'
  have hle := hlt h' h
  omega

theorem gridPoint_of_separates (tie : Tie) (hu : 0 < u) (hp : Separates p u)
    (h : reads u p c = true) :
    gridPoint tie u p = some c := by
  obtain ⟨c', hpoint⟩ := exists_gridPoint tie hu h
  rw [hpoint, eq_of_reads_of_separates hp (reads_of_gridPoint hpoint) h]

theorem gridPoint_above (tie : Tie) (hp : Separates p u) (h : reads u p c = true) (hten : ¬ 10 ∣ c)
    (k : Nat) : gridPoint tie u (p + (k + 1)) = none := by
  refine gridPoint_eq_none fun c' => Bool.eq_false_iff.2 fun hc' => hten ?_
  rw [eq_of_reads_of_separates hp h ((reads_add (k + 1)).1 hc')]
  exact (dvd_pow_self 10 k.succ_ne_zero).mul_left c'

/-! The search from coarse to fine -/

theorem coarsest_add_of_separates (tie : Tie) (hu : 0 < u) (hp : Separates p u)
    (h : reads u p c = true) (hten : ¬ 10 ∣ c) (k : Nat) :
    coarsest tie u (p + k + 1) = ⟨c, (p : Int) - gridOffset⟩ := by
  induction k with
  | zero =>
    rw [Nat.add_zero, coarsest, gridPoint_of_separates tie hu hp h]
  | succ k ih =>
    rw [coarsest, gridPoint_above tie hp h hten k]
    exact ih

theorem shortest_of_reads (tie : Tie) (hu : 0 < u) (hp : Separates p u) (hcount : p < gridCount)
    (h : reads u p c = true) (hten : ¬ 10 ∣ c) : shortest tie u = ⟨c, (p : Int) - gridOffset⟩ := by
  obtain ⟨k, hk⟩ := Nat.exists_eq_add_of_lt hcount
  rw [shortest, if_neg hu.ne', hk, coarsest_add_of_separates tie hu hp h hten]

theorem exists_reads_coarsest (tie : Tie) (hu : 0 < u) (h : reads u 0 c = true) (q : Nat) :
    ∃ (p : Nat) (c' : Nat), coarsest tie u (q + 1) = ⟨c', (p : Int) - gridOffset⟩ ∧
      reads u p c' = true := by
  induction q with
  | zero =>
    obtain ⟨c', hpoint⟩ := exists_gridPoint tie hu h
    exact ⟨0, c', by rw [coarsest, hpoint], reads_of_gridPoint hpoint⟩
  | succ q ih =>
    rw [coarsest]
    cases hpoint : gridPoint tie u (q + 1) with
    | none => exact ih
    | some c' => exact ⟨q + 1, c', rfl, reads_of_gridPoint hpoint⟩

theorem finest_lt : 4 * gridStep 0 < Nat.pow 10 gridOffset := by decide +kernel

theorem exists_reads_finest (hu : 0 < u) : ∃ c, reads u 0 c = true := by
  have hfine := finest_lt
  have hstep := gridStep_pos 0
  refine ⟨u * Nat.pow 10 gridOffset / gridStep 0, reads_iff.2 ?_⟩
  generalize Nat.pow 10 gridOffset = scale at *
  generalize gridStep 0 = step at *
  have hle := Nat.div_mul_le_self (u * scale) step
  have hlt := Nat.lt_div_mul_add (a := u * scale) hstep
  have hlower := Nat.mul_le_mul_right scale (lowerQuarters_lt hu)
  have hupper : (4 * u + 1) * scale ≤ upperQuarters u * scale := by
    refine Nat.mul_le_mul_right scale ?_
    have := spacing_pos u
    rw [upperQuarters]
    omega
  rw [Nat.add_mul, Nat.mul_assoc] at hupper
  rw [Nat.succ_mul, Nat.mul_assoc] at hlower
  exact covers_of_lt (by omega) (by omega)

/-- The shortest decimal reads back. -/
theorem exists_reads_shortest (tie : Tie) (hu : 0 < u) :
    ∃ (p : Nat) (c : Nat), shortest tie u = ⟨c, (p : Int) - gridOffset⟩ ∧ reads u p c = true := by
  obtain ⟨c, hc⟩ := exists_reads_finest hu
  rw [shortest, if_neg hu.ne']
  exact exists_reads_coarsest tie hu hc (gridOffset + 309)

/-! Decimals as ratios -/

/-- A decimal of `w` places, where magnitudes lie closer than the last place, is the shortest
decimal of the magnitude that it rounds to, without the zeros at its end. -/
theorem shortest_of_covers (tie : Tie) {k w : Nat} (hu : 0 < u) (hw : w ≤ gridOffset)
    (hk : k < 310 + w)
    (hfine : spacing u * 10 ^ w < one) (hten : ¬ 10 ∣ c)
    (h : Covers u (c * 10 ^ k * one) (10 ^ w)) :
    shortest tie u = ⟨c, (k : Int) - w⟩ := by
  obtain ⟨g, hg⟩ := Nat.exists_eq_add_of_le hw
  have hscale : Nat.pow 10 gridOffset = 10 ^ w * 10 ^ g := by
    rw [hg]
    exact Nat.pow_add 10 w g
  have hstep : gridStep (g + k) = 10 ^ k * one * 10 ^ g := by
    rw [gridStep_add, gridStep, Nat.pow_eq]
    ring
  have hpos : 0 < 10 ^ g := Nat.pow_pos (by decide)
  have hreads : reads u (g + k) c = true := by
    rw [reads_iff, hscale, hstep, ← Nat.mul_assoc, ← Nat.mul_assoc, covers_mul_iff hpos]
    exact h
  have hsep : Separates (g + k) u := by
    have hone : one ≤ 10 ^ k * one := Nat.le_mul_of_pos_left _ (Nat.pow_pos (by decide))
    rw [Separates, hscale, hstep, ← Nat.mul_assoc]
    exact Nat.mul_lt_mul_of_pos_right (lt_of_lt_of_le hfine hone) hpos
  have hcount : g + k < gridCount := by
    unfold gridCount
    omega
  rw [shortest_of_reads tie hu hsep hcount hreads hten, hg]
  congr 1
  push_cast
  ring

end Binary64

def Decimal.value (d : Decimal) : ℚ := d.coefficient * 10 ^ d.exponent

namespace Binary64

variable {u : Nat}

theorem Covers.abs_sub_le {num den : Nat} (h : Covers u num den) (hd : 0 < den) :
    |(num : ℚ) / den - u| ≤ spacing u / 2 := by
  have hd' : (0 : ℚ) < den := by exact_mod_cast hd
  obtain ⟨hlow, -, hup⟩ := quarters_le u
  have hlower : 4 * u * den ≤ 4 * num + 2 * spacing u * den := by
    have := Nat.mul_le_mul_right den hlow
    rw [Nat.add_mul] at this
    exact this.trans (Nat.add_le_add_right h.lower_le _)
  have hupper : 4 * num ≤ 4 * u * den + 2 * spacing u * den := by
    rw [← Nat.add_mul, ← hup]
    exact h.le_upper
  have hlower' : 4 * (u : ℚ) * den ≤ 4 * num + 2 * spacing u * den := by exact_mod_cast hlower
  have hupper' : 4 * (num : ℚ) ≤ 4 * u * den + 2 * spacing u * den := by exact_mod_cast hupper
  rw [abs_le]
  constructor
  · rw [neg_le_sub_iff_le_add, ← mul_le_mul_iff_of_pos_right hd', add_mul,
      div_mul_cancel₀ _ hd'.ne']
    linarith
  · rw [sub_le_iff_le_add, div_le_iff₀ hd']
    linarith

theorem exists_ratio_shortest (tie : Tie) (u : Nat) :
    ∃ num den : Nat, 0 < den ∧ (shortest tie u).value = num / den ∧ Covers u (num * one) den := by
  obtain rfl | hu := Nat.eq_zero_or_pos u
  · refine ⟨0, 1, Nat.one_pos, ?_, ?_⟩
    · rw [shortest, if_pos rfl, Decimal.value]
      simp
    · rw [Nat.zero_mul, ← round_eq_iff (Nat.dvd_zero _) Nat.one_pos]
      exact round_one_of_representable (Nat.dvd_zero _)
  obtain ⟨p, c, hs, hreads⟩ := exists_reads_shortest tie hu
  have hstep : c * gridStep p = c * 10 ^ p * one := by
    rw [gridStep, Nat.pow_eq]
    ring
  refine ⟨c * 10 ^ p, Nat.pow 10 gridOffset, gridScale_pos, ?_, ?_⟩
  · rw [hs, Decimal.value]
    generalize gridOffset = g
    rw [Nat.pow_eq, zpow_sub₀ (by norm_num), zpow_natCast, zpow_natCast, mul_div_assoc']
    push_cast
    rfl
  · rwa [reads_iff, hstep] at hreads

theorem covers_of_value_shortest {tie : Tie} {num den : Nat} (hd : 0 < den)
    (h : (shortest tie u).value = num / den) : Covers u (num * one) den := by
  obtain ⟨n, d, hd', hvalue, hcovers⟩ := exists_ratio_shortest tie u
  rw [hvalue, div_eq_div_iff (by exact_mod_cast hd'.ne') (by exact_mod_cast hd.ne')] at h
  have hcross : n * den = num * d := by exact_mod_cast h
  refine (covers_congr hd' hd ?_).1 hcovers
  rw [Nat.mul_right_comm, hcross, Nat.mul_right_comm]

theorem abs_value_shortest_sub_le (tie : Tie) (u : Nat) :
    |(shortest tie u).value - value u| ≤ spacing u / (2 * one) := by
  obtain ⟨num, den, hd, hvalue, hcovers⟩ := exists_ratio_shortest tie u
  have hone := cast_one_pos
  have hscaled : (num : ℚ) / den - value u = ((num * one : Nat) / den - u) / one := by
    rw [value, sub_div, Nat.cast_mul, div_right_comm, mul_div_cancel_right₀ _ hone.ne']
  rw [hvalue, hscaled, abs_div, abs_of_pos hone, div_le_iff₀ hone]
  calc |((num * one : Nat) : ℚ) / den - u| ≤ spacing u / 2 := hcovers.abs_sub_le hd
    _ = spacing u / (2 * one) * one := by rw [← div_div, div_mul_cancel₀ _ hone.ne']

/-- The shortest decimals of magnitudes are in the order of the magnitudes. -/
theorem value_shortest_lt (tie : Tie) {v : Nat} (hu : Representable u) (hv : Representable v)
    (h : u < v) :
    (shortest tie u).value < (shortest tie v).value := by
  obtain ⟨num, den, hd, hvalue, hcovers⟩ := exists_ratio_shortest tie u
  obtain ⟨num', den', hd', hvalue', hcovers'⟩ := exists_ratio_shortest tie v
  have hlt := hcovers.lt hcovers' hu hv hd hd' h
  rw [Nat.mul_right_comm, Nat.mul_right_comm num'] at hlt
  rw [hvalue, hvalue', div_lt_div_iff₀ (by exact_mod_cast hd) (by exact_mod_cast hd')]
  exact_mod_cast Nat.lt_of_mul_lt_mul_right hlt

theorem value_shortest_le_iff (tie : Tie) {v : Nat} (hu : Representable u) (hv : Representable v) :
    (shortest tie u).value ≤ (shortest tie v).value ↔ u ≤ v := by
  constructor
  · intro h
    by_contra hlt
    exact absurd (value_shortest_lt tie hv hu (Nat.lt_of_not_le hlt)) (not_lt.2 h)
  · intro h
    obtain rfl | hlt := Nat.eq_or_lt_of_le h
    · exact le_rfl
    · exact (value_shortest_lt tie hu hv hlt).le

end Binary64

end EdgeRoutes
