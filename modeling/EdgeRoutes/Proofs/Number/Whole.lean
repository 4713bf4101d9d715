import EdgeRoutes.Number.Layout
import EdgeRoutes.Proofs.Number.Numeral
import EdgeRoutes.Proofs.Number.Rounding

/-!
The shortest text of a whole number up to `2 ^ 53` is its decimal numeral. The grids of step one and
above hold whole numbers only, and of those no other reads back as the number: the gap to the next
magnitude is one at most, so half of it is too short to reach another whole number.
-/

namespace EdgeRoutes

namespace Binary64

variable {n : Nat}

theorem gridScale_pos : 0 < Nat.pow 10 gridOffset := by
  generalize gridOffset = g
  exact Nat.pow_pos (by decide)

theorem gridStep_offset_add (k : Nat) :
    gridStep (gridOffset + k) = 10 ^ k * one * Nat.pow 10 gridOffset := by
  unfold gridStep
  generalize gridOffset = g
  have hpow : Nat.pow 10 (g + k) = Nat.pow 10 g * 10 ^ k := Nat.pow_add 10 g k
  rw [hpow]
  ring

theorem spacing_whole_le (h : n < 2 ^ 53) : spacing (n * one) ≤ one := by
  have hlt : n * one < 2 ^ (unitExponent + 53) := by
    rw [pow_add, ← one_eq, Nat.mul_comm one]
    exact Nat.mul_lt_mul_of_pos_right h one_pos
  have := spacing_le hlt
  rwa [← one_eq] at this

theorem spacing_whole_top : spacing (2 ^ 53 * one) = 2 * one := by
  rw [one_eq, ← pow_add, spacing_eq, Nat.log2_two_pow, ← pow_succ']
  congr 1

/-- The rounding interval of a whole number, in quarters: below the end of the range a half reaches
at most to each side, and at the end of it half as far down as up. -/
theorem quarters_whole (hn : n ≤ 2 ^ 53) :
    4 * n * one ≤ lowerQuarters (n * one) + 2 * one ∧
      (upperQuarters (n * one) ≤ 4 * n * one + 2 * one ∨
        (n = 2 ^ 53 ∧ upperQuarters (n * one) ≤ 4 * n * one + 4 * one)) := by
  have hmul : 4 * (n * one) = 4 * n * one := by ring
  obtain hlt | rfl := Nat.lt_or_eq_of_le hn
  · have hs := spacing_whole_le hlt
    have hlow : 4 * n * one ≤ lowerQuarters (n * one) + 2 * spacing (n * one) := by
      unfold lowerQuarters
      dsimp only
      split <;> omega
    refine ⟨by omega, .inl ?_⟩
    rw [upperQuarters, hmul]
    omega
  · have htop : 2 ^ 53 * one = 0x10000000000000 * (2 * one) := by ring
    have hgap : 1 < 2 * one := by
      have := one_pos
      omega
    rw [lowerQuarters, spacing_whole_top, if_pos ⟨hgap, htop⟩, upperQuarters, spacing_whole_top,
      hmul]
    exact ⟨by omega, .inr ⟨rfl, by omega⟩⟩

theorem quarters_of_reads {u k c : Nat} (h : reads u (gridOffset + k) c = true) :
    lowerQuarters u ≤ 4 * (c * 10 ^ k) * one ∧ 4 * (c * 10 ^ k) * one ≤ upperQuarters u := by
  have hpoint : 4 * c * gridStep (gridOffset + k) =
      4 * (c * 10 ^ k) * one * Nat.pow 10 gridOffset := by
    rw [gridStep_offset_add]
    ring
  have hpos := gridScale_pos
  unfold reads at h
  rw [hpoint] at h
  generalize Nat.pow 10 gridOffset = scale at h hpos
  dsimp only at h
  split at h
  · simp only [Bool.and_eq_true, decide_eq_true_eq] at h
    exact ⟨Nat.le_of_mul_le_mul_right h.1 hpos, Nat.le_of_mul_le_mul_right h.2 hpos⟩
  · simp only [Bool.and_eq_true, decide_eq_true_eq] at h
    exact ⟨Nat.le_of_mul_le_mul_right h.1.le hpos, Nat.le_of_mul_le_mul_right h.2.le hpos⟩

/-- Of whole numbers only `n` itself reads back as `n`, and the next one at the end of the range. -/
theorem eq_of_reads {k c : Nat} (hn : n ≤ 2 ^ 53)
    (h : reads (n * one) (gridOffset + k) c = true) :
    c * 10 ^ k = n ∨ (n = 2 ^ 53 ∧ c * 10 ^ k = n + 1) := by
  obtain ⟨hlower, hupper⟩ := quarters_of_reads h
  obtain ⟨hlow, hup⟩ := quarters_whole hn
  generalize c * 10 ^ k = m at hlower hupper ⊢
  have hge : 4 * n * one ≤ (4 * m + 2) * one := by
    rw [Nat.add_mul]
    omega
  have hn4 := Nat.le_of_mul_le_mul_right hge one_pos
  obtain hup | ⟨rfl, hup⟩ := hup
  · have hle : 4 * m * one ≤ (4 * n + 2) * one := by
      rw [Nat.add_mul]
      omega
    have := Nat.le_of_mul_le_mul_right hle one_pos
    omega
  · have hle : 4 * m * one ≤ (4 * 2 ^ 53 + 4) * one := by
      rw [Nat.add_mul]
      omega
    have := Nat.le_of_mul_le_mul_right hle one_pos
    omega

theorem reads_self {k c : Nat} (h : c * 10 ^ k = n) (hpos : 0 < n) :
    reads (n * one) (gridOffset + k) c = true := by
  have hpoint : 4 * c * gridStep (gridOffset + k) =
      4 * (n * one) * Nat.pow 10 gridOffset := by
    rw [gridStep_offset_add, ← h]
    ring
  have hs := spacing_pos (n * one)
  have hu : 0 < n * one := Nat.mul_pos hpos one_pos
  have hlow : lowerQuarters (n * one) < 4 * (n * one) := by
    unfold lowerQuarters
    dsimp only
    split <;> omega
  have hup : 4 * (n * one) < upperQuarters (n * one) := by
    unfold upperQuarters
    omega
  have hlow' := Nat.mul_lt_mul_of_pos_right hlow gridScale_pos
  have hup' := Nat.mul_lt_mul_of_pos_right hup gridScale_pos
  unfold reads
  rw [hpoint]
  generalize Nat.pow 10 gridOffset = scale at hlow' hup' ⊢
  dsimp only
  split
  · simp only [Bool.and_eq_true, decide_eq_true_eq]
    exact ⟨hlow'.le, hup'.le⟩
  · simp only [Bool.and_eq_true, decide_eq_true_eq]
    exact ⟨hlow', hup'⟩

theorem gridStep_pos (p : Nat) : 0 < gridStep p :=
  Nat.mul_pos one_pos (Nat.pow_pos (by decide))

theorem gridPoint_of_eq {tie : Tie} {u p c : Nat} (hc : u * Nat.pow 10 gridOffset = c * gridStep p)
    (hr : reads u p c = true) : gridPoint tie u p = some c := by
  have hpos := gridStep_pos p
  have hbelow : u * Nat.pow 10 gridOffset / gridStep p = c := by
    rw [hc, Nat.mul_div_cancel c hpos]
  have hrest : u * Nat.pow 10 gridOffset % gridStep p = 0 := by
    rw [hc, Nat.mul_mod_left]
  unfold gridPoint
  dsimp only
  rw [hbelow, hrest, hr]
  cases reads u p (c + 1) with
  | true => simp only [Nat.mul_zero, if_pos hpos]
  | false => rfl

theorem gridPoint_eq_none {tie : Tie} {u p : Nat} (h : ∀ c, reads u p c = false) :
    gridPoint tie u p = none := by
  unfold gridPoint
  dsimp only
  rw [h, h]

/-- The grid of step `10 ^ k` has a point for a whole number exactly when `10 ^ k` divides it. -/
theorem gridPoint_whole (tie : Tie) (hn : n ≤ 2 ^ 53) (hpos : 0 < n) (k : Nat) :
    gridPoint tie (n * one) (gridOffset + k) = if 10 ^ k ∣ n then some (n / 10 ^ k) else none := by
  by_cases hdvd : 10 ^ k ∣ n
  · have hquot := Nat.div_mul_cancel hdvd
    rw [if_pos hdvd]
    refine gridPoint_of_eq ?_ (reads_self hquot hpos)
    calc n * one * Nat.pow 10 gridOffset
        = n / 10 ^ k * 10 ^ k * one * Nat.pow 10 gridOffset := by rw [hquot]
      _ = n / 10 ^ k * gridStep (gridOffset + k) := by
        rw [gridStep_offset_add]
        ring
  · rw [if_neg hdvd]
    refine gridPoint_eq_none fun c => Bool.eq_false_iff.2 fun hr => ?_
    obtain heq | ⟨rfl, heq⟩ := eq_of_reads hn hr
    · exact hdvd ⟨c, by rw [← heq, Nat.mul_comm]⟩
    · -- `2 ^ 53 + 1` is no multiple of ten, and `10 ^ 0` divides everything
      obtain rfl | hk := Nat.eq_zero_or_pos k
      · exact hdvd (one_dvd _)
      · have hten : 10 ∣ 2 ^ 53 + 1 :=
          (dvd_pow_self 10 hk.ne').trans ⟨c, by rw [← heq, Nat.mul_comm]⟩
        omega

theorem coarsest_whole (tie : Tie) (hn : n ≤ 2 ^ 53) (hpos : 0 < n) (k : Nat) :
    ∃ c e : Nat, coarsest tie (n * one) (gridOffset + k + 1) = ⟨c, e⟩ ∧ c * 10 ^ e = n := by
  induction k with
  | zero =>
    have hpoint := gridPoint_whole tie hn hpos 0
    rw [pow_zero, if_pos (one_dvd n), Nat.div_one, Nat.add_zero] at hpoint
    refine ⟨n, 0, ?_, by simp⟩
    rw [coarsest, hpoint]
    simp
  | succ k ih =>
    rw [coarsest, gridPoint_whole tie hn hpos]
    by_cases hdvd : 10 ^ (k + 1) ∣ n
    · refine ⟨n / 10 ^ (k + 1), k + 1, ?_, Nat.div_mul_cancel hdvd⟩
      simp only [if_pos hdvd, Decimal.mk.injEq, true_and]
      omega
    · simp only [if_neg hdvd]
      exact ih

/-- The shortest decimal of a whole number has the number for its value. -/
theorem shortest_whole (tie : Tie) (hn : n ≤ 2 ^ 53) :
    ∃ c e : Nat, shortest tie (n * one) = ⟨c, e⟩ ∧ c * 10 ^ e = n ∧ (n = 0 → e = 0) := by
  obtain rfl | hpos := Nat.eq_zero_or_pos n
  · exact ⟨0, 0, by simp [shortest], by simp, fun _ => rfl⟩
  · have hne : n * one ≠ 0 := (Nat.mul_pos hpos one_pos).ne'
    obtain ⟨c, e, hc, he⟩ := coarsest_whole tie hn hpos 309
    refine ⟨c, e, ?_, he, fun h => absurd h hpos.ne'⟩
    rw [shortest, if_neg hne]
    exact hc

end Binary64

theorem Layout.magnitude_whole {n : Nat} (l : Layout) (hl : l.lowest ≤ 0) (hh : 16 ≤ l.highest)
    (hn : n ≤ 2 ^ 53) :
    l.magnitude (n * Binary64.one) =
      Numeral.digits n ++ (if l.marksWhole then ['.', '0'] else []) := by
  obtain ⟨c, e, hs, hval, hzero⟩ := Binary64.shortest_whole l.tie hn
  have hdigits : Numeral.digits c ++ List.replicate e '0' = Numeral.digits n := by
    obtain rfl | hpos := Nat.eq_zero_or_pos c
    · have hn0 : n = 0 := by rw [← hval, Nat.zero_mul]
      rw [hzero hn0, hn0]
      exact List.append_nil _
    · rw [← hval, Numeral.digits_mul_pow hpos]
  have hlen : (Numeral.digits n).length ≤ 16 :=
    Numeral.length_digits_le (by decide) (lt_of_le_of_lt hn (by decide))
  have hpos := List.length_pos_iff.2 (Numeral.digits_ne_nil c)
  have hlen' := congrArg List.length hdigits
  rw [List.length_append, List.length_replicate] at hlen'
  have hmag : (Decimal.mk c e).magnitude = (Numeral.digits n).length - 1 := by
    simp only [Decimal.magnitude]
    omega
  rw [Layout.magnitude, hs, Layout.write, if_pos (by rw [hmag]; omega), Decimal.positional,
    if_neg (by rw [hmag]; omega)]
  simp only [Int.natCast_nonneg, if_true, Decimal.zeros, Int.toNat_natCast]
  rw [hdigits]

end EdgeRoutes
