import EdgeRoutes.Number.Shortest
import EdgeRoutes.Proofs.Number.Rounding

/-!
The rounding interval of a magnitude: the numbers that round to it are those between the points
half-way to its neighbours, and these points too if its significand is even. The intervals of two
magnitudes lie apart.
-/

namespace EdgeRoutes.Binary64

variable {u v num den : Nat}

/-- `num / den` lies in the rounding interval of `u`. -/
def Covers (u num den : Nat) : Prop :=
  if u / spacing u % 2 = 0 then
    lowerQuarters u * den ≤ 4 * num ∧ 4 * num ≤ upperQuarters u * den
  else lowerQuarters u * den < 4 * num ∧ 4 * num < upperQuarters u * den

theorem Covers.lower_le (h : Covers u num den) : lowerQuarters u * den ≤ 4 * num := by
  unfold Covers at h
  split at h
  · exact h.1
  · exact h.1.le

theorem Covers.le_upper (h : Covers u num den) : 4 * num ≤ upperQuarters u * den := by
  unfold Covers at h
  split at h
  · exact h.2
  · exact h.2.le

theorem Covers.even_of_eq (h : Covers u num den)
    (hend : 4 * num = lowerQuarters u * den ∨ 4 * num = upperQuarters u * den) :
    u / spacing u % 2 = 0 := by
  by_contra hodd
  rw [Covers, if_neg hodd] at h
  omega

theorem covers_of_lt (hlower : lowerQuarters u * den < 4 * num)
    (hupper : 4 * num < upperQuarters u * den) : Covers u num den := by
  unfold Covers
  split
  · exact ⟨hlower.le, hupper.le⟩
  · exact ⟨hlower, hupper⟩

theorem covers_mul_iff {t : Nat} (ht : 0 < t) :
    Covers u (num * t) (den * t) ↔ Covers u num den := by
  unfold Covers
  simp only [← Nat.mul_assoc, Nat.mul_le_mul_right_iff ht, Nat.mul_lt_mul_right ht]

theorem covers_congr {num' den' : Nat} (hd : 0 < den) (hd' : 0 < den')
    (h : num * den' = num' * den) : Covers u num den ↔ Covers u num' den' := by
  rw [← covers_mul_iff hd', h, Nat.mul_comm den, covers_mul_iff hd]

theorem quarters_le (u : Nat) :
    4 * u ≤ lowerQuarters u + 2 * spacing u ∧ lowerQuarters u ≤ 4 * u ∧
      upperQuarters u = 4 * u + 2 * spacing u := by
  refine ⟨?_, ?_, rfl⟩
  all_goals
    unfold lowerQuarters
    dsimp only
    split <;> omega

theorem lowerQuarters_lt (hu : 0 < u) : lowerQuarters u < 4 * u := by
  have := spacing_pos u
  unfold lowerQuarters
  dsimp only
  split <;> omega

theorem Covers.of_between {num' : Nat} (h : Covers u num den) (hu : 0 < u) (hd : 0 < den)
    (hbetween : (num ≤ num' ∧ num' ≤ u * den) ∨ (u * den ≤ num' ∧ num' ≤ num)) :
    Covers u num' den := by
  have hlower := Nat.mul_lt_mul_of_pos_right (lowerQuarters_lt hu) hd
  have hupper : 4 * u * den < upperQuarters u * den := by
    refine Nat.mul_lt_mul_of_pos_right ?_ hd
    have := spacing_pos u
    rw [upperQuarters]
    omega
  rw [Nat.mul_assoc] at hlower hupper
  unfold Covers at h ⊢
  by_cases heven : u / spacing u % 2 = 0
  · rw [if_pos heven] at h ⊢
    omega
  · rw [if_neg heven] at h ⊢
    omega

/-! Significand and exponent -/

theorem spacing_of_lt (h : u < 2 ^ 53) : spacing u = 1 := by
  have hle := spacing_le (e := 0) (by simpa using h)
  have := spacing_pos u
  rw [pow_zero] at hle
  omega

theorem spacing_of_range {e : Nat} (hle : 2 ^ (e + 52) ≤ u) (hlt : u < 2 ^ (e + 53)) :
    spacing u = 2 ^ e := by
  have hne : u ≠ 0 := by
    rintro rfl
    exact absurd hle (Nat.not_le.2 (Nat.two_pow_pos _))
  have hlow : e + 52 ≤ u.log2 := (Nat.le_log2 hne).2 hle
  have hhigh : u.log2 < e + 53 := (Nat.log2_lt hne).2 hlt
  have hlog : u.log2 - 52 = e := by omega
  rw [spacing_eq, hlog]

theorem exists_spacing (u : Nat) :
    ∃ e, spacing u = 2 ^ e ∧ u < 2 ^ (e + 53) ∧ (e = 0 ∨ 2 ^ (e + 52) ≤ u) := by
  refine ⟨u.log2 - 52, spacing_eq u, ?_, ?_⟩
  · exact lt_of_lt_of_le Nat.lt_log2_self (Nat.pow_le_pow_right (by decide) (by omega))
  · obtain h | h := Nat.eq_zero_or_pos (u.log2 - 52)
    · exact .inl h
    · have hne : u ≠ 0 := by
        rintro rfl
        simp at h
      exact .inr ((Nat.le_log2 hne).1 (by omega))

theorem exists_significand (h : Representable u) :
    ∃ k e, u = k * 2 ^ e ∧ spacing u = 2 ^ e ∧ k < 2 ^ 53 ∧ (e = 0 ∨ 2 ^ 52 ≤ k) := by
  obtain ⟨e, hs, hlt, hle⟩ := exists_spacing u
  obtain ⟨k, hk⟩ := h
  rw [hs, Nat.mul_comm] at hk
  refine ⟨k, e, hk, hs, ?_, hle.imp_right fun hle => ?_⟩
  · rw [hk, Nat.pow_add, Nat.mul_comm (2 ^ e)] at hlt
    exact Nat.lt_of_mul_lt_mul_right hlt
  · rw [hk, Nat.pow_add, Nat.mul_comm (2 ^ e)] at hle
    exact Nat.le_of_mul_le_mul_right hle (Nat.two_pow_pos e)

theorem spacing_dvd_spacing (h : u ≤ v) : spacing u ∣ spacing v := by
  obtain ⟨e, hu, -, hule⟩ := exists_spacing u
  obtain ⟨f, hv, hvlt, -⟩ := exists_spacing v
  rw [hu, hv]
  refine Nat.pow_dvd_pow 2 ?_
  obtain rfl | hule := hule
  · exact Nat.zero_le f
  · have hpow : 2 ^ (e + 52) < 2 ^ (f + 53) := lt_of_le_of_lt (hule.trans h) hvlt
    have := (Nat.pow_lt_pow_iff_right (by decide)).1 hpow
    omega

/-! Intervals of different magnitudes -/

theorem add_spacing_le (hu : Representable u) (hv : Representable v) (h : u < v) :
    u + spacing u ≤ v := by
  obtain ⟨k, hk⟩ := hu
  obtain ⟨l, hl⟩ := (spacing_dvd_spacing h.le).trans hv
  generalize spacing u = s at hk hl ⊢
  rw [hk, hl] at h ⊢
  calc s * k + s = s * (k + 1) := (Nat.mul_succ s k).symm
    _ ≤ s * l := Nat.mul_le_mul_left s (Nat.lt_of_mul_lt_mul_left h)

/-- The interval of a magnitude ends half-way to any larger one, or before. -/
theorem upperQuarters_le (hu : Representable u) (hv : Representable v) (h : u < v) :
    upperQuarters u ≤ 2 * (u + v) := by
  have := add_spacing_le hu hv h
  rw [upperQuarters]
  omega

theorem exists_significands (hu : Representable u) (hv : Representable v) (h : u < v) :
    ∃ k l e j, u = k * 2 ^ e ∧ v = l * 2 ^ j * 2 ^ e ∧ spacing u = 2 ^ e ∧
      spacing v = 2 ^ j * 2 ^ e ∧ k < l * 2 ^ j ∧ k < 2 ^ 53 ∧ (e = 0 ∨ 2 ^ 52 ≤ k) ∧
      (e + j = 0 ∨ 2 ^ 52 ≤ l) := by
  obtain ⟨k, e, hk, hs, hlt, hle⟩ := exists_significand hu
  obtain ⟨l, f, hl, ht, -, hle'⟩ := exists_significand hv
  have hef : e ≤ f := by
    have hdvd := spacing_dvd_spacing h.le
    rw [hs, ht] at hdvd
    exact (Nat.pow_dvd_pow_iff_le_right (by decide)).1 hdvd
  obtain ⟨j, rfl⟩ := Nat.exists_eq_add_of_le hef
  rw [Nat.pow_add, Nat.mul_comm (2 ^ e)] at hl ht
  rw [← Nat.mul_assoc] at hl
  refine ⟨k, l, e, j, hk, hl, hs, ht, ?_, hlt, hle, hle'⟩
  rw [hk, hl] at h
  exact Nat.lt_of_mul_lt_mul_right h

theorem le_lowerQuarters (hu : Representable u) (hv : Representable v) (h : u < v) :
    2 * (u + v) ≤ lowerQuarters v := by
  obtain ⟨k, l, e, j, hk, hl, -, hs, hlt, hk53, hnormal, hnormal'⟩ := exists_significands hu hv h
  have hpos : 0 < 2 ^ e := Nat.two_pow_pos e
  have hgap : v = 0x10000000000000 * spacing v ↔ l = 2 ^ 52 := by
    rw [hs, hl, ← Nat.mul_assoc, Nat.mul_right_cancel_iff hpos,
      Nat.mul_right_cancel_iff (Nat.two_pow_pos j)]
    exact Iff.rfl
  unfold lowerQuarters
  dsimp only
  split
  · next htop =>
    -- at a power of two the gap below is half the gap above
    obtain ⟨hwide, hfirst⟩ := htop
    obtain rfl := hgap.1 hfirst
    have hj : j ≠ 0 := by
      rintro rfl
      obtain rfl | hge := hnormal
      · simp [hs] at hwide
      · omega
    obtain ⟨i, rfl⟩ := Nat.exists_eq_add_one_of_ne_zero hj
    have hmul : k + 2 ^ i ≤ 2 ^ 52 * 2 ^ (i + 1) := by
      have := Nat.two_pow_pos i
      rw [pow_succ]
      omega
    have hscaled := Nat.mul_le_mul_right (2 ^ e) hmul
    have hpow : 2 ^ (i + 1) * 2 ^ e = 2 * (2 ^ i * 2 ^ e) := by ring
    rw [Nat.add_mul, ← hl, ← hk] at hscaled
    rw [hs, hpow]
    omega
  · next htop =>
    have hmul : k + 2 ^ j ≤ l * 2 ^ j := by
      obtain rfl | hj := Nat.eq_zero_or_pos j
      · omega
      · have htwo : 2 ≤ 2 ^ j := Nat.le_self_pow hj.ne' 2
        have hwide : 1 < spacing v := by
          rw [hs]
          exact lt_of_lt_of_le htwo (Nat.le_mul_of_pos_right _ hpos)
        have hl52 : 2 ^ 52 + 1 ≤ l := by
          have hne : l ≠ 2 ^ 52 := fun he => htop ⟨hwide, hgap.2 he⟩
          omega
        have := Nat.mul_le_mul_right (2 ^ j) hl52
        omega
    have hscaled := Nat.mul_le_mul_right (2 ^ e) hmul
    rw [Nat.add_mul, ← hl, ← hk, ← hs] at hscaled
    omega

theorem odd_of_neighbours (hu : Representable u) (hv : Representable v) (h : u + spacing u = v)
    (heven : u / spacing u % 2 = 0) : v / spacing v % 2 ≠ 0 := by
  have hlt : u < v := by
    have := spacing_pos u
    omega
  obtain ⟨k, l, e, j, hk, hl, hs, ht, -⟩ := exists_significands hu hv hlt
  have hpos : 0 < 2 ^ e := Nat.two_pow_pos e
  have hnext : k + 1 = l * 2 ^ j := by
    rw [hs, hk, hl, ← Nat.succ_mul] at h
    exact Nat.mul_right_cancel hpos h
  have hquot : u / spacing u = k := by
    rw [hs, hk, Nat.mul_div_cancel k hpos]
  have hquot' : v / spacing v = l := by
    rw [ht, hl, Nat.mul_assoc, Nat.mul_div_cancel l (Nat.mul_pos (Nat.two_pow_pos j) hpos)]
  rw [hquot] at heven
  rw [hquot']
  cases j with
  | zero => omega
  | succ j =>
    rw [pow_succ, ← Nat.mul_assoc] at hnext
    omega

/-- A number in both intervals would be half-way between the two, and go to both as an even
significand. -/
theorem not_covers_of_lt (hu : Representable u) (hv : Representable v) (hd : 0 < den) (h : u < v)
    (hc : Covers u num den) : ¬ Covers v num den := by
  intro hc'
  have hupper := upperQuarters_le hu hv h
  have hlower := le_lowerQuarters hu hv h
  have hle : lowerQuarters v * den ≤ upperQuarters u * den := hc'.lower_le.trans hc.le_upper
  have hends : lowerQuarters v = upperQuarters u := by
    have := Nat.le_of_mul_le_mul_right hle hd
    omega
  have hup := hc.le_upper
  have hlow := hc'.lower_le
  rw [hends] at hlow
  have heven := hc.even_of_eq (.inr (by omega))
  have heven' := hc'.even_of_eq (.inl (by rw [hends]; omega))
  refine odd_of_neighbours hu hv ?_ heven heven'
  rw [upperQuarters] at hends hupper
  omega

theorem eq_of_covers (hu : Representable u) (hv : Representable v) (hd : 0 < den)
    (hc : Covers u num den) (hc' : Covers v num den) : u = v := by
  obtain h | h | h := Nat.lt_trichotomy u v
  · exact absurd hc' (not_covers_of_lt hu hv hd h hc)
  · exact h
  · exact absurd hc (not_covers_of_lt hv hu hd h hc')

/-! What rounds to a magnitude -/

theorem roundHalfEven_near (num : Nat) {den : Nat} (hd : 0 < den) :
    2 * num ≤ 2 * (roundHalfEven num den * den) + den ∧
      2 * (roundHalfEven num den * den) ≤ 2 * num + den ∧
      (2 * num = 2 * (roundHalfEven num den * den) + den ∨
        2 * (roundHalfEven num den * den) = 2 * num + den → roundHalfEven num den % 2 = 0) := by
  have hsplit := Nat.div_add_mod' num den
  have hmod := Nat.mod_lt num hd
  have hsucc : (num / den + 1) * den = num / den * den + den := Nat.succ_mul _ _
  unfold roundHalfEven
  dsimp only
  split
  · omega
  · split
    · omega
    · split
      · omega
      · omega

section Round

variable {r e : Nat}

theorem spacing_mul_two_pow (hr : r < 2 ^ 53) (hnormal : e = 0 ∨ 2 ^ 52 ≤ r) :
    spacing (r * 2 ^ e) = 2 ^ e := by
  obtain rfl | hge := hnormal
  · simpa using spacing_of_lt hr
  · apply spacing_of_range
    · rw [Nat.pow_add, Nat.mul_comm (2 ^ e)]
      exact Nat.mul_le_mul_right _ hge
    · rw [Nat.pow_add, Nat.mul_comm (2 ^ e)]
      exact Nat.mul_lt_mul_of_pos_right hr (Nat.two_pow_pos e)

/-- Half a spacing to each side, and a quarter below a power of two. -/
theorem covers_of_near (hd : 0 < den) (hr : r < 2 ^ 53) (hnormal : e = 0 ∨ 2 ^ 52 ≤ r)
    (hupper : 2 * num ≤ 2 * (r * (den * 2 ^ e)) + den * 2 ^ e)
    (hlower : 2 * (r * (den * 2 ^ e)) ≤ 2 * num + den * 2 ^ e)
    (heven : 2 * num = 2 * (r * (den * 2 ^ e)) + den * 2 ^ e ∨
      2 * (r * (den * 2 ^ e)) = 2 * num + den * 2 ^ e → r % 2 = 0)
    (hfirst : 1 < 2 ^ e → r = 2 ^ 52 → 4 * (r * (den * 2 ^ e)) ≤ 4 * num + den * 2 ^ e) :
    Covers (r * 2 ^ e) num den := by
  have hs := spacing_mul_two_pow hr hnormal
  have hpos : 0 < 2 ^ e := Nat.two_pow_pos e
  have hquot : r * 2 ^ e / 2 ^ e = r := Nat.mul_div_cancel r hpos
  have hu : 4 * (r * 2 ^ e) * den = 4 * (r * (den * 2 ^ e)) := by ring
  have hstep : 2 * 2 ^ e * den = 2 * (den * 2 ^ e) := by ring
  have hquarter : 2 ^ e * den = den * 2 ^ e := Nat.mul_comm _ _
  unfold Covers lowerQuarters upperQuarters
  rw [hs, hquot]
  simp only [Nat.mul_right_cancel_iff hpos, Nat.add_mul, hu, hstep]
  split
  · split
    · next htop =>
      have hle := hfirst htop.1 htop.2
      rw [Nat.sub_mul, hu, hquarter]
      omega
    · rw [Nat.sub_mul, hu, hstep]
      omega
  · split
    · next hodd htop =>
      rw [htop.2] at hodd
      exact absurd rfl hodd
    · have hD : 0 < den * 2 ^ e := Nat.mul_pos hd hpos
      have hge : den * 2 ^ e ≤ r * (den * 2 ^ e) := Nat.le_mul_of_pos_left _ (by omega)
      rw [Nat.sub_mul, hu, hstep]
      omega

theorem covers_round (hd : 0 < den) (num : Nat) : Covers (round num den) num den := by
  obtain ⟨e, hs, hlt, hle⟩ := exists_spacing (num / den)
  have hD : 0 < den * 2 ^ e := Nat.mul_pos hd (Nat.two_pow_pos e)
  obtain ⟨hupper, hlower, heven⟩ := roundHalfEven_near num hD
  have hbelow : num < 2 ^ 53 * (den * 2 ^ e) := by
    rw [Nat.div_lt_iff_lt_mul hd, Nat.pow_add] at hlt
    calc num < 2 ^ e * 2 ^ 53 * den := hlt
      _ = 2 ^ 53 * (den * 2 ^ e) := by ring
  have habove : e = 0 ∨ 2 ^ 52 * (den * 2 ^ e) ≤ num := hle.imp_right fun hle => by
    rw [Nat.le_div_iff_mul_le hd, Nat.pow_add] at hle
    calc 2 ^ 52 * (den * 2 ^ e) = 2 ^ e * 2 ^ 52 * den := by ring
      _ ≤ num := hle
  rw [round, hs]
  generalize roundHalfEven num (den * 2 ^ e) = r at hupper hlower heven ⊢
  have hr : r ≤ 2 ^ 53 := by
    by_contra hgt
    have := Nat.mul_le_mul_right (den * 2 ^ e) (Nat.succ_le_of_lt (Nat.lt_of_not_le hgt))
    rw [Nat.succ_mul] at this
    omega
  have hnormal : e = 0 ∨ 2 ^ 52 ≤ r := habove.imp_right fun hle => by
    by_contra hlt
    have := Nat.mul_le_mul_right (den * 2 ^ e) (Nat.lt_of_not_le hlt)
    rw [Nat.succ_mul] at this
    omega
  obtain hr | rfl := Nat.lt_or_eq_of_le hr
  · refine covers_of_near hd hr hnormal hupper hlower heven fun hwide hfirst => ?_
    obtain rfl | hle := habove
    · simp at hwide
    · rw [hfirst]
      omega
  · -- rounded up to a power of two, which has a spacing of its own
    have htwo : 2 ^ 53 * 2 ^ e = 2 ^ 52 * 2 ^ (e + 1) := by ring
    have hD' : den * 2 ^ (e + 1) = 2 * (den * 2 ^ e) := by ring
    rw [htwo]
    apply covers_of_near hd (by decide) (.inr le_rfl)
    all_goals rw [hD']
    · omega
    · omega
    · exact fun _ => rfl
    · omega

end Round

/-- A magnitude is what the numbers of its interval round to. -/
theorem round_eq_iff (hu : Representable u) (hd : 0 < den) :
    round num den = u ↔ Covers u num den := by
  constructor
  · rintro rfl
    exact covers_round hd num
  · intro h
    exact eq_of_covers (representable_round num den) hu hd (covers_round hd num) h

theorem round_mono {num' den' : Nat} (hd : 0 < den) (hd' : 0 < den') (h : num * den' ≤ num' * den) :
    round num den ≤ round num' den' := by
  by_contra hgt
  have hlt : round num' den' < round num den := Nat.lt_of_not_le hgt
  have hrep := representable_round num den
  have hrep' := representable_round num' den'
  have hcovers := covers_round hd num
  have hcovers' := covers_round hd' num'
  have hends := (upperQuarters_le hrep' hrep hlt).trans (le_lowerQuarters hrep' hrep hlt)
  have hle : 4 * (num' * den) ≤ 4 * (num * den') := by
    calc 4 * (num' * den) = 4 * num' * den := (Nat.mul_assoc ..).symm
      _ ≤ upperQuarters (round num' den') * den' * den := Nat.mul_le_mul_right _ hcovers'.le_upper
      _ ≤ lowerQuarters (round num den) * den' * den :=
        Nat.mul_le_mul_right _ (Nat.mul_le_mul_right _ hends)
      _ = lowerQuarters (round num den) * den * den' := Nat.mul_right_comm ..
      _ ≤ 4 * num * den' := Nat.mul_le_mul_right _ hcovers.lower_le
      _ = 4 * (num * den') := Nat.mul_assoc ..
  -- then they are one number, which has one magnitude
  have heq : num * den' = num' * den := by omega
  exact hlt.ne' (eq_of_covers hrep hrep' hd' ((covers_congr hd hd' heq).1 hcovers) hcovers')

theorem Covers.lt {num' den' : Nat} (hc : Covers u num den) (hc' : Covers v num' den')
    (hu : Representable u) (hv : Representable v) (hd : 0 < den) (hd' : 0 < den') (h : u < v) :
    num * den' < num' * den := by
  by_contra hge
  have hle := round_mono hd' hd (Nat.le_of_not_lt hge)
  rw [(round_eq_iff hu hd).2 hc, (round_eq_iff hv hd').2 hc'] at hle
  exact absurd h (Nat.not_lt.2 hle)

theorem ofRatio_mono {num' : Nat} (hd : 0 < den) (h : num ≤ num') :
    ofRatio num den ≤ ofRatio num' den :=
  round_mono hd hd (Nat.mul_le_mul_right _ (Nat.mul_le_mul_right _ h))

/-- A ratio below a power of two is not rounded up to it, if it differs by a spacing or more. -/
theorem ofRatio_lt {k : Nat} (h : num < 2 ^ k * den) (hfew : 2 ^ k * den ≤ 2 ^ 53) :
    ofRatio num den < 2 ^ k * one := by
  have hd : 0 < den := Nat.pos_of_mul_pos_left (Nat.zero_lt_of_lt h)
  have hone : one = 2 ^ 53 * 2 ^ (unitExponent - 53) := by
    rw [one_eq, ← Nat.pow_add, Nat.add_sub_cancel' (by decide)]
  have hnum : num * 2 ^ 53 ≤ (2 ^ 53 - 1) * (2 ^ k * den) := by omega
  -- the magnitude next below the power of two
  have hrep : Representable ((2 ^ 53 - 1) * 2 ^ (k + (unitExponent - 53))) :=
    representable_mul_two_pow (Nat.sub_le ..) _
  have hle : num * one * 1 ≤ (2 ^ 53 - 1) * 2 ^ (k + (unitExponent - 53)) * den := by
    calc num * one * 1 = num * 2 ^ 53 * 2 ^ (unitExponent - 53) := by rw [hone]; ring
      _ ≤ (2 ^ 53 - 1) * (2 ^ k * den) * 2 ^ (unitExponent - 53) := Nat.mul_le_mul_right _ hnum
      _ = (2 ^ 53 - 1) * 2 ^ (k + (unitExponent - 53)) * den := by rw [Nat.pow_add]; ring
  calc ofRatio num den ≤ round ((2 ^ 53 - 1) * 2 ^ (k + (unitExponent - 53))) 1 :=
        round_mono hd Nat.one_pos hle
    _ = (2 ^ 53 - 1) * 2 ^ (k + (unitExponent - 53)) := round_one_of_representable hrep
    _ < 2 ^ 53 * 2 ^ (k + (unitExponent - 53)) :=
        Nat.mul_lt_mul_of_pos_right (by decide) (Nat.two_pow_pos _)
    _ = 2 ^ k * one := by rw [hone, Nat.pow_add]; ring

theorem round_pos (hd : 0 < den) (h : den < 2 * num) : 0 < round num den := by
  rw [Nat.pos_iff_ne_zero]
  intro hzero
  have hupper := (hzero ▸ covers_round hd num).le_upper
  have hone : upperQuarters 0 = 2 := by decide
  rw [hone] at hupper
  omega

theorem ofRatio_pos (hd : 0 < den) (h : den < 2 * (num * one)) : 0 < ofRatio num den :=
  round_pos hd h

end EdgeRoutes.Binary64
