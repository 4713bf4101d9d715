import EdgeRoutes.Number.Binary64
import Mathlib

namespace EdgeRoutes.Binary64

def unitExponent : Nat := 1074

theorem one_eq : one = 2 ^ unitExponent := by decide +kernel

theorem one_pos : 0 < one := by
  rw [one_eq]
  exact Nat.two_pow_pos _

theorem spacing_eq (u : Nat) : spacing u = 2 ^ (u.log2 - 52) := rfl

theorem spacing_pos (u : Nat) : 0 < spacing u := Nat.two_pow_pos _

theorem spacing_le {u e : Nat} (h : u < 2 ^ (e + 53)) : spacing u ≤ 2 ^ e := by
  rw [spacing_eq]
  apply Nat.pow_le_pow_right (by decide)
  by_cases hu : u = 0
  · simp [hu]
  · have := (Nat.log2_lt hu).2 h
    omega

/-- A magnitude with 53 significant bits at most. -/
def Representable (u : Nat) : Prop := spacing u ∣ u

theorem representable_mul_two_pow {m : Nat} (h : m ≤ 2 ^ 53) (k : Nat) :
    Representable (m * 2 ^ k) := by
  obtain hlt | rfl := Nat.lt_or_eq_of_le h
  · have hu : m * 2 ^ k < 2 ^ (k + 53) := by
      rw [Nat.pow_add, Nat.mul_comm]
      exact Nat.mul_lt_mul_of_pos_left hlt (Nat.two_pow_pos k)
    have hdvd : spacing (m * 2 ^ k) ∣ 2 ^ k := by
      rw [spacing_eq]
      exact Nat.pow_dvd_pow 2 ((Nat.pow_le_pow_iff_right (by decide)).1 (spacing_le hu))
    exact hdvd.trans (Nat.dvd_mul_left _ _)
  · rw [Representable, ← Nat.pow_add, spacing_eq, Nat.log2_two_pow]
    exact Nat.pow_dvd_pow 2 (Nat.sub_le _ _)

theorem representable_whole {n : Nat} (h : n ≤ 2 ^ 53) : Representable (n * one) := by
  rw [one_eq]
  exact representable_mul_two_pow h unitExponent

theorem roundHalfEven_cases (num den : Nat) :
    (roundHalfEven num den = num / den ∧ 2 * (num % den) ≤ den) ∨
      (roundHalfEven num den = num / den + 1 ∧ den ≤ 2 * (num % den)) := by
  unfold roundHalfEven
  dsimp only
  split
  · exact .inl ⟨rfl, by omega⟩
  · split
    · exact .inr ⟨rfl, by omega⟩
    · split
      · exact .inl ⟨rfl, by omega⟩
      · exact .inr ⟨rfl, by omega⟩

theorem roundHalfEven_mul {den : Nat} (hd : 0 < den) (n : Nat) :
    roundHalfEven (n * den) den = n := by
  obtain ⟨h, -⟩ | ⟨-, h⟩ := roundHalfEven_cases (n * den) den
  · rw [h, Nat.mul_div_cancel n hd]
  · rw [Nat.mul_mod_left] at h
    omega

theorem abs_roundHalfEven_sub_le {den : Nat} (hd : 0 < den) (num : Nat) :
    |(roundHalfEven num den : ℚ) - num / den| ≤ 1 / 2 := by
  have hd' : (0 : ℚ) < den := by exact_mod_cast hd
  have hsplit : (den : ℚ) * (num / den : Nat) + (num % den : Nat) = num := by
    exact_mod_cast Nat.div_add_mod num den
  rw [← mul_le_mul_iff_of_pos_right hd', ← abs_of_pos hd', ← abs_mul, abs_of_pos hd', sub_mul,
    div_mul_cancel₀ _ hd'.ne', abs_le]
  have hmod : ((num % den : Nat) : ℚ) < den := by exact_mod_cast Nat.mod_lt num hd
  have hnonneg : (0 : ℚ) ≤ (num % den : Nat) := Nat.cast_nonneg _
  obtain ⟨h, hle⟩ | ⟨h, hle⟩ := roundHalfEven_cases num den
  · have hle' : 2 * ((num % den : Nat) : ℚ) ≤ den := by exact_mod_cast hle
    rw [h]
    constructor <;> linarith
  · have hle' : (den : ℚ) ≤ 2 * (num % den : Nat) := by exact_mod_cast hle
    rw [h]
    push_cast
    constructor <;> linarith

theorem roundHalfEven_eq {num den n : Nat} (hd : 0 < den) (h : |(n : ℚ) - num / den| < 1 / 2) :
    roundHalfEven num den = n := by
  have hr := abs_roundHalfEven_sub_le hd num
  have hlt : |((roundHalfEven num den : Int) - n : ℚ)| < 1 := by
    have htri := abs_sub_le (roundHalfEven num den : ℚ) (num / den) n
    rw [abs_sub_comm (num / den : ℚ)] at htri
    push_cast
    linarith
  have hint : |(roundHalfEven num den : Int) - n| < 1 := by exact_mod_cast hlt
  have := Int.abs_lt_one_iff.1 hint
  omega

theorem round_of_representable {u den : Nat} (h : Representable u) (hd : 0 < den) :
    round (u * den) den = u := by
  obtain ⟨k, hk⟩ := h
  have hstep : roundHalfEven (u * den) (den * spacing u) = k := by
    have hmul : u * den = k * (den * spacing u) := by
      calc u * den = spacing u * k * den := by rw [← hk]
        _ = k * (den * spacing u) := by ring
    rw [hmul, roundHalfEven_mul (Nat.mul_pos hd (spacing_pos u))]
  rw [round, Nat.mul_div_cancel u hd, hstep, Nat.mul_comm, ← hk]

theorem round_one_of_representable {u : Nat} (h : Representable u) : round u 1 = u := by
  have := round_of_representable h Nat.one_pos
  rwa [Nat.mul_one] at this

theorem div_spacing_lt (q : Nat) : q / spacing q < 2 ^ 53 := by
  rw [Nat.div_lt_iff_lt_mul (spacing_pos q), spacing_eq, ← Nat.pow_add]
  exact lt_of_lt_of_le Nat.lt_log2_self (Nat.pow_le_pow_right (by decide) (by omega))

theorem representable_round (num den : Nat) : Representable (round num den) := by
  unfold round
  dsimp only
  rw [spacing_eq (num / den)]
  refine representable_mul_two_pow ?_ _
  have hlt := div_spacing_lt (num / den)
  rw [Nat.div_div_eq_div_mul, spacing_eq] at hlt
  obtain ⟨h, -⟩ | ⟨h, -⟩ := roundHalfEven_cases num (den * 2 ^ ((num / den).log2 - 52)) <;> omega

theorem abs_round_sub_le {den : Nat} (hd : 0 < den) (num : Nat) :
    |(round num den : ℚ) - num / den| ≤ (spacing (num / den) : ℚ) / 2 := by
  have hs : (0 : ℚ) < spacing (num / den) := by exact_mod_cast spacing_pos _
  have hr := abs_roundHalfEven_sub_le (Nat.mul_pos hd (spacing_pos (num / den))) num
  have hscale := mul_le_mul_of_nonneg_right hr hs.le
  rw [← abs_of_pos hs, ← abs_mul, abs_of_pos hs, sub_mul] at hscale
  have hquot : (num : ℚ) / ((den * spacing (num / den) : Nat) : ℚ) * spacing (num / den) =
      num / den := by
    push_cast
    field_simp
  rw [hquot] at hscale
  rw [round]
  push_cast
  linarith

theorem ofNat_whole {n : Nat} (h : n ≤ 2 ^ 53) : ofNat n = n * one := by
  rw [ofNat, ofRatio]
  exact round_one_of_representable (representable_whole h)

theorem ofRatio_zero {den : Nat} (hd : 0 < den) : ofRatio 0 den = 0 := by
  have hzero := round_of_representable (Nat.dvd_zero (spacing 0)) hd
  rw [ofRatio, Nat.zero_mul]
  rwa [Nat.zero_mul] at hzero

theorem add_zero_of_representable {u : Nat} (h : Representable u) : add u 0 = u :=
  round_one_of_representable h

theorem zero_add_of_representable {u : Nat} (h : Representable u) : add 0 u = u := by
  rw [add, Nat.zero_add]
  exact round_one_of_representable h

theorem mul_one_of_representable {u : Nat} (h : Representable u) : mul u one = u :=
  round_of_representable h one_pos

theorem mul_whole {m n : Nat} (h : m * n ≤ 2 ^ 53) : mul (m * one) (n * one) = m * n * one := by
  have hmul : m * one * (n * one) = m * n * one * one := by ring
  rw [mul, hmul]
  exact round_of_representable (representable_whole h) one_pos

/-- The number that a magnitude stands for. -/
def value (u : Nat) : ℚ := u / one

theorem cast_one_pos : (0 : ℚ) < one := by exact_mod_cast one_pos

theorem one_ne_zero' : (one : ℚ) ≠ 0 := cast_one_pos.ne'

/-- What rounding adds to a number below `2 ^ e` or takes from it. -/
theorem abs_value_round_sub_le {num den e : Nat} (hd : 0 < den) (h : num < 2 ^ e * (den * one)) :
    |value (round num den) - num / (den * one)| ≤ 2 ^ e / 2 ^ 54 := by
  have hone := cast_one_pos
  have hq : num / den < 2 ^ (e + unitExponent - 53 + 53) := by
    rw [Nat.div_lt_iff_lt_mul hd, Nat.sub_add_cancel (by simp [unitExponent]), Nat.pow_add,
      ← one_eq]
    calc num < 2 ^ e * (den * one) := h
      _ = 2 ^ e * one * den := by ring
  have hs : (spacing (num / den) : ℚ) ≤ 2 ^ (e + unitExponent - 53) := by
    exact_mod_cast spacing_le hq
  have hpow : (2 : ℚ) ^ (e + unitExponent - 53) * 2 ^ 53 = 2 ^ e * one := by
    rw [← pow_add, Nat.sub_add_cancel (by simp [unitExponent]), pow_add, one_eq]
    push_cast
    rfl
  have hr := abs_round_sub_le hd num
  have hval : value (round num den) - num / (den * one) = (round num den - num / den) / one := by
    rw [value]
    field_simp
  rw [hval, abs_div, abs_of_pos hone, div_le_iff₀ hone]
  calc |(round num den : ℚ) - num / den| ≤ spacing (num / den) / 2 := hr
    _ ≤ 2 ^ (e + unitExponent - 53) / 2 := by linarith
    _ = 2 ^ (e + unitExponent - 53) * 2 ^ 53 / 2 ^ 54 := by ring
    _ = 2 ^ e / 2 ^ 54 * one := by rw [hpow]; ring

theorem abs_value_ofRatio_sub_le {num den e : Nat} (hd : 0 < den) (h : num < 2 ^ e * den) :
    |value (ofRatio num den) - num / den| ≤ 2 ^ e / 2 ^ 54 := by
  have hlt : num * one < 2 ^ e * (den * one) := by
    rw [← Nat.mul_assoc]
    exact Nat.mul_lt_mul_of_pos_right h one_pos
  have hr := abs_value_round_sub_le hd hlt
  rw [Nat.cast_mul, mul_div_mul_right _ _ one_ne_zero'] at hr
  exact hr

theorem abs_value_mul_sub_le {x y e : Nat} (h : value x * value y < 2 ^ e) :
    |value (mul x y) - value x * value y| ≤ 2 ^ e / 2 ^ 54 := by
  have hone := cast_one_pos
  have hprod : value x * value y = (x * y : Nat) / (one * one) := by
    rw [value, value]
    push_cast
    field_simp
  rw [hprod] at h ⊢
  rw [div_lt_iff₀ (mul_pos hone hone)] at h
  exact abs_value_round_sub_le one_pos (by exact_mod_cast h)

end EdgeRoutes.Binary64
