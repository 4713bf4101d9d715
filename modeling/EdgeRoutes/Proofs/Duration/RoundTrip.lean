import EdgeRoutes.Duration.Printer
import EdgeRoutes.Proofs.Duration.Clock

/-!
The text of a duration denotes the duration, if it is shorter than `2 ^ 23` seconds. The text is one
exact decimal number of one unit, so no other duration of any length has it. Reading it rounds the
number, the unit and their product to binary64, which together moves the result of a short one by
less than half a nanosecond.
-/

namespace EdgeRoutes.Duration

open Binary64

/-! The number as it is written -/

section Fixed

variable {whole fraction whole' fraction' width : Nat}

theorem split_fixed (whole fraction width : Nat) :
    (fixed whole fraction width).takeWhile Char.isDigit = Numeral.digits whole ∧
      (fixed whole fraction width).dropWhile Char.isDigit =
        let ds := Numeral.trimZeros (Numeral.padded width fraction)
        if ds.isEmpty then [] else '.' :: ds := by
  have hwhole : ∀ c ∈ Numeral.digits whole, c.isDigit = true :=
    fun _ => Numeral.isDigit_of_mem_digits
  have hpoint : ∀ ds : List Char, ∀ c, (if ds.isEmpty then [] else '.' :: ds).head? = some c →
      c.isDigit = false := by
    intro ds c hc
    split at hc
    · cases hc
    · cases hc
      rfl
  exact ⟨Numeral.takeWhile_append_of_ends hwhole (hpoint _),
    Numeral.dropWhile_append_of_ends hwhole (hpoint _)⟩

theorem magnitude?_fixed (h : fraction < 10 ^ width) (whole : Nat) :
    ∃ n k, magnitude? (fixed whole fraction width) = some (ofRatio n (10 ^ k)) ∧
      n * 10 ^ width = (whole * 10 ^ width + fraction) * 10 ^ k := by
  obtain ⟨hdigits, zeros, hlength, hvalue⟩ := Numeral.exists_zeros_of_trimZeros_padded h
  obtain ⟨htake, hdrop⟩ := split_fixed whole fraction width
  generalize Numeral.trimZeros (Numeral.padded width fraction) = ds at hdigits hlength hvalue hdrop
  refine ⟨Numeral.value (Numeral.digits whole ++ ds), ds.length, ?_, ?_⟩
  · have hne : (Numeral.digits whole).isEmpty = false :=
      List.isEmpty_eq_false_iff.2 (Numeral.digits_ne_nil whole)
    have hall : ds.all Char.isDigit = true := List.all_eq_true.2 hdigits
    simp only [magnitude?, htake, hdrop]
    cases ds with
    | nil => simp [hne]
    | cons d ds => simp [hne, hall]
  · calc Numeral.value (Numeral.digits whole ++ ds) * 10 ^ width
        = (whole * 10 ^ ds.length + Numeral.value ds) * 10 ^ (ds.length + zeros) := by
          rw [Numeral.value_append, Numeral.value_digits, hlength]
      _ = (whole * 10 ^ (ds.length + zeros) + Numeral.value ds * 10 ^ zeros) * 10 ^ ds.length := by
          ring
      _ = (whole * 10 ^ width + fraction) * 10 ^ ds.length := by rw [hlength, hvalue]

theorem fixed_inj (h : fraction < 10 ^ width) (h' : fraction' < 10 ^ width)
    (heq : fixed whole fraction width = fixed whole' fraction' width) :
    whole = whole' ∧ fraction = fraction' := by
  obtain ⟨-, zeros, hlength, hvalue⟩ := Numeral.exists_zeros_of_trimZeros_padded h
  obtain ⟨-, zeros', hlength', hvalue'⟩ := Numeral.exists_zeros_of_trimZeros_padded h'
  obtain ⟨htake, hdrop⟩ := split_fixed whole fraction width
  obtain ⟨htake', hdrop'⟩ := split_fixed whole' fraction' width
  rw [heq] at htake hdrop
  have hplaces := hdrop.symm.trans hdrop'
  generalize Numeral.trimZeros (Numeral.padded width fraction) = ds at hlength hvalue hplaces
  generalize Numeral.trimZeros (Numeral.padded width fraction') = es at hlength' hvalue' hplaces
  have hds : ds = es := by
    cases ds <;> cases es <;> simp at hplaces ⊢
    exact hplaces
  subst hds
  have hzeros : zeros = zeros' := by omega
  constructor
  · have hwhole := congrArg Numeral.value (htake.symm.trans htake')
    rwa [Numeral.value_digits, Numeral.value_digits] at hwhole
  · rw [← hvalue, ← hvalue', hzeros]

end Fixed

theorem beginsWithDigit_fixed (whole fraction width : Nat) (unit : List Char) :
    Numeral.BeginsWithDigit (fixed whole fraction width ++ unit) := by
  rw [fixed, List.append_assoc]
  exact Numeral.beginsWithDigit_digits_append _ _

/-! The error of reading -/

/-- The seconds in one of a unit, as they are computed. -/
def unitSeconds (scale : Nat) : Nat :=
  Binary64.add (Binary64.ofNat (scale / 1000000000)) (ofRatio (scale % 1000000000) 1000000000)

/-- An amount within half a nanosecond of a whole number of nanoseconds is that number. -/
theorem componentNanos?_near {x scale total : Nat}
    (h : |value (mul x (unitSeconds scale)) * 1000000000 - total| < 1 / 2) :
    componentNanos? ⟨false, x⟩ scale = some total := by
  have hround : roundHalfEven (mul x (unitSeconds scale) * 1000000000) one = total := by
    refine roundHalfEven_eq Binary64.one_pos ?_
    rw [abs_sub_comm]
    convert h using 3
    rw [value]
    push_cast
    ring
  unfold unitSeconds at hround
  simp only [componentNanos?, Bool.false_and, Bool.false_eq_true, if_false, hround]

theorem unitSeconds_second : unitSeconds 1000000000 = one := by
  have hone := ofNat_whole (n := 1) (by decide)
  have hrep := representable_whole (n := 1) (by decide)
  rw [Nat.one_mul] at hone hrep
  change Binary64.add (Binary64.ofNat 1) (ofRatio 0 1000000000) = one
  rw [ofRatio_zero (by decide), hone, add_zero_of_representable hrep]

theorem unitSeconds_of_lt {scale : Nat} (h : scale < 1000000000) :
    unitSeconds scale = ofRatio scale 1000000000 := by
  have hzero : Binary64.ofNat 0 = 0 := ofRatio_zero (by decide)
  rw [unitSeconds, Nat.div_eq_of_lt h, Nat.mod_eq_of_lt h, hzero]
  exact zero_add_of_representable (representable_round _ _)

/-- Reading may be off by `2 ^ -31` seconds, which is less than half a nanosecond. -/
theorem abs_nanos_sub_lt {x q total : ℚ} (htotal : total = q * 1000000000)
    (h : |x - q| ≤ 1 / 2 ^ 31) : |x * 1000000000 - total| < 1 / 2 := by
  have hpos : (0 : ℚ) < 1000000000 := by norm_num
  rw [htotal, ← sub_mul, abs_mul, abs_of_pos hpos]
  calc |x - q| * 1000000000 ≤ 1 / 2 ^ 31 * 1000000000 := mul_le_mul_of_nonneg_right h hpos.le
    _ < 1 / 2 := by norm_num

theorem abs_seconds_sub_lt {n den total : Nat} (hden : 0 < den) (hlt : n < 2 ^ 23 * den)
    (htotal : n * 1000000000 = total * den) :
    |value (mul (ofRatio n den) (unitSeconds 1000000000)) * 1000000000 - total| < 1 / 2 := by
  have hden' : (den : ℚ) ≠ 0 := by exact_mod_cast hden.ne'
  have hq : (total : ℚ) = n / den * 1000000000 := by
    rw [div_mul_eq_mul_div, eq_div_iff hden']
    exact_mod_cast htotal.symm
  have hrep : Representable (ofRatio n den) := representable_round _ _
  rw [unitSeconds_second, mul_one_of_representable hrep]
  refine abs_nanos_sub_lt hq ?_
  calc |value (ofRatio n den) - n / den| ≤ 2 ^ 23 / 2 ^ 54 := abs_value_ofRatio_sub_le hden hlt
    _ = 1 / 2 ^ 31 := by norm_num

theorem abs_mul_sub_mul_le {x q u v a b : ℚ} (hx : |x - q| ≤ a) (hu : |u - v| ≤ b) (hq : 0 ≤ q)
    (hv : 0 ≤ v) : |x * u - q * v| ≤ a * (v + b) + q * b := by
  have hsplit : x * u - q * v = (x - q) * u + q * (u - v) := by ring
  have hu' : |u| ≤ v + b := by
    have := abs_add_le v (u - v)
    rw [add_sub_cancel, abs_of_nonneg hv] at this
    linarith
  have hleft : |x - q| * |u| ≤ a * (v + b) :=
    mul_le_mul hx hu' (abs_nonneg u) ((abs_nonneg _).trans hx)
  have hright : q * |u - v| ≤ q * b := mul_le_mul_of_nonneg_left hu hq
  calc |x * u - q * v| ≤ |(x - q) * u| + |q * (u - v)| := by
        rw [hsplit]
        exact abs_add_le _ _
    _ = |x - q| * |u| + q * |u - v| := by rw [abs_mul, abs_mul, abs_of_nonneg hq]
    _ ≤ a * (v + b) + q * b := add_le_add hleft hright

theorem abs_value_unitSeconds_sub_le {scale : Nat} (h : scale < 1000000000) :
    |value (unitSeconds scale) - scale / 1000000000| ≤ 1 / 2 ^ 54 := by
  have hlt : scale < 2 ^ 0 * 1000000000 := by omega
  rw [unitSeconds_of_lt h]
  simpa using abs_value_ofRatio_sub_le (by decide) hlt

/-- Less than `2 ^ 10` of a unit of a millisecond or shorter: the amount, the unit and their product
are rounded. -/
theorem abs_subseconds_sub_lt {n den scale total : Nat} (hden : 0 < den) (hlt : n < 2 ^ 10 * den)
    (hscale : scale ≤ 1000000) (htotal : n * scale = total * den) :
    |value (mul (ofRatio n den) (unitSeconds scale)) * 1000000000 - total| < 1 / 2 := by
  have hden' : (0 : ℚ) < den := by exact_mod_cast hden
  have hq0 : (0 : ℚ) ≤ n / den := by positivity
  have hq1 : (n : ℚ) / den < 2 ^ 10 := by
    rw [div_lt_iff₀ hden']
    exact_mod_cast hlt
  have hs0 : (0 : ℚ) ≤ scale / 1000000000 := by positivity
  have hs1 : (scale : ℚ) / 1000000000 ≤ 1 / 1000 := by
    have : (scale : ℚ) ≤ 1000000 := by exact_mod_cast hscale
    linarith
  have hnear := abs_mul_sub_mul_le (abs_value_ofRatio_sub_le hden hlt)
    (abs_value_unitSeconds_sub_le (by omega : scale < 1000000000)) hq0 hs0
  have hbound : (2 ^ 10 : ℚ) / 2 ^ 54 * (scale / 1000000000 + 1 / 2 ^ 54) + n / den * (1 / 2 ^ 54) ≤
      1 / 2 ^ 40 := by
    norm_num at hq1 hs1 ⊢
    linarith
  have hprod : (n : ℚ) / den * (scale / 1000000000) ≤ 2 ^ 10 * (1 / 1000) :=
    mul_le_mul hq1.le hs1 hs0 (by norm_num)
  have hsmall : value (ofRatio n den) * value (unitSeconds scale) < 2 ^ 1 := by
    have hle := (abs_le.1 (hnear.trans hbound)).2
    norm_num at hle hprod ⊢
    linarith
  have hq : (total : ℚ) = n / den * (scale / 1000000000) * 1000000000 := by
    have : (n : ℚ) * scale = total * den := by exact_mod_cast htotal
    field_simp
    linarith
  refine abs_nanos_sub_lt hq ?_
  calc _ ≤ |value (mul (ofRatio n den) (unitSeconds scale)) -
          value (ofRatio n den) * value (unitSeconds scale)| +
        |value (ofRatio n den) * value (unitSeconds scale) - n / den * (scale / 1000000000)| :=
        abs_sub_le _ _ _
    _ ≤ 2 ^ 1 / 2 ^ 54 + 1 / 2 ^ 40 := add_le_add (abs_value_mul_sub_le hsmall) (hnear.trans hbound)
    _ ≤ 1 / 2 ^ 31 := by norm_num

/-! The text -/

/-- `total` nanoseconds, as a number of a unit of `10 ^ width` of them. -/
structure Written (total : Nat) where
  whole : Nat
  fraction : Nat
  width : Nat
  unit : List Char
  fraction_lt : fraction < 10 ^ width
  total_eq : whole * 10 ^ width + fraction = total
  unit_eq : unitNanos? unit = some (10 ^ width)

namespace Written

variable {total : Nat}

def text (w : Written total) : List Char := fixed w.whole w.fraction w.width ++ w.unit

/-- Long enough for no unit but the second, or short enough for it. -/
def Fits (w : Written total) : Prop :=
  (w.width = 9 ∧ total < 2 ^ 23 * 1000000000) ∨ (w.width ≤ 6 ∧ total < 1000 * 10 ^ w.width)

theorem exists_term (w : Written total) :
    ∃ (t : Term) (n k : Nat), t.number = fixed w.whole w.fraction w.width ∧ t.unit = w.unit ∧
      t.factor = ⟨false, ofRatio n (10 ^ k)⟩ ∧ t.scale = 10 ^ w.width ∧
      n * 10 ^ w.width = total * 10 ^ k := by
  obtain ⟨n, k, hmag, hn⟩ := magnitude?_fixed w.fraction_lt w.whole
  rw [w.total_eq] at hn
  obtain ⟨c, hhead, hdigit⟩ := beginsWithDigit_fixed w.whole w.fraction w.width []
  rw [List.append_nil] at hhead
  have hfactor : factor? (fixed w.whole w.fraction w.width) = .ok ⟨false, ofRatio n (10 ^ k)⟩ := by
    refine factor?_of_magnitude? hmag ?_ ?_ <;> rw [hhead] <;> rintro ⟨⟩ <;> cases hdigit
  exact ⟨⟨_, _, _, _, hfactor, w.unit_eq⟩, n, k, rfl, rfl, rfl, rfl, hn⟩

theorem sumNanos_text (w : Written total) (hfits : w.Fits) (hlimit : total < limit) :
    sumNanos 0 w.text = .ok total := by
  obtain ⟨t, n, k, hnumber, hunit, hfactor, hscale, hn⟩ := w.exists_term
  have hden : 0 < 10 ^ k := Nat.pow_pos (by decide)
  have hnanos : componentNanos? ⟨false, ofRatio n (10 ^ k)⟩ (10 ^ w.width) = some total := by
    apply componentNanos?_near
    obtain ⟨hwidth, hlt⟩ | ⟨hwidth, hlt⟩ := hfits
    · rw [hwidth] at hn ⊢
      refine abs_seconds_sub_lt hden ?_ hn
      have := Nat.mul_lt_mul_of_pos_right hlt hden
      omega
    · have hsmall : 10 ^ w.width ≤ 1000000 := Nat.pow_le_pow_right (by decide) hwidth
      refine abs_subseconds_sub_lt hden ?_ hsmall hn
      have hlt' := Nat.mul_lt_mul_of_pos_right hlt hden
      rw [← hn, Nat.mul_right_comm] at hlt'
      have := Nat.lt_of_mul_lt_mul_right hlt'
      omega
  have hterm : [t].map Term.nanos? = [total].map some := by
    simp only [List.map_singleton, Term.nanos?, hfactor, hscale, hnanos]
  have hsum := sumNanos_terms 0 [t] [total] hterm (by simpa using hlimit) endsUnit_nil
  rw [List.append_nil, List.flatMap_singleton, Term.text, hnumber, hunit] at hsum
  rw [text]
  refine hsum.trans ?_
  rw [sumNanos, if_pos (.inl rfl), List.sum_singleton, Nat.zero_add]

/-- The unit is told from the number, and tells where the point is in the total. -/
theorem eq_of_text_eq {m n : Nat} (w : Written m) (v : Written n) (h : w.text = v.text) :
    m = n := by
  obtain ⟨t, -, -, hnumber, hunit, -⟩ := w.exists_term
  obtain ⟨u, -, -, hnumber', hunit', -⟩ := v.exists_term
  have hread : Component.read (t.text ++ []) = Component.read (u.text ++ []) := by
    rw [Term.text, Term.text, hnumber, hunit, hnumber', hunit']
    exact congrArg (fun cs => Component.read (cs ++ [])) h
  rw [t.read_append endsUnit_nil, u.read_append endsUnit_nil] at hread
  obtain ⟨hfixed, hunits, -⟩ := Component.mk.inj hread
  rw [hnumber, hnumber'] at hfixed
  have hwidth : w.width = v.width := by
    have hscale := w.unit_eq
    rw [← hunit, hunits, hunit', v.unit_eq] at hscale
    exact (Nat.pow_right_injective (by decide : 2 ≤ 10) (Option.some.inj hscale)).symm
  rw [hwidth] at hfixed
  obtain ⟨hwhole, hfraction⟩ := fixed_inj (hwidth ▸ w.fraction_lt) v.fraction_lt hfixed
  rw [← w.total_eq, ← v.total_eq, hwidth, hwhole, hfraction]

end Written

def IsShort (d : Duration) : Prop := d.seconds < 2 ^ 23

instance (d : Duration) : Decidable d.IsShort := Nat.decLt _ _

theorem totalNanos_lt {d : Duration} (h : d.IsShort) : d.totalNanos < 2 ^ 23 * 1000000000 := by
  have hnanos := d.nanos_lt
  have hseconds : d.seconds < 8388608 := h
  rw [totalNanos]
  omega

theorem totalNanos_of_fraction {d : Duration} (hs : d.seconds = 0) : d.totalNanos = d.nanos := by
  rw [totalNanos, hs, Nat.zero_mul, Nat.zero_add]

theorem exists_written (d : Duration) :
    ∃ w : Written d.totalNanos, w.text = d.magnitudeText ∧ (d.IsShort → w.Fits) := by
  have hnanos := d.nanos_lt
  by_cases hs : 0 < d.seconds
  · refine ⟨⟨d.seconds, d.nanos, 9, ['s'], hnanos, rfl, rfl⟩, ?_,
      fun h => .inl ⟨rfl, totalNanos_lt h⟩⟩
    rw [magnitudeText, if_pos hs]
    rfl
  have htotal : d.totalNanos = d.nanos := totalNanos_of_fraction (Nat.eq_zero_of_not_pos hs)
  by_cases hms : 1000000 ≤ d.nanos
  · have hlt : d.totalNanos < 1000 * 10 ^ 6 := by omega
    refine ⟨⟨d.nanos / 1000000, d.nanos % 1000000, 6, ['m', 's'], Nat.mod_lt _ (by decide), ?_,
      rfl⟩, ?_, fun _ => .inr ⟨Nat.le_refl 6, hlt⟩⟩
    · omega
    · rw [magnitudeText, if_neg hs, if_pos hms]
      rfl
  by_cases hus : 1000 ≤ d.nanos
  · have hlt : d.totalNanos < 1000 * 10 ^ 3 := by omega
    have hwidth : 3 ≤ 6 := by decide
    refine ⟨⟨d.nanos / 1000, d.nanos % 1000, 3, ['µ', 's'], Nat.mod_lt _ (by decide), ?_, rfl⟩, ?_,
      fun _ => .inr ⟨hwidth, hlt⟩⟩
    · omega
    · rw [magnitudeText, if_neg hs, if_neg hms, if_pos hus]
      rfl
  · have hlt : d.totalNanos < 1000 * 10 ^ 0 := by omega
    refine ⟨⟨d.nanos, 0, 0, ['n', 's'], by decide, ?_, rfl⟩, ?_, fun _ => .inr ⟨Nat.zero_le 6, hlt⟩⟩
    · omega
    · have hfixed : fixed d.nanos 0 0 = Numeral.digits d.nanos := by
        rw [fixed]
        exact List.append_nil _
      rw [magnitudeText, if_neg hs, if_neg hms, if_neg hus, Written.text, hfixed]

theorem ofNanos?_totalNanos (d : Duration) : ofNanos? d.negative d.totalNanos = some d := by
  obtain ⟨negative, seconds, nanos, hseconds, hnanos⟩ := d
  have hquot : (seconds * 1000000000 + nanos) / 1000000000 = seconds := by omega
  have hrest : (seconds * 1000000000 + nanos) % 1000000000 = nanos := by omega
  simp only [ofNanos?, totalNanos, hquot, hrest, dif_pos hseconds]

theorem eq_of_totalNanos_eq {d e : Duration} (hsign : d.negative = e.negative)
    (htotal : d.totalNanos = e.totalNanos) : d = e := by
  have hd := d.ofNanos?_totalNanos
  rw [hsign, htotal, e.ofNanos?_totalNanos] at hd
  exact (Option.some.inj hd).symm

/-- The text of a short duration denotes the duration, with its sign. -/
theorem ofText_text (d : Duration) (h : d.IsShort) : ofText d.text = .ok d := by
  obtain ⟨w, hw, hfits⟩ := d.exists_written
  have hlimit : d.totalNanos < limit := lt_trans (totalNanos_lt h) (by decide)
  rw [text, ← hw]
  exact ofText_signed d.negative (beginsWithDigit_fixed _ _ _ _) (w.sumNanos_text (hfits h) hlimit)
    d.ofNanos?_totalNanos

theorem text_injective : Function.Injective text := by
  intro d e h
  obtain ⟨w, hw, -⟩ := d.exists_written
  obtain ⟨v, hv, -⟩ := e.exists_written
  rw [text, text, String.ofList_inj, ← hw, ← hv] at h
  obtain ⟨hsign, htext⟩ := (Numeral.signed_inj (beginsWithDigit_fixed _ _ _ _)
    (beginsWithDigit_fixed _ _ _ _)).1 h
  exact eq_of_totalNanos_eq hsign (w.eq_of_text_eq v htext)

end EdgeRoutes.Duration
