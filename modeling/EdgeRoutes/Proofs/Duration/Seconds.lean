import EdgeRoutes.Proofs.Duration.RoundTrip
import EdgeRoutes.Proofs.Number.Layout

/-!
The annotation of a duration with a fraction of a second. Magnitudes below `2 ^ 23` seconds lie
closer than a nanosecond, so of the seconds rounded once the annotation gives the exact decimal.
With whole seconds and a fraction the annotation is of a sum of two rounded parts, which is rounded
again.
-/

namespace EdgeRoutes.Duration

open Binary64
open Numeral (digits padded trimZeros)

def secondsText (negative : Bool) (number : List Char) : String :=
  String.ofList ((if negative then ['-'] else []) ++ number ++ ['s'])

theorem secondsText_inj {negative : Bool} {cs ds : List Char} :
    secondsText negative cs = secondsText negative ds ↔ cs = ds := by
  rw [secondsText, secondsText, String.ofList_inj, List.append_left_inj, List.append_right_inj]

theorem annotation_eq (d : Duration) :
    d.annotation = secondsText d.negative (secondsLayout.write (shortest .up d.asSeconds)) := rfl

def nearestSeconds (d : Duration) : Nat := ofRatio d.totalNanos 1000000000

/-! Magnitudes closer than a nanosecond -/

theorem spacing_mul_le_one {u k j : Nat} (h : u < 2 ^ k * one) (hj : k + j = 53) :
    spacing u * 2 ^ j ≤ one := by
  have hunit : j ≤ unitExponent := Nat.le_trans (by omega) (by decide : 53 ≤ unitExponent)
  have hexp : k + unitExponent = unitExponent - j + 53 := by omega
  rw [one_eq, ← Nat.pow_add, hexp] at h
  rw [one_eq]
  calc spacing u * 2 ^ j ≤ 2 ^ (unitExponent - j) * 2 ^ j := Nat.mul_le_mul_right _ (spacing_le h)
    _ = 2 ^ unitExponent := by rw [← Nat.pow_add, Nat.sub_add_cancel hunit]

theorem spacing_ofRatio_lt {n : Nat} (h : n < 2 ^ 23 * 1000000000) :
    spacing (ofRatio n 1000000000) * 10 ^ 9 < one := by
  have hlt := ofRatio_lt h (by decide)
  calc spacing (ofRatio n 1000000000) * 10 ^ 9 < spacing (ofRatio n 1000000000) * 2 ^ 30 :=
        Nat.mul_lt_mul_of_pos_left (by decide) (spacing_pos _)
    _ ≤ one := spacing_mul_le_one hlt (by decide)

variable {d : Duration}

theorem nearestSeconds_pos (h : 0 < d.totalNanos) : 0 < d.nearestSeconds := by
  refine ofRatio_pos (by decide) ?_
  have hone : 1000000000 < one := by
    rw [one_eq]
    calc 1000000000 < 2 ^ 30 := by decide
      _ ≤ 2 ^ unitExponent := Nat.pow_le_pow_right (by decide) (by decide)
  have := Nat.le_mul_of_pos_left one h
  omega

/-- The exact decimal of a short duration, without its last zeros, is the shortest one. -/
theorem exists_shortest (hshort : d.IsShort) (hpos : 0 < d.totalNanos) :
    ∃ c k : Nat, ¬ 10 ∣ c ∧ d.totalNanos = c * 10 ^ k ∧
      shortest .up d.nearestSeconds = ⟨c, (k : Int) - (9 : Nat)⟩ := by
  obtain ⟨k, c, hten, hc⟩ := Nat.exists_eq_pow_mul_and_not_dvd hpos.ne' 10 (by decide)
  rw [Nat.mul_comm] at hc
  have hlt := totalNanos_lt hshort
  have hk : 10 ^ k < 10 ^ 16 := by
    have := Nat.le_mul_of_pos_left (10 ^ k) (Decimal.pos_of_not_ten_dvd hten)
    omega
  have hk' : k < 16 := (Nat.pow_lt_pow_iff_right (by decide)).1 hk
  have hcovers : Covers d.nearestSeconds (c * 10 ^ k * one) (10 ^ 9) := by
    rw [← hc]
    exact covers_round (by decide) _
  exact ⟨c, k, hten, hc, shortest_of_covers .up (nearestSeconds_pos hpos) (by decide) (by omega)
    (spacing_ofRatio_lt hlt) hten hcovers⟩

/-! The text of the seconds -/

theorem asSeconds_of_fraction (hs : d.seconds = 0) : d.asSeconds = d.nearestSeconds := by
  have hzero : Binary64.ofNat 0 = 0 := ofRatio_zero (by decide)
  rw [asSeconds, hs, hzero, nearestSeconds, totalNanos_of_fraction hs]
  exact zero_add_of_representable (representable_round _ _)

theorem isShort_of_fraction (hs : d.seconds = 0) : d.IsShort := by
  rw [IsShort, hs]
  decide

theorem write_positional {p : Decimal} (hlow : -4 ≤ p.magnitude) (hhigh : p.magnitude < 21) :
    secondsLayout.write p = p.positional false := by
  rw [Layout.write, if_pos]
  · rfl
  · exact ⟨hlow, hhigh⟩

theorem write_scientific {p : Decimal} (hlow : p.magnitude < -4) :
    secondsLayout.write p = p.scientific := by
  rw [Layout.write, if_neg]
  rintro ⟨hge, -⟩
  exact absurd hge (not_le.2 hlow)

theorem annotation_fraction (hs : d.seconds = 0) (hn : 100000 ≤ d.nanos) :
    d.annotation = secondsText d.negative ('0' :: '.' :: trimZeros (padded 9 d.nanos)) := by
  have htotal := totalNanos_of_fraction hs
  obtain ⟨c, k, hten, hc, hshortest⟩ := exists_shortest (isShort_of_fraction hs) (by omega)
  rw [htotal] at hc
  have hlength : 5 < (digits (c * 10 ^ k)).length := Numeral.lt_length_digits (hc ▸ hn)
  have hlength' : (digits (c * 10 ^ k)).length ≤ 9 := by
    have := d.nanos_lt
    exact Numeral.length_digits_le (by decide) (by omega)
  have hmag := Decimal.magnitude_places (Decimal.pos_of_not_ten_dvd hten) 9 k
  rw [annotation_eq, asSeconds_of_fraction hs, hshortest, write_positional (by omega) (by omega),
    hc]
  exact congrArg _ (Decimal.positional_fraction hten (by decide) (hc ▸ d.nanos_lt))

/-- The exponent form of `n` nanoseconds, if they are fewer than `100000`. -/
def tinyText (n : Nat) : List Char :=
  let ds := trimZeros (digits n)
  ds.take 1 ++ (if ds.length ≤ 1 then [] else '.' :: ds.drop 1) ++ ['e', '-', '0'] ++
    digits (10 - (digits n).length)

theorem annotation_tiny (hs : d.seconds = 0) (hpos : 0 < d.nanos) (hn : d.nanos < 100000) :
    d.annotation = secondsText d.negative (tinyText d.nanos) := by
  have htotal := totalNanos_of_fraction hs
  obtain ⟨c, k, hten, hc, hshortest⟩ := exists_shortest (isShort_of_fraction hs) (by omega)
  rw [htotal] at hc
  have hlength : (digits (c * 10 ^ k)).length ≤ 5 := Numeral.length_digits_le (by decide) (hc ▸ hn)
  have hfirst := List.length_pos_iff.2 (Numeral.digits_ne_nil (c * 10 ^ k))
  have hmag := Decimal.magnitude_places (Decimal.pos_of_not_ten_dvd hten) 9 k
  have hexponent : Numeral.atLeast 2 (9 + 1 - (digits (c * 10 ^ k)).length) =
      '0' :: digits (10 - (digits (c * 10 ^ k)).length) := by
    rw [Numeral.atLeast, Numeral.digits_of_lt (by omega)]
    rfl
  rw [annotation_eq, asSeconds_of_fraction hs, hshortest, write_scientific (by omega),
    Decimal.scientific_places hten (by omega), hexponent, ← hc, tinyText, Decimal.mantissa]
  simp only [List.append_assoc, List.cons_append, List.nil_append]

theorem annotation_of_nearest (hd : d.asSeconds = d.nearestSeconds) (hshort : d.IsShort)
    (hs : 0 < d.seconds) (hn : 0 < d.nanos) :
    d.annotation =
      secondsText d.negative (digits d.seconds ++ '.' :: trimZeros (padded 9 d.nanos)) := by
  have hnanos := d.nanos_lt
  obtain ⟨c, k, hten, hc, hshortest⟩ := exists_shortest hshort (by rw [totalNanos]; omega)
  have hsplit : d.seconds * 10 ^ 9 + d.nanos = c * 10 ^ k := hc
  have hlength : (digits (c * 10 ^ k)).length = (digits d.seconds).length + 9 := by
    rw [← hsplit, Numeral.digits_append_padded hs hnanos, List.length_append, Numeral.length_padded]
  have hfirst := List.length_pos_iff.2 (Numeral.digits_ne_nil d.seconds)
  have hwhole : (digits d.seconds).length ≤ 7 := by
    have hseconds : d.seconds < 8388608 := hshort
    exact Numeral.length_digits_le (by decide) (by omega)
  have hmag := Decimal.magnitude_places (Decimal.pos_of_not_ten_dvd hten) 9 k
  rw [hlength] at hmag
  rw [annotation_eq, hd, hshortest, write_positional (by omega) (by omega)]
  exact congrArg _ (Decimal.positional_mixed hten hs hnanos hn hsplit)

/-! The number in the text -/

theorem nearest_of_exact
    (h : d.annotation =
      secondsText d.negative (digits d.seconds ++ '.' :: trimZeros (padded 9 d.nanos))) :
    d.asSeconds = d.nearestSeconds := by
  rw [annotation_eq, secondsText_inj] at h
  have hvalue := congrArg Decimal.ofText h
  rw [Decimal.ofText_write, Decimal.ofText_mixed d.nanos_lt] at hvalue
  have hden : (10 : ℚ) ^ 9 = (1000000000 : Nat) := by norm_num
  rw [hden] at hvalue
  have hcovers := covers_of_value_shortest (by decide) hvalue
  exact ((round_eq_iff (representable_round _ _) (by decide)).2 hcovers).symm

theorem value_add (x y : Nat) : value (x + y) = value x + value y := by
  rw [value, Nat.cast_add, add_div]
  rfl

theorem value_ofNat {n : Nat} (h : n ≤ 2 ^ 53) : value (Binary64.ofNat n) = n := by
  rw [ofNat_whole h, value, Nat.cast_mul, mul_div_cancel_right₀ _ one_ne_zero']

theorem lt_of_value_lt {u e : Nat} (h : value u < 2 ^ e) : u < 2 ^ e * one := by
  have hone := cast_one_pos
  rw [value, div_lt_iff₀ hone] at h
  exact_mod_cast h

theorem abs_value_add_sub_le {x y e : Nat} (h : value x + value y < 2 ^ e) :
    |value (Binary64.add x y) - (value x + value y)| ≤ 2 ^ e / 2 ^ 54 := by
  rw [← value_add] at h ⊢
  have hlt : x + y < 2 ^ e * (1 * one) := by
    rw [Nat.one_mul]
    exact lt_of_value_lt h
  have hround := abs_value_round_sub_le Nat.one_pos hlt
  rwa [Nat.cast_one, one_mul] at hround

theorem totalNanos_div (d : Duration) :
    (d.totalNanos : ℚ) / 1000000000 = d.seconds + d.nanos / 1000000000 := by
  rw [totalNanos]
  push_cast
  field_simp

theorem ofRatio_nanos_lt (d : Duration) : ofRatio d.nanos 1000000000 < one := by
  have hnanos : d.nanos < 2 ^ 0 * 1000000000 := by
    have := d.nanos_lt
    omega
  calc ofRatio d.nanos 1000000000 < 2 ^ 0 * one := ofRatio_lt hnanos (by decide)
    _ = one := by rw [pow_zero, one_mul]

theorem abs_value_asSeconds_sub_le {e : Nat} (hlt : d.seconds < 2 ^ e) (he : e ≤ 53) :
    |value d.asSeconds - d.totalNanos / 1000000000| ≤ 2 ^ e / 2 ^ 54 + 1 / 2 ^ 54 := by
  have hnanos : d.nanos < 2 ^ 0 * 1000000000 := by
    have := d.nanos_lt
    omega
  have hfraction : |value (ofRatio d.nanos 1000000000) - (d.nanos : ℚ) / (1000000000 : Nat)| ≤
      2 ^ 0 / 2 ^ 54 := abs_value_ofRatio_sub_le (by decide) hnanos
  have hwhole : value (Binary64.ofNat d.seconds) = d.seconds :=
    value_ofNat (hlt.le.trans (Nat.pow_le_pow_right (by decide) he))
  have hbelow : value (ofRatio d.nanos 1000000000) < 1 := by
    rw [value, div_lt_one cast_one_pos]
    exact_mod_cast d.ofRatio_nanos_lt
  have hseconds : (d.seconds : ℚ) + 1 ≤ 2 ^ e := by exact_mod_cast Nat.succ_le_of_lt hlt
  have hsmall : value (Binary64.ofNat d.seconds) + value (ofRatio d.nanos 1000000000) < 2 ^ e := by
    rw [hwhole]
    linarith
  have hsum := abs_value_add_sub_le hsmall
  rw [hwhole] at hsum
  have htotal : (d.totalNanos : ℚ) / 1000000000 = d.seconds + d.nanos / (1000000000 : Nat) := by
    rw [totalNanos_div, Nat.cast_ofNat]
  have hsplit : value d.asSeconds - (d.seconds + d.nanos / (1000000000 : Nat)) =
      (value d.asSeconds - (d.seconds + value (ofRatio d.nanos 1000000000))) +
        (value (ofRatio d.nanos 1000000000) - d.nanos / (1000000000 : Nat)) := by ring
  rw [htotal, hsplit]
  calc _ ≤ |value d.asSeconds - (d.seconds + value (ofRatio d.nanos 1000000000))| +
        |value (ofRatio d.nanos 1000000000) - d.nanos / (1000000000 : Nat)| := abs_add_le _ _
    _ ≤ 2 ^ e / 2 ^ 54 + 1 / 2 ^ 54 := by
        rw [pow_zero] at hfraction
        exact add_le_add hsum hfraction

theorem abs_value_asSeconds_sub_le_of_lt (hlt : d.seconds < 1000000) :
    |value d.asSeconds - d.totalNanos / 1000000000| ≤ 1 / 2 ^ 33 :=
  calc _ ≤ (2 : ℚ) ^ 20 / 2 ^ 54 + 1 / 2 ^ 54 :=
        abs_value_asSeconds_sub_le (lt_trans hlt (by decide)) (by decide)
    _ ≤ 1 / 2 ^ 33 := by norm_num

theorem spacing_asSeconds_le (hlt : d.seconds < 1000000) :
    (spacing d.asSeconds : ℚ) / (2 * one) ≤ 1 / 2 ^ 33 := by
  have hone := cast_one_pos
  have hvalue : value d.asSeconds < 2 ^ 21 := by
    have hnear := (abs_le.1 (abs_value_asSeconds_sub_le_of_lt hlt)).2
    have htotal : (d.totalNanos : ℚ) ≤ 1000000 * 1000000000 := by
      have hnanos := d.nanos_lt
      have hle : d.totalNanos ≤ 1000000 * 1000000000 := by
        rw [totalNanos]
        omega
      exact_mod_cast hle
    norm_num at hnear ⊢
    linarith
  have hscaled : spacing d.asSeconds * 2 ^ 32 ≤ one :=
    spacing_mul_le_one (lt_of_value_lt hvalue) (by decide)
  have hscaled' : (spacing d.asSeconds : ℚ) * 2 ^ 32 ≤ one := by exact_mod_cast hscaled
  rw [div_le_div_iff₀ (mul_pos two_pos hone) (by norm_num)]
  linarith

theorem abs_ofText_sub_lt (hlt : d.seconds < 1000000) :
    |Decimal.ofText (secondsLayout.write (shortest .up d.asSeconds)) - d.totalNanos / 1000000000| <
      1 / 2000000000 := by
  rw [Decimal.ofText_write]
  calc _ ≤ |(shortest .up d.asSeconds).value - value d.asSeconds| +
        |value d.asSeconds - d.totalNanos / 1000000000| := abs_sub_le _ _ _
    _ ≤ 1 / 2 ^ 33 + 1 / 2 ^ 33 :=
        add_le_add ((abs_value_shortest_sub_le .up _).trans (spacing_asSeconds_le hlt))
          (abs_value_asSeconds_sub_le_of_lt hlt)
    _ < 1 / 2000000000 := by norm_num

/-- From a second on, the annotation of a duration with a fraction is its exact decimal if the sum
of the rounded seconds and the rounded fraction comes out as the duration rounded once, and only
then. Read as a number, it is the duration to the nanosecond in any case. -/
theorem annotation_mixed_iff (d : Duration) (hs : 1 ≤ d.seconds) (hlt : d.seconds < 1000000)
    (hn : 0 < d.nanos) :
    (d.annotation =
      secondsText d.negative (digits d.seconds ++ '.' :: trimZeros (padded 9 d.nanos)) ↔
      Binary64.add (Binary64.ofNat d.seconds) (ofRatio d.nanos 1000000000) =
        ofRatio d.totalNanos 1000000000) ∧
    ∃ number, d.annotation = secondsText d.negative number ∧
      |Decimal.ofText number - (d.seconds + d.nanos / 1000000000)| < 1 / 2000000000 := by
  have hshort : d.IsShort := lt_trans hlt (by decide)
  refine ⟨⟨nearest_of_exact, fun hd => annotation_of_nearest hd hshort hs hn⟩, _,
    annotation_eq d, ?_⟩
  rw [← totalNanos_div]
  exact abs_ofText_sub_lt hlt

theorem annotation_oneAndHalf :
    let d : Duration := ⟨false, 1, 500000000, by decide, by decide⟩
    1 ≤ d.seconds ∧ d.seconds < 1000000 ∧ 0 < d.nanos ∧ d.annotation = "1.5s" := by
  intro d
  have hs : 1 ≤ d.seconds := by decide
  have hlt : d.seconds < 1000000 := by decide
  have hn : 0 < d.nanos := by decide
  have htext : secondsText d.negative (digits d.seconds ++ '.' :: trimZeros (padded 9 d.nanos)) =
      "1.5s" := by decide +kernel
  obtain ⟨hexact, -⟩ := annotation_mixed_iff d hs hlt hn
  exact ⟨hs, hlt, hn, (hexact.2 (by decide +kernel)).trans htext⟩

/-- A second and 140 milliseconds are rounded twice, and have a text of seventeen digits. -/
theorem annotation_roundedTwice :
    let d : Duration := ⟨false, 1, 140000000, by decide, by decide⟩
    d.annotation = "1.1400000000000001s" ∧
      d.annotation ≠
        secondsText d.negative (digits d.seconds ++ '.' :: trimZeros (padded 9 d.nanos)) := by
  intro d
  have htext : d.annotation = "1.1400000000000001s" := by decide +kernel
  have hexact : secondsText d.negative (digits d.seconds ++ '.' :: trimZeros (padded 9 d.nanos)) =
      "1.14s" := by decide +kernel
  rw [htext, hexact]
  exact ⟨rfl, by decide⟩

end EdgeRoutes.Duration
