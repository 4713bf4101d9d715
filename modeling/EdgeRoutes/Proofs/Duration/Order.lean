import EdgeRoutes.Proofs.Duration.Seconds

/-!
The order of the numbers in the annotations of durations. Rounding keeps the order of the durations,
and so does the shortest decimal. Below `2 ^ 23` seconds the two roundings of a duration are off by
less than half a nanosecond, so durations that differ have annotations that differ.
-/

namespace EdgeRoutes.Duration

open Binary64
open Numeral (BeginsWithDigit)

variable {d e : Duration}

theorem whole_le_ofNat {n : Nat} (h : 2 ^ 53 ≤ n) : 2 ^ 53 * one ≤ Binary64.ofNat n := by
  rw [← ofNat_whole le_rfl]
  exact ofRatio_mono Nat.one_pos h

theorem two_le_spacing_ofNat {n : Nat} (h : 2 ^ 53 ≤ n) : 2 * one ≤ spacing (Binary64.ofNat n) := by
  rw [← spacing_whole_top]
  exact Nat.le_of_dvd (spacing_pos _) (spacing_dvd_spacing (whole_le_ofNat h))

theorem asSeconds_le_ofNat_succ (d : Duration) : d.asSeconds ≤ Binary64.ofNat (d.seconds + 1) := by
  have hfraction := d.ofRatio_nanos_lt
  obtain h | h := Nat.lt_or_ge d.seconds (2 ^ 53)
  · have hnext : Representable ((d.seconds + 1) * one) := representable_whole h
    have hle : Binary64.ofNat d.seconds + ofRatio d.nanos 1000000000 ≤ (d.seconds + 1) * one := by
      rw [ofNat_whole h.le, Nat.succ_mul]
      exact Nat.add_le_add_left hfraction.le _
    calc d.asSeconds ≤ round ((d.seconds + 1) * one) 1 :=
          round_mono Nat.one_pos Nat.one_pos (Nat.mul_le_mul_right 1 hle)
      _ = Binary64.ofNat (d.seconds + 1) := rfl
  · -- the next magnitude is two seconds away or more
    have hwide := two_le_spacing_ofNat h
    have hrep : Representable (Binary64.ofNat d.seconds) := representable_round _ _
    have hpos : 0 < Binary64.ofNat d.seconds := by
      have hone := Binary64.one_pos
      have hle := whole_le_ofNat h
      omega
    have hlower := lowerQuarters_lt hpos
    have hcovers : Covers (Binary64.ofNat d.seconds)
        (Binary64.ofNat d.seconds + ofRatio d.nanos 1000000000) 1 := by
      apply covers_of_lt
      · omega
      · rw [upperQuarters]
        omega
    have hround : d.asSeconds = Binary64.ofNat d.seconds :=
      (round_eq_iff hrep Nat.one_pos).2 hcovers
    rw [hround]
    exact ofRatio_mono Nat.one_pos (Nat.le_succ _)

theorem ofNat_le_asSeconds (d : Duration) : Binary64.ofNat d.seconds ≤ d.asSeconds := by
  have hrep : Representable (Binary64.ofNat d.seconds) := representable_round _ _
  calc Binary64.ofNat d.seconds = round (Binary64.ofNat d.seconds) 1 :=
        (round_one_of_representable hrep).symm
    _ ≤ d.asSeconds :=
      round_mono Nat.one_pos Nat.one_pos (Nat.mul_le_mul_right 1 (Nat.le_add_right _ _))

/-- A longer duration has no smaller number of seconds, whatever is lost in its two roundings. -/
theorem asSeconds_mono (h : d.totalNanos ≤ e.totalNanos) : d.asSeconds ≤ e.asSeconds := by
  have hd := d.nanos_lt
  have he := e.nanos_lt
  rw [totalNanos, totalNanos] at h
  obtain hlt | heq : d.seconds < e.seconds ∨ d.seconds = e.seconds := by omega
  · calc d.asSeconds ≤ Binary64.ofNat (d.seconds + 1) := d.asSeconds_le_ofNat_succ
      _ ≤ Binary64.ofNat e.seconds := ofRatio_mono Nat.one_pos hlt
      _ ≤ e.asSeconds := e.ofNat_le_asSeconds
  · have hnanos : d.nanos ≤ e.nanos := by omega
    rw [asSeconds, asSeconds, heq]
    apply round_mono Nat.one_pos Nat.one_pos
    exact Nat.mul_le_mul_right 1 (Nat.add_le_add_left (ofRatio_mono (by decide) hnanos) _)

theorem abs_value_asSeconds_sub_lt (h : d.IsShort) :
    |value d.asSeconds - d.totalNanos / 1000000000| < 1 / 2000000000 :=
  calc _ ≤ (2 : ℚ) ^ 23 / 2 ^ 54 + 1 / 2 ^ 54 := abs_value_asSeconds_sub_le h (by decide)
    _ < 1 / 2000000000 := by norm_num

theorem asSeconds_lt (hd : d.IsShort) (he : e.IsShort) (h : d.totalNanos < e.totalNanos) :
    d.asSeconds < e.asSeconds := by
  have hleft := (abs_lt.1 (abs_value_asSeconds_sub_lt hd)).2
  have hright := (abs_lt.1 (abs_value_asSeconds_sub_lt he)).1
  have hgap : (d.totalNanos : ℚ) + 1 ≤ e.totalNanos := by exact_mod_cast Nat.succ_le_of_lt h
  have hvalue : value d.asSeconds < value e.asSeconds := by linarith
  rw [value, value, div_lt_div_iff_of_pos_right cast_one_pos] at hvalue
  exact_mod_cast hvalue

def shortestSeconds (d : Duration) : ℚ := (shortest .up d.asSeconds).value

theorem representable_asSeconds (d : Duration) : Representable d.asSeconds :=
  representable_round _ _

theorem shortestSeconds_mono (h : d.totalNanos ≤ e.totalNanos) :
    d.shortestSeconds ≤ e.shortestSeconds :=
  (value_shortest_le_iff .up d.representable_asSeconds e.representable_asSeconds).2
    (asSeconds_mono h)

theorem shortestSeconds_lt (hd : d.IsShort) (he : e.IsShort) (h : d.totalNanos < e.totalNanos) :
    d.shortestSeconds < e.shortestSeconds :=
  value_shortest_lt .up d.representable_asSeconds e.representable_asSeconds (asSeconds_lt hd he h)

theorem shortestSeconds_default : shortestSeconds default = 0 := by
  have hzero : asSeconds default = 0 := by
    have hfraction : ofRatio 0 1000000000 = 0 := ofRatio_zero (by decide)
    have hwhole : Binary64.ofNat 0 = 0 := ofRatio_zero Nat.one_pos
    have hsum : add 0 0 = 0 := add_zero_of_representable (Nat.dvd_zero _)
    calc asSeconds default = add (Binary64.ofNat 0) (ofRatio 0 1000000000) := rfl
      _ = 0 := by rw [hfraction, hwhole, hsum]
  rw [shortestSeconds, hzero, shortest, if_pos rfl, Decimal.value]
  simp

theorem shortestSeconds_nonneg (d : Duration) : 0 ≤ d.shortestSeconds := by
  rw [← shortestSeconds_default]
  exact shortestSeconds_mono (Nat.zero_le _)

theorem shortestSeconds_pos (hd : d.IsShort) (h : 0 < d.totalNanos) : 0 < d.shortestSeconds := by
  rw [← shortestSeconds_default]
  exact shortestSeconds_lt (by decide) hd h

theorem shortestSeconds_eq_zero (h : d.totalNanos = 0) : d.shortestSeconds = 0 := by
  apply le_antisymm
  · rw [← shortestSeconds_default]
    exact shortestSeconds_mono h.le
  · exact d.shortestSeconds_nonneg

/-- The number in the text of a timeout: what stands before the last character, in decimal, negative
behind a minus. -/
def readSeconds (text : String) : ℚ :=
  match text.toList.dropLast with
  | '-' :: number => -Decimal.ofText number
  | number => Decimal.ofText number

section Text

variable {negative negative' : Bool} {cs ds : List Char}

theorem toList_secondsText (negative : Bool) (cs : List Char) :
    (secondsText negative cs).toList = (if negative then '-' :: cs else cs) ++ ['s'] := by
  rw [secondsText, String.toList_ofList]
  cases negative <;> rfl

theorem readSeconds_secondsText (h : BeginsWithDigit cs) :
    readSeconds (secondsText negative cs) =
      if negative then -Decimal.ofText cs else Decimal.ofText cs := by
  rw [readSeconds, toList_secondsText, List.dropLast_concat]
  cases negative with
  | true => rfl
  | false =>
    rw [if_neg (by decide), if_neg (by decide)]
    split
    · exact absurd rfl (h.ne_cons (c := '-') rfl)
    · rfl

theorem secondsText_eq_iff (hcs : BeginsWithDigit cs) (hds : BeginsWithDigit ds) :
    secondsText negative cs = secondsText negative' ds ↔ negative = negative' ∧ cs = ds := by
  rw [secondsText, secondsText, String.ofList_inj, List.append_left_inj, Numeral.signed_inj hcs hds]

end Text

theorem readSeconds_annotation_eq (d : Duration) :
    readSeconds d.annotation = if d.negative then -d.shortestSeconds else d.shortestSeconds := by
  rw [annotation_eq, readSeconds_secondsText (Decimal.beginsWithDigit_write _ _),
    Decimal.ofText_write]
  rfl

/-- The length of a duration in nanoseconds, below zero if it is negative. Both zeros have the
length zero. -/
def signedNanos (d : Duration) : Int := if d.negative then -d.totalNanos else d.totalNanos

theorem readSeconds_annotation_mono (h : d.signedNanos ≤ e.signedNanos) :
    readSeconds d.annotation ≤ readSeconds e.annotation := by
  have hd := d.shortestSeconds_nonneg
  have he := e.shortestSeconds_nonneg
  rw [readSeconds_annotation_eq, readSeconds_annotation_eq]
  unfold signedNanos at h
  cases hn : d.negative <;> cases hn' : e.negative <;>
    simp only [hn, hn', if_true, Bool.false_eq_true, if_false] at h ⊢
  case false.false => exact shortestSeconds_mono (by omega)
  case true.true => exact neg_le_neg (shortestSeconds_mono (by omega))
  case true.false => linarith
  case false.true =>
    -- only if both are zero
    rw [shortestSeconds_eq_zero (d := d) (by omega), shortestSeconds_eq_zero (d := e) (by omega),
      neg_zero]

theorem readSeconds_annotation_lt (hd : d.IsShort) (he : e.IsShort)
    (h : d.signedNanos < e.signedNanos) :
    readSeconds d.annotation < readSeconds e.annotation := by
  have hd' := d.shortestSeconds_nonneg
  have he' := e.shortestSeconds_nonneg
  rw [readSeconds_annotation_eq, readSeconds_annotation_eq]
  unfold signedNanos at h
  cases hn : d.negative <;> cases hn' : e.negative <;>
    simp only [hn, hn', if_true, Bool.false_eq_true, if_false] at h ⊢
  case false.false => exact shortestSeconds_lt hd he (by omega)
  case true.true => exact neg_lt_neg (shortestSeconds_lt he hd (by omega))
  case true.false =>
    obtain hpos | hpos : 0 < d.totalNanos ∨ 0 < e.totalNanos := by omega
    · have := shortestSeconds_pos hd hpos
      linarith
    · have := shortestSeconds_pos he hpos
      linarith
  case false.true => omega

theorem annotation_eq_iff (hd : d.IsShort) (he : e.IsShort) :
    d.annotation = e.annotation ↔ d = e := by
  constructor
  · intro h
    have hsign : d.negative = e.negative := by
      rw [annotation_eq, annotation_eq] at h
      exact ((secondsText_eq_iff (Decimal.beginsWithDigit_write _ _)
        (Decimal.beginsWithDigit_write _ _)).1 h).1
    have hnumber := congrArg readSeconds h
    have hsigned : d.signedNanos = e.signedNanos := by
      obtain hlt | heq | hgt := lt_trichotomy d.signedNanos e.signedNanos
      · exact absurd hnumber (readSeconds_annotation_lt hd he hlt).ne
      · exact heq
      · exact absurd hnumber (readSeconds_annotation_lt he hd hgt).ne'
    apply eq_of_totalNanos_eq hsign
    rw [signedNanos, signedNanos, hsign] at hsigned
    split at hsigned <;> omega
  · rintro rfl
    rfl

end EdgeRoutes.Duration
