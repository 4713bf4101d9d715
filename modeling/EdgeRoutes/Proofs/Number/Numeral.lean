import EdgeRoutes.Number.Numeral
import Mathlib

namespace EdgeRoutes.Numeral

theorem toNat_digitChar {d : Nat} (h : d < 10) : (Nat.digitChar d).toNat = 48 + d := by
  rw [Nat.toNat_digitChar_of_lt_ten h, Nat.add_comm]

theorem isDigit_iff (c : Char) : c.isDigit = true ↔ 48 ≤ c.toNat ∧ c.toNat ≤ 57 := by
  simp only [Char.isDigit, Bool.and_eq_true, decide_eq_true_eq, UInt32.le_iff_toNat_le, ge_iff_le]
  exact Iff.rfl

theorem isDigit_digitChar {d : Nat} (h : d < 10) : (Nat.digitChar d).isDigit = true := by
  rw [isDigit_iff, toNat_digitChar h]
  omega

theorem digitValue_digitChar {d : Nat} (h : d < 10) : digitValue (Nat.digitChar d) = d := by
  have hzero : '0'.toNat = 48 := rfl
  rw [digitValue, toNat_digitChar h, hzero]
  omega

theorem value_append_singleton (ds : List Char) (c : Char) :
    value (ds ++ [c]) = 10 * value ds + digitValue c := by
  rw [value, List.foldl_append]
  rfl

theorem value_append (ds es : List Char) :
    value (ds ++ es) = value ds * 10 ^ es.length + value es := by
  induction es using List.reverseRecOn with
  | nil => simp [value]
  | append_singleton es c ih =>
    rw [← List.append_assoc, value_append_singleton, ih, value_append_singleton, List.length_append,
      List.length_singleton, pow_succ]
    ring

theorem value_replicate_zero (k : Nat) : value (List.replicate k '0') = 0 := by
  induction k with
  | zero => rfl
  | succ k ih =>
    rw [List.replicate_succ', value_append_singleton, ih]
    rfl

/-! Digits -/

theorem digits_of_lt {n : Nat} (h : n < 10) : digits n = [Nat.digitChar n] := by
  rw [digits, if_pos h]

theorem digits_of_le {n : Nat} (h : 10 ≤ n) :
    digits n = digits (n / 10) ++ [Nat.digitChar (n % 10)] := by
  rw [digits, if_neg (by omega)]

theorem digits_ne_nil (n : Nat) : digits n ≠ [] := by
  rw [digits]
  split <;> simp

theorem value_digits (n : Nat) : value (digits n) = n := by
  induction n using Nat.strong_induction_on with
  | _ n ih =>
    by_cases h : n < 10
    · have hsingle := value_append_singleton [] (Nat.digitChar n)
      rw [digits_of_lt h, ← List.nil_append [_], hsingle, digitValue_digitChar h]
      exact Nat.zero_add n
    · rw [digits_of_le (by omega), value_append_singleton, ih (n / 10) (by omega),
        digitValue_digitChar (Nat.mod_lt n (by decide))]
      omega

theorem isDigit_of_mem_digits {n : Nat} {c : Char} (hc : c ∈ digits n) : c.isDigit = true := by
  induction n using Nat.strong_induction_on with
  | _ n ih =>
    by_cases h : n < 10
    · rw [digits_of_lt h, List.mem_singleton] at hc
      rw [hc]
      exact isDigit_digitChar h
    · rw [digits_of_le (by omega), List.mem_append, List.mem_singleton] at hc
      obtain hc | hc := hc
      · exact ih (n / 10) (by omega) hc
      · rw [hc]
        exact isDigit_digitChar (Nat.mod_lt n (by decide))

theorem length_digits_le {n k : Nat} (hk : 0 < k) (h : n < 10 ^ k) : (digits n).length ≤ k := by
  induction k generalizing n with
  | zero => omega
  | succ k ih =>
    by_cases hn : n < 10
    · rw [digits_of_lt hn, List.length_singleton]
      omega
    · have hlt : n / 10 < 10 ^ k := by
        rw [Nat.div_lt_iff_lt_mul (by decide), ← pow_succ]
        exact h
      have hpos : 0 < k := by
        by_contra hzero
        have : k = 0 := by omega
        subst this
        omega
      rw [digits_of_le (by omega), List.length_append, List.length_singleton]
      have := ih hpos hlt
      omega

theorem digits_mul_pow {n : Nat} (h : 0 < n) (k : Nat) :
    digits (n * 10 ^ k) = digits n ++ List.replicate k '0' := by
  induction k with
  | zero => simp
  | succ k ih =>
    have hpos : 0 < n * 10 ^ k := Nat.mul_pos h (Nat.pow_pos (by decide))
    have hdiv : n * 10 ^ (k + 1) / 10 = n * 10 ^ k := by
      rw [pow_succ, ← Nat.mul_assoc, Nat.mul_div_cancel _ (by decide)]
    have hmod : n * 10 ^ (k + 1) % 10 = 0 := by
      rw [pow_succ, ← Nat.mul_assoc, Nat.mul_mod_left]
    have hge : 10 ≤ n * 10 ^ (k + 1) := by
      rw [pow_succ, ← Nat.mul_assoc]
      omega
    rw [digits_of_le hge, hdiv, hmod, ih, List.append_assoc, List.replicate_succ']
    rfl

theorem lt_pow_length_digits (n : Nat) : n < 10 ^ (digits n).length := by
  induction n using Nat.strong_induction_on with
  | _ n ih =>
    by_cases h : n < 10
    · rw [digits_of_lt h]
      exact h
    · have hlt := ih (n / 10) (by omega)
      rw [digits_of_le (by omega), List.length_append, List.length_singleton, pow_succ]
      omega

theorem lt_length_digits {n k : Nat} (h : 10 ^ k ≤ n) : k < (digits n).length :=
  (Nat.pow_lt_pow_iff_right (by decide)).1 (h.trans_lt (lt_pow_length_digits n))

theorem getLast?_digits (n : Nat) : (digits n).getLast? = some (Nat.digitChar (n % 10)) := by
  by_cases h : n < 10
  · rw [digits_of_lt h, Nat.mod_eq_of_lt h]
    rfl
  · rw [digits_of_le (by omega), List.getLast?_concat]

theorem getLast?_digits_ne {n : Nat} (h : ¬ 10 ∣ n) : (digits n).getLast? ≠ some '0' := by
  rw [getLast?_digits, Ne, Option.some.injEq]
  intro hzero
  have hvalue := congrArg digitValue hzero
  rw [digitValue_digitChar (Nat.mod_lt n (by decide))] at hvalue
  exact h (Nat.dvd_of_mod_eq_zero hvalue)

/-! Runs of characters -/

theorem takeWhile_append_of_ends {p : Char → Bool} {run rest : List Char}
    (hrun : ∀ c ∈ run, p c = true) (hrest : ∀ c, rest.head? = some c → p c = false) :
    (run ++ rest).takeWhile p = run := by
  rw [List.takeWhile_append_of_pos hrun]
  cases rest with
  | nil => simp
  | cons c rest => simp [hrest c rfl]

theorem dropWhile_append_of_ends {p : Char → Bool} {run rest : List Char}
    (hrun : ∀ c ∈ run, p c = true) (hrest : ∀ c, rest.head? = some c → p c = false) :
    (run ++ rest).dropWhile p = rest := by
  rw [List.dropWhile_append_of_pos hrun]
  cases rest with
  | nil => rfl
  | cons c rest => simp [hrest c rfl]

def BeginsWithDigit (cs : List Char) : Prop := ∃ c, cs.head? = some c ∧ c.isDigit = true

theorem BeginsWithDigit.ne_cons {cs ds : List Char} {c : Char} (h : BeginsWithDigit cs)
    (hc : c.isDigit = false) : cs ≠ c :: ds := by
  rintro rfl
  obtain ⟨c', hc', hdigit⟩ := h
  cases hc'
  rw [hc] at hdigit
  cases hdigit

theorem signed_inj {negative negative' : Bool} {cs ds : List Char} (hcs : BeginsWithDigit cs)
    (hds : BeginsWithDigit ds) :
    (if negative then ['-'] else []) ++ cs = (if negative' then ['-'] else []) ++ ds ↔
      negative = negative' ∧ cs = ds := by
  constructor
  · intro h
    cases negative <;> cases negative'
    · exact ⟨rfl, h⟩
    · exact absurd h (hcs.ne_cons rfl)
    · exact absurd h.symm (hds.ne_cons rfl)
    · exact ⟨rfl, List.tail_eq_of_cons_eq h⟩
  · rintro ⟨rfl, rfl⟩
    rfl

theorem beginsWithDigit_digits_append (n : Nat) (cs : List Char) :
    BeginsWithDigit (digits n ++ cs) := by
  obtain ⟨c, ds, hc⟩ := List.exists_cons_of_ne_nil (digits_ne_nil n)
  refine ⟨c, ?_, isDigit_of_mem_digits (hc ▸ List.mem_cons_self)⟩
  rw [hc]
  rfl

/-! Digits in a field of fixed width -/

theorem length_padded (width n : Nat) : (padded width n).length = width := by
  induction width generalizing n with
  | zero => rfl
  | succ width ih => rw [padded, List.length_append, ih, List.length_singleton]

theorem value_padded (width n : Nat) : value (padded width n) = n % 10 ^ width := by
  induction width generalizing n with
  | zero => simp [padded, value, Nat.mod_one]
  | succ width ih =>
    rw [padded, value_append_singleton, ih, digitValue_digitChar (Nat.mod_lt n (by decide)),
      pow_succ', Nat.mod_mul]
    omega

theorem isDigit_of_mem_padded {width n : Nat} {c : Char} (hc : c ∈ padded width n) :
    c.isDigit = true := by
  induction width generalizing n with
  | zero => cases hc
  | succ width ih =>
    rw [padded, List.mem_append, List.mem_singleton] at hc
    obtain hc | hc := hc
    · exact ih hc
    · rw [hc]
      exact isDigit_digitChar (Nat.mod_lt n (by decide))

theorem length_atLeast {width n : Nat} (hw : 0 < width) (h : n < 10 ^ width) :
    (atLeast width n).length = width := by
  have := length_digits_le hw h
  rw [atLeast, List.length_append, List.length_replicate]
  omega

theorem value_atLeast (width n : Nat) : value (atLeast width n) = n := by
  rw [atLeast, value_append, value_replicate_zero, value_digits,
    Nat.zero_mul, Nat.zero_add]

theorem isDigit_of_mem_atLeast {width n : Nat} {c : Char} (hc : c ∈ atLeast width n) :
    c.isDigit = true := by
  obtain hc | hc := List.mem_append.1 hc
  · rw [List.eq_of_mem_replicate hc]
    rfl
  · exact isDigit_of_mem_digits hc

theorem padded_zero (width : Nat) : padded width 0 = List.replicate width '0' := by
  induction width with
  | zero => rfl
  | succ width ih =>
    rw [padded, Nat.zero_div, ih, List.replicate_succ']
    rfl

theorem padded_eq_atLeast {width n : Nat} (hw : 0 < width) (h : n < 10 ^ width) :
    padded width n = atLeast width n := by
  induction width generalizing n with
  | zero => omega
  | succ width ih =>
    by_cases hn : n < 10
    · rw [padded, Nat.div_eq_of_lt hn, Nat.mod_eq_of_lt hn, padded_zero, atLeast, digits_of_lt hn]
      rfl
    · have hquot : n / 10 < 10 ^ width := by
        rw [pow_succ] at h
        omega
      have hpos : 0 < width := by
        rw [Nat.pos_iff_ne_zero]
        rintro rfl
        omega
      rw [padded, ih hpos hquot, atLeast, atLeast, digits_of_le (Nat.le_of_not_lt hn),
        List.append_assoc, List.length_append, List.length_singleton, Nat.add_sub_add_right]

theorem digits_append_padded {whole width fraction : Nat} (hpos : 0 < whole)
    (h : fraction < 10 ^ width) :
    digits (whole * 10 ^ width + fraction) = digits whole ++ padded width fraction := by
  induction width generalizing fraction with
  | zero =>
    obtain rfl : fraction = 0 := by omega
    simp [padded]
  | succ width ih =>
    have hquot :
        (whole * 10 ^ (width + 1) + fraction) / 10 = whole * 10 ^ width + fraction / 10 := by
      rw [pow_succ, ← Nat.mul_assoc]
      omega
    have hrest : (whole * 10 ^ (width + 1) + fraction) % 10 = fraction % 10 := by
      rw [pow_succ, ← Nat.mul_assoc]
      omega
    have hge : 10 ≤ whole * 10 ^ (width + 1) + fraction := by
      have := Nat.mul_pos hpos (Nat.pow_pos (n := width) (by decide : 0 < 10))
      rw [pow_succ, ← Nat.mul_assoc]
      omega
    have hlt : fraction / 10 < 10 ^ width := by
      rw [pow_succ] at h
      omega
    rw [digits_of_le hge, hquot, hrest, ih hlt, padded, List.append_assoc]

theorem trimZeros_append_replicate {ds : List Char} (h : ds.getLast? ≠ some '0') (k : Nat) :
    trimZeros (ds ++ List.replicate k '0') = ds := by
  have hzeros : ∀ c ∈ List.replicate k '0', (decide (c = '0')) = true := fun c hc =>
    decide_eq_true (List.eq_of_mem_replicate hc)
  have hstop : ds.reverse.dropWhile (· = '0') = ds.reverse := by
    rw [List.dropWhile_eq_self_iff]
    intro hlen hzero
    rw [decide_eq_true_eq] at hzero
    apply h
    rw [← List.head?_reverse, List.head?_eq_getElem?, List.getElem?_eq_getElem hlen, hzero]
  rw [trimZeros, List.reverse_append, List.reverse_replicate, List.dropWhile_append_of_pos hzeros,
    hstop, List.reverse_reverse]

theorem exists_replicate_of_trimZeros (ds : List Char) :
    ∃ k, trimZeros ds ++ List.replicate k '0' = ds := by
  have hzeros : ds.reverse.takeWhile (· = '0') =
      List.replicate (ds.reverse.takeWhile (· = '0')).length '0' :=
    List.eq_replicate_of_mem fun c hc => by simpa using List.mem_takeWhile_imp hc
  refine ⟨(ds.reverse.takeWhile (· = '0')).length, ?_⟩
  calc trimZeros ds ++ List.replicate (ds.reverse.takeWhile (· = '0')).length '0'
      = (ds.reverse.dropWhile (· = '0')).reverse ++ (ds.reverse.takeWhile (· = '0')).reverse := by
        rw [trimZeros, hzeros, List.reverse_replicate, List.length_replicate]
    _ = (ds.reverse.takeWhile (· = '0') ++ ds.reverse.dropWhile (· = '0')).reverse := by
        rw [List.reverse_append]
    _ = ds := by rw [List.takeWhile_append_dropWhile, List.reverse_reverse]

/-- A fraction of `width` digits, less the zeros at its end. -/
theorem exists_zeros_of_trimZeros_padded {fraction width : Nat} (h : fraction < 10 ^ width) :
    (∀ c ∈ trimZeros (padded width fraction), c.isDigit = true) ∧
      ∃ zeros, (trimZeros (padded width fraction)).length + zeros = width ∧
        value (trimZeros (padded width fraction)) * 10 ^ zeros = fraction := by
  obtain ⟨zeros, hzeros⟩ := exists_replicate_of_trimZeros (padded width fraction)
  have hlength := length_padded width fraction
  have hvalue := value_padded width fraction
  rw [← hzeros, List.length_append, List.length_replicate] at hlength
  rw [← hzeros, value_append, List.length_replicate, value_replicate_zero, Nat.add_zero,
    Nat.mod_eq_of_lt h] at hvalue
  exact ⟨fun c hc => isDigit_of_mem_padded (hzeros ▸ List.mem_append_left _ hc), zeros, hlength,
    hvalue⟩

end EdgeRoutes.Numeral
