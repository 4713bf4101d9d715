import EdgeRoutes.Proofs.Duration.Term
import EdgeRoutes.Proofs.Number.Whole

namespace EdgeRoutes

/-- A number as it is written: one digit or more, possibly with zeros in front. -/
structure DigitRun where
  digits : List Char
  digits_ne : digits ≠ []
  isDigit : ∀ c ∈ digits, c.isDigit = true

namespace DigitRun

def value (r : DigitRun) : Nat := Numeral.value r.digits

def ofNat (n : Nat) : DigitRun :=
  ⟨Numeral.digits n, Numeral.digits_ne_nil n, fun _ => Numeral.isDigit_of_mem_digits⟩

theorem value_ofNat (n : Nat) : (ofNat n).value = n := Numeral.value_digits n

theorem head?_ne {c : Char} (r : DigitRun) (hc : c.isDigit = false) : r.digits.head? ≠ some c := by
  intro h
  have := r.isDigit c (List.mem_of_head? h)
  rw [hc] at this
  cases this

end DigitRun

namespace Duration

open Binary64

theorem magnitude?_digits (r : DigitRun) : magnitude? r.digits = some (Binary64.ofNat r.value) := by
  have htake : r.digits.takeWhile Char.isDigit = r.digits := List.takeWhile_eq_self_iff.2 r.isDigit
  have hdrop : r.digits.dropWhile Char.isDigit = [] := List.dropWhile_eq_nil_iff.2 r.isDigit
  have hne : r.digits.isEmpty = false := List.isEmpty_eq_false_iff.2 r.digits_ne
  simp only [magnitude?, htake, hdrop, hne]
  rfl

theorem factor?_of_magnitude? {cs : List Char} {u : Nat} (h : magnitude? cs = some u)
    (hminus : cs.head? ≠ some '-') (hplus : cs.head? ≠ some '+') : factor? cs = .ok ⟨false, u⟩ := by
  unfold factor?
  split
  · cases h
  · simp at hminus
  · simp at hplus
  · rw [h]
    rfl

theorem factor?_digits (r : DigitRun) :
    factor? r.digits = .ok ⟨false, Binary64.ofNat r.value⟩ :=
  factor?_of_magnitude? (magnitude?_digits r) (r.head?_ne rfl) (r.head?_ne rfl)

theorem componentNanos?_whole {n k : Nat} (hn : n ≤ 2 ^ 53) (hk : k ≤ 2 ^ 53) (h : n * k ≤ 2 ^ 53) :
    componentNanos? ⟨false, Binary64.ofNat n⟩ (k * 1000000000) = some (n * k * 1000000000) := by
  have hquot : k * 1000000000 / 1000000000 = k := Nat.mul_div_cancel k (by decide)
  have hrest : k * 1000000000 % 1000000000 = 0 := Nat.mul_mod_left k _
  have hunit : Binary64.add (Binary64.ofNat k) (Binary64.ofRatio 0 1000000000) = k * one := by
    rw [ofRatio_zero (by decide), ofNat_whole hk,
      add_zero_of_representable (representable_whole hk)]
  have hnanos : n * k * one * 1000000000 = n * k * 1000000000 * one := by ring
  simp only [componentNanos?, hquot, hrest, hunit, ofNat_whole hn, mul_whole h, Bool.false_and,
    Bool.false_eq_true, if_false, hnanos, roundHalfEven_mul Binary64.one_pos]

def wholeTerm (r : DigitRun) (unit : List Char) (k : Nat)
    (hunit : unitNanos? unit = some (k * 1000000000)) : Term :=
  ⟨r.digits, unit, _, _, factor?_digits r, hunit⟩

theorem nanos?_wholeTerm {r : DigitRun} {unit : List Char} {k : Nat}
    {hunit : unitNanos? unit = some (k * 1000000000)} (hk : 0 < k) (hle : k ≤ 2 ^ 53)
    (h : r.value * k ≤ 2 ^ 53) :
    (wholeTerm r unit k hunit).nanos? = some (r.value * k * 1000000000) :=
  componentNanos?_whole (le_trans (Nat.le_mul_of_pos_right _ hk) h) hle h

/-- Hours, minutes and seconds; the leading ones may be left out. -/
inductive Clock where
  | seconds (s : DigitRun)
  | minutes (m s : DigitRun)
  | hours (h m s : DigitRun)

namespace Clock

def total : Clock → Nat
  | seconds s => s.value
  | minutes m s => 60 * m.value + s.value
  | hours h m s => 3600 * h.value + 60 * m.value + s.value

def text : Clock → List Char
  | seconds s => s.digits ++ ['s']
  | minutes m s => m.digits ++ ['m'] ++ (s.digits ++ ['s'])
  | hours h m s => h.digits ++ ['h'] ++ (m.digits ++ ['m'] ++ (s.digits ++ ['s']))

def terms : Clock → List Term
  | seconds s => [wholeTerm s ['s'] 1 (by decide)]
  | minutes m s => [wholeTerm m ['m'] 60 (by decide), wholeTerm s ['s'] 1 (by decide)]
  | hours h m s =>
    [wholeTerm h ['h'] 3600 (by decide), wholeTerm m ['m'] 60 (by decide),
      wholeTerm s ['s'] 1 (by decide)]

def parts : Clock → List Nat
  | seconds s => [s.value * 1]
  | minutes m s => [m.value * 60, s.value * 1]
  | hours h m s => [h.value * 3600, m.value * 60, s.value * 1]

theorem flatMap_terms (c : Clock) : c.terms.flatMap Term.text = c.text := by
  cases c <;> simp [terms, text, Term.text, wholeTerm]

theorem nanos?_terms (c : Clock) (h : c.total ≤ 2 ^ 53) :
    c.terms.map Term.nanos? = (c.parts.map (· * 1000000000)).map some := by
  cases c with
  | seconds s =>
    simp only [total] at h
    simp only [terms, parts, List.map_cons, List.map_nil]
    rw [nanos?_wholeTerm (by decide) (by decide) (by omega)]
  | minutes m s =>
    simp only [total] at h
    simp only [terms, parts, List.map_cons, List.map_nil]
    rw [nanos?_wholeTerm (by decide) (by decide) (by omega),
      nanos?_wholeTerm (by decide) (by decide) (by omega)]
  | hours h' m s =>
    simp only [total] at h
    simp only [terms, parts, List.map_cons, List.map_nil]
    rw [nanos?_wholeTerm (by decide) (by decide) (by omega),
      nanos?_wholeTerm (by decide) (by decide) (by omega),
      nanos?_wholeTerm (by decide) (by decide) (by omega)]

theorem sum_parts (c : Clock) : c.parts.sum = c.total := by
  cases c <;> simp only [parts, total, List.sum_cons, List.sum_nil] <;> omega

theorem beginsWithDigit_text (c : Clock) : Numeral.BeginsWithDigit c.text := by
  have hrun (r : DigitRun) (cs : List Char) : Numeral.BeginsWithDigit (r.digits ++ cs) := by
    obtain ⟨d, ds, hd⟩ := List.exists_cons_of_ne_nil r.digits_ne
    exact ⟨d, by simp [hd], r.isDigit d (by simp [hd])⟩
  cases c with
  | seconds s => exact hrun s _
  | minutes m s =>
    rw [text, List.append_assoc]
    exact hrun m _
  | hours h m s =>
    rw [text, List.append_assoc]
    exact hrun h _

theorem sumNanos_text (c : Clock) (h : c.total ≤ 2 ^ 53) :
    sumNanos 0 c.text = .ok (c.total * 1000000000) := by
  have hparts : (c.parts.map (· * 1000000000)).sum = c.total * 1000000000 := by
    rw [List.sum_map_mul_right, List.map_id', sum_parts]
  have hlimit : 0 + (c.parts.map (· * 1000000000)).sum < limit := by
    rw [hparts, limit]
    omega
  have hsum := sumNanos_terms 0 c.terms _ (nanos?_terms c h) hlimit endsUnit_nil
  rw [List.append_nil, flatMap_terms] at hsum
  rw [hsum, hparts, sumNanos, if_pos (.inl rfl), Nat.zero_add]

end Clock

theorem ofNanos?_whole (negative : Bool) {n : Nat} (h : n < 0x10000000000000000) :
    ofNanos? negative (n * 1000000000) = some ⟨negative, n, 0, h, by decide⟩ := by
  have hquot : n * 1000000000 / 1000000000 = n := Nat.mul_div_cancel n (by decide)
  have hrest : n * 1000000000 % 1000000000 = 0 := Nat.mul_mod_left n _
  simp only [ofNanos?, hquot, hrest, dif_pos h]

/-- A text that begins with a digit, behind a sign or not, denotes the sum of its components. -/
theorem ofText_signed (negative : Bool) {cs : List Char} {n : Nat} {d : Duration}
    (hhead : Numeral.BeginsWithDigit cs) (hsum : sumNanos 0 cs = .ok n)
    (hd : ofNanos? negative n = some d) :
    ofText (String.ofList ((if negative then ['-'] else []) ++ cs)) = .ok d := by
  obtain ⟨c, hc, hdigit⟩ := hhead
  obtain ⟨rest, rfl⟩ := List.head?_eq_some_iff.1 hc
  have hplus : c ≠ '+' := by
    rintro rfl
    cases hdigit
  have hminus : c ≠ '-' := by
    rintro rfl
    cases hdigit
  cases negative with
  | true => exact ofText_eq_ok (by simpa [unsigned, hminus] using hsum) (by simpa using hd)
  | false =>
    exact ofText_eq_ok (by simpa [unsigned, hplus, hminus] using hsum) (by simpa [hminus] using hd)

def signedText (negative : Bool) (c : Clock) : String :=
  String.ofList ((if negative then ['-'] else []) ++ c.text)

theorem Clock.total_lt {c : Clock} (h : c.total ≤ 2 ^ 53) :
    c.total < 0x10000000000000000 := by omega

/-- A clock text denotes its total, and keeps its sign at zero. -/
theorem ofText_signedText (negative : Bool) (c : Clock) (h : c.total ≤ 2 ^ 53) :
    ofText (signedText negative c) = .ok ⟨negative, c.total, 0, Clock.total_lt h, by decide⟩ :=
  ofText_signed negative c.beginsWithDigit_text (c.sumNanos_text h)
    (ofNanos?_whole negative (Clock.total_lt h))

theorem annotation_whole (d : Duration) (hnanos : d.nanos = 0) (h : d.seconds ≤ 2 ^ 53) :
    d.annotation =
      String.ofList ((if d.negative then ['-'] else []) ++ Numeral.digits d.seconds ++ ['s']) := by
  have hseconds : d.asSeconds = d.seconds * one := by
    rw [asSeconds, hnanos, ofRatio_zero (by decide), ofNat_whole h,
      add_zero_of_representable (representable_whole h)]
  have hdigits := secondsLayout.magnitude_whole (by decide) (by decide) h
  have hmark : secondsLayout.marksWhole = false := rfl
  rw [hmark, if_neg (by decide), List.append_nil] at hdigits
  unfold annotation
  rw [hseconds, hdigits]

end Duration

end EdgeRoutes
