import EdgeRoutes.Proofs.Number.Shortest

namespace EdgeRoutes.Decimal

open Numeral (digits padded trimZeros)

/-- The number that digits denote, if there is at most one point among them. -/
def pointed (cs : List Char) : ℚ :=
  let whole := cs.takeWhile Char.isDigit
  let fraction := (cs.dropWhile Char.isDigit).drop 1
  Numeral.value (whole ++ fraction) / 10 ^ fraction.length

/-- Digits and a point, and an exponent if there is an `e`. -/
def ofText (cs : List Char) : ℚ :=
  let mantissa := pointed (cs.takeWhile (· ≠ 'e'))
  match (cs.dropWhile (· ≠ 'e')).drop 1 with
  | [] => mantissa
  | sign :: ds =>
    if sign = '-' then mantissa / 10 ^ Numeral.value ds else mantissa * 10 ^ Numeral.value ds

section Texts

variable {ds es : List Char}

theorem pointed_digits (h : ∀ c ∈ ds, c.isDigit = true) : pointed ds = Numeral.value ds := by
  have htake : ds.takeWhile Char.isDigit = ds := List.takeWhile_eq_self_iff.2 h
  have hdrop : ds.dropWhile Char.isDigit = [] := List.dropWhile_eq_nil_iff.2 h
  simp [pointed, htake, hdrop]

theorem pointed_append (h : ∀ c ∈ ds, c.isDigit = true) :
    pointed (ds ++ '.' :: es) = Numeral.value (ds ++ es) / 10 ^ es.length := by
  have htake : (ds ++ '.' :: es).takeWhile Char.isDigit = ds := by
    rw [List.takeWhile_append_of_pos h, List.takeWhile_cons_of_neg (by decide), List.append_nil]
  have hdrop : (ds ++ '.' :: es).dropWhile Char.isDigit = '.' :: es := by
    rw [List.dropWhile_append_of_pos h, List.dropWhile_cons_of_neg (by decide)]
  simp [pointed, htake, hdrop]

theorem decide_ne_exponent (h : 'e' ∉ ds) : ∀ c ∈ ds, decide (c ≠ 'e') = true := fun _ hc =>
  decide_eq_true fun he => h (he ▸ hc)

theorem ofText_of_not_mem (h : 'e' ∉ ds) : ofText ds = pointed ds := by
  have hall := decide_ne_exponent h
  have htake : ds.takeWhile (· ≠ 'e') = ds := List.takeWhile_eq_self_iff.2 hall
  have hdrop : ds.dropWhile (· ≠ 'e') = [] := List.dropWhile_eq_nil_iff.2 hall
  rw [ofText, htake, hdrop]
  rfl

theorem ofText_exponent (h : 'e' ∉ ds) (sign : Char) :
    ofText (ds ++ 'e' :: sign :: es) =
      if sign = '-' then pointed ds / 10 ^ Numeral.value es
      else pointed ds * 10 ^ Numeral.value es := by
  have hall := decide_ne_exponent h
  have htake : (ds ++ 'e' :: sign :: es).takeWhile (· ≠ 'e') = ds := by
    rw [List.takeWhile_append_of_pos hall, List.takeWhile_cons_of_neg (by decide), List.append_nil]
  have hdrop : (ds ++ 'e' :: sign :: es).dropWhile (· ≠ 'e') = 'e' :: sign :: es := by
    rw [List.dropWhile_append_of_pos hall, List.dropWhile_cons_of_neg (by decide)]
  rw [ofText, htake, hdrop]
  rfl

theorem ne_exponent_of_isDigit {c : Char} (h : c.isDigit = true) : c ≠ 'e' := by
  rintro rfl
  cases h

theorem not_mem_of_digits (h : ∀ c ∈ ds, c.isDigit = true) : 'e' ∉ ds := fun he =>
  ne_exponent_of_isDigit (h _ he) rfl

theorem not_mem_pointed (h : ∀ c ∈ ds, c.isDigit = true) (h' : ∀ c ∈ es, c.isDigit = true) :
    'e' ∉ ds ++ '.' :: es := by
  intro he
  obtain he | he := List.mem_append.1 he
  · exact not_mem_of_digits h he
  · exact not_mem_of_digits h' (List.mem_of_ne_of_mem (by decide) he)

theorem ofText_digits (h : ∀ c ∈ ds, c.isDigit = true) : ofText ds = Numeral.value ds := by
  rw [ofText_of_not_mem (not_mem_of_digits h), pointed_digits h]

theorem ofText_places (h : ∀ c ∈ ds, c.isDigit = true) (h' : ∀ c ∈ es, c.isDigit = true) :
    ofText (ds ++ '.' :: es) = Numeral.value (ds ++ es) / 10 ^ es.length := by
  rw [ofText_of_not_mem (not_mem_pointed h h'), pointed_append h]

end Texts

theorem isDigit_zeros (n : Int) : ∀ c ∈ zeros n, c.isDigit = true := by
  intro c hc
  rw [List.eq_of_mem_replicate hc]
  rfl

theorem isDigit_digits (n : Nat) : ∀ c ∈ digits n, c.isDigit = true := fun _ =>
  Numeral.isDigit_of_mem_digits

theorem value_of_nonneg {d : Decimal} {k : Nat} (h : d.exponent = k) :
    d.value = (d.coefficient * 10 ^ k : Nat) := by
  rw [value, h, zpow_natCast]
  push_cast
  rfl

theorem value_of_neg {d : Decimal} {k : Nat} (h : d.exponent = -k) :
    d.value = d.coefficient / 10 ^ k := by
  rw [value, h, zpow_neg, zpow_natCast, div_eq_mul_inv]

theorem ofText_positional (marksWhole : Bool) (d : Decimal) :
    ofText (d.positional marksWhole) = d.value := by
  have hdigits := isDigit_digits d.coefficient
  have hvalue := Numeral.value_digits d.coefficient
  have hpos := List.length_pos_iff.2 (Numeral.digits_ne_nil d.coefficient)
  have hzero : ∀ c ∈ ['0'], c.isDigit = true := by simp
  unfold positional
  dsimp only
  split
  case isTrue hmag =>
    have hexp : d.exponent =
        -((zeros (-d.magnitude - 1) ++ digits d.coefficient).length : Nat) := by
      rw [List.length_append, zeros, List.length_replicate]
      unfold magnitude at hmag ⊢
      omega
    have htext : '0' :: '.' :: zeros (-d.magnitude - 1) ++ digits d.coefficient =
        ['0'] ++ '.' :: (zeros (-d.magnitude - 1) ++ digits d.coefficient) := rfl
    have hzeros : Numeral.value (['0'] ++ zeros (-d.magnitude - 1)) = 0 := by
      rw [zeros, List.singleton_append, ← List.replicate_succ]
      exact Numeral.value_replicate_zero _
    rw [htext, ofText_places hzero (List.forall_mem_append.2 ⟨isDigit_zeros _, hdigits⟩),
      value_of_neg hexp, ← List.append_assoc, Numeral.value_append, hvalue, hzeros, Nat.zero_mul,
      Nat.zero_add]
  case isFalse hmag =>
    split
    case isTrue hexp =>
      obtain ⟨k, hk⟩ := Int.eq_ofNat_of_zero_le hexp
      have hwhole : ∀ c ∈ digits d.coefficient ++ zeros d.exponent, c.isDigit = true :=
        List.forall_mem_append.2 ⟨hdigits, isDigit_zeros _⟩
      have htext :
          Numeral.value (digits d.coefficient ++ zeros d.exponent) = d.coefficient * 10 ^ k := by
        rw [hk, zeros, Int.toNat_natCast, Numeral.value_append, hvalue,
          Numeral.value_replicate_zero, List.length_replicate, Nat.add_zero]
      rw [value_of_nonneg hk, ← htext]
      cases marksWhole with
      | false => rw [if_neg (by decide), List.append_nil, ofText_digits hwhole]
      | true =>
        have hmark : Numeral.value ['0'] = 0 := rfl
        rw [if_pos rfl, ofText_places hwhole hzero, Numeral.value_append, hmark]
        simp
    case isFalse hexp =>
      have hsplit := List.take_append_drop (d.magnitude + 1).toNat (digits d.coefficient)
      have hexp' : d.exponent =
          -(((digits d.coefficient).drop (d.magnitude + 1).toNat).length : Nat) := by
        rw [List.length_drop]
        unfold magnitude at hmag ⊢
        omega
      obtain ⟨hleft, hright⟩ := List.forall_mem_append.1 (hsplit.symm ▸ hdigits)
      rw [ofText_places hleft hright, hsplit, hvalue, value_of_neg hexp']

def mantissa (ds : List Char) : List Char :=
  ds.take 1 ++ (if ds.length ≤ 1 then [] else '.' :: ds.drop 1)

theorem pointed_mantissa {ds : List Char} (h : ∀ c ∈ ds, c.isDigit = true) :
    'e' ∉ mantissa ds ∧ pointed (mantissa ds) = Numeral.value ds / 10 ^ (ds.length - 1) := by
  have hleft : ∀ c ∈ ds.take 1, c.isDigit = true := fun c hc => h c (List.mem_of_mem_take hc)
  have hright : ∀ c ∈ ds.drop 1, c.isDigit = true := fun c hc => h c (List.mem_of_mem_drop hc)
  unfold mantissa
  split
  · next hone =>
    have hlen : ds.length - 1 = 0 := by omega
    rw [List.append_nil, List.take_of_length_le hone, pointed_digits h, hlen, pow_zero, div_one]
    exact ⟨not_mem_of_digits h, rfl⟩
  · rw [pointed_append hleft, List.take_append_drop, List.length_drop]
    exact ⟨not_mem_pointed hleft hright, rfl⟩

theorem scientific_eq (d : Decimal) :
    d.scientific = mantissa (digits d.coefficient) ++
      'e' :: (if d.magnitude < 0 then '-' else '+') :: Numeral.atLeast 2 d.magnitude.natAbs := rfl

theorem ofText_scientific (d : Decimal) : ofText d.scientific = d.value := by
  obtain ⟨hmem, hpointed⟩ := pointed_mantissa (isDigit_digits d.coefficient)
  have hpos := List.length_pos_iff.2 (Numeral.digits_ne_nil d.coefficient)
  have hexp : d.exponent = d.magnitude - ((digits d.coefficient).length - 1 : Nat) := by
    unfold magnitude
    omega
  rw [scientific_eq, ofText_exponent hmem, hpointed, Numeral.value_digits, Numeral.value_atLeast,
    value, hexp, zpow_sub₀ (by norm_num), zpow_natCast]
  by_cases hneg : d.magnitude < 0
  · have habs : d.magnitude = -(d.magnitude.natAbs : Int) := by omega
    rw [if_pos hneg, if_pos rfl, habs, zpow_neg, zpow_natCast, Int.natAbs_neg, Int.natAbs_natCast]
    field_simp
  · have habs : d.magnitude = (d.magnitude.natAbs : Int) := by omega
    rw [if_neg hneg, if_neg (by decide), habs, zpow_natCast, Int.natAbs_natCast]
    field_simp

/-- In whichever layout a decimal is written, its text denotes its number. -/
theorem ofText_write (l : Layout) (d : Decimal) : ofText (l.write d) = d.value := by
  unfold Layout.write
  split
  · exact ofText_positional l.marksWhole d
  · exact ofText_scientific d

theorem beginsWithDigit_write (l : Layout) (d : Decimal) : Numeral.BeginsWithDigit (l.write d) := by
  obtain ⟨c, cs, hc⟩ := List.exists_cons_of_ne_nil (Numeral.digits_ne_nil d.coefficient)
  have hdigit : c.isDigit = true := isDigit_digits d.coefficient c (hc ▸ List.mem_cons_self)
  unfold Layout.write
  split
  · unfold positional
    dsimp only
    rw [hc]
    split
    · exact ⟨'0', rfl, rfl⟩
    · next hmag =>
      split
      · exact ⟨c, rfl, hdigit⟩
      · obtain ⟨n, hn⟩ := Nat.exists_eq_add_one_of_ne_zero (n := (d.magnitude + 1).toNat) (by omega)
        rw [hn]
        exact ⟨c, rfl, hdigit⟩
  · rw [scientific, hc]
    exact ⟨c, rfl, hdigit⟩

section Places

variable {whole fraction width c k : Nat}

theorem pos_of_not_ten_dvd (hten : ¬ 10 ∣ c) : 0 < c :=
  Nat.pos_of_ne_zero fun hzero => hten (hzero ▸ dvd_zero 10)

theorem lt_width (hf : fraction < 10 ^ width) (hpos : 0 < fraction)
    (h : whole * 10 ^ width + fraction = c * 10 ^ k) : k < width := by
  by_contra hle
  have hdvd : 10 ^ width ∣ whole * 10 ^ width + fraction :=
    h ▸ (Nat.pow_dvd_pow 10 (Nat.le_of_not_lt hle)).mul_left c
  have hdvd' := (Nat.dvd_add_right (Nat.dvd_mul_left _ whole)).1 hdvd
  exact absurd (Nat.le_of_dvd hpos hdvd') (Nat.not_le.2 hf)

theorem length_digits_mul_pow (hc : 0 < c) (k : Nat) :
    (digits (c * 10 ^ k)).length = (digits c).length + k := by
  rw [Numeral.digits_mul_pow hc, List.length_append, List.length_replicate]

theorem magnitude_places (hc : 0 < c) (width k : Nat) :
    (⟨c, (k : Int) - width⟩ : Decimal).magnitude = (digits (c * 10 ^ k)).length - 1 - width := by
  rw [length_digits_mul_pow hc, magnitude]
  push_cast
  ring

theorem trimZeros_padded (hten : ¬ 10 ∣ c) (hw : 0 < width) (h : c * 10 ^ k < 10 ^ width) :
    trimZeros (padded width (c * 10 ^ k)) =
      List.replicate (width - (digits (c * 10 ^ k)).length) '0' ++ digits c := by
  have hc := pos_of_not_ten_dvd hten
  have hlast : (List.replicate (width - (digits (c * 10 ^ k)).length) '0' ++ digits c).getLast? ≠
      some '0' := by
    rw [List.getLast?_append_of_ne_nil _ (Numeral.digits_ne_nil c)]
    exact Numeral.getLast?_digits_ne hten
  have hpadded : padded width (c * 10 ^ k) =
      List.replicate (width - (digits (c * 10 ^ k)).length) '0' ++ digits c ++
        List.replicate k '0' := by
    rw [Numeral.padded_eq_atLeast hw h, Numeral.atLeast, List.append_assoc,
      ← Numeral.digits_mul_pow hc]
  rw [hpadded, Numeral.trimZeros_append_replicate hlast]

theorem digits_eq_append (hten : ¬ 10 ∣ c) (hwhole : 0 < whole) (hf : fraction < 10 ^ width)
    (hpos : 0 < fraction) (h : whole * 10 ^ width + fraction = c * 10 ^ k) :
    digits c = digits whole ++ trimZeros (padded width fraction) := by
  have hc := pos_of_not_ten_dvd hten
  have hk := lt_width hf hpos h
  have hsplit : digits whole ++ padded width fraction = digits c ++ List.replicate k '0' := by
    rw [← Numeral.digits_append_padded hwhole hf, h, Numeral.digits_mul_pow hc]
  have hlength := Numeral.length_padded width fraction
  obtain ⟨rest, hdigits, hpadded⟩ | ⟨front, -, hzeros⟩ := List.append_eq_append_iff.1 hsplit
  · have hne : rest ≠ [] := by
      rintro rfl
      rw [hpadded, List.nil_append, List.length_replicate] at hlength
      omega
    have hlast : rest.getLast? ≠ some '0' := by
      rw [← List.getLast?_append_of_ne_nil (digits whole) hne, ← hdigits]
      exact Numeral.getLast?_digits_ne hten
    rw [hpadded, Numeral.trimZeros_append_replicate hlast, hdigits]
  · have hcount := congrArg List.length hzeros
    rw [List.length_replicate, List.length_append, hlength] at hcount
    omega

theorem positional_fraction (hten : ¬ 10 ∣ c) (hw : 0 < width) (h : c * 10 ^ k < 10 ^ width) :
    (⟨c, (k : Int) - width⟩ : Decimal).positional false =
      '0' :: '.' :: trimZeros (padded width (c * 10 ^ k)) := by
  have hc := pos_of_not_ten_dvd hten
  have hmag := magnitude_places hc width k
  have hle := Numeral.length_digits_le hw h
  have hlt : (⟨c, (k : Int) - width⟩ : Decimal).magnitude < 0 := by
    rw [hmag]
    omega
  have hzeros : (-(⟨c, (k : Int) - width⟩ : Decimal).magnitude - 1).toNat =
      width - (digits (c * 10 ^ k)).length := by
    rw [hmag]
    omega
  unfold positional
  dsimp only
  rw [if_pos hlt, zeros, hzeros, trimZeros_padded hten hw h]
  rfl

theorem positional_mixed (hten : ¬ 10 ∣ c) (hwhole : 0 < whole) (hf : fraction < 10 ^ width)
    (hpos : 0 < fraction) (h : whole * 10 ^ width + fraction = c * 10 ^ k) :
    (⟨c, (k : Int) - width⟩ : Decimal).positional false =
      digits whole ++ '.' :: trimZeros (padded width fraction) := by
  have hc := pos_of_not_ten_dvd hten
  have hk := lt_width hf hpos h
  have hsplit := digits_eq_append hten hwhole hf hpos h
  have hlen : (digits (c * 10 ^ k)).length = (digits whole).length + width := by
    rw [← h, Numeral.digits_append_padded hwhole hf, List.length_append, Numeral.length_padded]
  have hfirst := List.length_pos_iff.2 (Numeral.digits_ne_nil whole)
  have hmag := magnitude_places hc width k
  rw [hlen] at hmag
  have hge : ¬ (⟨c, (k : Int) - width⟩ : Decimal).magnitude < 0 := by
    rw [hmag]
    omega
  have htake :
      ((⟨c, (k : Int) - width⟩ : Decimal).magnitude + 1).toNat = (digits whole).length := by
    rw [hmag]
    omega
  unfold positional
  dsimp only
  rw [if_neg hge, if_neg (by omega), htake, hsplit, List.take_left', List.drop_left'] <;> rfl

theorem scientific_places (hten : ¬ 10 ∣ c) (h : (digits (c * 10 ^ k)).length ≤ width) :
    (⟨c, (k : Int) - width⟩ : Decimal).scientific =
      mantissa (trimZeros (digits (c * 10 ^ k))) ++
        'e' :: '-' :: Numeral.atLeast 2 (width + 1 - (digits (c * 10 ^ k)).length) := by
  have hc := pos_of_not_ten_dvd hten
  have hmag := magnitude_places hc width k
  have hfirst := List.length_pos_iff.2 (Numeral.digits_ne_nil (c * 10 ^ k))
  have htrim : trimZeros (digits (c * 10 ^ k)) = digits c := by
    rw [Numeral.digits_mul_pow hc,
      Numeral.trimZeros_append_replicate (Numeral.getLast?_digits_ne hten)]
  have habs : (⟨c, (k : Int) - width⟩ : Decimal).magnitude.natAbs =
      width + 1 - (digits (c * 10 ^ k)).length := by
    rw [hmag]
    omega
  rw [scientific_eq, if_pos (by rw [hmag]; omega), habs, htrim]

theorem ofText_mixed (hf : fraction < 10 ^ width) (whole : Nat) :
    ofText (digits whole ++ '.' :: trimZeros (padded width fraction)) =
      (whole * 10 ^ width + fraction : Nat) / 10 ^ width := by
  obtain ⟨hdigits, zeros, hlength, hplaces⟩ := Numeral.exists_zeros_of_trimZeros_padded hf
  generalize trimZeros (padded width fraction) = ds at hdigits hlength hplaces ⊢
  have hvalue :
      Numeral.value (digits whole ++ ds) * 10 ^ zeros = whole * 10 ^ width + fraction := by
    rw [Numeral.value_append, Numeral.value_digits, Nat.add_mul, Nat.mul_assoc, ← pow_add, hlength,
      hplaces]
  rw [ofText_places (isDigit_digits whole) hdigits, ← hvalue, ← hlength, pow_add]
  push_cast
  rw [mul_div_mul_right _ _ (by positivity)]

end Places

end EdgeRoutes.Decimal
