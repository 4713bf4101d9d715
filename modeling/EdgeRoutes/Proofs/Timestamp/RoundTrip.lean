import EdgeRoutes.Proofs.Number.Numeral
import EdgeRoutes.Proofs.Timestamp.Calendar
import EdgeRoutes.Timestamp.Reader

namespace EdgeRoutes.Timestamp

theorem le_of_mem_blankRanges :
    ∀ r ∈ Text.blankRanges, r.2 ≤ 0x20 ∨ 0x85 ≤ r.1 := by decide

theorem isBlank_of_range {c : Char} (h : 0x20 < c.toNat ∧ c.toNat < 0x85) :
    Text.isBlank c = false := by
  simp only [Text.isBlank, Text.CharRanges.contains, List.any_eq_false]
  intro r hr
  have := le_of_mem_blankRanges r hr
  simp only [Bool.and_eq_true, decide_eq_true_eq]
  omega

theorem dropBlank_cons {c : Char} (h : 0x20 < c.toNat ∧ c.toNat < 0x85) (cs : List Char) :
    Text.dropBlank (c :: cs) = c :: cs := by
  rw [Text.dropBlank, List.dropWhile_cons_of_neg]
  rw [isBlank_of_range h]
  decide

theorem dropBlank_digits {ds : List Char} (hne : ds ≠ []) (h : ∀ c ∈ ds, c.isDigit = true)
    (cs : List Char) : Text.dropBlank (ds ++ cs) = ds ++ cs := by
  obtain ⟨d, ds, rfl⟩ := List.exists_cons_of_ne_nil hne
  have hd := (Numeral.isDigit_iff d).1 (h d List.mem_cons_self)
  exact dropBlank_cons (by omega) _

theorem number_append {ds : List Char} (hne : ds ≠ []) (h : ∀ c ∈ ds, c.isDigit = true)
    (cs : List Char) : number ds.length (ds ++ cs) = .ok (Numeral.value ds, cs) := by
  have htake : (ds ++ cs).take ds.length = ds := by simp
  have hrun : ds.takeWhile Char.isDigit = ds := List.takeWhile_eq_self_iff.2 h
  have hempty : ds.isEmpty = false := List.isEmpty_eq_false_iff.2 hne
  simp [number, htake, hrun, hempty]

theorem mark_cons {c : Char} (h : 0x20 < c.toNat ∧ c.toNat < 0x85) (cs : List Char) :
    mark c (c :: cs) = .ok cs := by
  rw [mark, dropBlank_cons h]
  simp

theorem twoDigits_padded {least most n : Nat} (hleast : least ≤ n) (hmost : n ≤ most) (h : n < 100)
    (cs : List Char) : twoDigits least most (Numeral.padded 2 n ++ cs) = .ok (n, cs) := by
  have hlength := Numeral.length_padded 2 n
  have hne : Numeral.padded 2 n ≠ [] := List.ne_nil_of_length_pos (by omega)
  have hdigits : ∀ c ∈ Numeral.padded 2 n, c.isDigit = true := fun _ =>
    Numeral.isDigit_of_mem_padded
  have hnumber := number_append hne hdigits cs
  rw [hlength, Numeral.value_padded, Nat.mod_eq_of_lt (by omega)] at hnumber
  rw [twoDigits, dropBlank_digits hne hdigits, hnumber]
  exact if_pos ⟨hleast, hmost⟩

theorem year_atLeast {n : Nat} (h : n < 10000) (cs : List Char) :
    year (Numeral.atLeast 4 n ++ cs) = .ok ((n : Int), cs) := by
  have hlength : (Numeral.atLeast 4 n).length = 4 := Numeral.length_atLeast (by decide) h
  have hne : Numeral.atLeast 4 n ≠ [] := List.ne_nil_of_length_pos (by omega)
  have hdigits : ∀ c ∈ Numeral.atLeast 4 n, c.isDigit = true := fun _ =>
    Numeral.isDigit_of_mem_atLeast
  have hnumber := number_append hne hdigits cs
  rw [hlength, Numeral.value_atLeast] at hnumber
  rw [year, dropBlank_digits hne hdigits]
  obtain ⟨d, ds, hd⟩ := List.exists_cons_of_ne_nil hne
  have hdigit := hdigits d (hd ▸ List.mem_cons_self)
  rw [hd] at hnumber ⊢
  split
  · next heq =>
    cases heq
    cases hdigit
  · next heq =>
    cases heq
    cases hdigit
  · simp only [hnumber, bind, Except.bind, pure, Except.pure]
    exact if_pos (by omega)

theorem date_append {d : Date} (hyear : 0 ≤ d.year ∧ d.year ≤ 9999)
    (hmonth : 1 ≤ d.month ∧ d.month ≤ 12) (hday : 1 ≤ d.day ∧ d.day ≤ 31) (cs : List Char) :
    date (yearText d.year ++
      '-' :: (Numeral.padded 2 d.month ++ '-' :: (Numeral.padded 2 d.day ++ cs))) =
      .ok (d, cs) := by
  obtain ⟨n, hn⟩ := Int.eq_ofNat_of_zero_le hyear.1
  have htext : yearText d.year = Numeral.atLeast 4 n := by
    rw [yearText, if_neg (by omega), if_neg (by omega), hn, Int.natAbs_natCast, List.nil_append]
  rw [date, htext, year_atLeast (by omega)]
  simp only [bind, Except.bind, mark_cons (by decide : 0x20 < '-'.toNat ∧ '-'.toNat < 0x85),
    twoDigits_padded hmonth.1 hmonth.2 (by omega), twoDigits_padded hday.1 hday.2 (by omega), ← hn]

theorem timeOfDay_append {second : Nat} (h : second < 86400) {c : Char} (hc : c ≠ '.')
    (cs : List Char) :
    timeOfDay (Numeral.padded 2 (second / 3600) ++ ':' :: (Numeral.padded 2 (second / 60 % 60) ++
      ':' :: (Numeral.padded 2 (second % 60) ++ c :: cs))) = .ok ((second, 0), c :: cs) := by
  have hfraction : fraction (c :: cs) = .ok (0, c :: cs) := by
    unfold fraction
    split
    · next heq => exact absurd (List.cons.inj heq).1 hc
    · rfl
  have hcolon : 0x20 < ':'.toNat ∧ ':'.toNat < 0x85 := by decide
  have hleap : ¬ second % 60 = 60 := by omega
  have hsum : 3600 * (second / 3600) + 60 * (second / 60 % 60) + second % 60 = second := by omega
  rw [timeOfDay]
  simp only [bind, Except.bind, mark_cons hcolon,
    twoDigits_padded (Nat.zero_le _) (show second / 3600 ≤ 23 by omega) (by omega),
    twoDigits_padded (Nat.zero_le _) (show second / 60 % 60 ≤ 59 by omega) (by omega),
    twoDigits_padded (Nat.zero_le _) (show second % 60 ≤ 60 by omega) (by omega), hfraction,
    if_neg hleap, hsum]

/-- A point in time on a whole second of the years 0 to 9999. -/
structure IsPlain (t : Timestamp) : Prop where
  nanos_eq : t.nanos = 0
  year_range : 0 ≤ (Date.ofDays t.day).year ∧ (Date.ofDays t.day).year ≤ 9999

instance (t : Timestamp) : Decidable t.IsPlain :=
  decidable_of_iff (t.nanos = 0 ∧ 0 ≤ (Date.ofDays t.day).year ∧ (Date.ofDays t.day).year ≤ 9999)
    ⟨fun h => ⟨h.1, h.2⟩, fun h => ⟨h.nanos_eq, h.year_range⟩⟩

theorem ofParts_ofDays {t : Timestamp} (h : t.IsPlain) :
    ofParts (Date.ofDays t.day) t.second 0 0 = .ok t := by
  obtain ⟨day, second, nanos, hsecond, hnanos⟩ := t
  obtain ⟨hzero, hyear⟩ := h
  dsimp only at hzero hyear ⊢
  subst hzero
  have hhas : hasYear (Date.ofDays day) = true := by
    simp only [hasYear, Bool.and_eq_true, decide_eq_true_eq]
    omega
  have hdays := (Date.ofDays_range day).2.2
  have hvalid : (!hasYear (Date.ofDays day) || decide (Date.daysInMonth (Date.ofDays day).year
      (Date.ofDays day).month < (Date.ofDays day).day)) = false := by
    rw [hhas, decide_eq_false (Nat.not_lt.2 hdays)]
    rfl
  have hquot : (day * 86400 + (second : Int) - 0 * 60) / 86400 = day := by omega
  have hrest : ((day * 86400 + (second : Int) - 0 * 60) % 86400).toNat = second := by omega
  unfold ofParts
  rw [hvalid, if_neg (by decide), if_neg (by decide)]
  simp only [Date.toDays_ofDays, hquot, hrest, hhas, Bool.not_true, Bool.false_eq_true, if_false]
  exact dif_pos (by decide)

theorem ofText_text {t : Timestamp} (h : t.IsPlain) : ofText t.text = .ok t := by
  obtain ⟨hmonth, hday, -⟩ := Date.ofDays_range t.day
  have hsecond : t.second % 60 + t.nanos / 1000000000 = t.second % 60 := by
    rw [h.nanos_eq]
    rfl
  have hz : 0x20 < 'Z'.toNat ∧ 'Z'.toNat < 0x85 := by decide
  have hzone : zone ['Z'] = .ok (0, []) := by
    rw [zone, dropBlank_cons hz]
    rfl
  have hdate := date_append h.year_range hmonth hday
  have htime := timeOfDay_append t.second_lt (show 'Z' ≠ '.' by decide) []
  simp only [ofText, text, hsecond, String.toList_ofList, List.append_assoc, List.cons_append,
    hdate, bind, Except.bind, htime, hzone]
  exact ofParts_ofDays h

end EdgeRoutes.Timestamp
