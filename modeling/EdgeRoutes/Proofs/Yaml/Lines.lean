import EdgeRoutes.Yaml.Printer
import EdgeRoutes.Proofs.Number.Numeral
import Mathlib

namespace EdgeRoutes.Yaml

def NoBreak (cs : List Char) : Prop := ∀ c ∈ cs, isBreak c = false

theorem noBreak_nil : NoBreak [] := nofun

theorem noBreak_cons {c : Char} {cs : List Char} :
    NoBreak (c :: cs) ↔ isBreak c = false ∧ NoBreak cs :=
  List.forall_mem_cons

theorem noBreak_append {cs ds : List Char} : NoBreak (cs ++ ds) ↔ NoBreak cs ∧ NoBreak ds :=
  List.forall_mem_append

theorem noBreak_singleton {c : Char} (h : isBreak c = false) : NoBreak [c] :=
  noBreak_cons.2 ⟨h, noBreak_nil⟩

theorem noBreak_replicate {c : Char} (h : isBreak c = false) (n : Nat) :
    NoBreak (List.replicate n c) := by
  intro d hd
  rwa [List.eq_of_mem_replicate hd]

theorem NoBreak.drop {cs : List Char} (h : NoBreak cs) (n : Nat) : NoBreak (cs.drop n) :=
  fun c hc => h c (List.mem_of_mem_drop hc)

/-- How far the last line of a text has come. -/
inductive LineState where
  /-- The line consists of so many hyphens. -/
  | hyphens (n : Nat)
  | inside
  /-- Some line of the text starts with three hyphens. -/
  | marked

namespace LineState

def start : LineState := hyphens 0

def next : LineState → Char → LineState
  | hyphens n, c =>
    if isBreak c then start
    else if c = '-' then (if n < 2 then hyphens (n + 1) else marked)
    else inside
  | inside, c => if isBreak c then start else inside
  | marked, _ => marked

def scan (s : LineState) (cs : List Char) : LineState := cs.foldl next s

variable {s : LineState} {cs ds : List Char} {c : Char}

theorem scan_append (s : LineState) (cs ds : List Char) : s.scan (cs ++ ds) = (s.scan cs).scan ds :=
  List.foldl_append

theorem scan_marked (cs : List Char) : marked.scan cs = marked := by
  induction cs with
  | nil => rfl
  | cons c cs ih => exact ih

theorem scan_left_ne_marked (cs ds : List Char) (h : s.scan (cs ++ ds) ≠ marked) :
    s.scan cs ≠ marked := by
  intro hcs
  rw [scan_append, hcs, scan_marked] at h
  exact h rfl

theorem next_of_isBreak (hs : s ≠ marked) (hc : isBreak c = true) : s.next c = start := by
  cases s with
  | hyphens n => exact if_pos hc
  | inside => exact if_pos hc
  | marked => contradiction

theorem next_of_ne (hs : s ≠ marked) (hc : isBreak c = false) (hne : c ≠ '-') :
    s.next c = inside := by
  cases s with
  | hyphens n => simp [next, hc, hne]
  | inside => simp [next, hc]
  | marked => contradiction

theorem scan_inside (h : NoBreak cs) : inside.scan cs = inside := by
  induction cs with
  | nil => rfl
  | cons c cs ih =>
    obtain ⟨hc, hcs⟩ := noBreak_cons.1 h
    change (inside.next c).scan cs = inside
    rw [next, hc]
    exact ih hcs

/-- Only the hyphens that are missing can complete a mark in a line. -/
theorem scan_hyphens_ne_marked {n : Nat} (hn : n ≤ 2) (h : NoBreak cs)
    (hm : ¬ List.replicate (3 - n) '-' <+: cs) : (hyphens n).scan cs ≠ marked := by
  induction cs generalizing n with
  | nil => nofun
  | cons c cs ih =>
    obtain ⟨hc, hcs⟩ := noBreak_cons.1 h
    change ((hyphens n).next c).scan cs ≠ marked
    by_cases hyphen : c = '-'
    · subst hyphen
      have hlt : n < 2 := by
        by_contra hnot
        have : n = 2 := by omega
        subst this
        exact hm ⟨cs, rfl⟩
      have hnext : (hyphens n).next '-' = hyphens (n + 1) := by simp [next, hc, hlt]
      rw [hnext]
      refine ih (by omega) hcs fun hprefix => hm ?_
      rw [show 3 - n = 3 - (n + 1) + 1 by omega, List.replicate_succ]
      exact (List.prefix_cons_inj '-').2 hprefix
    · have hnext : (hyphens n).next c = inside := next_of_ne (by simp) hc hyphen
      rw [hnext, scan_inside hcs]
      nofun

/-- The line has not begun, or whatever comes next does not count as its start. -/
def IsOpen (s : LineState) : Prop := s = start ∨ s = inside

theorem isOpen_start : start.IsOpen := .inl rfl

theorem isOpen_inside : inside.IsOpen := .inr rfl

theorem IsOpen.ne_marked (h : s.IsOpen) : s ≠ marked := by
  obtain rfl | rfl := h <;> nofun

theorem IsOpen.scan_eq (hs : s.IsOpen) (hstart : start.scan cs = start)
    (hinside : inside.scan cs = start) : s.scan cs = start := by
  obtain rfl | rfl := hs
  · exact hstart
  · exact hinside

theorem IsOpen.scan_ne_marked (hs : s.IsOpen) (h : NoBreak cs)
    (hm : ¬ ['-', '-', '-'] <+: cs) : s.scan cs ≠ marked := by
  obtain rfl | rfl := hs
  · exact scan_hyphens_ne_marked (Nat.zero_le _) h hm
  · rw [scan_inside h]
    nofun

theorem IsOpen.scan_line (hs : s.IsOpen) (h : NoBreak cs) (hm : ¬ ['-', '-', '-'] <+: cs) :
    s.scan (cs ++ ['\n']) = start := by
  rw [scan_append]
  exact next_of_isBreak (hs.scan_ne_marked h hm) rfl

theorem IsOpen.next_of_ne (hs : s.IsOpen) (hc : isBreak c = false) (hne : c ≠ '-') :
    s.next c = inside :=
  LineState.next_of_ne hs.ne_marked hc hne

theorem scan_spaces_of_pos {n : Nat} (hn : 0 < n) : start.scan (spaces n) = inside := by
  obtain ⟨n, rfl⟩ := Nat.exists_eq_succ_of_ne_zero hn.ne'
  exact scan_inside (noBreak_replicate rfl n)

theorem scan_spaces_isOpen (n : Nat) : (start.scan (spaces n)).IsOpen := by
  obtain rfl | hn := Nat.eq_zero_or_pos n
  · exact .inl rfl
  · exact .inr (scan_spaces_of_pos hn)

end LineState

open LineState

variable {s : LineState} {cs : List Char} {indent : Nat}

def LineState.resumed : Bool → LineState
  | true => start
  | false => inside

theorem scan_indent (hi : 0 < indent) (afterBreak : Bool) :
    (resumed afterBreak).scan (if afterBreak then spaces indent else []) = inside := by
  cases afterBreak with
  | true => exact scan_spaces_of_pos hi
  | false => rfl

theorem next_resumed {c : Char} (hc : isBreak c = true) (afterBreak : Bool) :
    (resumed afterBreak).next c = start := by
  cases afterBreak <;> exact if_pos hc

theorem scan_singleQuoted (hi : 0 < indent) (afterBreak : Bool) (cs : List Char) :
    (resumed afterBreak).scan (singleQuoted indent afterBreak cs) = inside := by
  induction cs generalizing afterBreak with
  | nil =>
    rw [singleQuoted, scan_append, scan_indent hi]
    rfl
  | cons c cs ih =>
    rw [singleQuoted]
    by_cases hc : isBreak c = true
    · rw [if_pos hc]
      change ((resumed afterBreak).next c).scan _ = inside
      rw [next_resumed hc]
      exact ih true
    · have hquoted : inside.scan (if c = '\'' then ['\'', '\''] else [c]) = inside := by
        split
        · rfl
        · exact scan_inside (noBreak_singleton (by simpa using hc))
      rw [if_neg hc, scan_append, scan_append, scan_indent hi, hquoted]
      exact ih false

theorem scan_literalLines (hi : 0 < indent) (afterBreak : Bool) (cs : List Char) :
    (resumed afterBreak).scan (literalLines indent afterBreak cs) = start := by
  induction cs generalizing afterBreak with
  | nil => cases afterBreak <;> rfl
  | cons c cs ih =>
    rw [literalLines]
    by_cases hc : isBreak c = true
    · rw [if_pos hc]
      change ((resumed afterBreak).next c).scan _ = start
      rw [next_resumed hc]
      exact ih true
    · have hnext : inside.next c = inside := if_neg hc
      rw [if_neg hc, scan_append, scan_indent hi]
      change (inside.next c).scan _ = start
      rw [hnext]
      exact ih false

theorem not_isBreak_digitChar {n : Nat} (h : n < 16) :
    isBreak (Nat.digitChar n).toUpper = false := by
  interval_cases n <;> decide

theorem noBreak_hexDigits (width n : Nat) : NoBreak (hexDigits width n) := by
  induction width generalizing n with
  | zero => exact noBreak_nil
  | succ width ih =>
    exact noBreak_append.2
      ⟨ih (n / 16), noBreak_singleton (not_isBreak_digitChar (Nat.mod_lt n (by decide)))⟩

theorem not_isBreak_of_isPrintable {c : Char} (hline : c ≠ '\n') (hseparator : c ≠ '\u2028')
    (hparagraph : c ≠ '\u2029') (h : isPrintable c = true) : isBreak c = false := by
  have hreturn : c ≠ '\r' := by
    rintro rfl
    exact absurd h (by decide)
  have hnext : c ≠ '\x85' := by
    rintro rfl
    exact absurd h (by decide)
  simp [isBreak, hline, hreturn, hnext, hseparator, hparagraph]

theorem noBreak_escaped (c : Char) : NoBreak (escaped c) := by
  have hhex (mark : Char) (width : Nat) (hmark : isBreak mark = false) :
      NoBreak ('\\' :: mark :: hexDigits width c.toNat) :=
    noBreak_cons.2 ⟨rfl, noBreak_cons.2 ⟨hmark, noBreak_hexDigits _ _⟩⟩
  unfold escaped
  split
  case h_15 =>
    split
    · next hprintable =>
      exact noBreak_singleton
        (not_isBreak_of_isPrintable (by assumption) (by assumption) (by assumption) hprintable)
    · split
      · exact hhex 'x' 2 rfl
      · split
        · exact hhex 'u' 4 rfl
        · exact hhex 'U' 8 rfl
  all_goals exact noBreak_cons.2 ⟨rfl, noBreak_singleton rfl⟩

theorem noBreak_of_fitsPlain (h : fitsPlain cs = true) : NoBreak cs := by
  simp only [fitsPlain, Bool.and_eq_true, List.all_eq_true] at h
  intro c hc
  simpa using (h.1.1.1.1 c hc).2

theorem not_marker_of_fitsPlain (h : fitsPlain cs = true) : ¬ ['-', '-', '-'] <+: cs := by
  intro hprefix
  have hopens : opensMarked cs = true := by
    unfold opensMarked
    rw [List.isPrefixOf_iff_prefix.2 hprefix]
    rfl
  simp [fitsPlain, hopens] at h

theorem fitsPlain_of_plain {t : String} (h : Style.ofText t = .plain) :
    fitsPlain t.toList = true := by
  unfold Style.ofText at h
  dsimp only at h
  split at h
  · split at h <;> cases h
  · split at h
    · next hfits =>
      simp only [Bool.and_eq_true] at hfits
      exact hfits.2
    · split at h <;> cases h

theorem noBreak_indentHint (cs : List Char) : NoBreak (indentHint cs) := by
  unfold indentHint
  split
  · exact noBreak_singleton rfl
  · exact noBreak_nil

theorem noBreak_chompHint (cs : List Char) : NoBreak (chompHint cs) := by
  unfold chompHint
  split
  · split
    · exact noBreak_singleton rfl
    · split
      · exact noBreak_singleton rfl
      · exact noBreak_nil
  · exact noBreak_singleton rfl

/-- A scalar in any style goes on to the end of a line. -/
theorem scan_scalarLine (hs : s.IsOpen) (hi : 0 < indent) (t : String) :
    s.scan (scalarLine indent t) = start := by
  have hopen : ∀ {c : Char} (cs : List Char), isBreak c = false → c ≠ '-' →
      s.scan (c :: cs) = inside.scan cs := by
    intro c cs hc hne
    change (s.next c).scan cs = _
    rw [hs.next_of_ne hc hne]
  rw [scalarLine]
  split
  · next hstyle =>
    have hfits := fitsPlain_of_plain hstyle
    exact hs.scan_line (noBreak_of_fitsPlain hfits) (not_marker_of_fitsPlain hfits)
  · rw [List.cons_append, hopen _ rfl (by decide), scan_append]
    have hquoted := scan_singleQuoted hi false t.toList
    change (inside.scan _).scan _ = start
    rw [resumed] at hquoted
    rw [hquoted]
    rfl
  · have hlines := scan_literalLines hi true t.toList
    rw [List.cons_append, List.cons_append, hopen _ rfl (by decide), scan_append,
      scan_inside (noBreak_append.2 ⟨noBreak_indentHint _, noBreak_chompHint _⟩)]
    exact hlines
  · have hescaped : NoBreak (t.toList.flatMap escaped) := by
      intro c hc
      obtain ⟨d, -, hd⟩ := List.mem_flatMap.1 hc
      exact noBreak_escaped d c hd
    rw [List.cons_append, hopen _ rfl (by decide), scan_append, scan_inside hescaped]
    rfl

theorem not_isBreak_of_isDigit {c : Char} (h : c.isDigit = true) : isBreak c = false := by
  have := (Numeral.isDigit_iff c).1 h
  have hne : ∀ d : Char, ¬ (48 ≤ d.toNat ∧ d.toNat ≤ 57) → c ≠ d := by
    rintro d hd rfl
    exact hd this
  simp [isBreak, hne '\n' (by decide), hne '\r' (by decide), hne '\x85' (by decide),
    hne '\u2028' (by decide), hne '\u2029' (by decide)]

theorem noBreak_digits (n : Nat) : NoBreak (Numeral.digits n) :=
  fun _ hc => not_isBreak_of_isDigit (Numeral.isDigit_of_mem_digits hc)

/-- A text that can stand for a number, behind a sign or not. -/
structure FitsNumber (cs : List Char) : Prop where
  noBreak : NoBreak cs
  head_ne : ∀ c, cs.head? = some c → c ≠ '-'

theorem fitsNumber_append (ds : List Char) (hne : ds ≠ []) (hdigits : ∀ c ∈ ds, c.isDigit = true)
    (h : NoBreak cs) : FitsNumber (ds ++ cs) := by
  refine ⟨noBreak_append.2 ⟨fun c hc => not_isBreak_of_isDigit (hdigits c hc), h⟩, fun c hc => ?_⟩
  obtain ⟨d, ds, rfl⟩ := List.exists_cons_of_ne_nil hne
  cases hc
  rintro rfl
  cases hdigits '-' List.mem_cons_self

theorem fitsNumber_digits (n : Nat) : FitsNumber (Numeral.digits n) := by
  have h := fitsNumber_append _ (Numeral.digits_ne_nil n) (fun _ => Numeral.isDigit_of_mem_digits)
    noBreak_nil
  rwa [List.append_nil] at h

theorem fitsNumber_take {n k : Nat} (hk : 0 < k) (h : NoBreak cs) :
    FitsNumber ((Numeral.digits n).take k ++ cs) := by
  refine fitsNumber_append _ ?_
    (fun c hc => Numeral.isDigit_of_mem_digits (List.mem_of_mem_take hc)) h
  rw [Ne, List.take_eq_nil_iff, not_or]
  exact ⟨hk.ne', Numeral.digits_ne_nil n⟩

theorem noBreak_zeros (n : Int) : NoBreak (Decimal.zeros n) := noBreak_replicate rfl _

theorem fitsNumber_positional (marksWhole : Bool) (d : Decimal) :
    FitsNumber (d.positional marksWhole) := by
  unfold Decimal.positional
  dsimp only
  split
  · exact fitsNumber_append ['0'] (by simp) (by simp)
      (noBreak_cons.2 ⟨rfl, noBreak_append.2 ⟨noBreak_zeros _, noBreak_digits _⟩⟩)
  · split
    · rw [List.append_assoc]
      refine fitsNumber_append _ (Numeral.digits_ne_nil _) (fun _ => Numeral.isDigit_of_mem_digits)
        (noBreak_append.2 ⟨noBreak_zeros _, ?_⟩)
      split
      · exact noBreak_cons.2 ⟨rfl, noBreak_singleton rfl⟩
      · exact noBreak_nil
    · exact fitsNumber_take (by omega) (noBreak_cons.2 ⟨rfl, (noBreak_digits _).drop _⟩)

theorem fitsNumber_scientific (d : Decimal) : FitsNumber d.scientific := by
  unfold Decimal.scientific
  dsimp only
  rw [List.append_assoc]
  refine fitsNumber_take (by decide)
    (noBreak_append.2 ⟨?_, noBreak_cons.2 ⟨rfl, noBreak_cons.2 ⟨?_, ?_⟩⟩⟩)
  · split
    · exact noBreak_nil
    · exact noBreak_cons.2 ⟨rfl, (noBreak_digits _).drop _⟩
  · split <;> rfl
  · exact fun _ hc => not_isBreak_of_isDigit (Numeral.isDigit_of_mem_atLeast hc)

theorem fitsNumber_magnitude (l : Layout) (units : Nat) : FitsNumber (l.magnitude units) := by
  rw [Layout.magnitude, Layout.write]
  split
  · exact fitsNumber_positional _ _
  · exact fitsNumber_scientific _

theorem scan_number (hs : s.IsOpen) (negative : Bool) (h : FitsNumber cs) :
    s.scan ((if negative then ['-'] else []) ++ cs ++ ['\n']) = start := by
  refine hs.scan_line (noBreak_append.2 ⟨?_, h.noBreak⟩) fun ⟨rest, hrest⟩ => ?_
  · cases negative with
    | true => exact noBreak_singleton rfl
    | false => exact noBreak_nil
  · have hhead : cs.head? = some '-' := by
      cases negative with
      | true => exact congrArg List.head? (List.cons.inj hrest).2.symm
      | false => exact congrArg List.head? hrest.symm
    exact h.head_ne _ hhead rfl

end EdgeRoutes.Yaml
