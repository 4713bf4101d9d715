import EdgeRoutes.Json.Printer
import EdgeRoutes.Json.Reader
import EdgeRoutes.Proofs.Number.Numeral
import EdgeRoutes.Text.Segments

/-!
The text of a JSON value determines the value, if there are no binary64 numbers in it. A text tells
by its first character what kind of value it is, and where it ends.
-/

namespace EdgeRoutes.Json

open Numeral (digits)

/-- A value without binary64 numbers. -/
inductive Exact : Json → Prop where
  | null : Exact .null
  | bool (b : Bool) : Exact (.bool b)
  | int (n : Int) : Exact (.int n)
  | text (s : String) : Exact (.text s)
  | array {items : List Json} (h : ∀ j ∈ items, Exact j) : Exact (.array items)
  | object {fields : List (String × Json)} (h : ∀ e ∈ fields, Exact e.2) : Exact (.object fields)

/-! Texts in quotes -/

theorem codePoint?_control {c : Char} (h : c.toNat < 32) (cs : List Char) :
    codePoint? ('0' :: '0' :: Nat.digitChar (c.toNat / 16) :: Nat.digitChar (c.toNat % 16) :: cs) =
      some (c, cs) := by
  have hvalue : ∀ n < 32, Numeral.valueIn? 16
      ['0', '0', Nat.digitChar (n / 16), Nat.digitChar (n % 16)] = some n := by decide +kernel
  have hhigh : ¬ (0xd800 ≤ c.toNat ∧ c.toNat < 0xdc00) := by omega
  have hlow : ¬ (0xdc00 ≤ c.toNat ∧ c.toNat < 0xe000) := by omega
  simp only [codePoint?, codeUnit?, hvalue c.toNat h, Option.map_some, Option.bind_eq_bind,
    Option.bind_some, if_neg hhigh, if_neg hlow, Char.ofNat_toNat]

/-- What is read of a text in quotes is the text, and what comes after the closing quote. -/
theorem textTail?_escape (s rest : List Char) {fuel : Nat} (hfuel : s.length < fuel)
    (done : List Char) :
    textTail? fuel done (s.flatMap escapeChar ++ '"' :: rest) =
      some (String.ofList (done.reverse ++ s), rest) := by
  induction s generalizing fuel done with
  | nil =>
    obtain ⟨fuel, rfl⟩ := Nat.exists_eq_add_one_of_ne_zero (by omega : fuel ≠ 0)
    rw [List.append_nil]
    rfl
  | cons c s ih =>
    obtain ⟨fuel, rfl⟩ := Nat.exists_eq_add_one_of_ne_zero (by omega : fuel ≠ 0)
    have hnext : textTail? fuel (c :: done) (s.flatMap escapeChar ++ '"' :: rest) =
        some (String.ofList (done.reverse ++ c :: s), rest) := by
      rw [ih (by simpa using hfuel), List.reverse_cons, List.append_assoc, List.singleton_append]
    rw [List.flatMap_cons, List.append_assoc]
    generalize s.flatMap escapeChar ++ '"' :: rest = cs at hnext ⊢
    unfold escapeChar
    split
    -- five characters have an escape of their own, a control character has its code,
    -- and any other stands for itself
    · exact hnext
    · exact hnext
    · exact hnext
    · exact hnext
    · exact hnext
    · next hquote hslash _ _ _ =>
      split
      · next hcontrol =>
        simp only [List.cons_append, List.nil_append, textTail?, codePoint?_control hcontrol,
          Option.bind_eq_bind, Option.bind_some, hnext]
      · next hplain =>
        rw [List.singleton_append, textTail?, if_neg hplain, hnext]
        all_goals simp_all

theorem toList_quote (s : String) :
    (quote s).toList = '"' :: s.toList.flatMap escapeChar ++ ['"'] := by
  rw [quote, String.toList_ofList]

theorem quote_append_inj {s t : String} {cs ds : List Char}
    (h : (quote s).toList ++ cs = (quote t).toList ++ ds) : s = t ∧ cs = ds := by
  have hbody :
      s.toList.flatMap escapeChar ++ '"' :: cs = t.toList.flatMap escapeChar ++ '"' :: ds := by
    simpa [toList_quote] using h
  have hfuel : s.toList.length < s.toList.length + t.toList.length + 1 := by omega
  have hfuel' : t.toList.length < s.toList.length + t.toList.length + 1 := by omega
  have hread := textTail?_escape s.toList cs hfuel []
  have hread' := textTail?_escape t.toList ds hfuel' []
  rw [hbody, hread'] at hread
  obtain ⟨htext, hrest⟩ := Prod.mk.inj (Option.some.inj hread)
  rw [List.reverse_nil, List.nil_append, List.nil_append, String.ofList_toList,
    String.ofList_toList] at htext
  exact ⟨htext.symm, hrest.symm⟩

/-! Numbers -/

def EndsNumber (cs : List Char) : Prop := ∀ c, cs.head? = some c → c.isDigit = false

theorem EndsNumber.cons {c : Char} (h : c.isDigit = false) (cs : List Char) :
    EndsNumber (c :: cs) := by
  rintro d ⟨⟩
  exact h

theorem digits_append_inj {m n : Nat} {cs ds : List Char} (hcs : EndsNumber cs)
    (hds : EndsNumber ds) (h : digits m ++ cs = digits n ++ ds) : m = n ∧ cs = ds := by
  have hrun : ∀ k, ∀ c ∈ digits k, c.isDigit = true := fun _ _ => Numeral.isDigit_of_mem_digits
  have htake := congrArg (List.takeWhile Char.isDigit) h
  rw [Numeral.takeWhile_append_of_ends (hrun m) hcs,
    Numeral.takeWhile_append_of_ends (hrun n) hds] at htake
  refine ⟨?_, ?_⟩
  · rw [← Numeral.value_digits m, htake, Numeral.value_digits]
  · rw [htake] at h
    exact List.append_cancel_left h

theorem signed_append_inj {m n : Int} {cs ds : List Char} (hcs : EndsNumber cs)
    (hds : EndsNumber ds)
    (h : (Numeral.signed m).toList ++ cs = (Numeral.signed n).toList ++ ds) : m = n ∧ cs = ds := by
  rw [Numeral.toList_signed, Numeral.toList_signed, List.append_assoc, List.append_assoc,
    Numeral.signed_inj (Numeral.beginsWithDigit_digits_append _ _)
      (Numeral.beginsWithDigit_digits_append _ _)] at h
  obtain ⟨hsign, hdigits⟩ := h
  obtain ⟨habs, hrest⟩ := digits_append_inj hcs hds hdigits
  rw [decide_eq_decide] at hsign
  exact ⟨by omega, hrest⟩

/-! Lists of parts -/

/-- The text of `a` is told from what comes behind it, if that is no digit. -/
def Prefixes {α : Type} (p : α → Prop) (text : α → List Char) (a : α) : Prop :=
  ∀ b cs ds, p b → EndsNumber cs → EndsNumber ds → text a ++ cs = text b ++ ds → a = b ∧ cs = ds

section Parts

variable {α : Type} {p : α → Prop} {text : α → List Char} {as bs : List α} {close : Char}
  {cs ds : List Char}

theorem endsNumber_parts (hclose : close.isDigit = false) (as : List α) (cs : List Char) :
    EndsNumber ((as.map text).flatMap (',' :: ·) ++ close :: cs) := by
  cases as with
  | nil => exact .cons hclose _
  | cons a as => exact .cons rfl _

theorem parts_append_inj (has : ∀ a ∈ as, Prefixes p text a) (hbs : ∀ b ∈ bs, p b)
    (hclose : close.isDigit = false) (hcomma : close ≠ ',')
    (h : (as.map text).flatMap (',' :: ·) ++ close :: cs =
      (bs.map text).flatMap (',' :: ·) ++ close :: ds) :
    as = bs ∧ cs = ds := by
  induction as generalizing bs with
  | nil =>
    cases bs with
    | nil => exact ⟨rfl, List.tail_eq_of_cons_eq h⟩
    | cons b bs => exact absurd (List.head_eq_of_cons_eq h) hcomma
  | cons a as ih =>
    cases bs with
    | nil => exact absurd (List.head_eq_of_cons_eq h).symm hcomma
    | cons b bs =>
      obtain ⟨ha, has'⟩ := List.forall_mem_cons.1 has
      obtain ⟨hb, hbs'⟩ := List.forall_mem_cons.1 hbs
      simp only [List.map_cons, List.flatMap_cons, List.cons_append, List.append_assoc,
        List.cons.injEq, true_and] at h
      obtain ⟨rfl, hrest⟩ :=
        ha b _ _ hb (endsNumber_parts hclose as cs) (endsNumber_parts hclose bs ds) h
      obtain ⟨rfl, htail⟩ := ih has' hbs' hrest
      exact ⟨rfl, htail⟩

theorem joined_append_inj (has : ∀ a ∈ as, Prefixes p text a) (ha : ∀ a ∈ as, p a)
    (hbs : ∀ b ∈ bs, p b) (hclose : close.isDigit = false) (hcomma : close ≠ ',')
    (hhead : ∀ a, p a → ∀ rest cs, text a ++ rest ≠ close :: cs)
    (h : [','].intercalate (as.map text) ++ close :: cs =
      [','].intercalate (bs.map text) ++ close :: ds) :
    as = bs ∧ cs = ds := by
  cases as with
  | nil =>
    cases bs with
    | nil => exact ⟨rfl, List.tail_eq_of_cons_eq h⟩
    | cons b bs =>
      rw [List.map_cons, Text.intercalate_singleton_cons, List.append_assoc] at h
      exact absurd h.symm (hhead b (hbs b List.mem_cons_self) _ _)
  | cons a as =>
    cases bs with
    | nil =>
      rw [List.map_cons, Text.intercalate_singleton_cons, List.append_assoc] at h
      exact absurd h (hhead a (ha a List.mem_cons_self) _ _)
    | cons b bs =>
      apply parts_append_inj has hbs hclose hcomma
      rw [List.map_cons, List.map_cons, Text.intercalate_singleton_cons,
        Text.intercalate_singleton_cons] at h
      exact congrArg (',' :: ·) h

end Parts

/-! Values -/

/-- What kind of value a text is of, by its first character. -/
inductive Kind where
  | null
  | bool
  | number
  | text
  | array
  | object

def Kind.ofChar? (c : Char) : Option Kind :=
  if c = '-' ∨ c.isDigit then some .number
  else match c with
    | 'n' => some .null
    | 't' | 'f' => some .bool
    | '"' => some .text
    | '[' => some .array
    | '\x7b' => some .object
    | _ => none

def kind : Json → Kind
  | .null => .null
  | .bool _ => .bool
  | .int _ | .float _ => .number
  | .text _ => .text
  | .array _ => .array
  | .object _ => .object

theorem compactItems_eq (js : List Json) : compactItems js = js.map compact := by
  induction js with
  | nil => rfl
  | cons j js ih => rw [compactItems, ih, List.map_cons]

def fieldText (e : String × Json) : List Char := (quote e.1).toList ++ ':' :: (compact e.2).toList

theorem toList_compactFields (fields : List (String × Json)) :
    (compactFields fields).map String.toList = fields.map fieldText := by
  induction fields with
  | nil => rfl
  | cons e fields ih =>
    have hfield : (quote e.1 ++ ":" ++ compact e.2).toList = fieldText e := by
      simp [fieldText, String.toList_append]
    rw [compactFields, List.map_cons, List.map_cons, ih, hfield]

theorem toList_compact_array (items : List Json) :
    (compact (.array items)).toList =
      '[' :: [','].intercalate (items.map fun j => (compact j).toList) ++ [']'] := by
  have hcomma : ",".toList = [','] := rfl
  rw [compact, String.toList_append, String.toList_append, String.toList_intercalate,
    compactItems_eq, List.map_map, hcomma]
  rfl

theorem toList_compact_object (fields : List (String × Json)) :
    (compact (.object fields)).toList =
      '\x7b' :: [','].intercalate (fields.map fieldText) ++ ['\x7d'] := by
  have hcomma : ",".toList = [','] := rfl
  rw [compact, String.toList_append, String.toList_append, String.toList_intercalate,
    toList_compactFields, hcomma]
  rfl

namespace Exact

variable {j k : Json} {cs ds : List Char}

theorem exists_head (h : j.Exact) :
    ∃ c cs, (compact j).toList = c :: cs ∧ Kind.ofChar? c = some j.kind := by
  cases h with
  | null => exact ⟨'n', _, rfl, rfl⟩
  | bool b =>
    cases b with
    | true => exact ⟨'t', _, rfl, rfl⟩
    | false => exact ⟨'f', _, rfl, rfl⟩
  | int n =>
    rw [compact, Numeral.toList_signed]
    by_cases hn : n < 0
    · rw [decide_eq_true hn]
      exact ⟨'-', _, rfl, rfl⟩
    · rw [decide_eq_false hn]
      obtain ⟨c, ds, hc⟩ := List.exists_cons_of_ne_nil (Numeral.digits_ne_nil n.natAbs)
      have hdigit : c.isDigit = true := Numeral.isDigit_of_mem_digits (hc ▸ List.mem_cons_self)
      exact ⟨c, ds, hc, if_pos (.inr hdigit)⟩
  | text s => exact ⟨'"', _, toList_quote s, rfl⟩
  | array _ => exact ⟨'[', _, toList_compact_array _, rfl⟩
  | object _ => exact ⟨'\x7b', _, toList_compact_object _, rfl⟩

theorem kind_eq (hj : j.Exact) (hk : k.Exact)
    (h : (compact j).toList ++ cs = (compact k).toList ++ ds) :
    j.kind = k.kind := by
  obtain ⟨c, _, hc, hkind⟩ := hj.exists_head
  obtain ⟨d, _, hd, hkind'⟩ := hk.exists_head
  rw [hc, hd] at h
  obtain rfl : c = d := List.head_eq_of_cons_eq h
  exact Option.some.inj (hkind.symm.trans hkind')

theorem ne_close (h : j.Exact) {close : Char} (hclose : Kind.ofChar? close = none)
    (rest cs : List Char) :
    (compact j).toList ++ rest ≠ close :: cs := by
  obtain ⟨c, _, hc, hkind⟩ := h.exists_head
  rw [hc]
  intro heq
  rw [List.head_eq_of_cons_eq heq, hclose] at hkind
  cases hkind

theorem prefixes_field {e : String × Json} (h : Prefixes Exact (fun j => (compact j).toList) e.2) :
    Prefixes (fun e => Exact e.2) fieldText e := by
  intro b cs ds hb hcs hds heq
  rw [fieldText, fieldText, List.append_assoc, List.append_assoc] at heq
  obtain ⟨hname, hrest⟩ := quote_append_inj heq
  obtain ⟨hvalue, htail⟩ := h b.2 cs ds hb hcs hds (List.tail_eq_of_cons_eq hrest)
  exact ⟨Prod.ext hname hvalue, htail⟩

/-- The text of a value is told from what comes behind it, and tells the value. -/
theorem prefixes (h : j.Exact) : Prefixes Exact (fun j => (compact j).toList) j := by
  induction h with
  | null =>
    intro k cs ds hk _ _ heq
    have hkind := kind_eq .null hk heq
    cases hk with
    | null => exact ⟨rfl, List.append_cancel_left heq⟩
    | bool | int | text | array | object => cases hkind
  | bool b =>
    intro k cs ds hk _ _ heq
    have hkind := kind_eq (.bool b) hk heq
    cases hk with
    | bool b' =>
      cases b <;> cases b'
      · exact ⟨rfl, List.append_cancel_left heq⟩
      · cases List.head_eq_of_cons_eq heq
      · cases List.head_eq_of_cons_eq heq
      · exact ⟨rfl, List.append_cancel_left heq⟩
    | null | int | text | array | object => cases hkind
  | int n =>
    intro k cs ds hk hcs hds heq
    have hkind := kind_eq (.int n) hk heq
    cases hk with
    | int n' =>
      obtain ⟨rfl, hrest⟩ := signed_append_inj hcs hds heq
      exact ⟨rfl, hrest⟩
    | null | bool | text | array | object => cases hkind
  | text s =>
    intro k cs ds hk _ _ heq
    have hkind := kind_eq (.text s) hk heq
    cases hk with
    | text s' =>
      obtain ⟨rfl, hrest⟩ := quote_append_inj heq
      exact ⟨rfl, hrest⟩
    | null | bool | int | array | object => cases hkind
  | array hitems ih =>
    intro k cs ds hk _ _ heq
    have hkind := kind_eq (.array hitems) hk heq
    cases hk with
    | array hitems' =>
      dsimp only at heq
      rw [toList_compact_array, toList_compact_array, List.cons_append, List.cons_append,
        List.append_assoc, List.append_assoc] at heq
      obtain ⟨rfl, hrest⟩ := joined_append_inj ih hitems hitems' rfl (by decide)
        (fun a ha => ha.ne_close rfl) (List.tail_eq_of_cons_eq heq)
      exact ⟨rfl, hrest⟩
    | null | bool | int | text | object => cases hkind
  | object hfields ih =>
    intro k cs ds hk _ _ heq
    have hkind := kind_eq (.object hfields) hk heq
    cases hk with
    | object hfields' =>
      dsimp only at heq
      rw [toList_compact_object, toList_compact_object, List.cons_append, List.cons_append,
        List.append_assoc, List.append_assoc] at heq
      obtain ⟨rfl, hrest⟩ := joined_append_inj (fun e he => prefixes_field (ih e he))
        hfields hfields' rfl (by decide)
        (fun e _ rest cs => by rw [fieldText, toList_quote]; nofun) (List.tail_eq_of_cons_eq heq)
      exact ⟨rfl, hrest⟩
    | null | bool | int | text | array => cases hkind

theorem eq_of_compact_eq (hj : j.Exact) (hk : k.Exact) (h : compact j = compact k) : j = k := by
  have hends : EndsNumber [] := nofun
  exact (hj.prefixes k [] [] hk hends hends (congrArg (String.toList · ++ []) h)).1

end Exact

end EdgeRoutes.Json
