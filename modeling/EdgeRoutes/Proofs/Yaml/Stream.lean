import EdgeRoutes.Proofs.Yaml.Lines
import EdgeRoutes.Text.Segments

namespace EdgeRoutes.Yaml

open LineState

/-- Wherever a value stands, its text starts in the middle of a line or at the start of one. -/
structure Place.Fits (p : Place) (s : LineState) : Prop where
  scalar : (s.scan p.beforeScalar).IsOpen
  items : (s.scan p.beforeItems).IsOpen
  entries : (s.scan p.beforeEntries).IsOpen

theorem Place.fits_onLine {s : LineState} (lead : List Char) (h : (s.scan lead).IsOpen)
    (indent : Nat) :
    (Place.onLine lead indent).Fits s :=
  ⟨h, h, h⟩

theorem Place.fits_ofEntry (indent : Nat) : (Place.ofEntry indent).Fits inside :=
  ⟨.inr rfl, scan_spaces_isOpen indent, scan_spaces_isOpen (indent + 2)⟩

theorem scan_dropLast_colon {s : LineState} {line : List Char} (h : s.scan line = start) :
    s.scan (line.dropLast ++ [':']) = inside := by
  obtain ⟨last, hlast⟩ := line.dropLast_prefix
  have hline : s.scan line.dropLast ≠ marked := by
    refine scan_left_ne_marked _ last ?_
    rw [hlast, h]
    nofun
  rw [scan_append]
  exact next_of_ne hline rfl (by decide)

theorem fits_keyLine {s : LineState} (hs : s.IsOpen) (indent : Nat) (name : String) :
    (keyLine indent name).2.Fits (s.scan (keyLine indent name).1) := by
  unfold keyLine
  dsimp only
  split
  · rw [scan_dropLast_colon (scan_scalarLine hs (Nat.succ_pos _) name)]
    exact Place.fits_ofEntry indent
  · have hkey : s.scan ('?' :: ' ' :: scalarLine (indent + 2) name) = start := by
      change ((s.next '?').next ' ').scan _ = start
      rw [hs.next_of_ne rfl (by decide)]
      exact scan_scalarLine isOpen_inside (Nat.succ_pos _) name
    rw [hkey]
    refine Place.fits_onLine _ (.inr ?_) _
    rw [scan_append]
    change ((start.scan (spaces indent)).next ':').next ' ' = inside
    rw [(scan_spaces_isOpen indent).next_of_ne rfl (by decide)]
    rfl

mutual

theorem scan_block {s : LineState} {p : Place} (hp : p.Fits s) :
    (j : Json) → s.scan (block p j) = start
  | .null => by
    rw [block, scan_append]
    exact hp.scalar.scan_eq rfl rfl
  | .bool b => by
    rw [block, scan_append]
    cases b <;> exact hp.scalar.scan_eq rfl rfl
  | .int n => by
    rw [block, List.append_assoc, scan_append, Numeral.toList_signed]
    exact scan_number hp.scalar _ (fitsNumber_digits _)
  | .float x => by
    rw [block, List.append_assoc, scan_append, Json.floatText, String.toList_ofList]
    exact scan_number hp.scalar _ (fitsNumber_magnitude _ _)
  | .text t => by
    rw [block, scan_append]
    exact scan_scalarLine hp.scalar (by omega) t
  | .array items => by
    rw [block]
    split
    · rw [scan_append]
      exact hp.scalar.scan_eq rfl rfl
    · next hne => exact scan_itemLines hp.items items (by simpa using hne)
  | .object fields => by
    rw [block]
    split
    · rw [scan_append]
      exact hp.scalar.scan_eq rfl rfl
    · next hne => exact scan_entryLines hp.entries fields (by simpa using hne)

theorem scan_itemLines {s : LineState} {lead : List Char} {indent : Nat}
    (hlead : (s.scan lead).IsOpen) : (items : List Json) → items ≠ [] →
      s.scan (itemLines lead indent items) = start
  | [], h => absurd rfl h
  | j :: rest, _ => by
    have hitem : (s.scan (lead ++ ['-', ' '])).IsOpen := by
      rw [scan_append]
      obtain h | h := hlead <;> rw [h] <;> exact .inr rfl
    rw [itemLines, scan_append, scan_block (Place.fits_onLine _ hitem _) j]
    by_cases hrest : rest = []
    · rw [hrest]
      rfl
    · exact scan_itemLines (scan_spaces_isOpen indent) rest hrest

theorem scan_entryLines {s : LineState} {lead : List Char} {indent : Nat}
    (hlead : (s.scan lead).IsOpen) : (fields : List (String × Json)) → fields ≠ [] →
      s.scan (entryLines lead indent fields) = start
  | [], h => absurd rfl h
  | (name, j) :: rest, _ => by
    rw [entryLines, scan_append, scan_append, scan_append,
      scan_block (fits_keyLine hlead indent name) j]
    by_cases hrest : rest = []
    · rw [hrest]
      rfl
    · exact scan_entryLines (scan_spaces_isOpen indent) rest hrest

end

theorem scan_render (j : Json) : start.scan (render j).toList = start := by
  rw [render, String.toList_ofList]
  exact scan_block (Place.fits_onLine [] isOpen_start 0) j

/-- What is left of a text from the start of one of its lines on. -/
def FromLine (text rest : List Char) : Prop :=
  ∃ before, text = before ++ rest ∧ ∀ c, before.getLast? = some c → isBreak c = true

/-- Whatever texts are in a value, no line of its document starts with three hyphens. -/
theorem not_marker_of_fromLine (j : Json) {rest : List Char} (h : FromLine (render j).toList rest) :
    ¬ ['-', '-', '-'] <+: rest := by
  obtain ⟨before, htext, hlast⟩ := h
  rintro ⟨after, rfl⟩
  have hscan := scan_render j
  rw [htext, scan_append] at hscan
  have hunmarked : start.scan before ≠ marked := by
    intro hmarked
    rw [hmarked, scan_marked] at hscan
    cases hscan
  have hstart : start.scan before = start := by
    induction before using List.reverseRecOn with
    | nil => rfl
    | append_singleton before c _ =>
      rw [scan_append]
      exact next_of_isBreak (scan_left_ne_marked _ _ hunmarked) (hlast c (by simp))
  rw [hstart] at hscan
  change marked.scan after = start at hscan
  rw [scan_marked] at hscan
  cases hscan

/-- The lines of a text, each with its end. -/
def lines : List Char → List (List Char)
  | [] => []
  | c :: cs =>
    if c = '\n' then [c] :: lines cs
    else match lines cs with
      | [] => [[c]]
      | line :: rest => (c :: line) :: rest

def separator : List Char := ['-', '-', '-', '\n']

/-- The documents of a stream: what stands after each line of three hyphens, up to the next one. -/
def documents (text : String) : List String :=
  ((lines text.toList).splitOn separator).tail.map fun ls => String.ofList ls.flatten

theorem flatten_lines (cs : List Char) : (lines cs).flatten = cs := by
  induction cs with
  | nil => rfl
  | cons c cs ih =>
    rw [lines]
    split
    · rw [List.flatten_cons, ih]
      rfl
    · split
      · next h =>
        rw [h] at ih
        simpa using ih
      · next h =>
        rw [h] at ih
        simpa using ih

theorem lines_eq_nil {cs : List Char} : lines cs = [] ↔ cs = [] := by
  constructor
  · intro h
    rw [← flatten_lines cs, h]
    rfl
  · rintro rfl
    rfl

theorem lines_append {cs : List Char} (h : ∀ c, cs.getLast? = some c → c = '\n') (ds : List Char) :
    lines (cs ++ ds) = lines cs ++ lines ds := by
  induction cs with
  | nil => rfl
  | cons c cs ih =>
    by_cases hcs : cs = []
    · subst hcs
      obtain rfl := h c rfl
      simp [lines]
    · have ih := ih fun d hd => h d (by rw [List.getLast?_cons_of_ne_nil hcs]; exact hd)
      obtain ⟨line, rest, hlines⟩ := List.exists_cons_of_ne_nil (mt lines_eq_nil.1 hcs)
      rw [hlines] at ih
      rw [List.cons_append, lines, lines, ih, hlines]
      split <;> rfl

/-- The first line goes on where the text before ended. -/
theorem scan_lines_ne_marked {s : LineState} {cs : List Char} (h : s.scan cs ≠ marked)
    {first : List Char} {rest : List (List Char)} (hlines : lines cs = first :: rest) :
    s.scan first ≠ marked ∧ ∀ line ∈ rest, start.scan line ≠ marked := by
  induction cs generalizing s first rest with
  | nil => cases hlines
  | cons c cs ih =>
    have hnext : s.next c ≠ marked := scan_left_ne_marked [c] cs h
    have hs : s ≠ marked := by
      rintro rfl
      exact hnext rfl
    rw [lines] at hlines
    split at hlines
    · next hc =>
      obtain ⟨rfl, rfl⟩ := List.cons.inj hlines
      refine ⟨hnext, fun line hline => ?_⟩
      obtain ⟨second, more, hmore⟩ := List.exists_cons_of_ne_nil (List.ne_nil_of_mem hline)
      have hstart : s.next c = start := next_of_isBreak hs (by rw [hc]; rfl)
      have hcs : start.scan cs ≠ marked := hstart ▸ h
      obtain ⟨hsecond, hrest⟩ := ih hcs hmore
      rw [hmore] at hline
      obtain rfl | hline := List.mem_cons.1 hline
      · exact hsecond
      · exact hrest line hline
    · split at hlines
      · obtain ⟨rfl, rfl⟩ := List.cons.inj hlines
        exact ⟨hnext, nofun⟩
      · next hmore =>
        obtain ⟨rfl, rfl⟩ := List.cons.inj hlines
        exact ih (s := s.next c) h hmore

theorem separator_not_mem_lines {cs : List Char} (h : start.scan cs ≠ marked) :
    separator ∉ lines cs := by
  intro hmem
  obtain ⟨first, rest, hlines⟩ := List.exists_cons_of_ne_nil (List.ne_nil_of_mem hmem)
  obtain ⟨hfirst, hrest⟩ := scan_lines_ne_marked h hlines
  rw [hlines] at hmem
  obtain rfl | hmem := List.mem_cons.1 hmem
  · exact hfirst rfl
  · exact hrest _ hmem rfl

theorem lines_stream {docs : List (List Char)} (h : ∀ d ∈ docs, d.getLast? = some '\n') :
    lines (docs.flatMap (separator ++ ·)) = (docs.map lines).flatMap (separator :: ·) := by
  induction docs with
  | nil => rfl
  | cons d docs ih =>
    obtain ⟨hd, hdocs⟩ := List.forall_mem_cons.1 h
    have hends : ∀ c, (separator ++ d).getLast? = some c → c = '\n' := by
      intro c hc
      rw [List.getLast?_append, hd] at hc
      exact (Option.some.inj hc).symm
    have hseparator : ∀ c, separator.getLast? = some c → c = '\n' := by
      rintro c ⟨⟩
      rfl
    rw [List.flatMap_cons, lines_append hends, lines_append hseparator, ih hdocs]
    rfl

theorem toList_renderStream (js : List Json) :
    (renderStream js).toList = (js.map fun j => (render j).toList).flatMap (separator ++ ·) := by
  induction js with
  | nil => rfl
  | cons j js ih =>
    rw [renderStream] at ih ⊢
    simp only [List.map_cons, String.join_cons, String.toList_append, ih, List.flatMap_cons]
    rfl

/-- A stream of documents that end at the end of a line is split into these documents. -/
theorem documents_renderStream {js : List Json}
    (h : ∀ j ∈ js, (render j).toList.getLast? = some '\n') :
    documents (renderStream js) = js.map render := by
  have hends : ∀ d ∈ js.map fun j => (render j).toList, d.getLast? = some '\n' := by
    simpa using h
  have hfree : ∀ d ∈ [] :: (js.map fun j => (render j).toList).map lines, separator ∉ d := by
    intro d hd
    obtain rfl | hd := List.mem_cons.1 hd
    · nofun
    · obtain ⟨cs, hcs, rfl⟩ := List.mem_map.1 hd
      obtain ⟨j, -, rfl⟩ := List.mem_map.1 hcs
      exact separator_not_mem_lines (by rw [scan_render]; nofun)
  have hsplit := List.splitOn_intercalate separator hfree (by simp)
  rw [Text.intercalate_singleton_cons, List.nil_append] at hsplit
  rw [documents, toList_renderStream, lines_stream hends, hsplit, List.tail_cons, List.map_map,
    List.map_map]
  refine List.map_congr_left fun j _ => ?_
  simp only [Function.comp_apply, flatten_lines, String.ofList_toList]

/-- The document of the value ends in a line feed. A literal text may end in another line break. -/
def EndsLine (j : Json) : Prop := ∀ place, (block place j).getLast? = some '\n'

theorem endsLine_text {t : String} (h : Style.ofText t = .plain) : EndsLine (.text t) := by
  intro place
  rw [block, scalarLine, h, ← List.append_assoc]
  exact List.getLast?_concat

theorem exists_entryLines_concat (fields : List (String × Json)) (name : String) (j : Json)
    (lead : List Char) (indent : Nat) :
    ∃ front place, entryLines lead indent (fields ++ [(name, j)]) = front ++ block place j := by
  induction fields generalizing lead with
  | nil => exact ⟨lead ++ (keyLine indent name).1, (keyLine indent name).2, by simp [entryLines]⟩
  | cons field fields ih =>
    obtain ⟨front, place, h⟩ := ih (spaces indent)
    rw [List.cons_append, entryLines, h, ← List.append_assoc]
    exact ⟨_, place, rfl⟩

theorem endsLine_object {j : Json} (h : EndsLine j) (fields : List (String × Json))
    (name : String) :
    EndsLine (.object (fields ++ [(name, j)])) := by
  intro place
  have hne : (fields ++ [(name, j)]).isEmpty = false := by simp
  obtain ⟨front, inner, hconcat⟩ :=
    exists_entryLines_concat fields name j place.beforeEntries place.indent
  rw [block, hne, if_neg (by decide), hconcat, List.getLast?_append, h inner]
  rfl

end EdgeRoutes.Yaml
