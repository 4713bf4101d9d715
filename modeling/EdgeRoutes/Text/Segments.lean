namespace EdgeRoutes.Text

/-- The parts of a text between the occurrences of `sep`; empty parts count. -/
def segments (sep : Char) : List Char → List (List Char)
  | [] => [[]]
  | c :: cs =>
    if c = sep then [] :: segments sep cs
    else match segments sep cs with
      | [] => [[c]]
      | first :: rest => (c :: first) :: rest

theorem segments_ne_nil (sep : Char) (cs : List Char) : segments sep cs ≠ [] := by
  cases cs with
  | nil => simp [segments]
  | cons c cs => rw [segments]; split <;> (try split) <;> simp

theorem not_mem_of_mem_segments {sep : Char} {cs part : List Char} (h : part ∈ segments sep cs) :
    sep ∉ part := by
  induction cs generalizing part with
  | nil =>
    obtain rfl := List.mem_singleton.1 h
    exact List.not_mem_nil
  | cons c cs ih =>
    rw [segments] at h
    split at h
    · obtain rfl | h := List.mem_cons.1 h
      · exact List.not_mem_nil
      · exact ih h
    · next hc =>
      split at h
      · next hnil => exact absurd hnil (segments_ne_nil sep cs)
      · next first rest hcs =>
        rw [hcs] at ih
        obtain rfl | h := List.mem_cons.1 h
        · exact List.not_mem_cons_of_ne_of_not_mem (Ne.symm hc) (ih List.mem_cons_self)
        · exact ih (List.mem_cons_of_mem _ h)

theorem segments_append {sep : Char} {part : List Char} (h : sep ∉ part) (rest : List Char) :
    segments sep (part ++ sep :: rest) = part :: segments sep rest := by
  induction part with
  | nil => rw [List.nil_append, segments, if_pos rfl]
  | cons c part ih =>
    obtain ⟨hc, hpart⟩ := List.ne_and_not_mem_of_not_mem_cons h
    rw [List.cons_append, segments, if_neg (Ne.symm hc), ih hpart]

theorem segments_of_not_mem {sep : Char} {part : List Char} (h : sep ∉ part) :
    segments sep part = [part] := by
  induction part with
  | nil => rfl
  | cons c part ih =>
    obtain ⟨hc, hpart⟩ := List.ne_and_not_mem_of_not_mem_cons h
    rw [segments, if_neg (Ne.symm hc), ih hpart]

theorem segments_eq_cons_iff {sep : Char} {cs part : List Char} {parts : List (List Char)} :
    segments sep cs = part :: parts ↔ sep ∉ part ∧
      (cs = part ∧ parts = [] ∨ ∃ rest, cs = part ++ sep :: rest ∧ segments sep rest = parts) := by
  constructor
  · intro h
    refine ⟨not_mem_of_mem_segments (h ▸ List.mem_cons_self), ?_⟩
    by_cases hsep : sep ∈ cs
    · obtain ⟨first, rest, rfl, hfirst⟩ := List.eq_append_cons_of_mem hsep
      rw [segments_append hfirst] at h
      obtain ⟨rfl, hrest⟩ := List.cons.inj h
      exact .inr ⟨rest, rfl, hrest⟩
    · rw [segments_of_not_mem hsep] at h
      obtain ⟨hpart, hparts⟩ := List.cons.inj h
      exact .inl ⟨hpart, hparts.symm⟩
  · rintro ⟨hpart, ⟨rfl, rfl⟩ | ⟨rest, rfl, rfl⟩⟩
    · exact segments_of_not_mem hpart
    · exact segments_append hpart rest

theorem length_segments (sep : Char) (cs : List Char) :
    (segments sep cs).length = cs.count sep + 1 := by
  induction cs with
  | nil => rfl
  | cons c cs ih =>
    rw [segments]
    split
    · next hc => rw [hc, List.count_cons_self, List.length_cons, ih]
    · next hc =>
      rw [List.count_cons_of_ne hc]
      split
      · next hnil => exact absurd hnil (segments_ne_nil sep cs)
      · next first rest hcs =>
        rw [hcs] at ih
        exact ih

def split (sep : Char) (s : String) : List String :=
  (segments sep s.toList).map String.ofList

theorem not_mem_of_mem_split {sep : Char} {s part : String} (h : part ∈ split sep s) :
    sep ∉ part.toList := by
  obtain ⟨cs, hcs, rfl⟩ := List.mem_map.1 h
  rw [String.toList_ofList]
  exact not_mem_of_mem_segments hcs

theorem split_append {sep : Char} {part : String} (h : sep ∉ part.toList) (rest : String) :
    split sep (part ++ String.singleton sep ++ rest) = part :: split sep rest := by
  have hlist :
      (part ++ String.singleton sep ++ rest).toList = part.toList ++ sep :: rest.toList := by
    simp
  rw [split, hlist, segments_append h, List.map_cons, String.ofList_toList, split]

theorem split_eq_cons_iff {sep : Char} {s part : String} {parts : List String} :
    split sep s = part :: parts ↔ sep ∉ part.toList ∧
      (s = part ∧ parts = [] ∨
        ∃ rest, s = part ++ String.singleton sep ++ rest ∧ split sep rest = parts) := by
  constructor
  · intro h
    obtain ⟨first, rest, hcs, rfl, rfl⟩ := List.map_eq_cons_iff.1 h
    rw [String.toList_ofList]
    obtain ⟨hsep, ⟨hfirst, rfl⟩ | ⟨tail, htail, rfl⟩⟩ := segments_eq_cons_iff.1 hcs
    · exact ⟨hsep, .inl ⟨String.toList_inj.1 (by rw [hfirst, String.toList_ofList]), rfl⟩⟩
    · refine ⟨hsep, .inr ⟨String.ofList tail, String.toList_inj.1 ?_, ?_⟩⟩
      · simp [htail]
      · rw [split, String.toList_ofList]
  · rintro ⟨hsep, ⟨rfl, rfl⟩ | ⟨rest, rfl, rfl⟩⟩
    · rw [split, segments_of_not_mem hsep, List.map_singleton, String.ofList_toList]
    · exact split_append hsep rest

/-- The first separator of a text cuts it in one way only. -/
theorem append_eq_append_iff {sep : Char} {part part' rest rest' : String} (h : sep ∉ part.toList)
    (h' : sep ∉ part'.toList) :
    part ++ String.singleton sep ++ rest = part' ++ String.singleton sep ++ rest' ↔
      part = part' ∧ rest = rest' := by
  constructor
  · intro he
    have hsplit := congrArg (split sep) he
    rw [split_append h, split_append h'] at hsplit
    obtain ⟨rfl, -⟩ := List.cons.inj hsplit
    exact ⟨rfl, (String.append_right_inj _).1 he⟩
  · rintro ⟨rfl, rfl⟩
    rfl

theorem length_split (sep : Char) (s : String) :
    (split sep s).length = s.toList.count sep + 1 := by
  rw [split, List.length_map, length_segments]

theorem intercalate_singleton_cons {α : Type} (sep : α) (first : List α) (rest : List (List α)) :
    [sep].intercalate (first :: rest) = first ++ rest.flatMap (sep :: ·) := by
  induction rest generalizing first with
  | nil => simp
  | cons second rest ih => simp [List.intercalate_cons_cons, ih second]

end EdgeRoutes.Text
