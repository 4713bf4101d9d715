import EdgeRoutes.Table
import Mathlib.Data.List.Basic

namespace EdgeRoutes

variable {α : Type}

namespace Entries

theorem lookup_cons_of_ne {key k : String} (h : k ≠ key) (value : α) (es : List (String × α)) :
    ((key, value) :: es).lookup k = es.lookup k := by
  rw [List.lookup_cons, beq_eq_false_iff_ne.2 h]

theorem lookup_eq_none {key : String} {es : List (String × α)} (h : ∀ e ∈ es, e.1 ≠ key) :
    es.lookup key = none :=
  List.lookup_eq_none_iff.2 fun e he => by simpa using (h e he).symm

theorem isSome_lookup_iff {key : String} {es : List (String × α)} :
    (es.lookup key).isSome = true ↔ key ∈ es.map Prod.fst := by
  rw [Option.isSome_iff_ne_none, ne_eq, List.lookup_eq_none_iff]
  simp

theorem lookup_map {β : Type} (f : α → β) (k : String) (es : List (String × α)) :
    (es.map fun e => (e.1, f e.2)).lookup k = (es.lookup k).map f := by
  induction es with
  | nil => rfl
  | cons e es ih =>
    rw [List.map_cons, List.lookup_cons, List.lookup_cons, ih]
    cases k == e.1 <;> rfl

theorem lookup_filter_of_ne {key k : String} (h : k ≠ key) (es : List (String × α)) :
    (es.filter (·.1 != key)).lookup k = es.lookup k := by
  induction es with
  | nil => rfl
  | cons e es ih =>
    by_cases he : e.1 = key
    · rw [List.filter_cons_of_neg (by simp [he]), ih, ← lookup_cons_of_ne (he ▸ h) e.2 es]
    · rw [List.filter_cons_of_pos (by simp [he]), List.lookup_cons, List.lookup_cons, ih]

end Entries

namespace Table

theorem lookup_insertEntry (key : String) (value : α) (es : List (String × α)) :
    (insertEntry key value es).lookup key = some value := by
  induction es with
  | nil => simp [insertEntry]
  | cons e es ih =>
    rw [insertEntry]
    split
    · simp
    · split
      · simp
      · next hne =>
        have hbeq : (key == e.1) = false := beq_eq_false_iff_ne.2 hne
        rw [List.lookup_cons, hbeq]
        exact ih

theorem get?_insert (t : Table α) (key : String) (value : α) :
    (t.insert key value).get? key = some value :=
  lookup_insertEntry key value t.entries

theorem lookup_insertEntry_of_ne {key k : String} (h : k ≠ key) (value : α)
    (es : List (String × α)) :
    (insertEntry key value es).lookup k = es.lookup k := by
  induction es with
  | nil => exact Entries.lookup_cons_of_ne h value []
  | cons e es ih =>
    rw [insertEntry]
    split
    · exact Entries.lookup_cons_of_ne h value (e :: es)
    · split
      · next heq =>
        rw [Entries.lookup_cons_of_ne h]
        exact (Entries.lookup_cons_of_ne (heq ▸ h) e.2 es).symm
      · rw [List.lookup_cons, List.lookup_cons, ih]

theorem get?_insert_of_ne (t : Table α) {key k : String} (h : k ≠ key) (value : α) :
    (t.insert key value).get? k = t.get? k :=
  lookup_insertEntry_of_ne h value t.entries

theorem insertEntry_of_forall_lt {key : String} {value : α} {es : List (String × α)}
    (h : ∀ k ∈ es.map Prod.fst, k < key) : insertEntry key value es = es ++ [(key, value)] := by
  induction es with
  | nil => rfl
  | cons e es ih =>
    obtain ⟨hlt, hes⟩ := List.forall_mem_cons.1 h
    have hnot : ¬ key < e.1 := fun hk => String.lt_irrefl _ (String.lt_trans hlt hk)
    have hne : key ≠ e.1 := fun hk => String.lt_irrefl _ (hk ▸ hlt)
    rw [insertEntry, if_neg hnot, if_neg hne, ih hes]
    rfl

theorem entries_foldl_insert (t : Table α) {es : List (String × α)}
    (h : ((t.entries ++ es).map Prod.fst).Pairwise (· < ·)) :
    (es.foldl (fun t e => t.insert e.1 e.2) t).entries = t.entries ++ es := by
  induction es generalizing t with
  | nil => simp
  | cons e es ih =>
    have hlast : (t.insert e.1 e.2).entries = t.entries ++ [e] := by
      refine insertEntry_of_forall_lt fun k hk => ?_
      rw [List.map_append, List.pairwise_append] at h
      exact h.2.2 k hk e.1 (by simp)
    rw [List.foldl_cons, ih, hlast, List.append_assoc, List.singleton_append]
    rwa [hlast, List.append_assoc, List.singleton_append]

theorem eq_of_entries_eq {t u : Table α} (h : t.entries = u.entries) : t = u := by
  cases t
  cases u
  cases h
  rfl

theorem isEmpty_iff (t : Table α) : t.isEmpty = true ↔ t = empty := by
  rw [isEmpty, List.isEmpty_iff]
  exact ⟨fun h => eq_of_entries_eq h, fun h => h ▸ rfl⟩

theorem entries_ofList {es : List (String × α)} (h : (es.map Prod.fst).Pairwise (· < ·)) :
    (ofList es).entries = es := entries_foldl_insert empty h

theorem ofList_entries (t : Table α) : ofList t.entries = t :=
  eq_of_entries_eq (entries_ofList t.ascending)

theorem get?_foldl_insert {es : List (String × α)} (h : (es.map Prod.fst).Nodup) (t : Table α)
    (k : String) :
    (es.foldl (fun t e => t.insert e.1 e.2) t).get? k = (es.lookup k).or (t.get? k) := by
  induction es generalizing t with
  | nil => rfl
  | cons e es ih =>
    obtain ⟨hfresh, hes⟩ := List.nodup_cons.1 h
    rw [List.foldl_cons, ih hes]
    by_cases hk : k = e.1
    · subst hk
      have hnone : es.lookup e.1 = none :=
        Entries.lookup_eq_none fun d hd heq => hfresh (heq ▸ List.mem_map_of_mem hd)
      rw [hnone, get?_insert, List.lookup_cons, beq_self_eq_true]
      rfl
    · have hcons : (e :: es).lookup k = es.lookup k := Entries.lookup_cons_of_ne hk e.2 es
      rw [get?_insert_of_ne t hk, hcons]

theorem get?_ofList {es : List (String × α)} (h : (es.map Prod.fst).Nodup) (k : String) :
    (ofList es).get? k = es.lookup k :=
  (get?_foldl_insert h empty k).trans (Option.or_none ..)

theorem mem_insertEntry {key : String} {value : α} {es : List (String × α)} {e : String × α}
    (h : e ∈ insertEntry key value es) : e = (key, value) ∨ e ∈ es := by
  induction es with
  | nil => exact .inl (List.mem_singleton.1 h)
  | cons d es ih =>
    rw [insertEntry] at h
    split at h
    · exact List.mem_cons.1 h
    · split at h
      · obtain h | h := List.mem_cons.1 h
        · exact .inl h
        · exact .inr (List.mem_cons_of_mem _ h)
      · obtain rfl | h := List.mem_cons.1 h
        · exact .inr List.mem_cons_self
        · exact (ih h).imp_right (List.mem_cons_of_mem _)

theorem mem_foldl_insert {t : Table α} {es : List (String × α)} {e : String × α}
    (h : e ∈ (es.foldl (fun t e => t.insert e.1 e.2) t).entries) : e ∈ t.entries ∨ e ∈ es := by
  induction es generalizing t with
  | nil => exact .inl h
  | cons d es ih =>
    obtain h | h := ih h
    · obtain rfl | h := mem_insertEntry h
      · exact .inr List.mem_cons_self
      · exact .inl h
    · exact .inr (List.mem_cons_of_mem _ h)

theorem mem_of_mem_ofList {es : List (String × α)} {e : String × α} (h : e ∈ (ofList es).entries) :
    e ∈ es :=
  (mem_foldl_insert h).resolve_left List.not_mem_nil

end Table

end EdgeRoutes
