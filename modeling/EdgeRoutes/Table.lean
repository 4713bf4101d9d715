/-!
Finite maps from text keys. The entries are kept in ascending order of their keys, each key once, so
two tables are equal exactly when they give the same value to every key.
-/

namespace EdgeRoutes

structure Table (α : Type) where
  entries : List (String × α)
  ascending : (entries.map Prod.fst).Pairwise (· < ·)
deriving DecidableEq

namespace Table

variable {α β : Type}

def empty : Table α := ⟨[], .nil⟩

instance : Inhabited (Table α) := ⟨empty⟩
instance : EmptyCollection (Table α) := ⟨empty⟩

def isEmpty (t : Table α) : Bool := t.entries.isEmpty

def get? (t : Table α) (key : String) : Option α := t.entries.lookup key

def contains (t : Table α) (key : String) : Bool := (t.get? key).isSome

def insertEntry (key : String) (value : α) : List (String × α) → List (String × α)
  | [] => [(key, value)]
  | e :: es =>
    if key < e.1 then (key, value) :: e :: es
    else if key = e.1 then (key, value) :: es
    else e :: insertEntry key value es

theorem mem_keys_insertEntry {key k : String} {value : α} {es : List (String × α)}
    (h : k ∈ (insertEntry key value es).map Prod.fst) : k = key ∨ k ∈ es.map Prod.fst := by
  induction es with
  | nil => simpa [insertEntry] using h
  | cons e es ih =>
    rw [insertEntry] at h
    split at h
    · simpa using h
    · split at h
      · next heq => simp only [List.map_cons, List.mem_cons] at h ⊢; simp_all
      · simp only [List.map_cons, List.mem_cons] at h ⊢
        rcases h with h | h
        · exact .inr (.inl h)
        · rcases ih h with h | h
          · exact .inl h
          · exact .inr (.inr h)

theorem insertEntry_ascending (key : String) (value : α) {es : List (String × α)}
    (h : (es.map Prod.fst).Pairwise (· < ·)) :
    ((insertEntry key value es).map Prod.fst).Pairwise (· < ·) := by
  induction es with
  | nil => simp [insertEntry]
  | cons e es ih =>
    simp only [List.map_cons, List.pairwise_cons] at h
    rw [insertEntry]
    split
    · next hlt =>
      simp only [List.map_cons, List.pairwise_cons, List.mem_cons]
      refine ⟨?_, h.1, h.2⟩
      rintro k (rfl | hk)
      · exact hlt
      · exact String.lt_trans hlt (h.1 k hk)
    · next hlt =>
      split
      · next heq => subst heq; simpa using h
      · next hne =>
        simp only [List.map_cons, List.pairwise_cons]
        refine ⟨fun k hk => ?_, ih h.2⟩
        rcases mem_keys_insertEntry hk with rfl | hk
        · exact Decidable.byContradiction fun hnot =>
            hne (String.le_antisymm (String.not_lt.1 hnot) (String.not_lt.1 hlt))
        · exact h.1 k hk

def insert (t : Table α) (key : String) (value : α) : Table α :=
  ⟨insertEntry key value t.entries, insertEntry_ascending key value t.ascending⟩

/-- The table of a list of entries; of several with one key the last counts. -/
def ofList (es : List (String × α)) : Table α := es.foldl (fun t e => t.insert e.1 e.2) empty

end Table

end EdgeRoutes
