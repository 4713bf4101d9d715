import EdgeRoutes.Proofs.Codec.Reach

namespace EdgeRoutes

variable {ρ α β ε : Type}

namespace Codec

theorem fail_ne_outOfRange (m : Mismatch) : (fail m : Except Failure α) ≠ .error .outOfRange := by
  intro h
  cases h

theorem untimed_text : text.Untimed := by
  intro j h
  cases j <;> cases h

theorem untimed_boolean : boolean.Untimed := by
  intro j h
  cases j <;> cases h

theorem untimed_integer (range : IntRange) (format : String) : (integer range format).Untimed := by
  intro j h
  cases j with
  | int n =>
    simp only [integer] at h
    split at h <;> cases h
  | null | bool | float | text | array | object => cases h

theorem untimed_timestamp : timestamp.Untimed := by
  intro j h
  cases j with
  | text s =>
    simp only [timestamp] at h
    split at h <;> cases h
  | null | bool | int | float | array | object => cases h

theorem untimed_port : port.Untimed := by
  intro j h
  cases j with
  | int n =>
    simp only [port] at h
    split at h <;> cases h
  | null | bool | float | text | array | object => cases h

theorem untimed_anything (depth : Nat) : (anything depth).Untimed := by
  intro j h
  cases h

theorem variant?_ne_outOfRange (variants : List (String × α)) (name : String) :
    variant? variants name ≠ .error .outOfRange := by
  unfold variant?
  split
  · exact fun h => by cases h
  · exact fail_ne_outOfRange _

theorem untimed_choice (variants : List (String × α)) (name : α → String) :
    (choice variants name).Untimed := by
  intro j h
  cases j with
  | text s => exact variant?_ne_outOfRange variants s h
  | object fields =>
    match fields, h with
    | [], h => cases h
    | [(s, k)], h =>
      cases hv : variant? variants s with
      | error e =>
        simp only [choice, hv] at h
        exact variant?_ne_outOfRange variants s (hv.trans (by cases h; rfl))
      | ok a =>
        simp only [choice, hv, bind, Except.bind] at h
        split at h <;> cases h
    | _ :: _ :: _, h => cases h
  | null | bool | int | float | array => cases h

variable {c : Codec α}

theorem Untimed.list (h : c.Untimed) : (list c).Untimed := by
  intro j hj
  obtain ⟨v, -, hv⟩ := (read_list_outOfRange_iff j).1 hj
  exact h v hv

theorem map_eq_error_iff {f : α → β} {r : Except ε α} {e : ε} :
    r.map f = .error e ↔ r = .error e := by
  cases r <;> simp [Except.map]

theorem Untimed.table (h : c.Untimed) : (table c).Untimed := by
  intro j hj
  cases j with
  | object fields =>
    obtain ⟨-, entry, -, -, -, hentry⟩ :=
      (mapM_eq_error_iff (readEntry c) fields _).1 (map_eq_error_iff.1 hj)
    exact h entry.2 (map_eq_error_iff.1 hentry)
  | null | bool | int | float | text | array => cases hj

theorem Untimed.record {fs : Fields ρ ρ} (h : fs.Untimed) (name : String) :
    (Codec.record name fs).Untimed := by
  intro j hj
  obtain ⟨src, hsrc, hsettle⟩ := Fields.exists_source_of_read_record hj
  exact h.settle_ne (Fields.orderly_of_source? hsrc) hsettle

theorem Untimed.object {fs : Fields ρ ρ} (h : fs.Untimed) (name : String) :
    (Codec.object name fs).Untimed := by
  intro j hj
  cases j with
  | object fields =>
    have hsrc : fs.source? name (.object fields) = some (fs.ofObject fields) := rfl
    exact h.settle_ne (Fields.orderly_of_source? hsrc) hj
  | null | bool | int | float | text | array => cases hj

end Codec

namespace Slot

variable {c : Codec α}

theorem untimed_required (h : c.Untimed) : (required c).Untimed := h

theorem untimed_shown (h : c.Untimed) (default : α) : (shown c default).Untimed := h

theorem untimed_hidden (h : c.Untimed) (default : α) (isDefault : α → Bool) :
    (hidden c default isDefault).Untimed := h

theorem read_optional_error {v : Json} (hv : v ≠ .null) {e : Failure} (h : c.read v = .error e) :
    (optional c).read v = .error e := by
  cases v with
  | null => exact absurd rfl hv
  | bool | int | float | text | array | object => exact Codec.map_eq_error_iff.2 h

theorem read_optional_outOfRange {v : Json} (h : (optional c).read v = .error .outOfRange) :
    c.read v = .error .outOfRange := by
  cases v with
  | null => cases h
  | bool | int | float | text | array | object => exact Codec.map_eq_error_iff.1 h

theorem untimed_optional (h : c.Untimed) : (optional c).Untimed :=
  fun v hv => h v (read_optional_outOfRange hv)

theorem untimed_optionalInMap (h : c.Untimed) : (optionalInMap c).Untimed := untimed_optional h

theorem untimed_lenientText : lenientText.Untimed :=
  fun v hv => untimed_optional Codec.untimed_text v (Codec.map_eq_error_iff.1 hv)

theorem Untimed.described {s : Slot α} (h : s.Untimed) (description : String) :
    (s.described description).Untimed := h

end Slot

end EdgeRoutes
