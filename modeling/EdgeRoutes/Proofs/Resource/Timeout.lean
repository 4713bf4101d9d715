import EdgeRoutes.Proofs.Codec.Untimed
import EdgeRoutes.Resource.Ingress

namespace EdgeRoutes

open Codec Slot

def Duration.Unreadable.failure : Duration.Unreadable → Failure
  | .malformed reason => .mismatch (.duration reason)
  | .outOfRange => .outOfRange

theorem Codec.read_duration_text (s : String) :
    duration.read (.text s) = (Duration.ofText s).mapError Duration.Unreadable.failure := by
  simp only [duration]
  cases Duration.ofText s with
  | ok d => rfl
  | error u => cases u <;> rfl

theorem Codec.exists_text_of_read_duration {j : Json} (h : duration.read j = .error .outOfRange) :
    ∃ s, j = .text s ∧ Duration.ofText s = .error .outOfRange := by
  cases j with
  | text s =>
    refine ⟨s, rfl, ?_⟩
    rw [read_duration_text] at h
    cases hs : Duration.ofText s with
    | ok d =>
      rw [hs] at h
      cases h
    | error u =>
      rw [hs] at h
      cases u with
      | malformed reason => cases h
      | outOfRange => rfl
  | null | bool | int | float | array | object => cases h

namespace Metadata

theorem untimed_owner : Owner.codec.Untimed := by
  refine .object ?_ _
  apply_rules [Fields.Untimed.field, Fields.Untimed.build, untimed_lenientText, untimed_optional,
    untimed_boolean]

theorem untimed_managedFields : ManagedFields.codec.Untimed := by
  refine .object ?_ _
  apply_rules [Fields.Untimed.field, Fields.Untimed.build, untimed_optional, untimed_text,
    untimed_anything, untimed_timestamp]

theorem untimed : Metadata.codec.Untimed := by
  refine .object ?_ _
  apply_rules [Fields.Untimed.field, Fields.Untimed.build]
  all_goals
    apply_rules [untimed_optional, Codec.Untimed.table, Codec.Untimed.list, untimed_owner,
      untimed_managedFields, untimed_text, untimed_integer, untimed_timestamp]

end Metadata

namespace Ingress

theorem untimed_listSlot {α : Type} {c : Codec α} (h : c.Untimed) : (listSlot c).Untimed :=
  untimed_hidden h.list _ _

theorem untimed_tableSlot {α : Type} {c : Codec α} (h : c.Untimed) : (tableSlot c).Untimed :=
  untimed_hidden h.table _ _

theorem untimed_textSlot : textSlot.Untimed := untimed_hidden untimed_text _ _

theorem HeaderMatch.untimed : HeaderMatch.codec.Untimed := by
  refine .record ?_ _
  apply_rules [Fields.Untimed.field, Fields.Untimed.build, untimed_required, untimed_text]

theorem Split.untimed : Split.codec.Untimed := by
  refine .record ?_ _
  apply_rules [Fields.Untimed.field, Fields.Untimed.build, untimed_required, untimed_shown,
    untimed_tableSlot, untimed_text, untimed_port, untimed_integer]

theorem Visibility.untimed : Visibility.codec.Untimed := untimed_choice _ _

theorem HttpOption.untimed : HttpOption.codec.Untimed := untimed_choice _ _

theorem Condition.untimed : Condition.codec.Untimed := by
  refine .record ?_ _
  apply_rules [Fields.Untimed.field, Fields.Untimed.build, untimed_required, untimed_optional,
    untimed_text, untimed_timestamp]

theorem Endpoint.untimed : Endpoint.codec.Untimed := by
  refine .record ?_ _
  apply_rules [Fields.Untimed.field, Fields.Untimed.build, Slot.Untimed.described,
    untimed_textSlot, untimed_hidden, untimed_boolean]

theorem LoadBalancer.untimed : LoadBalancer.codec.Untimed :=
  .record (.field (.build _) (untimed_listSlot Endpoint.untimed) _ _) _

theorem Status.untimed : Status.codec.Untimed := by
  refine .record ?_ _
  apply_rules [Fields.Untimed.field, Fields.Untimed.build, untimed_optional, untimed_listSlot,
    untimed_integer, Condition.untimed, LoadBalancer.untimed]

def Path.ReadsTimeout (j : Json) (s : String) : Prop :=
  Path.fields.Reaches "HttpIngressPath" "timeout" j (.text s)

def Http.ReadsTimeout (j : Json) (s : String) : Prop :=
  ∃ paths path, Http.fields.Reaches "HttpIngressRuleValue" "paths" j paths ∧
    Path.codec.ReachesItem paths path ∧ Path.ReadsTimeout path s

def Rule.ReadsTimeout (j : Json) (s : String) : Prop :=
  ∃ http, Rule.fields.Reaches "IngressRule" "http" j http ∧ Http.ReadsTimeout http s

def Spec.ReadsTimeout (j : Json) (s : String) : Prop :=
  ∃ rules rule, Spec.fields.Reaches "IngressSpec" "rules" j rules ∧
    Rule.codec.ReachesItem rules rule ∧ Rule.ReadsTimeout rule s

/-- Reading a document comes to the timeout of one of its paths, the text `s`. -/
def ReadsTimeout (doc : Json) (s : String) : Prop :=
  ∃ spec, fields.Reaches "Ingress" "spec" doc spec ∧ Spec.ReadsTimeout spec s

theorem Path.carries :
    Path.fields.Carries "timeout" ((optional .duration).described
      "Superseded by the revision timeout, still honoured when translating to routes.") := by
  refine .last _ ?_ (by decide)
  apply_rules [Fields.Untimed.field, Fields.Untimed.build, untimed_optional, untimed_tableSlot,
    untimed_listSlot, untimed_text, HeaderMatch.untimed, Split.untimed]

theorem Http.carries : Http.fields.Carries "paths" (shown (.list Path.codec) []) :=
  .last _ (.build _) (by decide)

theorem Rule.carries : Rule.fields.Carries "http" (optional Http.codec) := by
  refine .last _ ?_ (by decide)
  apply_rules [Fields.Untimed.field, Fields.Untimed.build, untimed_listSlot, untimed_shown,
    untimed_text, Visibility.untimed]

theorem Spec.carries : Spec.fields.Carries "rules" (listSlot Rule.codec) :=
  .before _ (.last _ (.build _) (by decide)) (untimed_optional HttpOption.untimed) (by decide)

theorem carries : fields.Carries "spec" (required Spec.codec) := by
  refine .before _ (.last _ ?_ (by decide)) (untimed_optionalInMap Status.untimed) (by decide)
  exact .field (.build _) (untimed_required Metadata.untimed) _ _

variable {s : String} {u : Duration.Unreadable}

theorem Path.read_error {j : Json} (h : Path.ReadsTimeout j s) (hs : Duration.ofText s = .error u) :
    Path.codec.read j = .error u.failure := by
  have hne : Json.text s ≠ .null := by
    intro h
    cases h
  have hread : Codec.duration.read (.text s) = .error u.failure := by
    rw [read_duration_text, hs]
    rfl
  exact Path.carries.read_error h (read_optional_error hne hread)

theorem Http.read_error {j : Json} (h : Http.ReadsTimeout j s) (hs : Duration.ofText s = .error u) :
    Http.codec.read j = .error u.failure := by
  obtain ⟨paths, path, hpaths, hpath, ht⟩ := h
  exact Http.carries.read_error hpaths (read_list_error hpath (Path.read_error ht hs))

theorem Rule.read_error {j : Json} (h : Rule.ReadsTimeout j s) (hs : Duration.ofText s = .error u) :
    Rule.codec.read j = .error u.failure := by
  obtain ⟨http, hhttp, ht⟩ := h
  refine Rule.carries.read_error hhttp (read_optional_error ?_ (Http.read_error ht hs))
  obtain ⟨paths, path, hpaths, -⟩ := ht
  exact hpaths.ne_null

theorem Spec.read_error {j : Json} (h : Spec.ReadsTimeout j s) (hs : Duration.ofText s = .error u) :
    Spec.codec.read j = .error u.failure := by
  obtain ⟨rules, rule, hrules, hrule, ht⟩ := h
  exact Spec.carries.read_error hrules (read_list_error hrule (Rule.read_error ht hs))

/-- A timeout that cannot be read decides the document that reading comes to it in. -/
theorem read_error {doc : Json} (h : ReadsTimeout doc s) (hs : Duration.ofText s = .error u) :
    codec.read doc = .error u.failure := by
  obtain ⟨spec, hspec, ht⟩ := h
  exact carries.read_error hspec (Spec.read_error ht hs)

theorem Path.exists_timeout {j : Json} (h : Path.codec.read j = .error .outOfRange) :
    ∃ s, Path.ReadsTimeout j s ∧ Duration.ofText s = .error .outOfRange := by
  obtain ⟨v, hreach, hv⟩ := (Path.carries.read_outOfRange_iff j).1 h
  obtain ⟨s, rfl, hs⟩ := exists_text_of_read_duration (read_optional_outOfRange hv)
  exact ⟨s, hreach, hs⟩

theorem Http.exists_timeout {j : Json} (h : Http.codec.read j = .error .outOfRange) :
    ∃ s, Http.ReadsTimeout j s ∧ Duration.ofText s = .error .outOfRange := by
  obtain ⟨paths, hpaths, hlist⟩ := (Http.carries.read_outOfRange_iff j).1 h
  obtain ⟨path, hpath, hread⟩ := (read_list_outOfRange_iff paths).1 hlist
  obtain ⟨s, ht, hs⟩ := Path.exists_timeout hread
  exact ⟨s, ⟨paths, path, hpaths, hpath, ht⟩, hs⟩

theorem Rule.exists_timeout {j : Json} (h : Rule.codec.read j = .error .outOfRange) :
    ∃ s, Rule.ReadsTimeout j s ∧ Duration.ofText s = .error .outOfRange := by
  obtain ⟨http, hhttp, hread⟩ := (Rule.carries.read_outOfRange_iff j).1 h
  obtain ⟨s, ht, hs⟩ := Http.exists_timeout (read_optional_outOfRange hread)
  exact ⟨s, ⟨http, hhttp, ht⟩, hs⟩

theorem Spec.exists_timeout {j : Json} (h : Spec.codec.read j = .error .outOfRange) :
    ∃ s, Spec.ReadsTimeout j s ∧ Duration.ofText s = .error .outOfRange := by
  obtain ⟨rules, hrules, hlist⟩ := (Spec.carries.read_outOfRange_iff j).1 h
  obtain ⟨rule, hrule, hread⟩ := (read_list_outOfRange_iff rules).1 hlist
  obtain ⟨s, ht, hs⟩ := Rule.exists_timeout hread
  exact ⟨s, ⟨rules, rule, hrules, hrule, ht⟩, hs⟩

theorem read_outOfRange_iff (doc : Json) :
    codec.read doc = .error .outOfRange ↔
      ∃ s, ReadsTimeout doc s ∧ Duration.ofText s = .error .outOfRange := by
  constructor
  · intro h
    obtain ⟨spec, hspec, hread⟩ := (carries.read_outOfRange_iff doc).1 h
    obtain ⟨s, ht, hs⟩ := Spec.exists_timeout hread
    exact ⟨s, ⟨spec, hspec, ht⟩, hs⟩
  · rintro ⟨s, ht, hs⟩
    exact read_error ht hs

end Ingress

end EdgeRoutes
