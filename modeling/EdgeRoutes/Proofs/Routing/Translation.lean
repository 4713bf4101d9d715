import EdgeRoutes.Proofs.Duration.Term
import EdgeRoutes.Proofs.Resource.Timeout
import EdgeRoutes.Routing.RouteSet

namespace EdgeRoutes.Routing

/-- Reading comes to a timeout that denotes a duration out of range. -/
def MeetsOverrun (doc : Json) : Prop :=
  ∃ s, Ingress.ReadsTimeout doc s ∧ Duration.Overruns (Duration.unsigned s)

variable (c : Configuration) (doc : Json)

theorem translate_eq_aborted_iff : translate c doc = .aborted ↔ MeetsOverrun doc := by
  have hread := Ingress.read_outOfRange_iff doc
  simp only [Duration.ofText_eq_outOfRange_iff] at hread
  rw [MeetsOverrun, ← hread, translate]
  cases Ingress.codec.read doc with
  | error e => cases e <;> simp
  | ok i => cases hmade : ((Factory.ofConfiguration c).makeRoutes i).result <;> simp [hmade]

theorem translate_eq_unfit_of_malformed {s : String} {reason : Duration.Malformed}
    (ht : Ingress.ReadsTimeout doc s) (hs : Duration.ofText s = .error (.malformed reason)) :
    translate c doc = .unfit (.duration reason) := by
  have hread := Ingress.read_error ht hs
  simp only [translate, hread, Duration.Unreadable.failure]

/-- The translation ends with routes, or says why it has none, unless it meets a timeout that is out
of range; that one aborts it, while a malformed one makes the document unfit. -/
theorem translate_ends :
    (translate c doc = .aborted ↔ MeetsOverrun doc) ∧
    (¬ MeetsOverrun doc → (∃ made, translate c doc = .routes made) ∨
      (∃ m, translate c doc = .unfit m) ∨
      translate c doc = .refused .noValidLoadBalancerDomain) ∧
    ∀ s reason, Ingress.ReadsTimeout doc s →
      Duration.ofText s = .error (.malformed reason) →
      translate c doc = .unfit (.duration reason) := by
  refine ⟨translate_eq_aborted_iff c doc, fun hno => ?_, fun s reason => ?_⟩
  · cases hend : translate c doc with
    | routes made => exact .inl ⟨made, rfl⟩
    | unfit m => exact .inr (.inl ⟨m, rfl⟩)
    | refused e =>
      cases e
      exact .inr (.inr rfl)
    | aborted => exact absurd ((translate_eq_aborted_iff c doc).1 hend) hno
  · exact translate_eq_unfit_of_malformed c doc

def timeoutDocument (s : String) : Json :=
  let path : Json := .object [("timeout", .text s)]
  let rule : Json := .object [("http", .object [("paths", .array [path])])]
  .object [("metadata", .object []), ("spec", .object [("rules", .array [rule])])]

theorem reachesItem_singleton {α : Type} (c : Codec α) (j : Json) :
    c.ReachesItem (.array [j]) j := ⟨[], [], rfl, by simp⟩

/-- Empty metadata is visited before the specification, but has no fault. -/
theorem reaches_spec (spec : Json) :
    Ingress.fields.Reaches "Ingress" "spec"
      (.object [("metadata", .object []), ("spec", spec)]) spec := by
  have hsrc : Ingress.fields.source? "Ingress"
        (.object [("metadata", .object []), ("spec", spec)]) =
      some (Ingress.fields.ofObject [("metadata", .object []), ("spec", spec)]) := rfl
  refine ⟨_, 1, hsrc, rfl, fun f hf => Fault.some_le_visit_iff.2 fun q hq => ?_⟩
  obtain hf | hf := Fields.mem_all_read_field.1 hf
  · obtain hf | hf := Fields.mem_all_read_field.1 hf
    · have hnone : f ∈ [] := hf
      cases hnone
    · obtain ⟨p, v, hfind, hplace, -⟩ | ⟨hplace, -⟩ :=
        Slot.mem_all_readFrom (Fields.orderly_of_source? hsrc) hf
      · cases hfind
        exact le_of_eq (Option.some.inj (hplace.symm.trans hq))
      · rw [hplace] at hq
        cases hq
  · have hnone : f ∈ [] := hf
    cases hnone

theorem readsTimeout_timeoutDocument (s : String) :
    Ingress.ReadsTimeout (timeoutDocument s) s :=
  ⟨_, reaches_spec _, _, _, Ingress.Spec.carries.reaches_only _ _, reachesItem_singleton _ _, _,
    Ingress.Rule.carries.reaches_only _ _, _, _, Ingress.Http.carries.reaches_only _ _,
    reachesItem_singleton _ _, Ingress.Path.carries.reaches_only _ _⟩

def usualConfiguration : Configuration := ⟨"routegen", none, Configuration.usualTimeoutSeconds⟩

theorem ofText_unitless : Duration.ofText "5" = .error (.malformed .noUnit) := by
  have hdigit : Text.isAlphabetic '5' = false := Duration.isAlphabetic_of_isDigit rfl
  have hunsigned : Duration.unsigned "5" = ['5'] := by decide
  refine Duration.ofText_eq_error ?_
  rw [hunsigned, Duration.sumNanos]
  simp [Duration.Component.read, hdigit]

theorem translate_unitlessTimeout :
    ¬ MeetsOverrun (timeoutDocument "5") ∧
      translate usualConfiguration (timeoutDocument "5") = .unfit (.duration .noUnit) := by
  obtain ⟨habort, -, hmalformed⟩ := translate_ends usualConfiguration (timeoutDocument "5")
  have hunfit := hmalformed "5" .noUnit (readsTimeout_timeoutDocument "5") ofText_unitless
  refine ⟨fun hmeets => ?_, hunfit⟩
  rw [habort.2 hmeets] at hunfit
  cases hunfit

/-- One hour less five minutes: the second term is below zero. -/
theorem overruns_negativeTerm : Duration.Overruns (Duration.unsigned "1h-5m") := by
  let hour : Duration.Term := ⟨['1'], ['h'], ⟨false, Binary64.ofRatio 1 1⟩, 3600000000000, rfl, rfl⟩
  let minutes : Duration.Term :=
    ⟨['-', '5'], ['m'], ⟨true, Binary64.ofRatio 5 1⟩, 60000000000, rfl, rfl⟩
  refine ⟨[hour], [3600000000000], minutes, [], rfl, ?_, ?_, ?_, .inl ?_⟩
  · intro c hc
    cases hc
  · decide +kernel
  · decide +kernel
  · decide +kernel

/-- With a negative term in a timeout the translation has none of its proper endings. -/
theorem translate_negativeTerm :
    ¬ ((∃ made, translate usualConfiguration (timeoutDocument "1h-5m") = .routes made) ∨
      (∃ m, translate usualConfiguration (timeoutDocument "1h-5m") = .unfit m) ∨
      translate usualConfiguration (timeoutDocument "1h-5m") =
        .refused .noValidLoadBalancerDomain) := by
  have habort : translate usualConfiguration (timeoutDocument "1h-5m") = .aborted :=
    (translate_eq_aborted_iff _ _).2
      ⟨"1h-5m", readsTimeout_timeoutDocument "1h-5m", overruns_negativeTerm⟩
  simp [habort]

end EdgeRoutes.Routing
