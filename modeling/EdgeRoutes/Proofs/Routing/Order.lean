import EdgeRoutes.Proofs.Duration.Order
import EdgeRoutes.Proofs.Routing.Conflict

namespace EdgeRoutes.Routing

open Duration (readSeconds)

variable {d : Duration} {rule : Ingress.Rule}

theorem isShort_getD (hd : d.IsShort) {timeout : Option Duration} (h : ∀ t ∈ timeout, t.IsShort) :
    (timeout.getD d).IsShort := by
  cases timeout with
  | none => exact hd
  | some t => exact h t rfl

theorem effectiveText_eq_iff (hd : d.IsShort) {p q : Ingress.Path} (hp : ∀ t ∈ p.timeout, t.IsShort)
    (hq : ∀ t ∈ q.timeout, t.IsShort) :
    effectiveText d p = effectiveText d q ↔ p.timeout.getD d = q.timeout.getD d :=
  Duration.annotation_eq_iff (isShort_getD hd hp) (isShort_getD hd hq)

theorem Factory.conflicts_ne_nil_iff (hd : d.IsShort)
    (h : ∀ p ∈ rulePaths rule, ∀ t ∈ p.timeout, t.IsShort) (host : String) :
    (ofDefault d).conflicts rule host ≠ [] ↔
      ∃ p ∈ rulePaths rule, ∃ last ∈ (rulePaths rule).getLast?,
        p.timeout.getD d ≠ last.timeout.getD d := by
  obtain hnil | ⟨earlier, last, hpaths⟩ := List.eq_nil_or_concat' (rulePaths rule)
  · rw [conflicts_ofDefault_of_nil d hnil, hnil]
    simp
  · rw [conflicts_ofDefault d hpaths, hpaths, List.getLast?_concat]
    rw [hpaths] at h
    have hlast := h last (by simp)
    have htext : ∀ p ∈ earlier, effectiveText d p ≠ effectiveText d last ↔
        p.timeout.getD d ≠ last.timeout.getD d := by
      intro p hp
      exact not_congr (effectiveText_eq_iff hd (h p (List.mem_append_left _ hp)) hlast)
    constructor
    · intro hne
      by_cases hdiffers : ∃ p ∈ earlier, effectiveText d p ≠ effectiveText d last
      · obtain ⟨p, hp, hother⟩ := hdiffers
        exact ⟨p, List.mem_append_left _ hp, last, rfl, (htext p hp).1 hother⟩
      · exact absurd (if_neg hdiffers) hne
    · rintro ⟨p, hp, _, ⟨rfl⟩, hother⟩
      obtain hp | hp := List.mem_append.1 hp
      · rw [if_pos ⟨p, hp, (htext p hp).2 hother⟩]
        exact List.cons_ne_nil _ _
      · rw [List.mem_singleton.1 hp] at hother
        exact absurd rfl hother

/-- The number in the annotation of a timeout is not above that of a longer one. Below `2 ^ 23`
seconds it is less, and only the same timeout has the same text, where the two zeros are not the
same. So there the texts tell just if the timeouts of the paths conflict. -/
theorem annotation_order :
    (∀ d e : Duration, d.signedNanos ≤ e.signedNanos →
      readSeconds d.annotation ≤ readSeconds e.annotation) ∧
    (∀ d e : Duration, d.IsShort → e.IsShort →
      (d.signedNanos < e.signedNanos → readSeconds d.annotation < readSeconds e.annotation) ∧
      (d.annotation = e.annotation ↔ d = e)) ∧
    ∀ (d : Duration) (rule : Ingress.Rule) (host : String), d.IsShort →
      (∀ p ∈ rulePaths rule, ∀ t ∈ p.timeout, t.IsShort) →
      ((Factory.ofDefault d).conflicts rule host ≠ [] ↔
        ∃ p ∈ rulePaths rule, ∃ last ∈ (rulePaths rule).getLast?,
          p.timeout.getD d ≠ last.timeout.getD d) := by
  refine ⟨fun _ _ => Duration.readSeconds_annotation_mono, ?short, ?conflicts⟩
  case short =>
    intro d e hd he
    exact ⟨Duration.readSeconds_annotation_lt hd he, Duration.annotation_eq_iff hd he⟩
  case conflicts =>
    intro d rule host hd h
    exact Factory.conflicts_ne_nil_iff hd h host

/-- The longest timeout is no less than one that is a nanosecond shorter, a negative one is less
than a tiny one, and the two zeros conflict although none is less. -/
theorem annotation_order_extremes :
    let longest : Duration := ⟨false, 0xFFFFFFFFFFFFFFFF, 999999999, by decide, by decide⟩
    let shorter : Duration := ⟨false, 0xFFFFFFFFFFFFFFFF, 999999998, by decide, by decide⟩
    let negative : Duration := ⟨true, 1, 500000000, by decide, by decide⟩
    let tiny : Duration := ⟨false, 0, 50000, by decide, by decide⟩
    let zero : Bool → Duration := fun sign => ⟨sign, 0, 0, by decide, by decide⟩
    let path : Option Duration → Ingress.Path :=
      fun timeout => ⟨none, none, .empty, [], .empty, timeout⟩
    let rule : Ingress.Rule := ⟨[], .external, some ⟨[path none, path (some (zero true))]⟩⟩
    (shorter.signedNanos ≤ longest.signedNanos ∧
      readSeconds shorter.annotation ≤ readSeconds longest.annotation) ∧
    (negative.IsShort ∧ tiny.IsShort ∧ negative.signedNanos < tiny.signedNanos ∧
      readSeconds negative.annotation < readSeconds tiny.annotation) ∧
    ((zero false).signedNanos = (zero true).signedNanos ∧
      Duration.annotation (zero false) ≠ Duration.annotation (zero true)) ∧
    (zero false).IsShort ∧ (∀ p ∈ rulePaths rule, ∀ t ∈ p.timeout, t.IsShort) ∧
      (Factory.ofDefault (zero false)).conflicts rule "a.example.com" ≠ [] := by
  intro longest shorter negative tiny zero path rule
  obtain ⟨hmono, hshort, hconflicts⟩ := annotation_order
  have hle : shorter.signedNanos ≤ longest.signedNanos := by decide
  have hlt : negative.signedNanos < tiny.signedNanos := by decide
  have hnegative : negative.IsShort := by decide
  have htiny : tiny.IsShort := by decide
  have hzero : ∀ sign, (zero sign).IsShort := by decide
  have hne : zero false ≠ zero true := by decide
  have hequal : (zero false).signedNanos = (zero true).signedNanos := by decide
  have hpaths : ∀ p ∈ rulePaths rule, ∀ t ∈ p.timeout, t.IsShort := by
    simp [rule, path, rulePaths, hzero]
  have hdiffers : ∃ p ∈ rulePaths rule, ∃ last ∈ (rulePaths rule).getLast?,
      p.timeout.getD (zero false) ≠ last.timeout.getD (zero false) :=
    ⟨path none, List.mem_cons_self, path (some (zero true)), rfl, hne⟩
  refine ⟨⟨hle, hmono _ _ hle⟩, ⟨hnegative, htiny, hlt, (hshort _ _ hnegative htiny).1 hlt⟩,
    ⟨hequal, ?_⟩, hzero false, hpaths, (hconflicts _ _ _ (hzero false) hpaths).2 hdiffers⟩
  exact fun h => hne ((hshort _ _ (hzero false) (hzero true)).2.1 h)

end EdgeRoutes.Routing
