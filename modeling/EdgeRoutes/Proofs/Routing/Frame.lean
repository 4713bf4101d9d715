import EdgeRoutes.Proofs.Routing.Backend
import EdgeRoutes.Proofs.Table

namespace EdgeRoutes.Routing

namespace Factory

variable (f : Factory) (i : Ingress) {rule : Ingress.Rule}

theorem eq_routeTo_of_makeRoute {host : String} {r : Route}
    (h : (f.makeRoute i host rule).result = .ok (some r)) :
    ∃ b, resolveBackend i = some b ∧ r = f.routeTo i host rule b := by
  rw [makeRoute] at h
  split at h
  · cases h
  · split at h
    · cases h
    · split at h
      · cases h
      · next b hb =>
        cases h
        exact ⟨b, hb, rfl⟩

theorem ruleTimeout_eq (rule : Ingress.Rule) :
    f.ruleTimeout rule = (rulePaths rule).getLast?.map f.pathTimeout := List.getLast?_map ..

theorem get?_annotations_of_ne {key : String} (h : key ≠ timeoutAnnotation) :
    (f.annotations i rule).get? key = i.metadata.annotationTable.get? key := by
  unfold annotations
  cases f.ruleTimeout rule with
  | none => rfl
  | some timeout => exact Table.get?_insert_of_ne _ h timeout

theorem get?_annotations_of_ruleTimeout {timeout : String} (h : f.ruleTimeout rule = some timeout) :
    (f.annotations i rule).get? timeoutAnnotation = some timeout := by
  rw [annotations, h]
  exact Table.get?_insert _ timeoutAnnotation timeout

theorem get?_annotations_of_getLast? {p : Ingress.Path} (h : (rulePaths rule).getLast? = some p) :
    (f.annotations i rule).get? timeoutAnnotation = some (f.pathTimeout p) :=
  f.get?_annotations_of_ruleTimeout i (by rw [ruleTimeout_eq, h, Option.map_some])

theorem annotations_of_nil (h : rulePaths rule = []) :
    f.annotations i rule = i.metadata.annotationTable := by
  rw [annotations, ruleTimeout_eq, h]
  rfl

/-- A route has the annotations of its ingress, but for the timeout of the last path, if there is a
path; and its labels, but for the name of the ingress. Of the other metadata it has a name and the
namespace of the backend that it leads to. -/
theorem makeRoute_frame (f : Factory) (i : Ingress) (host : String) (rule : Ingress.Rule)
    (r : Route) (h : (f.makeRoute i host rule).result = .ok (some r)) :
    ∃ (annotations labels : Table String) (b : Backend),
      r.metadata = {
        name := some (routeName (i.metadata.uid.getD "") host)
        inNamespace := some b.inNamespace
        labels := some labels
        annotations := some annotations } ∧
      (∀ key, key ≠ timeoutAnnotation →
        annotations.get? key = i.metadata.annotationTable.get? key) ∧
      (∀ p, (rulePaths rule).getLast? = some p → annotations.get? timeoutAnnotation =
        some ((p.timeout.map Duration.annotation).getD f.defaultTimeout)) ∧
      (rulePaths rule = [] → annotations.get? timeoutAnnotation =
        i.metadata.annotationTable.get? timeoutAnnotation) ∧
      (∀ key, key ≠ ingressLabel → labels.get? key = i.metadata.labelTable.get? key) ∧
      labels.get? ingressLabel = some ((i.metadata.name.or i.metadata.generateName).getD "") ∧
      resolveBackend i = some b ∧ b.IsComplete ∧ b.IsDotless ∧
      r.spec.target.name = b.name ∧ r.spec.host = some host := by
  obtain ⟨b, hb, rfl⟩ := f.eq_routeTo_of_makeRoute i h
  obtain ⟨hcomplete, hdotless⟩ := resolveBackend_spec hb
  refine ⟨f.annotations i rule, i.metadata.labelTable.insert ingressLabel i.metadata.anyName, b,
    rfl, fun key hkey => f.get?_annotations_of_ne i hkey, fun p hp => ?timed, fun hnil => ?untimed,
    fun key hkey => Table.get?_insert_of_ne _ hkey _, ?named, hb, hcomplete, hdotless, rfl, rfl⟩
  case timed => rw [f.get?_annotations_of_getLast? i hp, pathTimeout_eq]
  case untimed => rw [f.annotations_of_nil i hnil]
  case named =>
    rw [Table.get?_insert, Metadata.anyName, Option.orElse_eq_or]

end Factory

/-- An ingress with a timeout and a label that its routes give anew, and an owner that they keep. -/
def staleIngress : Ingress :=
  { mixedIngress with
    metadata := { mixedIngress.metadata with
      annotations := some (.ofList [( timeoutAnnotation, "1s"), ("owner", "team")])
      labels := some (.ofList [(ingressLabel, "stale"), ("owner", "team")]) } }

theorem makeRoute_staleIngress :
    let f : Factory := ⟨"600s"⟩
    let path : Option Duration → Ingress.Path :=
      fun timeout => ⟨none, none, .empty, [], .empty, timeout⟩
    let timed : Ingress.Rule :=
      ⟨[], .external, some ⟨[path (some (.ofSeconds 30 (by decide))), path none]⟩⟩
    let untimed : Ingress.Rule := ⟨[], .external, none⟩
    ∃ r s, (f.makeRoute staleIngress "a.example.com" timed).result = .ok (some r) ∧
      (f.makeRoute staleIngress "a.example.com" untimed).result = .ok (some s) ∧
      r.metadata.annotationTable.get? timeoutAnnotation = some "600s" ∧
      s.metadata.annotationTable.get? timeoutAnnotation = some "1s" ∧
      r.metadata.annotationTable.get? "owner" = some "team" ∧
      r.metadata.labelTable.get? ingressLabel = some "hello" ∧
      r.metadata.labelTable.get? "owner" = some "team" := by
  intro f path timed untimed
  have hd : ¬ Disabled staleIngress := by
    rw [← contains_iff_disabled]
    decide
  have hb : resolveBackend staleIngress = some ⟨"kourier", "ns"⟩ := mixedIngress_backend
  have hr := f.makeRoute_of_resolved staleIngress (by decide : timed.visibility ≠ _) hd hb
    "a.example.com"
  have hs := f.makeRoute_of_resolved staleIngress (by decide : untimed.visibility ≠ _) hd hb
    "a.example.com"
  obtain ⟨_, _, _, hmeta, hkept, htimed, -, hlabels, hname, -⟩ := f.makeRoute_frame _ _ timed _ hr
  obtain ⟨_, _, _, hmeta', -, -, huntimed, -⟩ := f.makeRoute_frame _ _ untimed _ hs
  refine ⟨_, _, hr, hs, ?_, ?_, ?_, ?_, ?_⟩
  · rw [hmeta]
    exact htimed (path none) rfl
  · rw [hmeta']
    exact huntimed rfl
  · rw [hmeta]
    exact hkept "owner" (by decide)
  · rw [hmeta]
    exact hname
  · rw [hmeta]
    exact hlabels "owner" (by decide)

end EdgeRoutes.Routing
