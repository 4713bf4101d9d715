import EdgeRoutes.Routing.RouteSet
import Mathlib.Data.List.Forall2

namespace EdgeRoutes.Routing

/-- A host to expose has three segments or more, and the third is not `svc`. -/
def HasExternalForm (host : String) : Prop :=
  3 ≤ (Text.split '.' host).length ∧ (Text.split '.' host)[2]? ≠ some "svc"

instance : DecidablePred HasExternalForm := fun _ => inferInstanceAs (Decidable (_ ∧ _))

theorem isExternal_iff (host : String) : isExternal host = true ↔ HasExternalForm host := by
  unfold isExternal HasExternalForm
  obtain _ | ⟨a, _ | ⟨b, _ | ⟨c, rest⟩⟩⟩ := Text.split '.' host <;> simp

/-- The annotations hold the key that turns the routes off, with whatever value. -/
def Disabled (i : Ingress) : Prop :=
  ∃ value, i.metadata.annotationTable.get? disableAnnotation = some value

theorem contains_iff_disabled (i : Ingress) :
    i.metadata.annotationTable.contains disableAnnotation = true ↔ Disabled i := by
  unfold Table.contains Disabled
  exact Option.isSome_iff_exists

def exposedHosts (rule : Ingress.Rule) : List String → List (Ingress.Rule × String)
  | [] => []
  | host :: hosts =>
    if HasExternalForm host then (rule, host) :: exposedHosts rule hosts
    else exposedHosts rule hosts

/-- The hosts to expose in a list of rules, each with its rule: a walk over the rules that are not
cluster-local, and in each over its hosts. -/
def exposures : List Ingress.Rule → List (Ingress.Rule × String)
  | [] => []
  | rule :: rules =>
    if rule.visibility = .clusterLocal then exposures rules
    else exposedHosts rule rule.hosts ++ exposures rules

theorem exposedHosts_eq (rule : Ingress.Rule) (hosts : List String) :
    exposedHosts rule hosts = (hosts.filter isExternal).map (rule, ·) := by
  induction hosts with
  | nil => rfl
  | cons host hosts ih =>
    have h := isExternal_iff host
    by_cases hx : HasExternalForm host
    · rw [exposedHosts, if_pos hx, List.filter_cons_of_pos (h.2 hx), List.map_cons, ih]
    · rw [exposedHosts, if_neg hx, List.filter_cons_of_neg (fun he => hx (h.1 he)), ih]

theorem exposures_eq_candidates (spec : Ingress.Spec) : exposures spec.rules = candidates spec := by
  unfold candidates
  induction spec.rules with
  | nil => rfl
  | cons rule rules ih =>
    by_cases hv : rule.visibility = .clusterLocal
    · rw [exposures, if_pos hv, ih, List.filter_cons_of_neg (by simpa using hv)]
    · rw [exposures, if_neg hv, ih, List.filter_cons_of_pos (by simpa using hv), List.flatMap_cons,
        exposedHosts_eq]

theorem mem_exposures {rules : List Ingress.Rule} {p : Ingress.Rule × String} :
    p ∈ exposures rules ↔ p.1 ∈ rules ∧ p.1.visibility ≠ .clusterLocal ∧ p.2 ∈ p.1.hosts ∧
      HasExternalForm p.2 := by
  have h := exposures_eq_candidates ⟨rules, none⟩
  simp only at h
  rw [h]
  simp only [candidates, List.mem_flatMap, List.mem_filter, List.mem_map, decide_eq_true_eq,
    isExternal_iff]
  constructor
  · rintro ⟨rule, ⟨hr, hv⟩, host, ⟨hh, hx⟩, rfl⟩
    exact ⟨hr, hv, hh, hx⟩
  · rintro ⟨hr, hv, hh, hx⟩
    exact ⟨p.1, ⟨hr, hv⟩, p.2, ⟨hh, hx⟩, rfl⟩

namespace Factory

variable (f : Factory) (i : Ingress)

theorem makeRoute_eq_of_disabled {rule : Ingress.Rule} (hv : rule.visibility ≠ .clusterLocal)
    (hd : Disabled i) (host : String) :
    f.makeRoute i host rule = ⟨.ok none, [.disabledHost host]⟩ := by
  rw [makeRoute, if_neg hv, if_pos ((contains_iff_disabled i).2 hd)]

theorem makeRoute_eq_of_resolved {rule : Ingress.Rule} (hv : rule.visibility ≠ .clusterLocal)
    (hd : ¬ Disabled i) {b : Backend} (hb : resolveBackend i = some b) (host : String) :
    f.makeRoute i host rule = ⟨.ok (some (f.routeTo i host rule b)),
      f.conflicts rule host ++ [.routed (routeName (i.metadata.uid.getD "") host) host b]⟩ := by
  rw [makeRoute, if_neg hv, if_neg (fun h => hd ((contains_iff_disabled i).1 h)), hb]

theorem makeRoute_eq_of_unresolved {rule : Ingress.Rule} (hv : rule.visibility ≠ .clusterLocal)
    (hd : ¬ Disabled i) (hb : resolveBackend i = none) (host : String) :
    f.makeRoute i host rule = ⟨.error .noValidLoadBalancerDomain, f.conflicts rule host⟩ := by
  rw [makeRoute, if_neg hv, if_neg (fun h => hd ((contains_iff_disabled i).1 h)), hb]

theorem makeRoute_of_disabled {rule : Ingress.Rule} (hv : rule.visibility ≠ .clusterLocal)
    (hd : Disabled i) (host : String) : (f.makeRoute i host rule).result = .ok none :=
  congrArg Logged.result (f.makeRoute_eq_of_disabled i hv hd host)

theorem makeRoute_of_resolved {rule : Ingress.Rule} (hv : rule.visibility ≠ .clusterLocal)
    (hd : ¬ Disabled i) {b : Backend} (hb : resolveBackend i = some b) (host : String) :
    (f.makeRoute i host rule).result = .ok (some (f.routeTo i host rule b)) :=
  congrArg Logged.result (f.makeRoute_eq_of_resolved i hv hd hb host)

theorem makeRoute_of_unresolved {rule : Ingress.Rule} (hv : rule.visibility ≠ .clusterLocal)
    (hd : ¬ Disabled i) (hb : resolveBackend i = none) (host : String) :
    (f.makeRoute i host rule).result = .error .noValidLoadBalancerDomain :=
  congrArg Logged.result (f.makeRoute_eq_of_unresolved i hv hd hb host)

theorem routesOf_of_disabled (hd : Disabled i) (ps : List (Ingress.Rule × String))
    (hv : ∀ p ∈ ps, p.1.visibility ≠ .clusterLocal) : (f.routesOf i ps).result = .ok [] := by
  induction ps with
  | nil => rfl
  | cons p ps ih =>
    have hp := f.makeRoute_of_disabled i (hv p (by simp)) hd p.2
    have hs := ih fun q hq => hv q (by simp [hq])
    simp only [routesOf, hp, hs]
    rfl

theorem routesOf_of_resolved (hd : ¬ Disabled i) {b : Backend} (hb : resolveBackend i = some b)
    (ps : List (Ingress.Rule × String)) (hv : ∀ p ∈ ps, p.1.visibility ≠ .clusterLocal) :
    (f.routesOf i ps).result = .ok (ps.map fun p => f.routeTo i p.2 p.1 b) := by
  induction ps with
  | nil => rfl
  | cons p ps ih =>
    have hp := f.makeRoute_of_resolved i (hv p (by simp)) hd hb p.2
    have hs := ih fun q hq => hv q (by simp [hq])
    simp only [routesOf, hp, hs]
    rfl

/-- Whether a backend can be resolved does not depend on the host, so the first host decides. -/
theorem routesOf_of_unresolved (hd : ¬ Disabled i) (hb : resolveBackend i = none)
    (p : Ingress.Rule × String) (ps : List (Ingress.Rule × String))
    (hv : p.1.visibility ≠ .clusterLocal) :
    (f.routesOf i (p :: ps)).result = .error .noValidLoadBalancerDomain := by
  have hp := f.makeRoute_of_unresolved i hv hd hb p.2
  simp only [routesOf, hp]

theorem makeRoutes_result :
    (f.makeRoutes i).result = (f.routesOf i (exposures i.spec.rules)).result := by
  rw [exposures_eq_candidates]
  unfold makeRoutes
  cases h : (f.routesOf i (candidates i.spec)).result <;> simp [h]

theorem makeRoutes_of_disabled (hd : Disabled i) : (f.makeRoutes i).result = .ok [] := by
  rw [makeRoutes_result]
  exact f.routesOf_of_disabled i hd _ fun p hp => (mem_exposures.1 hp).2.1

theorem makeRoutes_of_resolved (hd : ¬ Disabled i) {b : Backend} (hb : resolveBackend i = some b) :
    (f.makeRoutes i).result =
      .ok ((exposures i.spec.rules).map fun p => f.routeTo i p.2 p.1 b) := by
  rw [makeRoutes_result]
  exact f.routesOf_of_resolved i hd hb _ fun p hp => (mem_exposures.1 hp).2.1

theorem makeRoutes_of_unresolved (hd : ¬ Disabled i) (hb : resolveBackend i = none)
    (hne : exposures i.spec.rules ≠ []) :
    (f.makeRoutes i).result = .error .noValidLoadBalancerDomain := by
  rw [makeRoutes_result]
  cases h : exposures i.spec.rules with
  | nil => exact absurd h hne
  | cons p ps =>
    have hp : p ∈ exposures i.spec.rules := by simp [h]
    exact f.routesOf_of_unresolved i hd hb p ps (mem_exposures.1 hp).2.1

variable {f i}

theorem routes_of_ok {routes : List Route} (h : (f.makeRoutes i).result = .ok routes) :
    (routes = [] ∧ (Disabled i ∨ exposures i.spec.rules = [])) ∨
      ∃ b, ¬ Disabled i ∧ resolveBackend i = some b ∧
        routes = (exposures i.spec.rules).map fun p => f.routeTo i p.2 p.1 b := by
  by_cases hd : Disabled i
  · rw [f.makeRoutes_of_disabled i hd] at h
    cases h
    exact .inl ⟨rfl, .inl hd⟩
  · cases hb : resolveBackend i with
    | some b =>
      rw [f.makeRoutes_of_resolved i hd hb] at h
      cases h
      exact .inr ⟨b, hd, rfl, rfl⟩
    | none =>
      by_cases hne : exposures i.spec.rules = []
      · rw [makeRoutes_result, hne] at h
        cases h
        exact .inl ⟨rfl, .inr hne⟩
      · rw [f.makeRoutes_of_unresolved i hd hb hne] at h
        cases h

theorem eq_routeTo_of_mem {routes : List Route} (h : (f.makeRoutes i).result = .ok routes)
    {r : Route} (hr : r ∈ routes) :
    ∃ p ∈ exposures i.spec.rules, ∃ b, resolveBackend i = some b ∧ r = f.routeTo i p.2 p.1 b := by
  obtain ⟨rfl, -⟩ | ⟨b, -, hb, rfl⟩ := routes_of_ok h
  · cases hr
  · obtain ⟨p, hp, rfl⟩ := List.mem_map.1 hr
    exact ⟨p, hp, b, hb, rfl⟩

/-- The routes of an ingress are those of the pairs in the walk over its rules: none is lost,
repeated, put in another place or added. To be turned off wins over having no backend. -/
theorem makeRoutes_exposes (f : Factory) (i : Ingress) :
    (exposures i.spec.rules = [] ∨ Disabled i → (f.makeRoutes i).result = .ok []) ∧
    (exposures i.spec.rules ≠ [] → ¬ Disabled i →
      ((f.makeRoutes i).result = .error .noValidLoadBalancerDomain ↔ resolveBackend i = none) ∧
      (resolveBackend i ≠ none → ∃ routes, (f.makeRoutes i).result = .ok routes ∧
        routes.length = (exposures i.spec.rules).length ∧
        List.Forall₂ (fun p r => (f.makeRoute i p.2 p.1).result = .ok (some r) ∧
          r.spec.host = some p.2) (exposures i.spec.rules) routes)) ∧
    (∀ routes, (f.makeRoutes i).result = .ok routes → ∀ r ∈ routes,
      ∃ rule ∈ i.spec.rules, rule.visibility ≠ .clusterLocal ∧
        ∃ host ∈ rule.hosts, HasExternalForm host ∧ r.spec.host = some host) := by
  refine ⟨?idle, fun hne hd => ⟨?error, ?made⟩, ?only⟩
  case idle =>
    rintro (hne | hd)
    · rw [makeRoutes_result, hne]
      rfl
    · exact f.makeRoutes_of_disabled i hd
  case error =>
    refine ⟨fun h => ?_, fun hb => f.makeRoutes_of_unresolved i hd hb hne⟩
    cases hb : resolveBackend i with
    | none => rfl
    | some b =>
      rw [f.makeRoutes_of_resolved i hd hb] at h
      cases h
  case made =>
    intro hb
    obtain ⟨b, hb⟩ := Option.ne_none_iff_exists'.1 hb
    refine ⟨_, f.makeRoutes_of_resolved i hd hb, List.length_map _, ?_⟩
    rw [List.forall₂_map_right_iff, List.forall₂_same]
    intro p hp
    exact ⟨f.makeRoute_of_resolved i (mem_exposures.1 hp).2.1 hd hb p.2, rfl⟩
  case only =>
    intro routes h r hr
    obtain ⟨p, hp, b, -, rfl⟩ := eq_routeTo_of_mem h hr
    obtain ⟨hrule, hv, hhost, hx⟩ := mem_exposures.1 hp
    exact ⟨p.1, hrule, hv, p.2, hhost, hx, rfl⟩

end Factory

/-- Hosts of every kind: three to expose, a service of the cluster, a bare name, and one of a rule
that stays in the cluster. -/
def mixedIngress : Ingress where
  metadata := { name := some "hello", uid := some "abc123" }
  spec := ⟨[
    ⟨["b.example.com", "hello.default.svc.cluster.local", "a.example.com"], .external, none⟩,
    ⟨["hidden.example.com"], .clusterLocal, none⟩,
    ⟨["localhost", "c.example.com"], .external, none⟩], none⟩
  status := some ⟨none, [], some ⟨[⟨"", "", "kourier.ns.svc.cluster.local", false⟩]⟩, none⟩

theorem mixedIngress_not_disabled : ¬ Disabled mixedIngress := by
  rw [← contains_iff_disabled]
  decide

theorem mixedIngress_backend : resolveBackend mixedIngress = some ⟨"kourier", "ns"⟩ := by decide

theorem makeRoutes_mixedIngress :
    exposures mixedIngress.spec.rules ≠ [] ∧ ¬ Disabled mixedIngress ∧
      resolveBackend mixedIngress ≠ none ∧
      ∃ routes, ((Factory.mk "600s").makeRoutes mixedIngress).result = .ok routes ∧
        routes.map (·.spec.host) =
          [some "b.example.com", some "a.example.com", some "c.example.com"] := by
  have hne : exposures mixedIngress.spec.rules ≠ [] := by decide
  have hd := mixedIngress_not_disabled
  have hb : resolveBackend mixedIngress ≠ none := by simp [mixedIngress_backend]
  obtain ⟨routes, h, -, hp⟩ :=
    ((Factory.makeRoutes_exposes ⟨"600s"⟩ mixedIngress).2.1 hne hd).2 hb
  refine ⟨hne, hd, hb, routes, h, ?_⟩
  have hm : List.Forall₂ (· = ·) (routes.map (·.spec.host))
      ((exposures mixedIngress.spec.rules).map fun p => some p.2) := by
    rw [List.forall₂_map_left_iff, List.forall₂_map_right_iff]
    exact hp.flip.imp fun _ _ h => h.2
  rw [List.forall₂_eq_eq_eq] at hm
  rw [hm]
  decide

end EdgeRoutes.Routing
