import EdgeRoutes.Proofs.Routing.RouteSet
import Mathlib.Algebra.GroupWithZero.Nat
import Mathlib.Data.List.Count
import Mathlib.Data.List.Nodup
import Mathlib.Data.Option.Basic

namespace EdgeRoutes.Routing

/-- How often a host stands in the rules that are not cluster-local. -/
def occurrences (rules : List Ingress.Rule) (host : String) : Nat :=
  (rules.map fun rule => if rule.visibility = .clusterLocal then 0 else rule.hosts.count host).sum

theorem count_exposedHosts {host : String} (hx : HasExternalForm host) (rule : Ingress.Rule)
    (hosts : List String) :
    ((exposedHosts rule hosts).map Prod.snd).count host = hosts.count host := by
  induction hosts with
  | nil => rfl
  | cons other hosts ih =>
    by_cases ho : HasExternalForm other
    · rw [exposedHosts, if_pos ho, List.map_cons, List.count_cons, List.count_cons, ih]
    · have hne : other ≠ host := fun h => ho (h ▸ hx)
      rw [exposedHosts, if_neg ho, List.count_cons_of_ne hne, ih]

theorem count_exposures {host : String} (hx : HasExternalForm host) (rules : List Ingress.Rule) :
    ((exposures rules).map Prod.snd).count host = occurrences rules host := by
  induction rules with
  | nil => rfl
  | cons rule rules ih =>
    unfold occurrences at ih ⊢
    by_cases hv : rule.visibility = .clusterLocal
    · rw [exposures, if_pos hv, ih, List.map_cons, if_pos hv, List.sum_cons, Nat.zero_add]
    · rw [exposures, if_neg hv, List.map_append, List.count_append, count_exposedHosts hx, ih,
        List.map_cons, if_neg hv, List.sum_cons]

theorem hasExternalForm_of_mem_exposures {rules : List Ingress.Rule} {host : String}
    (h : host ∈ (exposures rules).map Prod.snd) : HasExternalForm host := by
  obtain ⟨p, hp, rfl⟩ := List.mem_map.1 h
  exact (mem_exposures.1 hp).2.2.2

theorem exposures_nodup_iff (rules : List Ingress.Rule) :
    ((exposures rules).map Prod.snd).Nodup ↔
      ∀ host, HasExternalForm host → occurrences rules host ≤ 1 := by
  rw [List.nodup_iff_count_le_one]
  constructor
  · intro h host hx
    rw [← count_exposures hx]
    exact h host
  · intro h host
    by_cases hm : host ∈ (exposures rules).map Prod.snd
    · have hx := hasExternalForm_of_mem_exposures hm
      rw [count_exposures hx]
      exact h host hx
    · rw [List.count_eq_zero_of_not_mem hm]
      exact Nat.zero_le 1

namespace Factory

variable {f : Factory} {i : Ingress} {routes : List Route}

theorem hosts_of_disabled (h : (f.makeRoutes i).result = .ok routes) (hd : Disabled i) :
    routes = [] := by
  obtain ⟨hnil, -⟩ | ⟨b, hno, -⟩ := routes_of_ok h
  · exact hnil
  · exact absurd hd hno

theorem hosts_of_enabled (h : (f.makeRoutes i).result = .ok routes) (hd : ¬ Disabled i) :
    routes.map (·.spec.host) = ((exposures i.spec.rules).map Prod.snd).map some := by
  obtain ⟨rfl, hno | hnone⟩ | ⟨b, -, -, rfl⟩ := routes_of_ok h
  · exact absurd hno hd
  · rw [hnone]
    rfl
  · simp only [List.map_map]
    rfl

/-- A host has as many routes as it has places in the rules to expose; to have one at most, it must
not be repeated there, unless the ingress is turned off. -/
theorem makeRoutes_hosts_nodup_iff (f : Factory) (i : Ingress) (routes : List Route)
    (h : (f.makeRoutes i).result = .ok routes) :
    ((routes.map (·.spec.host)).Nodup ↔
      Disabled i ∨ ∀ host, HasExternalForm host → occurrences i.spec.rules host ≤ 1) ∧
    (¬ Disabled i → ∀ host, HasExternalForm host →
      (routes.map (·.spec.host)).count (some host) = occurrences i.spec.rules host) := by
  constructor
  · by_cases hd : Disabled i
    · simp [hosts_of_disabled h hd, hd]
    · rw [hosts_of_enabled h hd, List.nodup_map_iff (Option.some_injective _),
        exposures_nodup_iff]
      simp [hd]
  · intro hd host hx
    rw [hosts_of_enabled h hd, List.count_map_of_injective _ _ (Option.some_injective _),
      count_exposures hx]

end Factory

theorem makeRoutes_hosts_nodup_mixedIngress :
    ∃ routes, ((Factory.mk "600s").makeRoutes mixedIngress).result = .ok routes ∧
      (routes.map (·.spec.host)).Nodup := by
  have h := Factory.makeRoutes_of_resolved ⟨"600s"⟩ mixedIngress mixedIngress_not_disabled
    mixedIngress_backend
  refine ⟨_, h, (Factory.makeRoutes_hosts_nodup_iff _ _ _ h).1.2 (.inr ?_)⟩
  rw [← exposures_nodup_iff]
  decide

def repeatingIngress : Ingress :=
  { mixedIngress with spec := ⟨[⟨["foo.example.com", "foo.example.com"], .external, none⟩], none⟩ }

theorem makeRoutes_repeatingIngress :
    ∃ routes, ((Factory.mk "600s").makeRoutes repeatingIngress).result = .ok routes ∧
      ¬ (routes.map (·.spec.host)).Nodup := by
  have hd : ¬ Disabled repeatingIngress := mixedIngress_not_disabled
  have h := Factory.makeRoutes_of_resolved ⟨"600s"⟩ repeatingIngress hd mixedIngress_backend
  refine ⟨_, h, ?_⟩
  rw [Factory.hosts_of_enabled h hd]
  decide

end EdgeRoutes.Routing
