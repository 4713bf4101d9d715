import EdgeRoutes.Proofs.Routing.Name

namespace EdgeRoutes.Routing

/-- The hosts, and of each path the timeout, if it has one of its own. -/
structure RuleView where
  hosts : List String
  timeouts : List (Option Duration)

/-- What an ingress shows: the rules that are not cluster-local, the internal domains of its public
load balancer, and five parts of its metadata. -/
structure View where
  annotations : Table String
  labels : Table String
  name : String
  owner : String
  rules : List RuleView
  domains : List String

def ruleView (rule : Ingress.Rule) : RuleView := ⟨rule.hosts, (rulePaths rule).map (·.timeout)⟩

def view (i : Ingress) : View where
  annotations := i.metadata.annotationTable
  labels := i.metadata.labelTable
  name := i.metadata.anyName
  owner := ownerId i
  rules := (i.spec.rules.filter (·.visibility ≠ .clusterLocal)).map ruleView
  domains := (publicEndpoints i).map (·.domainInternal)

def shownHosts (rules : List RuleView) : List (RuleView × String) :=
  rules.flatMap fun rule => (rule.hosts.filter isExternal).map (rule, ·)

theorem map_exposures (rules : List Ingress.Rule) :
    (exposures rules).map (Prod.map ruleView id) =
      shownHosts ((rules.filter (·.visibility ≠ .clusterLocal)).map ruleView) := by
  induction rules with
  | nil => rfl
  | cons rule rules ih =>
    by_cases hv : rule.visibility = .clusterLocal
    · rw [exposures, if_pos hv, ih, List.filter_cons_of_neg (by simpa using hv)]
    · have hhosts : (exposedHosts rule rule.hosts).map (Prod.map ruleView id) =
          ((ruleView rule).hosts.filter isExternal).map (ruleView rule, ·) := by
        rw [exposedHosts_eq, List.map_map]
        rfl
      rw [exposures, if_neg hv, List.map_append, hhosts, ih,
        List.filter_cons_of_pos (by simpa using hv), List.map_cons, shownHosts, shownHosts,
        List.flatMap_cons]

section Alike

variable {i j : Ingress} (h : view i = view j)
include h

theorem disabled_congr : Disabled i ↔ Disabled j := by
  have ha : i.metadata.annotationTable = j.metadata.annotationTable := congrArg View.annotations h
  rw [Disabled, Disabled, ha]

theorem resolveBackend_congr : resolveBackend i = resolveBackend j := by
  have hd : (publicEndpoints i).map (·.domainInternal) =
      (publicEndpoints j).map (·.domainInternal) :=
    congrArg View.domains h
  have hb : (publicEndpoints i).filterMap (fun e => Backend.ofDomain? e.domainInternal) =
      (publicEndpoints j).filterMap (fun e => Backend.ofDomain? e.domainInternal) := by
    have hm := congrArg (List.filterMap Backend.ofDomain?) hd
    rwa [List.filterMap_map, List.filterMap_map] at hm
  rw [resolveBackend, resolveBackend, hb]

theorem exposures_alike :
    List.Forall₂ (fun p q => ruleView p.1 = ruleView q.1 ∧ p.2 = q.2)
      (exposures i.spec.rules) (exposures j.spec.rules) := by
  have hr : (view i).rules = (view j).rules := congrArg View.rules h
  have hm : (exposures i.spec.rules).map (Prod.map ruleView id) =
      (exposures j.spec.rules).map (Prod.map ruleView id) := by
    rw [map_exposures, map_exposures]
    exact congrArg shownHosts hr
  rw [← List.forall₂_eq_eq_eq, List.forall₂_map_left_iff, List.forall₂_map_right_iff] at hm
  exact hm.imp fun p q hpq => Prod.mk.inj hpq

namespace Factory

variable (f : Factory)

omit h in
theorem ruleTimeout_congr {rule rule' : Ingress.Rule} (hr : ruleView rule = ruleView rule') :
    f.ruleTimeout rule = f.ruleTimeout rule' := by
  have ht : (rulePaths rule).map (·.timeout) = (rulePaths rule').map (·.timeout) :=
    congrArg RuleView.timeouts hr
  have hp : (rulePaths rule).map f.pathTimeout = (rulePaths rule').map f.pathTimeout := by
    have hm := congrArg
      (List.map fun t : Option Duration => (t.map Duration.annotation).getD f.defaultTimeout) ht
    rw [List.map_map, List.map_map] at hm
    rwa [funext f.pathTimeout_eq]
  rw [ruleTimeout, ruleTimeout, hp]

theorem routeTo_congr {rule rule' : Ingress.Rule} (hr : ruleView rule = ruleView rule')
    (host : String) (b : Backend) : f.routeTo i host rule b = f.routeTo j host rule' b := by
  have hann : i.metadata.annotationTable = j.metadata.annotationTable := congrArg View.annotations h
  have hlab : i.metadata.labelTable = j.metadata.labelTable := congrArg View.labels h
  have hname : i.metadata.anyName = j.metadata.anyName := congrArg View.name h
  have howner : i.metadata.uid.getD "" = j.metadata.uid.getD "" := congrArg View.owner h
  rw [routeTo, routeTo, annotations, annotations, f.ruleTimeout_congr hr, hann, hlab, hname, howner]

theorem map_routeTo_congr (b : Backend) :
    (exposures i.spec.rules).map (fun p => f.routeTo i p.2 p.1 b) =
      (exposures j.spec.rules).map (fun p => f.routeTo j p.2 p.1 b) := by
  rw [← List.forall₂_eq_eq_eq, List.forall₂_map_left_iff, List.forall₂_map_right_iff]
  refine (exposures_alike h).imp fun p q hpq => ?_
  obtain ⟨hrule, hhost⟩ := hpq
  rw [hhost]
  exact f.routeTo_congr h hrule q.2 b

theorem result_congr : (f.makeRoutes i).result = (f.makeRoutes j).result := by
  by_cases hd : Disabled i
  · have hd' := (disabled_congr h).1 hd
    rw [f.makeRoutes_of_disabled i hd, f.makeRoutes_of_disabled j hd']
  · have hd' : ¬ Disabled j := fun hj => hd ((disabled_congr h).2 hj)
    have hback := resolveBackend_congr h
    cases hb : resolveBackend j with
    | some b =>
      rw [f.makeRoutes_of_resolved i hd (hback.trans hb), f.makeRoutes_of_resolved j hd' hb,
        f.map_routeTo_congr h]
    | none =>
      have hlen := (exposures_alike h).length_eq
      by_cases hne : exposures i.spec.rules = []
      · have hne' : exposures j.spec.rules = [] := by
          rw [hne] at hlen
          exact List.length_eq_zero_iff.1 hlen.symm
        rw [makeRoutes_result, makeRoutes_result, hne, hne']
        rfl
      · have hne' : exposures j.spec.rules ≠ [] := fun he => by
          rw [he] at hlen
          exact hne (List.length_eq_zero_iff.1 hlen)
        rw [f.makeRoutes_of_unresolved i hd (hback.trans hb) hne,
          f.makeRoutes_of_unresolved j hd' hb hne']

end Factory

end Alike

def RuleView.skeleton (v : RuleView) : Ingress.Rule :=
  ⟨v.hosts, .external, some ⟨v.timeouts.map fun t => ⟨none, none, .empty, [], .empty, t⟩⟩⟩

/-- An ingress that has what a view shows and nothing else. -/
def View.skeleton (v : View) : Ingress where
  metadata :=
    { annotations := some v.annotations, labels := some v.labels, name := some v.name,
      uid := some v.owner }
  spec := ⟨v.rules.map RuleView.skeleton, none⟩
  status := some ⟨none, [], some ⟨v.domains.map fun d => ⟨"", "", d, false⟩⟩, none⟩

theorem ruleView_skeleton (v : RuleView) : ruleView v.skeleton = v := by
  have ht : ∀ ts : List (Option Duration),
      (ts.map fun t => (⟨none, none, .empty, [], .empty, t⟩ : Ingress.Path)).map (·.timeout) =
        ts := by
    intro ts
    rw [List.map_map]
    exact List.map_id ts
  exact congrArg (RuleView.mk v.hosts) (ht v.timeouts)

theorem view_skeleton (v : View) : view v.skeleton = v := by
  have hrules :
      ((v.rules.map RuleView.skeleton).filter (·.visibility ≠ .clusterLocal)).map ruleView =
      v.rules := by
    have hall : (v.rules.map RuleView.skeleton).filter (·.visibility ≠ .clusterLocal) =
        v.rules.map RuleView.skeleton := by
      rw [List.filter_eq_self]
      intro rule hrule
      obtain ⟨w, -, rfl⟩ := List.mem_map.1 hrule
      rfl
    have hid : ruleView ∘ RuleView.skeleton = id := funext ruleView_skeleton
    rw [hall, List.map_map, hid, List.map_id]
  have hdomains : (v.domains.map fun d => (⟨"", "", d, false⟩ : Ingress.Endpoint)).map
      (·.domainInternal) = v.domains := by
    rw [List.map_map]
    exact List.map_id v.domains
  show View.mk v.annotations v.labels v.name v.owner _ _ = v
  rw [View.skeleton, hrules]
  exact congrArg (View.mk v.annotations v.labels v.name v.owner v.rules) hdomains

/-- Ingresses that look alike have the same routes, or fail alike; so whatever an ingress does not
show can be taken away from it. -/
theorem makeRoutes_eq_of_view_eq (f : Factory) :
    (∀ i j : Ingress, view i = view j → (f.makeRoutes i).result = (f.makeRoutes j).result) ∧
    ∀ i : Ingress, (f.makeRoutes i).result = (f.makeRoutes (view i).skeleton).result :=
  ⟨fun _ _ h => f.result_congr h, fun i => f.result_congr (view_skeleton (view i)).symm⟩

def timedPath (service : String) : Ingress.Path :=
  ⟨some ("/" ++ service), none, .empty, [⟨"demo", service, .number 80, 100, .empty⟩], .empty,
    some (.ofSeconds 30 (by decide))⟩

def timedIngress : Ingress :=
  { mixedIngress with
    spec := ⟨[⟨["b.example.com"], .external, some ⟨[timedPath "front"]⟩⟩,
      ⟨["c.example.com"], .external, none⟩], none⟩ }

/-- `timedIngress` with everything changed that it does not show: the path leads elsewhere, rules of
the cluster stand around the others, and the load balancers have addresses. -/
def disguisedIngress : Ingress where
  metadata :=
    { annotations := some .empty, generateName := some "hello-", generation := some 7,
      inNamespace := some "demo", labels := some .empty, name := some "hello",
      uid := some "abc123" }
  spec := ⟨[⟨["secret.example.com"], .clusterLocal, some ⟨[timedPath "vault"]⟩⟩,
    ⟨["b.example.com"], .external, some ⟨[timedPath "back"]⟩⟩,
    ⟨["d.example.com", "e.example.com"], .clusterLocal, none⟩,
    ⟨["c.example.com"], .external, some ⟨[]⟩⟩], some .redirected⟩
  status := some ⟨some 3, [⟨"Ready", "True", none, none, none, none⟩],
    some ⟨[⟨"10.0.0.1", "lb.example.com", "kourier.ns.svc.cluster.local", true⟩]⟩,
    some ⟨[⟨"", "", "private.ns.svc.cluster.local", false⟩]⟩⟩

theorem makeRoutes_disguisedIngress :
    view timedIngress = view disguisedIngress ∧
      ((Factory.mk "600s").makeRoutes timedIngress).result =
        ((Factory.mk "600s").makeRoutes disguisedIngress).result := by
  have hview : view timedIngress = view disguisedIngress := rfl
  exact ⟨hview, (makeRoutes_eq_of_view_eq ⟨"600s"⟩).1 timedIngress disguisedIngress hview⟩

end EdgeRoutes.Routing
