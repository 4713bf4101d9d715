import EdgeRoutes.Proofs.Routing.RouteSet

namespace EdgeRoutes.Routing

def warnings (host : String) (timeouts : List String) : List Event :=
  match timeouts.getLast? with
  | some timeout => if timeouts.any (· != timeout) then [.conflictingTimeouts host timeout] else []
  | none => []

theorem warnings_append_singleton (host : String) (earlier : List String) (timeout : String) :
    warnings host (earlier ++ [timeout]) =
      if ∃ other ∈ earlier, other ≠ timeout then [.conflictingTimeouts host timeout] else [] := by
  have hany : (earlier ++ [timeout]).any (· != timeout) = true ↔
      ∃ other ∈ earlier, other ≠ timeout := by
    simp [List.any_append]
  rw [warnings, List.getLast?_concat]
  by_cases h : ∃ other ∈ earlier, other ≠ timeout
  · rw [if_pos h]
    exact if_pos (hany.2 h)
  · rw [if_neg h]
    exact if_neg fun he => h (hany.1 he)

/-- The text of the timeout of a path where `d` is the default. -/
def effectiveText (d : Duration) (p : Ingress.Path) : String :=
  Duration.annotation (p.timeout.getD d)

def explicitPath (d : Duration) (p : Ingress.Path) : Ingress.Path :=
  { p with timeout := some (p.timeout.getD d) }

/-- The rule with the default written at each path that has no timeout. -/
def explicitRule (d : Duration) (rule : Ingress.Rule) : Ingress.Rule :=
  { rule with http := rule.http.map fun http => ⟨http.paths.map (explicitPath d)⟩ }

theorem rulePaths_explicitRule (d : Duration) (rule : Ingress.Rule) :
    rulePaths (explicitRule d rule) = (rulePaths rule).map (explicitPath d) := by
  cases h : rule.http <;> simp [rulePaths, explicitRule, h]

namespace Factory

theorem pathTimeout_ofDefault (d : Duration) (p : Ingress.Path) :
    (ofDefault d).pathTimeout p = effectiveText d p := by
  rw [pathTimeout_eq, effectiveText]
  cases p.timeout <;> rfl

theorem map_pathTimeout_ofDefault (d : Duration) (rule : Ingress.Rule) :
    (rulePaths rule).map (ofDefault d).pathTimeout = (rulePaths rule).map (effectiveText d) := by
  apply List.map_congr_left
  intro p _
  exact pathTimeout_ofDefault d p

theorem map_pathTimeout_explicitRule (f : Factory) (d : Duration) (rule : Ingress.Rule) :
    (rulePaths (explicitRule d rule)).map f.pathTimeout =
      (rulePaths rule).map (effectiveText d) := by
  rw [rulePaths_explicitRule, List.map_map]
  rfl

theorem conflicts_eq_warnings (f : Factory) (rule : Ingress.Rule) (host : String) :
    f.conflicts rule host = warnings host ((rulePaths rule).map f.pathTimeout) := by
  rw [conflicts, warnings, ruleTimeout]
  cases ((rulePaths rule).map f.pathTimeout).getLast? with
  | none => rfl
  | some timeout =>
    dsimp only
    rw [List.any_map]
    rfl

/-- Of a rule, only its visibility and the texts of the timeouts of its paths count. -/
theorem makeRoute_congr {f g : Factory} {rule rule' : Ingress.Rule}
    (hv : rule.visibility = rule'.visibility)
    (ht : (rulePaths rule).map f.pathTimeout = (rulePaths rule').map g.pathTimeout) (i : Ingress)
    (host : String) : f.makeRoute i host rule = g.makeRoute i host rule' := by
  have hlast : f.ruleTimeout rule = g.ruleTimeout rule' := congrArg List.getLast? ht
  have hconflicts : f.conflicts rule host = g.conflicts rule' host := by
    rw [conflicts_eq_warnings, conflicts_eq_warnings, ht]
  have hroute : ∀ b, f.routeTo i host rule b = g.routeTo i host rule' b := by
    intro b
    rw [routeTo, routeTo, annotations, annotations, hlast]
  simp only [makeRoute, hv, hconflicts, hroute]

/-- The warning comes before the backend is looked for, so it is there without a backend, too. -/
theorem events_makeRoute (f : Factory) {i : Ingress} {rule : Ingress.Rule}
    (hv : rule.visibility ≠ .clusterLocal) (hd : ¬ Disabled i) (host : String) :
    (f.makeRoute i host rule).events = f.conflicts rule host ++
      ((resolveBackend i).map (.routed (routeName (i.metadata.uid.getD "") host) host)).toList := by
  cases hb : resolveBackend i with
  | none =>
    rw [f.makeRoute_eq_of_unresolved i hv hd hb]
    exact (List.append_nil _).symm
  | some b =>
    rw [f.makeRoute_eq_of_resolved i hv hd hb]
    rfl

theorem conflicts_ofDefault_of_nil (d : Duration) {rule : Ingress.Rule} (h : rulePaths rule = [])
    (host : String) : (ofDefault d).conflicts rule host = [] := by
  rw [conflicts_eq_warnings, h]
  rfl

theorem conflicts_ofDefault (d : Duration) {rule : Ingress.Rule} {earlier : List Ingress.Path}
    {last : Ingress.Path} (h : rulePaths rule = earlier ++ [last]) (host : String) :
    (ofDefault d).conflicts rule host =
      if ∃ p ∈ earlier, effectiveText d p ≠ effectiveText d last then
        [.conflictingTimeouts host (effectiveText d last)]
      else [] := by
  rw [conflicts_eq_warnings, map_pathTimeout_ofDefault, h, List.map_append, List.map_singleton,
    warnings_append_singleton]
  simp only [List.mem_map, exists_exists_and_eq_and]

/-- It makes no difference whether a default is left to the factory or stands at the paths, and
where it stands there the factory may have any other. A host that is not skipped has a warning just
if an earlier path has another timeout than the last, whether or not there is a backend. -/
theorem makeRoute_explicitRule (d : Duration) (i : Ingress) (host : String) (rule : Ingress.Rule) :
    (ofDefault d).makeRoute i host (explicitRule d rule) = (ofDefault d).makeRoute i host rule ∧
    (∀ f : Factory, f.makeRoute i host (explicitRule d rule) =
      (ofDefault d).makeRoute i host (explicitRule d rule)) ∧
    ∀ given ∈ [rule, explicitRule d rule], given.visibility ≠ .clusterLocal → ¬ Disabled i →
      let routed := ((resolveBackend i).map
        (Event.routed (routeName (i.metadata.uid.getD "") host) host)).toList
      (rulePaths given = [] → ((ofDefault d).makeRoute i host given).events = routed) ∧
      ∀ earlier last, rulePaths given = earlier ++ [last] →
        ((ofDefault d).makeRoute i host given).events =
          (if ∃ p ∈ earlier, effectiveText d p ≠ effectiveText d last then
            [.conflictingTimeouts host (effectiveText d last)]
          else []) ++ routed := by
  have hexplicit : ∀ f : Factory, f.makeRoute i host (explicitRule d rule) =
      (ofDefault d).makeRoute i host rule := by
    intro f
    apply makeRoute_congr
    · rfl
    · rw [map_pathTimeout_explicitRule, map_pathTimeout_ofDefault]
  refine ⟨hexplicit _, fun f => (hexplicit f).trans (hexplicit _).symm, ?_⟩
  intro given _ hv hd routed
  constructor
  · intro hnil
    rw [events_makeRoute _ hv hd, conflicts_ofDefault_of_nil d hnil, List.nil_append]
  · intro earlier last hpaths
    rw [events_makeRoute _ hv hd, conflicts_ofDefault d hpaths]

end Factory

/-- Of two paths the last has no timeout, and the ingress has not been given a backend yet. -/
theorem makeRoute_pendingIngress :
    let d : Duration := .ofSeconds 600 (by decide)
    let path : Option Duration → Ingress.Path :=
      fun timeout => ⟨none, none, .empty, [], .empty, timeout⟩
    let early := path (some (.ofSeconds 30 (by decide)))
    let rule : Ingress.Rule := ⟨["a.example.com"], .external, some ⟨[early, path none]⟩⟩
    let i : Ingress := { mixedIngress with status := none }
    rule.visibility ≠ .clusterLocal ∧ ¬ Disabled i ∧ rulePaths rule = [early] ++ [path none] ∧
      ((Factory.ofDefault d).makeRoute i "a.example.com" rule).events =
        [.conflictingTimeouts "a.example.com" "600s"] := by
  intro d path early rule i
  have hv : rule.visibility ≠ .clusterLocal := by decide
  have hd : ¬ Disabled i := mixedIngress_not_disabled
  have hpaths : rulePaths rule = [early] ++ [path none] := rfl
  have hb : resolveBackend i = none := rfl
  have hlast : effectiveText d (path none) = "600s" := by decide +kernel
  have hother : effectiveText d early = "30s" := by decide +kernel
  obtain ⟨-, -, hevents⟩ := Factory.makeRoute_explicitRule d i "a.example.com" rule
  have h := (hevents rule (by simp) hv hd).2 _ _ hpaths
  rw [hb, if_pos ⟨early, by simp, by rw [hlast, hother]; decide⟩, hlast] at h
  exact ⟨hv, hd, hpaths, h⟩

end EdgeRoutes.Routing
