import EdgeRoutes.Proofs.Routing.RouteSet
import Mathlib.Data.List.Induction

/-!
Where the routes of an ingress lead to. A scan of the public endpoints keeps the service that the
last domain of a service names, and only when the scan is over is it asked whether both parts of the
service are given.
-/

namespace EdgeRoutes

/-- The domain of a service has three segments or more, and the third is `svc`. -/
def HasServiceForm (domain : String) : Prop :=
  3 ≤ (Text.split '.' domain).length ∧ (Text.split '.' domain)[2]? = some "svc"

instance : DecidablePred HasServiceForm := fun _ => inferInstanceAs (Decidable (_ ∧ _))

namespace Backend

def unknown : Backend := ⟨"", ""⟩

def ofSegments (domain : String) : Backend :=
  ⟨(Text.split '.' domain)[0]?.getD "", (Text.split '.' domain)[1]?.getD ""⟩

def IsComplete (b : Backend) : Prop := b.name ≠ "" ∧ b.inNamespace ≠ ""

instance : DecidablePred IsComplete := fun _ => inferInstanceAs (Decidable (_ ∧ _))

def IsDotless (b : Backend) : Prop := '.' ∉ b.name.toList ∧ '.' ∉ b.inNamespace.toList

theorem isDotless_ofSegments (domain : String) : (ofSegments domain).IsDotless := by
  have hsegment : ∀ n : Nat, '.' ∉ ((Text.split '.' domain)[n]?.getD "").toList := fun n => by
    cases h : (Text.split '.' domain)[n]? with
    | none => exact List.not_mem_nil
    | some part => exact Text.not_mem_of_mem_split (List.mem_of_getElem? h)
  exact ⟨hsegment 0, hsegment 1⟩

theorem ofDomain?_of_form {domain : String} (h : HasServiceForm domain) :
    ofDomain? domain = some (ofSegments domain) := by
  revert h
  unfold ofDomain? HasServiceForm ofSegments
  obtain _ | ⟨a, _ | ⟨b, _ | ⟨c, rest⟩⟩⟩ := Text.split '.' domain <;> simp

theorem ofDomain?_of_not_form {domain : String} (h : ¬ HasServiceForm domain) :
    ofDomain? domain = none := by
  revert h
  unfold ofDomain? HasServiceForm
  obtain _ | ⟨a, _ | ⟨b, _ | ⟨c, rest⟩⟩⟩ := Text.split '.' domain <;> simp

end Backend

namespace Routing

variable {e : Ingress.Endpoint} {es later : List Ingress.Endpoint}

/-- One more endpoint overwrites what is known, if it has the domain of a service. -/
def overwrite (b : Backend) (e : Ingress.Endpoint) : Backend :=
  if HasServiceForm e.domainInternal then Backend.ofSegments e.domainInternal else b

def scan (es : List Ingress.Endpoint) : Backend := es.foldl overwrite .unknown

theorem scan_concat (es : List Ingress.Endpoint) (e : Ingress.Endpoint) :
    scan (es ++ [e]) = overwrite (scan es) e := by
  rw [scan, List.foldl_append]
  rfl

theorem overwrite_isDotless {b : Backend} (h : b.IsDotless) (e : Ingress.Endpoint) :
    (overwrite b e).IsDotless := by
  unfold overwrite
  split
  · exact Backend.isDotless_ofSegments e.domainInternal
  · exact h

theorem scan_isDotless (es : List Ingress.Endpoint) : (scan es).IsDotless := by
  induction es using List.reverseRecOn with
  | nil => exact ⟨List.not_mem_nil, List.not_mem_nil⟩
  | append_singleton es e ih =>
    rw [scan_concat]
    exact overwrite_isDotless ih e

/-- Of the domains of services the scan keeps the last. -/
theorem scan_eq_getLast? (es : List Ingress.Endpoint) :
    scan es =
      ((es.filterMap fun e => Backend.ofDomain? e.domainInternal).getLast?).getD .unknown := by
  -- both sides are decided by the last endpoint, so the induction takes endpoints off the end
  induction es using List.reverseRecOn with
  | nil => rfl
  | append_singleton es e ih =>
    rw [scan_concat, overwrite, List.filterMap_append]
    by_cases h : HasServiceForm e.domainInternal
    · simp [h, Backend.ofDomain?_of_form h]
    · simp [h, Backend.ofDomain?_of_not_form h, ih]

theorem scan_filter (es : List Ingress.Endpoint) :
    scan (es.filter (HasServiceForm ·.domainInternal)) = scan es := by
  have hstep : (fun b (e : Ingress.Endpoint) =>
      if decide (HasServiceForm e.domainInternal) = true then overwrite b e else b) =
        overwrite := by
    funext b e
    by_cases h : HasServiceForm e.domainInternal <;> simp [overwrite, h]
  rw [scan, List.foldl_filter, hstep, scan]

theorem scan_of_last (he : HasServiceForm e.domainInternal)
    (hlater : ∀ l ∈ later, ¬ HasServiceForm l.domainInternal) :
    scan (es ++ e :: later) = Backend.ofSegments e.domainInternal := by
  have hrest : later.filter (HasServiceForm ·.domainInternal) = [] :=
    List.filter_eq_nil_iff.2 fun l hl => by simpa using hlater l hl
  rw [← scan_filter, List.filter_append, List.filter_cons_of_pos (by simpa using he), hrest,
    scan_concat, overwrite, if_pos he]

theorem resolveBackend_eq_scan (i : Ingress) :
    resolveBackend i =
      if (scan (publicEndpoints i)).IsComplete then some (scan (publicEndpoints i)) else none := by
  rw [resolveBackend, scan_eq_getLast?]
  cases ((publicEndpoints i).filterMap fun e => Backend.ofDomain? e.domainInternal).getLast? with
  | none => rfl
  | some b =>
    have hfilter : (b.name ≠ "" && b.inNamespace ≠ "") = decide b.IsComplete := by
      rw [Bool.eq_iff_iff, decide_eq_true_iff, Backend.IsComplete]
      simp
    rw [Option.getD_some, Option.filter_some, hfilter]
    simp only [decide_eq_true_eq]

theorem resolveBackend_of_scan {i : Ingress} (h : (scan (publicEndpoints i)).IsComplete) :
    resolveBackend i = some (scan (publicEndpoints i)) := by
  rw [resolveBackend_eq_scan, if_pos h]

theorem resolveBackend_spec {i : Ingress} {b : Backend} (h : resolveBackend i = some b) :
    b.IsComplete ∧ b.IsDotless := by
  rw [resolveBackend_eq_scan] at h
  split at h
  · next hcomplete =>
    cases h
    exact ⟨hcomplete, scan_isDotless _⟩
  · cases h

theorem resolveBackend_eq_none_iff (i : Ingress) :
    resolveBackend i = none ↔ ¬ (scan (publicEndpoints i)).IsComplete := by
  rw [resolveBackend_eq_scan]
  split <;> simp [*]

namespace Factory

variable (f : Factory) {i : Ingress} {rule : Ingress.Rule}

theorem makeRoute_error_iff (hv : rule.visibility ≠ .clusterLocal) (hd : ¬ Disabled i)
    (host : String) :
    (f.makeRoute i host rule).result = .error .noValidLoadBalancerDomain ↔
      ¬ (scan (publicEndpoints i)).IsComplete := by
  rw [← resolveBackend_eq_none_iff]
  refine ⟨fun h => ?_, fun hb => f.makeRoute_of_unresolved i hv hd hb host⟩
  cases hb : resolveBackend i with
  | none => rfl
  | some b =>
    rw [f.makeRoute_of_resolved i hv hd hb host] at h
    cases h

/-- A host that is not passed over has a route to what the scan of the public endpoints ends with,
and none if a part of that is missing. No endpoint before the last domain of a service helps, and
endpoints with other domains may stand anywhere. -/
theorem makeRoute_scans (f : Factory) (i : Ingress) (host : String) (rule : Ingress.Rule)
    (hv : rule.visibility ≠ .clusterLocal) (hd : ¬ Disabled i) :
    ((f.makeRoute i host rule).result = .error .noValidLoadBalancerDomain ↔
      (scan (publicEndpoints i)).name = "" ∨ (scan (publicEndpoints i)).inNamespace = "") ∧
    ((scan (publicEndpoints i)).name ≠ "" → (scan (publicEndpoints i)).inNamespace ≠ "" →
      ∃ r, (f.makeRoute i host rule).result = .ok (some r) ∧
        r.spec.target.name = (scan (publicEndpoints i)).name ∧
        r.metadata.inNamespace = some (scan (publicEndpoints i)).inNamespace) ∧
    ((∀ s ∈ i.status, s.publicLoadBalancer = none) →
      (f.makeRoute i host rule).result = .error .noValidLoadBalancerDomain) ∧
    (∀ es e later, publicEndpoints i = es ++ e :: later → HasServiceForm e.domainInternal →
      ¬ (Backend.ofSegments e.domainInternal).IsComplete →
      (∀ l ∈ later, ¬ HasServiceForm l.domainInternal) →
      (f.makeRoute i host rule).result = .error .noValidLoadBalancerDomain) ∧
    ∀ status, (publicEndpoints { i with status }).filter (HasServiceForm ·.domainInternal) =
        (publicEndpoints i).filter (HasServiceForm ·.domainInternal) →
      f.makeRoute { i with status } host rule = f.makeRoute i host rule := by
  refine ⟨?error, ?route, ?absent, ?last, ?others⟩
  case error =>
    rw [f.makeRoute_error_iff hv hd host, Backend.IsComplete, not_and_or, not_not, not_not]
  case route =>
    intro hname hnamespace
    have hb := resolveBackend_of_scan ⟨hname, hnamespace⟩
    exact ⟨_, f.makeRoute_of_resolved i hv hd hb host, rfl, rfl⟩
  case absent =>
    intro hs
    have hnil : publicEndpoints i = [] := by
      unfold publicEndpoints
      cases h : i.status with
      | none => rfl
      | some s => simp only [hs s h]
    rw [f.makeRoute_error_iff hv hd host, hnil]
    decide
  case last =>
    intro es e later hes he hincomplete hlater
    rwa [f.makeRoute_error_iff hv hd host, hes, scan_of_last he hlater]
  case others =>
    intro status hfilter
    -- of the status nothing but the backend shows in a route
    have hscan : scan (publicEndpoints { i with status }) = scan (publicEndpoints i) := by
      rw [← scan_filter, hfilter, scan_filter]
    have hb : resolveBackend { i with status } = resolveBackend i := by
      rw [resolveBackend_eq_scan, resolveBackend_eq_scan, hscan]
    unfold makeRoute
    rw [hb]
    rfl

end Factory

def statusOf (domains : List String) : Option Ingress.Status :=
  some ⟨none, [], some ⟨domains.map fun domain => ⟨"", "", domain, false⟩⟩, none⟩

/-- The first of three endpoints would do, but the second names a service without a name. -/
def strandedIngress : Ingress :=
  { mixedIngress with
    status := statusOf
      ["kourier.ns.svc.cluster.local", ".ns.svc.cluster.local", "kourier.example.com"] }

/-- The route of `mixedIngress` leads to its only endpoint. `strandedIngress` has no route, with or
without its last endpoint. -/
theorem makeRoute_strandedIngress :
    let f : Factory := ⟨"600s"⟩
    let rule : Ingress.Rule := ⟨["a.example.com"], .external, none⟩
    let domains := ["kourier.ns.svc.cluster.local", ".ns.svc.cluster.local"]
    (∃ r, (f.makeRoute mixedIngress "a.example.com" rule).result = .ok (some r) ∧
      r.spec.target.name = "kourier" ∧ r.metadata.inNamespace = some "ns") ∧
    (f.makeRoute strandedIngress "a.example.com" rule).result = .error .noValidLoadBalancerDomain ∧
    f.makeRoute { strandedIngress with status := statusOf domains } "a.example.com" rule =
      f.makeRoute strandedIngress "a.example.com" rule := by
  intro f rule domains
  have hv : rule.visibility ≠ .clusterLocal := by decide
  have hd : ¬ Disabled strandedIngress := mixedIngress_not_disabled
  obtain ⟨-, hroute, -⟩ :=
    Factory.makeRoute_scans f mixedIngress "a.example.com" rule hv mixedIngress_not_disabled
  obtain ⟨-, -, -, hlast, hothers⟩ :=
    Factory.makeRoute_scans f strandedIngress "a.example.com" rule hv hd
  exact ⟨hroute (by decide) (by decide), hlast [_] _ [_] rfl (by decide) (by decide) (by decide),
    hothers _ (by decide)⟩

end Routing

end EdgeRoutes
