import EdgeRoutes.Configuration
import EdgeRoutes.Routing.Log
import EdgeRoutes.Routing.Name

namespace EdgeRoutes.Routing

def targetPort : String := "http2"
def targetKind : String := "Service"
def targetWeight : Int := 100

inductive RouteError where
  | noValidLoadBalancerDomain
deriving DecidableEq, Repr

namespace RouteError

def message : RouteError → String
  | noValidLoadBalancerDomain => "unable to find Ingress LoadBalancer with DomainInternal set"

/-- A later report of the load balancers may mend the error. -/
def isRetryable : RouteError → Bool
  | noValidLoadBalancerDomain => true

end RouteError

def publicEndpoints (i : Ingress) : List Ingress.Endpoint :=
  match i.status with
  | some s => match s.publicLoadBalancer with
    | some lb => lb.endpoints
    | none => []
  | none => []

/-- The service that the last public endpoint with the domain of a service names, if completely. -/
def resolveBackend (i : Ingress) : Option Backend :=
  ((publicEndpoints i).filterMap fun e => Backend.ofDomain? e.domainInternal).getLast?.filter
    fun b => b.name ≠ "" && b.inNamespace ≠ ""

def rulePaths (rule : Ingress.Rule) : List Ingress.Path :=
  match rule.http with
  | some http => http.paths
  | none => []

structure Factory where
  /-- The annotation of paths without a timeout of their own. -/
  defaultTimeout : String
deriving DecidableEq, Repr

namespace Factory

def ofDefault (d : Duration) : Factory := ⟨d.annotation⟩

def ofConfiguration (c : Configuration) : Factory := ofDefault c.defaultTimeout

def pathTimeout (f : Factory) (p : Ingress.Path) : String :=
  match p.timeout with
  | some d => d.annotation
  | none => f.defaultTimeout

theorem pathTimeout_eq (f : Factory) (p : Ingress.Path) :
    f.pathTimeout p = (p.timeout.map Duration.annotation).getD f.defaultTimeout := by
  unfold pathTimeout
  cases p.timeout <;> rfl

/-- A route has one timeout, and the last path decides it. -/
def ruleTimeout (f : Factory) (rule : Ingress.Rule) : Option String :=
  ((rulePaths rule).map f.pathTimeout).getLast?

def conflicts (f : Factory) (rule : Ingress.Rule) (host : String) : List Event :=
  match f.ruleTimeout rule with
  | some timeout =>
    if (rulePaths rule).any (f.pathTimeout · != timeout) then [.conflictingTimeouts host timeout]
    else []
  | none => []

def annotations (f : Factory) (i : Ingress) (rule : Ingress.Rule) : Table String :=
  match f.ruleTimeout rule with
  | some timeout => i.metadata.annotationTable.insert timeoutAnnotation timeout
  | none => i.metadata.annotationTable

def routeSpec (host : String) (backend : Backend) : Route.Spec where
  host := some host
  path := none
  target := ⟨targetKind, backend.name, some targetWeight⟩
  alternateBackends := []
  port := some ⟨.name targetPort⟩
  tls := some ⟨.edge, some .allow⟩
  wildcardPolicy := some .none

def routeTo (f : Factory) (i : Ingress) (host : String) (rule : Ingress.Rule) (backend : Backend) :
    Route where
  metadata :=
    { name := some (routeName (i.metadata.uid.getD "") host)
      inNamespace := some backend.inNamespace
      labels := some (i.metadata.labelTable.insert ingressLabel i.metadata.anyName)
      annotations := some (f.annotations i rule) }
  spec := routeSpec host backend

/-- The route that exposes a host of a rule. There is none if the rule is cluster-local or the
ingress is annotated to have no routes. -/
def makeRoute (f : Factory) (i : Ingress) (host : String) (rule : Ingress.Rule) :
    Logged (Except RouteError (Option Route)) :=
  if rule.visibility = .clusterLocal then ⟨.ok none, [.clusterLocalHost host]⟩
  else if i.metadata.annotationTable.contains disableAnnotation then
    ⟨.ok none, [.disabledHost host]⟩
  else match resolveBackend i with
    | none => ⟨.error .noValidLoadBalancerDomain, f.conflicts rule host⟩
    | some backend =>
      ⟨.ok (some (f.routeTo i host rule backend)),
        f.conflicts rule host ++ [.routed (routeName (i.metadata.uid.getD "") host) host backend]⟩

end Factory

end EdgeRoutes.Routing
