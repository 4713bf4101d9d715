import EdgeRoutes.Resource.Definition
import EdgeRoutes.Resource.Metadata

namespace EdgeRoutes

namespace Route

structure Target where
  kind : String
  name : String
  weight : Option Int
deriving DecidableEq

structure PortRef where
  targetPort : Port
deriving DecidableEq

inductive Termination where
  | edge
  | passthrough
  | reencrypt
deriving DecidableEq

inductive InsecurePolicy where
  | allow
  | disallow
  | redirect
deriving DecidableEq

structure Tls where
  termination : Termination
  insecurePolicy : Option InsecurePolicy
deriving DecidableEq

inductive WildcardPolicy where
  | none
  | subdomain
deriving DecidableEq

structure Spec where
  host : Option String
  path : Option String
  target : Target
  alternateBackends : List Target
  port : Option PortRef
  tls : Option Tls
  wildcardPolicy : Option WildcardPolicy
deriving DecidableEq

end Route

structure Route where
  metadata : Metadata
  spec : Route.Spec
deriving BEq

namespace Route

def Target.codec : Codec Target :=
  .record "RouteTargetReference" <| (Fields.build Target.mk)
    |>.field "kind" Target.kind (.required .text)
    |>.field "name" Target.name (.required .text)
    |>.field "weight" Target.weight (.optional (.integer .i32 "int32"))

def PortRef.codec : Codec PortRef :=
  .record "RoutePort" <| (Fields.build PortRef.mk)
    |>.field "targetPort" PortRef.targetPort (.required .port)

def Termination.name : Termination → String
  | .edge => "edge"
  | .passthrough => "passthrough"
  | .reencrypt => "reencrypt"

def Termination.codec : Codec Termination :=
  .choice ([Termination.edge, .passthrough, .reencrypt].map fun t => (t.name, t)) Termination.name

def InsecurePolicy.name : InsecurePolicy → String
  | .allow => "Allow"
  | .disallow => "None"
  | .redirect => "Redirect"

def InsecurePolicy.codec : Codec InsecurePolicy :=
  .described "What the router does with plain HTTP traffic for a TLS route." <|
    .choice ([InsecurePolicy.allow, .disallow, .redirect].map fun p => (p.name, p))
      InsecurePolicy.name

def Tls.codec : Codec Tls :=
  .record "TlsConfig" <| (Fields.build Tls.mk)
    |>.field "termination" Tls.termination (.required Termination.codec)
    |>.field "insecureEdgeTerminationPolicy" Tls.insecurePolicy (.optional InsecurePolicy.codec)

def WildcardPolicy.name : WildcardPolicy → String
  | .none => "None"
  | .subdomain => "Subdomain"

def WildcardPolicy.codec : Codec WildcardPolicy :=
  .choice ([WildcardPolicy.none, .subdomain].map fun p => (p.name, p)) WildcardPolicy.name

def Spec.codec : Codec Spec :=
  .described "OpenShift Route: exposes one host through the cluster's edge router." <|
    .record "RouteSpec" <| (Fields.build Spec.mk)
      |>.field "host" Spec.host (.optional .text)
      |>.field "path" Spec.path (.optional .text)
      |>.field "to" Spec.target (.required Target.codec)
      |>.field "alternateBackends" Spec.alternateBackends
        (.hidden (.list Target.codec) [] List.isEmpty)
      |>.field "port" Spec.port (.optional PortRef.codec)
      |>.field "tls" Spec.tls (.optional Tls.codec)
      |>.field "wildcardPolicy" Spec.wildcardPolicy (.optional WildcardPolicy.codec)

def kind : ResourceKind where
  group := "route.openshift.io"
  version := "v1"
  kind := "Route"
  plural := "routes"
  description := "A route allows developers to expose services through an HTTP(S) aware load " ++
    "balancing and proxy layer via a public DNS entry"

def codec : Codec Route :=
  kind.codec <| .record "Route" <| (Fields.build Route.mk)
    |>.field "metadata" Route.metadata (.required Metadata.codec)
    |>.field "spec" Route.spec (.required Spec.codec)

def definition : Json := kind.definition Spec.codec.schema none

def named (name : String) (spec : Spec) : Route := ⟨{ name := some name }, spec⟩

end Route

end EdgeRoutes
