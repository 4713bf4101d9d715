import EdgeRoutes.Resource.Definition
import EdgeRoutes.Resource.Metadata

namespace EdgeRoutes

namespace Ingress

structure HeaderMatch where
  exact : String
deriving DecidableEq

structure Split where
  serviceNamespace : String
  serviceName : String
  servicePort : Port
  percent : Int
  appendHeaders : Table String
deriving DecidableEq

structure Path where
  path : Option String
  hostOverride : Option String
  headers : Table HeaderMatch
  splits : List Split
  appendHeaders : Table String
  timeout : Option Duration
deriving DecidableEq

structure Http where
  paths : List Path
deriving DecidableEq

inductive Visibility where
  | external
  | clusterLocal
deriving DecidableEq

structure Rule where
  hosts : List String
  visibility : Visibility
  http : Option Http
deriving DecidableEq

inductive HttpOption where
  | enabled
  | redirected
deriving DecidableEq

structure Spec where
  rules : List Rule
  httpOption : Option HttpOption
deriving DecidableEq

structure Condition where
  type : String
  status : String
  severity : Option String
  lastTransitionTime : Option Timestamp
  reason : Option String
  message : Option String
deriving DecidableEq

structure Endpoint where
  ip : String
  domain : String
  domainInternal : String
  meshOnly : Bool
deriving DecidableEq

structure LoadBalancer where
  endpoints : List Endpoint
deriving DecidableEq

structure Status where
  observedGeneration : Option Int
  conditions : List Condition
  publicLoadBalancer : Option LoadBalancer
  privateLoadBalancer : Option LoadBalancer
deriving DecidableEq

end Ingress

structure Ingress where
  metadata : Metadata
  spec : Ingress.Spec
  status : Option Ingress.Status
deriving BEq

namespace Ingress

/-- A field that is left out when the list in it is empty. -/
def listSlot {α : Type} (c : Codec α) : Slot (List α) := .hidden (.list c) [] List.isEmpty

def tableSlot {α : Type} (c : Codec α) : Slot (Table α) := .hidden (.table c) .empty Table.isEmpty

def textSlot : Slot String := .hidden .text "" (· = "")

def HeaderMatch.codec : Codec HeaderMatch :=
  .record "HeaderMatch" <| (Fields.build HeaderMatch.mk)
    |>.field "exact" HeaderMatch.exact (.required .text)

def Split.codec : Codec Split :=
  .record "IngressBackendSplit" <| (Fields.build Split.mk)
    |>.field "serviceNamespace" Split.serviceNamespace (.required .text)
    |>.field "serviceName" Split.serviceName (.required .text)
    |>.field "servicePort" Split.servicePort (.required .port)
    |>.field "percent" Split.percent (.shown (.integer .i32 "int32") 0)
    |>.field "appendHeaders" Split.appendHeaders (tableSlot .text)

def Path.fields : Fields Path Path :=
  (Fields.build Path.mk)
    |>.field "path" Path.path (.optional .text)
    |>.field "rewriteHost" Path.hostOverride (.optional .text)
    |>.field "headers" Path.headers (tableSlot HeaderMatch.codec)
    |>.field "splits" Path.splits (listSlot Split.codec)
    |>.field "appendHeaders" Path.appendHeaders (tableSlot .text)
    |>.field "timeout" Path.timeout (Slot.optional .duration |>.described
      "Superseded by the revision timeout, still honoured when translating to routes.")

def Path.codec : Codec Path := .record "HttpIngressPath" Path.fields

def Http.fields : Fields Http Http :=
  (Fields.build Http.mk)
    |>.field "paths" Http.paths (.shown (.list Path.codec) [])

def Http.codec : Codec Http := .record "HttpIngressRuleValue" Http.fields

def Visibility.name : Visibility → String
  | .external => "ExternalIP"
  | .clusterLocal => "ClusterLocal"

def Visibility.codec : Codec Visibility :=
  .choice ([Visibility.external, .clusterLocal].map fun v => (v.name, v)) Visibility.name

def Rule.fields : Fields Rule Rule :=
  (Fields.build Rule.mk)
    |>.field "hosts" Rule.hosts (listSlot .text)
    |>.field "visibility" Rule.visibility (.shown Visibility.codec .external)
    |>.field "http" Rule.http (.optional Http.codec)

def Rule.codec : Codec Rule := .record "IngressRule" Rule.fields

def HttpOption.name : HttpOption → String
  | .enabled => "Enabled"
  | .redirected => "Redirected"

def HttpOption.codec : Codec HttpOption :=
  .choice ([HttpOption.enabled, .redirected].map fun o => (o.name, o)) HttpOption.name

def Spec.fields : Fields Spec Spec :=
  (Fields.build Spec.mk)
    |>.field "rules" Spec.rules (listSlot Rule.codec)
    |>.field "httpOption" Spec.httpOption (.optional HttpOption.codec)

def Spec.codec : Codec Spec :=
  .described "Knative's provider-neutral description of the virtual hosts served for a revision." <|
    .record "IngressSpec" Spec.fields

def Condition.codec : Codec Condition :=
  .record "IngressCondition" <| (Fields.build Condition.mk)
    |>.field "type" Condition.type (.required .text)
    |>.field "status" Condition.status (.required .text)
    |>.field "severity" Condition.severity (.optional .text)
    |>.field "lastTransitionTime" Condition.lastTransitionTime (.optional .timestamp)
    |>.field "reason" Condition.reason (.optional .text)
    |>.field "message" Condition.message (.optional .text)

def Endpoint.codec : Codec Endpoint :=
  .record "LoadBalancerIngressStatus" <| (Fields.build Endpoint.mk)
    |>.field "ip" Endpoint.ip textSlot
    |>.field "domain" Endpoint.domain textSlot
    |>.field "domainInternal" Endpoint.domainInternal (textSlot.described
      "In-cluster DNS name of the load balancer, `<service>.<namespace>.svc.<cluster domain>`.")
    |>.field "meshOnly" Endpoint.meshOnly (.hidden .boolean false (!·))

def LoadBalancer.codec : Codec LoadBalancer :=
  .record "LoadBalancerStatus" <| (Fields.build LoadBalancer.mk)
    |>.field "ingress" LoadBalancer.endpoints (listSlot Endpoint.codec)

def Status.codec : Codec Status :=
  .record "IngressStatus" <| (Fields.build Status.mk)
    |>.field "observedGeneration" Status.observedGeneration (.optional (.integer .i64 "int64"))
    |>.field "conditions" Status.conditions (listSlot Condition.codec)
    |>.field "publicLoadBalancer" Status.publicLoadBalancer (.optional LoadBalancer.codec)
    |>.field "privateLoadBalancer" Status.privateLoadBalancer (.optional LoadBalancer.codec)

def kind : ResourceKind where
  group := "networking.internal.knative.dev"
  version := "v1alpha1"
  kind := "Ingress"
  plural := "ingresses"
  description := "Ingress is a collection of rules that allow inbound connections to reach the " ++
    "endpoints defined by a backend"

def fields : Fields Ingress Ingress :=
  (Fields.build Ingress.mk)
    |>.field "metadata" Ingress.metadata (.required Metadata.codec)
    |>.field "spec" Ingress.spec (.required Spec.codec)
    |>.field "status" Ingress.status (.optionalInMap Status.codec)

def codec : Codec Ingress := kind.codec (.record "Ingress" fields)

def definition : Json := kind.definition Spec.codec.schema (some Status.codec.schema)

def named (name : String) (spec : Spec) : Ingress := ⟨{ name := some name }, spec, none⟩

end Ingress

end EdgeRoutes
