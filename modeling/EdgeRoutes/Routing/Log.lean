import EdgeRoutes.Resource.Key
import EdgeRoutes.Routing.Host

namespace EdgeRoutes

inductive Level where
  | debug
  | info
  | warn
deriving DecidableEq, Repr

def Level.name : Level → String
  | .debug => "DEBUG"
  | .info => "INFO"
  | .warn => "WARN"

namespace Routing

def timeoutAnnotation : String := "haproxy.router.openshift.io/timeout"
def disableAnnotation : String := "serving.knative.openshift.io/disableRoute"
def ingressLabel : String := "networking.internal.knative.dev/ingress"

inductive Event where
  | clusterLocalHost (host : String)
  | disabledHost (host : String)
  | conflictingTimeouts (host timeout : String)
  | routed (name host : String) (backend : Backend)
  | generated (count : Nat) (key : ResourceKey)
deriving DecidableEq, Repr

namespace Event

def level : Event → Level
  | clusterLocalHost _ | disabledHost _ | routed .. => .debug
  | conflictingTimeouts .. => .warn
  | generated .. => .info

def message : Event → String
  | clusterLocalHost host => s!"Skipping cluster-local host {host}"
  | disabledHost host => s!"Skipping host {host}, routes disabled by {disableAnnotation}"
  | conflictingTimeouts host timeout =>
    s!"Host {host} has paths with different timeouts, using {timeout} from the last path"
  | routed name host backend =>
    s!"Route {name} for host {host} -> {backend.inNamespace}/{backend.name}"
  | generated count key => "Generated " ++ Numeral.text count ++ " routes for " ++ key.text

end Event

structure Logged (α : Type) where
  result : α
  events : List Event

end Routing

end EdgeRoutes
