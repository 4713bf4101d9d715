import EdgeRoutes.Codec.Record
import EdgeRoutes.Duration.Basic

namespace EdgeRoutes

structure Configuration where
  controllerName : String
  enableOpenTelemetry : Option Bool
  /-- The timeout in seconds of paths without one of their own. -/
  defaultTimeoutSeconds : UInt64
deriving DecidableEq

namespace Configuration

/-- The upper bound of a request to a revision, in seconds, unless it is configured. -/
def usualTimeoutSeconds : UInt64 := 600

def codec : Codec Configuration :=
  .record "Configuration" <| (Fields.build Configuration.mk)
    |>.field "controller_name" Configuration.controllerName (.required .text)
    |>.field "enable_open_telemetry" Configuration.enableOpenTelemetry (.optional .boolean)
    |>.field "default_max_revision_timeout_seconds" Configuration.defaultTimeoutSeconds
      (.shown .word usualTimeoutSeconds)

inductive Fault where
  | controllerName
  | timeout
deriving DecidableEq, Repr

def Fault.message : Fault → String
  | .controllerName => "controller name must be not empty"
  | .timeout => "default max revision timeout must be greater than zero"

def validate (c : Configuration) : Except Fault Unit :=
  if c.controllerName = "" then .error .controllerName
  else if c.defaultTimeoutSeconds = 0 then .error .timeout
  else .ok ()

def defaultTimeout (c : Configuration) : Duration :=
  .ofSeconds c.defaultTimeoutSeconds.toNat c.defaultTimeoutSeconds.toNat_lt

end Configuration

end EdgeRoutes
