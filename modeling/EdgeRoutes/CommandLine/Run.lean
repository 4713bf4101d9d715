import EdgeRoutes.CommandLine.Arguments
import EdgeRoutes.Routing.RouteSet
import EdgeRoutes.Yaml.Document
import EdgeRoutes.Yaml.Printer

namespace EdgeRoutes.CommandLine

open Routing (Factory RouteError)

inductive Failure where
  | usage
  | unreadableFile
  | unfitDocument
  /-- A document holds a duration out of range. -/
  | outOfRange
  | configuration (fault : Configuration.Fault)
  | routing (error : RouteError)
deriving DecidableEq, Repr

def Failure.exitCode : Failure → Nat
  | usage => 2
  | outOfRange => 101
  | _ => 1

inductive Notice where
  | routing (event : Routing.Event)
  | writing (route : ResourceKey)
  | noRoutes (ingress : ResourceKey) (error : RouteError)
  | invalidConfiguration (fault : Configuration.Fault)
  | routingFailed (error : RouteError)
deriving DecidableEq, Repr

namespace Notice

def level : Notice → Level
  | routing event => event.level
  | writing _ => .info
  | _ => .warn

def message : Notice → String
  | routing event => event.message
  | writing route => "Writing " ++ route.text
  | noRoutes ingress error =>
    "Can't generate routes for " ++ ingress.text ++ " " ++ error.message ++ " retryable = " ++
      (if error.isRetryable then "true" else "false")
  | invalidConfiguration fault => "routegen failed " ++ fault.message
  | routingFailed error => "routegen failed " ++ error.message

end Notice

/-- What is recorded when a run has failed. What is wrong with a file is not recorded. -/
def Failure.notices : Failure → List Notice
  | configuration fault => [.invalidConfiguration fault]
  | routing error => [.routingFailed error]
  | _ => []

/-- What was printed and recorded on the way, and what came of it. -/
structure Outcome (α : Type) where
  output : String
  log : List Notice
  result : Except Failure α

namespace Outcome

variable {α : Type}

def ofExcept (result : Except Failure α) : Outcome α := ⟨"", [], result⟩

def print (text : String) : Outcome Unit := ⟨text, [], .ok ()⟩

-- A failure does not take back what was printed before it.
instance : Monad Outcome where
  pure a := ofExcept (.ok a)
  bind o next := match o.result with
    | .ok a => ⟨o.output ++ (next a).output, o.log ++ (next a).log, (next a).result⟩
    | .error e => ⟨o.output, o.log, .error e⟩

/-- The failure is recorded in the end, if there is one. -/
def reporting (o : Outcome α) : Outcome α :=
  match o.result with
  | .ok _ => o
  | .error e => { o with log := o.log ++ e.notices }

def exitCode (o : Outcome α) : Nat :=
  match o.result with
  | .ok _ => 0
  | .error e => e.exitCode

end Outcome

def readFile {α : Type} (c : Codec α) : Option String → Outcome α
  | none => .ofExcept (.error .unreadableFile)
  | some text => .ofExcept <| (c.ofYaml text).mapError fun
    | .unfit => .unfitDocument
    | .outOfRange => .outOfRange

def validate (c : Configuration) : Outcome Unit := .ofExcept (c.validate.mapError .configuration)

def makeRoutes (f : Factory) (i : Ingress) : Outcome (List Route) :=
  let made := f.makeRoutes i
  let events := made.events.map Notice.routing
  match made.result with
  | .ok routes => ⟨"", events, .ok routes⟩
  | .error e => ⟨"", events ++ [.noRoutes i.key e], .error (.routing e)⟩

def writeRoute (r : Route) : Outcome Unit :=
  ⟨"---\n" ++ Yaml.render (Route.codec.write r), [.writing r.key], .ok ()⟩

def writeRoutes : List Route → Outcome Unit
  | [] => pure ()
  | r :: rest => do
    writeRoute r
    writeRoutes rest

def runWith (c : Configuration) (ingress : Option String) : Outcome Unit := do
  validate c
  let i ← readFile Ingress.codec ingress
  let routes ← makeRoutes (.ofConfiguration c) i
  writeRoutes routes

def expose (configuration ingress : Option String) : Outcome Unit := do
  let c ← readFile Configuration.codec configuration
  (runWith c ingress).reporting

def helpText : String := "\n".intercalate [
  "Usage: routegen --with-config-file <WITH_CONFIG_FILE> --ingress-file <INGRESS_FILE>",
  "",
  "Options:",
  "      --with-config-file <WITH_CONFIG_FILE>",
  "          ",
  "      --ingress-file <INGRESS_FILE>",
  "          Knative Ingress manifest to translate into OpenShift routes",
  "  -h, --help",
  "          Print help",
  "  -V, --version",
  "          Print version",
  ""]

def versionText : String := "routegen 0.1.0\n"

/-- The run with a list of arguments, and the text of a file by its path. -/
def run (args : List String) (file : String → Option String) : Outcome Unit :=
  match Request.ofArguments args with
  | none => .ofExcept (.error .usage)
  | some .help => .print helpText
  | some .version => .print versionText
  | some (.expose files) => expose (file files.configuration) (file files.ingress)

end EdgeRoutes.CommandLine
