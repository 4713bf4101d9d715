namespace EdgeRoutes.CommandLine

structure Files where
  configuration : String
  ingress : String
deriving DecidableEq, Repr

inductive Request where
  | expose (files : Files)
  | help
  | version
deriving DecidableEq, Repr

structure Given where
  configuration : Option String := none
  ingress : Option String := none

inductive Opt where
  | configuration
  | ingress

inductive Flag where
  | help
  | version

def Flag.request : Flag → Request
  | help => .help
  | version => .version

inductive Argument where
  | option (o : Opt)
  | assigned (o : Opt) (value : String)
  | flag (f : Flag)
  /-- Two hyphens, after which nothing else is an option. -/
  | separator
  | unknown

namespace Argument

def ofLongName (name : String) : Argument :=
  match name with
  | "with-config-file" => .option .configuration
  | "ingress-file" => .option .ingress
  | "help" => .flag .help
  | "version" => .flag .version
  | _ => .unknown

/-- An option with its value after an equals sign; a flag takes none. -/
def assign (value : String) : Argument → Argument
  | .option o => .assigned o value
  | _ => .unknown

/-- Of flags with one letter, which may be joined, the first counts. -/
def ofText (arg : String) : Argument :=
  match arg.toList with
  | ['-', '-'] => .separator
  | '-' :: '-' :: cs => match cs.dropWhile (· ≠ '=') with
    | '=' :: value =>
      (ofLongName (String.ofList (cs.takeWhile (· ≠ '=')))).assign (String.ofList value)
    | _ => ofLongName (String.ofList cs)
  | '-' :: 'h' :: _ => .flag .help
  | '-' :: 'V' :: _ => .flag .version
  | _ => .unknown

end Argument

/-- An argument that cannot be the value of the option before it. A hyphen alone can. -/
def isOptionLike (arg : String) : Bool :=
  match arg.toList with
  | '-' :: _ :: _ => true
  | _ => false

namespace Given

def put (g : Given) (o : Opt) (value : String) : Option Given :=
  match o, g with
  | .configuration, ⟨none, i⟩ => some ⟨some value, i⟩
  | .ingress, ⟨c, none⟩ => some ⟨c, some value⟩
  | _, _ => none

def request? (g : Given) : Option Request :=
  match g with
  | ⟨some configuration, some ingress⟩ => some (.expose ⟨configuration, ingress⟩)
  | _ => none

/-- The request of the arguments from here on. A flag is answered at once, whatever follows it. -/
def read (g : Given) : List String → Option Request
  | [] => g.request?
  | arg :: rest => match Argument.ofText arg with
    | .flag f => some f.request
    | .assigned o value => (g.put o value).bind fun g => g.read rest
    | .option o => match rest with
      | value :: rest =>
        if isOptionLike value then none else (g.put o value).bind fun g => g.read rest
      | [] => none
    | .separator => if rest.isEmpty then g.request? else none
    | .unknown => none

end Given

def Request.ofArguments (args : List String) : Option Request := ({} : Given).read args

end EdgeRoutes.CommandLine
