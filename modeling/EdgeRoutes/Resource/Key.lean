import EdgeRoutes.Resource.Ingress
import EdgeRoutes.Resource.Route

namespace EdgeRoutes

structure ResourceKey where
  inNamespace : String
  name : String
  kind : String
deriving DecidableEq, Repr

namespace ResourceKey

def defaultNamespace : String := "default"

def ofMetadata (m : Metadata) (kind : String) : ResourceKey :=
  ⟨m.inNamespace.getD defaultNamespace, m.anyName, kind⟩

def text (k : ResourceKey) : String := k.kind ++ "/" ++ k.inNamespace ++ "." ++ k.name

/-- Keys are ordered by namespace, then by name, then by kind. -/
def lt (a b : ResourceKey) : Bool :=
  a.inNamespace < b.inNamespace || (a.inNamespace = b.inNamespace &&
    (a.name < b.name || (a.name = b.name && a.kind < b.kind)))

def insertInto (k : ResourceKey) : List ResourceKey → List ResourceKey
  | [] => [k]
  | a :: rest =>
    if lt k a then k :: a :: rest else if k = a then a :: rest else a :: insertInto k rest

def sorted (ks : List ResourceKey) : List ResourceKey :=
  ks.foldl (fun done k => insertInto k done) []

end ResourceKey

def Ingress.key (i : Ingress) : ResourceKey := .ofMetadata i.metadata Ingress.kind.kind

def Route.key (r : Route) : ResourceKey := .ofMetadata r.metadata Route.kind.kind

end EdgeRoutes
