import EdgeRoutes.Text.Segments

/-!
Host names. A name whose third label is `svc` belongs to a service inside of the cluster, and a name
with fewer than three labels to nothing at all.
-/

namespace EdgeRoutes

/-- A host that an edge router exposes: it has a third label, and that label is not `svc`. -/
def isExternal (host : String) : Bool :=
  match Text.split '.' host with
  | _ :: _ :: label :: _ => label != "svc"
  | _ => false

structure Backend where
  name : String
  inNamespace : String
deriving DecidableEq, Repr

/-- The service of an internal domain `<name>.<namespace>.svc.<rest>`. -/
def Backend.ofDomain? (domain : String) : Option Backend :=
  match Text.split '.' domain with
  | name :: space :: label :: _ => if label = "svc" then some ⟨name, space⟩ else none
  | _ => none

end EdgeRoutes
