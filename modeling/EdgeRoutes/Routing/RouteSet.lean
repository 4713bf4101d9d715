import EdgeRoutes.Routing.Factory

namespace EdgeRoutes.Routing

def candidates (spec : Ingress.Spec) : List (Ingress.Rule × String) :=
  (spec.rules.filter (·.visibility ≠ .clusterLocal)).flatMap fun rule =>
    (rule.hosts.filter isExternal).map (rule, ·)

namespace Factory

/-- The routes of a list of hosts; nothing is recorded after the first error. -/
def routesOf (f : Factory) (i : Ingress) :
    List (Ingress.Rule × String) → Logged (Except RouteError (List Route))
  | [] => ⟨.ok [], []⟩
  | (rule, host) :: rest =>
    let first := f.makeRoute i host rule
    match first.result with
    | .error e => ⟨.error e, first.events⟩
    | .ok route =>
      let others := routesOf f i rest
      ⟨others.result.map (route.toList ++ ·), first.events ++ others.events⟩

def makeRoutes (f : Factory) (i : Ingress) : Logged (Except RouteError (List Route)) :=
  let all := f.routesOf i (candidates i.spec)
  match all.result with
  | .error e => ⟨.error e, all.events⟩
  | .ok routes => ⟨.ok routes, all.events ++ [.generated routes.length i.key]⟩

end Factory

inductive Ending where
  | routes (made : List Route)
  | unfit (m : Mismatch)
  | refused (e : RouteError)
  /-- The program stops on a duration out of range. -/
  | aborted

def translate (c : Configuration) (doc : Json) : Ending :=
  match Ingress.codec.read doc with
  | .error .outOfRange => .aborted
  | .error (.mismatch m) => .unfit m
  | .ok i => match ((Factory.ofConfiguration c).makeRoutes i).result with
    | .error e => .refused e
    | .ok made => .routes made

end EdgeRoutes.Routing
