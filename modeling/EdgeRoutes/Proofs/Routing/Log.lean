import EdgeRoutes.Proofs.Routing.Conflict
import EdgeRoutes.Proofs.Routing.Frame

namespace EdgeRoutes.Routing

namespace Factory

variable (f : Factory) {i : Ingress}

end Factory

end EdgeRoutes.Routing
