import EdgeRoutes.Sha256

namespace EdgeRoutes

def hostHashLength : Nat := 6

def hostHash (host : String) : String :=
  String.ofList ((Sha256.hex host.toUTF8.toList).take hostHashLength)

/-- The name of the route of a host, for the owner with the given id. Two hosts of one owner share a
name if their digests begin alike. -/
def routeName (owner host : String) : String := "route-" ++ owner ++ "-" ++ hostHash host

end EdgeRoutes
