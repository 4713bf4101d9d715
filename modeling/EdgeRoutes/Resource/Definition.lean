import EdgeRoutes.Codec.Record

namespace EdgeRoutes

structure ResourceKind where
  group : String
  version : String
  kind : String
  plural : String
  description : String

namespace ResourceKind

def apiVersion (k : ResourceKind) : String := k.group ++ "/" ++ k.version

def definitionName (k : ResourceKind) : String := k.plural ++ "." ++ k.group

/-- The codec of the resources of a kind, from that of their contents: a document opens with its
version and kind, which reading passes over. -/
def codec {α : Type} (k : ResourceKind) (contents : Codec α) : Codec α :=
  { contents with
    write := fun a => match contents.write a with
      | .object fields =>
        .object (("apiVersion", .text k.apiVersion) :: ("kind", .text k.kind) :: fields)
      | j => j }

/-- The published schema of a kind: specification and status alone, under the title of the kind. -/
def rootSchema (k : ResourceKind) (properties : List (String × Schema)) : Json :=
  .object (("title", .text k.kind)
    :: (Schema.described k.description (.record properties ["spec"])).fields)

def definition (k : ResourceKind) (spec : Schema) (status : Option Schema) : Json :=
  let properties := ("spec", spec)
    :: (status.map fun s => ("status", Schema.nullable s)).toList
  let version : List (String × Json) := [
    ("additionalPrinterColumns", .array []),
    ("name", .text k.version),
    ("schema", .object [("openAPIV3Schema", k.rootSchema properties)]),
    ("served", .bool true),
    ("storage", .bool true),
    ("subresources", .object (if status.isSome then [("status", .object [])] else []))]
  let names : List (String × Json) := [
    ("categories", .array []),
    ("kind", .text k.kind),
    ("plural", .text k.plural),
    ("shortNames", .array []),
    ("singular", .text (String.ofList (k.kind.toList.map Char.toLower)))]
  .object [
    ("apiVersion", .text "apiextensions.k8s.io/v1"),
    ("kind", .text "CustomResourceDefinition"),
    ("metadata", .object [("name", .text k.definitionName)]),
    ("spec", .object [
      ("group", .text k.group),
      ("names", .object names),
      ("scope", .text "Namespaced"),
      ("versions", .array [.object version])])]

end ResourceKind

end EdgeRoutes
