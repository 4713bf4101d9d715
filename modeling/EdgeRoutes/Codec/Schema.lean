import EdgeRoutes.Json.Basic

namespace EdgeRoutes

inductive Schema where
  | text (format : Option String)
  | choice (values : List String)
  | integer (format : String)
  | boolean
  /-- An integer or a text. -/
  | port
  | list (items : Schema)
  | table (values : Schema)
  | record (properties : List (String × Schema)) (required : List String)
  | described (description : String) (schema : Schema)
  | nullable (schema : Schema)
  | withDefault (value : Json) (schema : Schema)
  | anything
deriving Inhabited

namespace Schema

mutual

/-- The fields of the published form. -/
def fields : Schema → List (String × Json)
  | .text format =>
    (match format with
      | some f => [("format", .text f)]
      | none => []) ++ [("type", .text "string")]
  | .choice values => [("enum", .array (values.map .text)), ("type", .text "string")]
  | .integer format => [("format", .text format), ("type", .text "integer")]
  | .boolean => [("type", .text "boolean")]
  | .port => [("x-kubernetes-int-or-string", .bool true)]
  | .list items => [("items", .object items.fields), ("type", .text "array")]
  | .table values => [("additionalProperties", .object values.fields), ("type", .text "object")]
  | .record properties required =>
    (if properties.isEmpty then [] else [("properties", .object (propertyFields properties))])
      ++ (if required.isEmpty then []
        else [("required", .array ((required.mergeSort (· ≤ ·)).map .text))])
      ++ [("type", .text "object")]
  | .described description schema =>
    ("description", .text description) :: schema.fields.filter (·.1 != "description")
  | .nullable schema => ("nullable", .bool true) :: schema.fields
  | .withDefault value schema => ("default", value) :: schema.fields
  | .anything => []

def propertyFields : List (String × Schema) → List (String × Json)
  | [] => []
  | (name, schema) :: rest => (name, .object schema.fields) :: propertyFields rest

end

mutual

/-- The schema lets the value through, and knows every field in it. -/
def Admits : Schema → Json → Prop
  | .text _, j => ∃ s, j = .text s
  | .choice values, j => ∃ s ∈ values, j = .text s
  | .integer _, j => ∃ n, j = .int n
  | .boolean, j => ∃ b, j = .bool b
  | .port, j => (∃ n, j = .int n) ∨ ∃ s, j = .text s
  | .list items, j => ∃ js, j = .array js ∧ ∀ item ∈ js, items.Admits item
  | .table values, j => ∃ fs, j = .object fs ∧ ∀ f ∈ fs, values.Admits f.2
  | .record properties required, j => ∃ fs, j = .object fs ∧
      (∀ name ∈ required, name ∈ fs.map Prod.fst) ∧ ∀ f ∈ fs, AdmitsProperty properties f.1 f.2
  | .described _ schema, j => schema.Admits j
  | .nullable schema, j => j = .null ∨ schema.Admits j
  | .withDefault _ schema, j => schema.Admits j
  | .anything, _ => True

def AdmitsProperty : List (String × Schema) → String → Json → Prop
  | [], _, _ => False
  | (declared, schema) :: rest, name, j =>
    if declared = name then schema.Admits j else AdmitsProperty rest name j

end

end Schema

end EdgeRoutes
