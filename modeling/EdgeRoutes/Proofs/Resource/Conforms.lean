import EdgeRoutes.Json.Pointer
import EdgeRoutes.Proofs.Codec.Conforms
import EdgeRoutes.Resource.Ingress
import EdgeRoutes.Resource.Route

namespace EdgeRoutes

/-- A cluster that holds the definition stores the part of a document as it is: the value is allowed
where the part is declared, and nothing is dropped from it. -/
def Json.Keeps (definition : Json) (part : String) (j : Json) : Prop :=
  ∃ s, Keywords.schema? (definition.pointer?
      ("/spec/versions/0/schema/openAPIV3Schema/properties/" ++ part)) = some s ∧
    s.accepts j = true ∧ s.prune j = j

theorem Json.keeps_of_admits {definition j : Json} {part : String} {s : Schema}
    (hpart : definition.pointer? ("/spec/versions/0/schema/openAPIV3Schema/properties/" ++ part) =
      some (.object s.fields)) (hs : s.isTyped = true) (hj : s.Admits j) :
    definition.Keeps part j := by
  have haccepts : Keywords.accepts s.fields j = true := (s.accepts_fields_iff hs j).2 hj
  exact ⟨s.fields, hpart ▸ s.schema?_fields, haccepts,
    Keywords.prune_of_accepts s.fields j haccepts⟩

namespace Ingress

section Slots

variable {α : Type} {c : Codec α}

instance conforms_listSlot [c.Conforms] : (listSlot c).Conforms :=
  inferInstanceAs (Slot.Conforms (.hidden (.list c) [] List.isEmpty))

instance conforms_tableSlot [c.Conforms] : (tableSlot c).Conforms :=
  inferInstanceAs (Slot.Conforms (.hidden (.table c) .empty Table.isEmpty))

instance : textSlot.Conforms := inferInstanceAs (Slot.Conforms (.hidden .text "" (· = "")))

end Slots

instance : HeaderMatch.codec.Conforms := Codec.conforms_record (by decide)

instance : Split.codec.Conforms := Codec.conforms_record (by decide)

instance : Path.codec.Conforms := by
  unfold Path.codec Path.fields
  exact Codec.conforms_record (by decide)

instance : Http.codec.Conforms := by
  unfold Http.codec Http.fields
  exact Codec.conforms_record (by decide)

instance : Visibility.codec.Conforms := Codec.conforms_choice fun v => by cases v <;> decide

instance : Rule.codec.Conforms := by
  unfold Rule.codec Rule.fields
  exact Codec.conforms_record (by decide)

instance : HttpOption.codec.Conforms := Codec.conforms_choice fun o => by cases o <;> decide

instance : Spec.codec.Conforms := by
  unfold Spec.codec Spec.fields
  exact Codec.conforms_described (Codec.conforms_record (by decide))

instance : Condition.codec.Conforms := Codec.conforms_record (by decide)

instance : Endpoint.codec.Conforms := Codec.conforms_record (by decide)

instance : LoadBalancer.codec.Conforms := Codec.conforms_record (by decide)

instance : Status.codec.Conforms := Codec.conforms_record (by decide)

end Ingress

namespace Route

instance : Target.codec.Conforms := Codec.conforms_record (by decide)

instance : PortRef.codec.Conforms := Codec.conforms_record (by decide)

instance : Termination.codec.Conforms := Codec.conforms_choice fun t => by cases t <;> decide

instance : InsecurePolicy.codec.Conforms :=
  Codec.conforms_described (Codec.conforms_choice fun p => by cases p <;> decide)

instance : Tls.codec.Conforms := Codec.conforms_record (by decide)

instance : WildcardPolicy.codec.Conforms := Codec.conforms_choice fun p => by cases p <;> decide

instance : Spec.codec.Conforms := Codec.conforms_described (Codec.conforms_record (by decide))

end Route

/-- Every specification and every status, however much of it is left out, is stored as it is written
by a cluster that holds the definition of its kind. -/
theorem keeps_written :
    (∀ v : Ingress.Spec, Ingress.definition.Keeps "spec" (Ingress.Spec.codec.write v)) ∧
    (∀ v : Ingress.Status, Ingress.definition.Keeps "status" (Ingress.Status.codec.write v)) ∧
    ∀ v : Route.Spec, Route.definition.Keeps "spec" (Route.Spec.codec.write v) := by
  refine ⟨fun v => ?_, fun v => ?_, fun v => ?_⟩
  · exact Json.keeps_of_admits rfl rfl (Codec.Conforms.admits v)
  · have hadmits :
        (Schema.nullable Ingress.Status.codec.schema).Admits (Ingress.Status.codec.write v) :=
      .inr (Codec.Conforms.admits v)
    exact Json.keeps_of_admits rfl rfl hadmits
  · exact Json.keeps_of_admits rfl rfl (Codec.Conforms.admits v)

/-- A field under a name that is not declared would be lost. -/
example : Keywords.prune Ingress.Spec.codec.schema.fields
    (.object [("rule", .array []), ("rules", .array [])]) =
    .object [("rules", .array [])] := rfl

end EdgeRoutes
