import EdgeRoutes.Proofs.Codec.Faithful
import EdgeRoutes.Resource.Ingress
import EdgeRoutes.Resource.Route

namespace EdgeRoutes

namespace Ingress

variable {α : Type} {c : Codec α}

instance faithful_listSlot [c.Faithful] : (listSlot c).Faithful :=
  Slot.faithful_hidden fun _ => List.isEmpty_iff

instance faithful_tableSlot [c.Faithful] : (tableSlot c).Faithful :=
  Slot.faithful_hidden Table.isEmpty_iff

instance : HeaderMatch.codec.Faithful :=
  Codec.faithful_record (by decide +kernel) (.field .build)

instance : Split.codec.Faithful :=
  Codec.faithful_record (by decide +kernel) (.field (.field (.field (.field (.field .build)))))

instance : Path.codec.Faithful :=
  Codec.faithful_record (by decide +kernel)
    (.field (.field (.field (.field (.field (.field .build))))))

instance : Http.codec.Faithful :=
  Codec.faithful_record (by decide +kernel) (.field .build)

instance : Visibility.codec.Faithful :=
  Codec.faithful_choice fun a b => by cases a <;> cases b <;> decide +kernel

instance : Rule.codec.Faithful :=
  Codec.faithful_record (by decide +kernel) (.field (.field (.field .build)))

instance : HttpOption.codec.Faithful :=
  Codec.faithful_choice fun a b => by cases a <;> cases b <;> decide +kernel

instance : Spec.codec.Faithful :=
  .described (Codec.faithful_record (by decide +kernel) (.field (.field .build))) _

end Ingress

namespace Route

instance : Target.codec.Faithful :=
  Codec.faithful_record (by decide +kernel) (.field (.field (.field .build)))

instance : PortRef.codec.Faithful :=
  Codec.faithful_record (by decide +kernel) (.field .build)

instance : Termination.codec.Faithful :=
  Codec.faithful_choice fun a b => by cases a <;> cases b <;> decide +kernel

instance : InsecurePolicy.codec.Faithful :=
  .described (Codec.faithful_choice fun a b => by cases a <;> cases b <;> decide +kernel) _

instance : Tls.codec.Faithful :=
  Codec.faithful_record (by decide +kernel) (.field (.field .build))

instance : WildcardPolicy.codec.Faithful :=
  Codec.faithful_choice fun a b => by cases a <;> cases b <;> decide +kernel

instance : (Slot.hidden (.list Target.codec) [] List.isEmpty).Faithful :=
  Ingress.faithful_listSlot

instance : Spec.codec.Faithful :=
  .described (Codec.faithful_record (by decide +kernel)
    (.field (.field (.field (.field (.field (.field (.field .build)))))))) _

end Route

/-- Two specifications are equal just if the same JSON is printed of them, as a value, as a value
whose fields have no order, or as a text. -/
theorem eq_iff_printed_eq :
    (∀ a b : Ingress.Spec,
      [a = b, Ingress.Spec.codec.write a = Ingress.Spec.codec.write b,
        (Ingress.Spec.codec.write a).sorted = (Ingress.Spec.codec.write b).sorted,
        (Ingress.Spec.codec.write a).compact = (Ingress.Spec.codec.write b).compact].TFAE) ∧
    ∀ a b : Route.Spec,
      [a = b, Route.Spec.codec.write a = Route.Spec.codec.write b,
        (Route.Spec.codec.write a).sorted = (Route.Spec.codec.write b).sorted,
        (Route.Spec.codec.write a).compact = (Route.Spec.codec.write b).compact].TFAE :=
  ⟨Codec.Faithful.tfae inferInstance, Codec.Faithful.tfae inferInstance⟩

end EdgeRoutes
