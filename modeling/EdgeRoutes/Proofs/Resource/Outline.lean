import EdgeRoutes.Proofs.Codec.Outline
import EdgeRoutes.Proofs.Routing.Translation
import EdgeRoutes.Resource.Route

namespace EdgeRoutes

open Outline (Part Edit Edits)

instance : Metadata.codec.Overlooks .whole := Codec.overlooks_whole _

namespace Ingress

def HeaderMatch.outline : Outline := .record [.required "exact"]

def Split.outline : Outline := .record [
  .required "serviceNamespace",
  .required "serviceName",
  .required "servicePort",
  .defaulted "percent" (.int 0),
  .defaulted "appendHeaders" (.object []) (.table .whole)]

def Path.outline : Outline := .record [
  .optional "path",
  .optional "rewriteHost",
  .defaulted "headers" (.object []) (.table HeaderMatch.outline),
  .defaulted "splits" (.array []) (.list Split.outline),
  .defaulted "appendHeaders" (.object []) (.table .whole),
  .optional "timeout"]

def Http.outline : Outline := .record [.defaulted "paths" (.array []) (.list Path.outline)]

def Rule.outline : Outline := .record [
  .defaulted "hosts" (.array []) (.list .whole),
  .defaulted "visibility" (.text "ExternalIP"),
  .optional "http" Http.outline]

def Spec.outline : Outline := .record [
  .defaulted "rules" (.array []) (.list Rule.outline),
  .optional "httpOption"]

def Condition.outline : Outline := .record [
  .required "type",
  .required "status",
  .optional "severity",
  .optional "lastTransitionTime",
  .optional "reason",
  .optional "message"]

def Endpoint.outline : Outline := .record [
  .defaulted "ip" (.text ""),
  .defaulted "domain" (.text ""),
  .defaulted "domainInternal" (.text ""),
  .defaulted "meshOnly" (.bool false)]

def LoadBalancer.outline : Outline := .record [
  .defaulted "ingress" (.array []) (.list Endpoint.outline)]

def Status.outline : Outline := .record [
  .optional "observedGeneration",
  .defaulted "conditions" (.array []) (.list Condition.outline),
  .optional "publicLoadBalancer" LoadBalancer.outline,
  .optional "privateLoadBalancer" LoadBalancer.outline]

/-- The outline of an ingress. Its version and kind are fields like any other that are not known. -/
def outline : Outline := .record [
  .required "metadata",
  .required "spec" Spec.outline,
  .optional "status" Status.outline]

section Slots

variable {α : Type} {c : Codec α} {o : Outline}

instance overlooks_listSlot [c.Overlooks o] :
    (listSlot c).Overlooks (some (.array [])) (.list o) :=
  Slot.overlooks_hidden rfl

instance overlooks_tableSlot [c.Overlooks o] :
    (tableSlot c).Overlooks (some (.object [])) (.table o) :=
  Slot.overlooks_hidden rfl

instance : textSlot.Overlooks (some (.text "")) .whole := Slot.overlooks_hidden rfl

end Slots

instance : HeaderMatch.codec.Overlooks HeaderMatch.outline := Codec.overlooks_record (by decide) _

instance : (Slot.shown (.integer .i32 "int32") 0).Overlooks (some (.int 0)) .whole :=
  Slot.overlooks_shown rfl

instance : Split.codec.Overlooks Split.outline := Codec.overlooks_record (by decide) _

instance : Path.codec.Overlooks Path.outline := by
  unfold Path.codec Path.fields
  exact Codec.overlooks_record (by decide) _

instance : (Slot.shown (.list Path.codec) []).Overlooks (some (.array [])) (.list Path.outline) :=
  Slot.overlooks_shown rfl

instance : Http.codec.Overlooks Http.outline := by
  unfold Http.codec Http.fields
  exact Codec.overlooks_record (by decide) _

instance : Visibility.codec.Overlooks .whole := Codec.overlooks_whole _

instance : (Slot.shown Visibility.codec .external).Overlooks (some (.text "ExternalIP")) .whole :=
  Slot.overlooks_shown rfl

instance : Rule.codec.Overlooks Rule.outline := by
  unfold Rule.codec Rule.fields
  exact Codec.overlooks_record (by decide) _

instance : HttpOption.codec.Overlooks .whole := Codec.overlooks_whole _

instance : Spec.codec.Overlooks Spec.outline :=
  have : (Codec.record "IngressSpec" Spec.fields).Overlooks Spec.outline := by
    unfold Spec.fields
    exact Codec.overlooks_record (by decide) _
  inferInstanceAs (Codec.Overlooks (Codec.described _ _) _)

instance : Condition.codec.Overlooks Condition.outline := Codec.overlooks_record (by decide) _

instance : (Slot.hidden .boolean false (!·)).Overlooks (some (.bool false)) .whole :=
  Slot.overlooks_hidden rfl

instance : Endpoint.codec.Overlooks Endpoint.outline := Codec.overlooks_record (by decide) _

instance : LoadBalancer.codec.Overlooks LoadBalancer.outline := Codec.overlooks_record (by decide) _

instance : Status.codec.Overlooks Status.outline := Codec.overlooks_record (by decide) _

instance : codec.Overlooks outline :=
  have : (Codec.record "Ingress" fields).Overlooks outline := by
    unfold fields
    exact Codec.overlooks_record (by decide) _
  inferInstanceAs (Codec.Overlooks (kind.codec _) _)

end Ingress

namespace Route

def Target.outline : Outline := .record [.required "kind", .required "name", .optional "weight"]

def PortRef.outline : Outline := .record [.required "targetPort"]

def Tls.outline : Outline := .record [
  .required "termination",
  .optional "insecureEdgeTerminationPolicy"]

def Spec.outline : Outline := .record [
  .optional "host",
  .optional "path",
  .required "to" Target.outline,
  .defaulted "alternateBackends" (.array []) (.list Target.outline),
  .optional "port" PortRef.outline,
  .optional "tls" Tls.outline,
  .optional "wildcardPolicy"]

def outline : Outline := .record [.required "metadata", .required "spec" Spec.outline]

instance : Target.codec.Overlooks Target.outline := Codec.overlooks_record (by decide) _

instance : PortRef.codec.Overlooks PortRef.outline := Codec.overlooks_record (by decide) _

instance : Termination.codec.Overlooks .whole := Codec.overlooks_whole _

instance : InsecurePolicy.codec.Overlooks .whole := Codec.overlooks_whole _

instance : Tls.codec.Overlooks Tls.outline := Codec.overlooks_record (by decide) _

instance : WildcardPolicy.codec.Overlooks .whole := Codec.overlooks_whole _

instance : (Slot.hidden (.list Target.codec) [] List.isEmpty).Overlooks (some (.array []))
    (.list Target.outline) :=
  Slot.overlooks_hidden rfl

instance : Spec.codec.Overlooks Spec.outline where
  read_eq := (Codec.overlooks_record (by decide) _).read_eq

instance : codec.Overlooks outline where
  read_eq := (Codec.overlooks_record (by decide) _).read_eq

end Route

/-- Documents that differ by edits of their outline read as the same ingress or the same route, or
fail for the same reason, and have the same routes under every configuration. -/
theorem read_eq_of_edits :
    (∀ doc doc' : Json, Ingress.outline.Edits doc doc' →
      Ingress.codec.read doc = Ingress.codec.read doc' ∧
        ∀ c : Configuration, Routing.translate c doc = Routing.translate c doc') ∧
    ∀ doc doc' : Json, Route.outline.Edits doc doc' →
      Route.codec.read doc = Route.codec.read doc' := by
  refine ⟨fun doc doc' h => ?_, fun doc doc' h => Codec.Overlooks.read_congr h⟩
  have hread : Ingress.codec.read doc = Ingress.codec.read doc' := Codec.Overlooks.read_congr h
  exact ⟨hread, fun c => by rw [Routing.translate, Routing.translate, hread]⟩

def terseDocument (rule : Json) : Json :=
  .object [("spec", .object [("rules", .array [rule])]), ("metadata", .object [])]

/-- A document of one rule with a version that means nothing, and with two nulls. -/
def wordyDocument (rule : Json) : Json :=
  .object [("status", .null), ("apiVersion", .text "v2"),
    ("spec", .object [("httpOption", .null), ("rules", .array [rule])]), ("metadata", .object [])]

theorem edits_wordyDocument {rule rule' : Json} (h : Ingress.Rule.outline.Edit rule rule') :
    Ingress.outline.Edits (terseDocument rule) (wordyDocument rule') := by
  have hrules : (Outline.list Ingress.Rule.outline).Edit (.array [rule]) (.array [rule']) :=
    .item (n := 0) rfl h
  have hspec : Ingress.Spec.outline.Edits (.object [("rules", .array [rule])])
      (.object [("httpOption", .null), ("rules", .array [rule'])]) :=
    .trans _ _ _ (Edits.field (.head _) (.rel _ _ hrules) [])
      (.rel _ _ (.spellOut (.tail _ (.head _)) rfl rfl rfl (Outline.agreeExcept_add _ _ _)))
  have hversion : ∀ fields, Ingress.outline.Edit (.object fields)
      (.object (("apiVersion", .text "v2") :: fields)) := fun fields =>
    .unknown (by decide) (Outline.agreeExcept_add _ _ _)
  refine .trans _ _ _ (Edits.field (.tail _ (.head _)) hspec _)
    (.trans _ _ _ (.rel _ _ (hversion _)) ?_)
  exact .rel _ _
    (.spellOut (.tail _ (.tail _ (.head _))) rfl rfl rfl (Outline.agreeExcept_add _ _ _))

def routeDocument (host : List (String × Json)) : Json :=
  .object [
    ("spec", .object
      (host ++ [("to", .object [("kind", .text "Service"), ("name", .text "hello")])])),
    ("metadata", .object [])]

theorem edits_routeDocument :
    Route.outline.Edits (routeDocument []) (routeDocument [("host", .null)]) :=
  Edits.field (.tail _ (.head _))
    (.rel _ _ (.spellOut (.head _) rfl rfl rfl (Outline.agreeExcept_add _ _ _))) _

/-- A rule without visibility is external, and one whose visibility is a number is not read,
whatever else is added to them. -/
theorem read_wordyDocument :
    (∃ rule, Ingress.outline.Edits (terseDocument (.object [])) (wordyDocument rule) ∧
      ∃ i, Ingress.codec.read (wordyDocument rule) = .ok i ∧
        i.spec.rules = [⟨[], .external, none⟩]) ∧
    (∃ rule, Ingress.outline.Edits (terseDocument (.object [("visibility", .int 5)]))
        (wordyDocument rule) ∧
      Ingress.codec.read (wordyDocument rule) = .error (.mismatch (.wrongType (.int 5) .variant))) ∧
    Route.outline.Edits (routeDocument []) (routeDocument [("host", .null)]) ∧
      Route.codec.read (routeDocument []) = Route.codec.read (routeDocument [("host", .null)]) := by
  refine ⟨⟨.object [("visibility", .text "ExternalIP")], ?_⟩,
    ⟨.object [("note", .bool true), ("visibility", .int 5)], ?_⟩,
    edits_routeDocument, read_eq_of_edits.2 _ _ edits_routeDocument⟩
  · have hrule : Ingress.Rule.outline.Edit (.object [])
        (.object [("visibility", .text "ExternalIP")]) :=
      .spellOut (.tail _ (.head _)) rfl rfl rfl (Outline.agreeExcept_add _ _ _)
    have h := edits_wordyDocument hrule
    refine ⟨h, ⟨{}, ⟨[⟨[], .external, none⟩], none⟩, none⟩, ?_, rfl⟩
    rw [← (read_eq_of_edits.1 _ _ h).1]
    rfl
  · have hrule : Ingress.Rule.outline.Edit (.object [("visibility", .int 5)])
        (.object [("note", .bool true), ("visibility", .int 5)]) :=
      .unknown (by decide) (Outline.agreeExcept_add _ _ _)
    have h := edits_wordyDocument hrule
    refine ⟨h, ?_⟩
    rw [← (read_eq_of_edits.1 _ _ h).1]
    rfl

end EdgeRoutes
