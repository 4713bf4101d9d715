import EdgeRoutes.Proofs.Codec.Restore
import EdgeRoutes.Resource.Ingress
import EdgeRoutes.Resource.Route

namespace EdgeRoutes

namespace Metadata

structure ManagedFields.IsPlain (m : ManagedFields) : Prop where
  time : ∀ t ∈ m.time, t.IsPlain

instance (m : ManagedFields) : Decidable m.IsPlain :=
  decidable_of_iff (∀ t ∈ m.time, t.IsPlain) ⟨fun h => ⟨h⟩, fun h => h.time⟩

structure IsPlain (m : Metadata) : Prop where
  creation : ∀ t ∈ m.creationTimestamp, t.IsPlain
  deletion : ∀ t ∈ m.deletionTimestamp, t.IsPlain
  managed : ∀ ms ∈ m.managedFields, ∀ f ∈ ms, f.IsPlain

instance (m : Metadata) : Decidable m.IsPlain :=
  decidable_of_iff
    ((∀ t ∈ m.creationTimestamp, t.IsPlain) ∧ (∀ t ∈ m.deletionTimestamp, t.IsPlain) ∧
    ∀ ms ∈ m.managedFields, ∀ f ∈ ms, f.IsPlain)
    ⟨fun h => ⟨h.1, h.2.1, h.2.2⟩, fun h => ⟨h.creation, h.deletion, h.managed⟩⟩

instance : Owner.codec.Restores fun _ => True := by
  refine Codec.restores_object (by decide +kernel)
    (.field (.field (.field (.field (.field (.field (.build ?_)))))))
  intro _ hversion _ hblocks _ hcontroller _ hkind _ hname _ huid _
  exact .field (.field (.field (.field (.field (.field .build hversion) hblocks) hcontroller) hkind)
    hname) huid

instance : ManagedFields.codec.Restores ManagedFields.IsPlain := by
  refine Codec.restores_object (by decide +kernel)
    (.field (.field (.field (.field (.field (.field (.field (.build ?_))))))))
  intro _ hversion _ htype _ hfields _ hmanager _ hoperation _ hsubresource _ htime hplain
  exact .field (.field (.field (.field (.field (.field (.field .build
    hversion) htype) hfields) hmanager) hoperation) hsubresource) htime hplain.time

instance : codec.Restores IsPlain := by
  refine Codec.restores_object (by decide +kernel)
    (.field (.field (.field (.field (.field (.field (.field (.field (.field (.field (.field (.field
      (.field (.field (.field (.build ?_))))))))))))))))
  intro _ hannotations _ hcreation _ hgrace _ hdeletion _ hfinalizers _ hstem _ hgeneration _
    hlabels
    _ hmanaged _ hname _ hnamespace _ howners _ hversion _ hlink _ huid hplain
  exact .field (.field (.field (.field (.field (.field (.field (.field (.field (.field (.field
    (.field (.field (.field (.field .build hannotations) hcreation hplain.creation) hgrace)
    hdeletion hplain.deletion) hfinalizers) hstem) hgeneration) hlabels) hmanaged hplain.managed)
    hname) hnamespace) howners) hversion) hlink) huid

end Metadata

namespace Ingress

variable {α : Type} {c : Codec α} {p : α → Prop}

instance restores_listSlot [c.Restores p] : (listSlot c).Restores fun as => ∀ a ∈ as, p a :=
  Slot.restores_hidden fun _ => List.isEmpty_iff

instance restores_tableSlot [c.Restores p] :
    (tableSlot c).Restores fun t => ∀ e ∈ t.entries, p e.2 :=
  Slot.restores_hidden Table.isEmpty_iff

instance : textSlot.Restores fun _ => True :=
  Slot.restores_hidden fun _ => decide_eq_true_iff

instance : HeaderMatch.codec.Restores fun _ => True := by
  refine Codec.restores_record (by decide +kernel) (.field (.build ?_))
  intro _ hexact _
  exact .field .build hexact

instance : (Slot.shown (.integer .i32 "int32") 0).Restores fun _ => True :=
  Slot.restores_shown rfl

instance : Split.codec.Restores fun _ => True := by
  refine Codec.restores_record (by decide +kernel)
    (.field (.field (.field (.field (.field (.build ?_))))))
  intro _ hnamespace _ hname _ hport _ hpercent _ hheaders _
  exact .field (.field (.field (.field (.field .build hnamespace) hname) hport) hpercent) hheaders

structure Path.IsPlain (p : Path) : Prop where
  timeout : ∀ d ∈ p.timeout, d.IsShort

instance (p : Path) : Decidable p.IsPlain :=
  decidable_of_iff (∀ d ∈ p.timeout, d.IsShort) ⟨fun h => ⟨h⟩, fun h => h.timeout⟩

structure Http.IsPlain (h : Http) : Prop where
  paths : ∀ p ∈ h.paths, p.IsPlain

instance (h : Http) : Decidable h.IsPlain :=
  decidable_of_iff (∀ p ∈ h.paths, p.IsPlain) ⟨fun h => ⟨h⟩, fun h => h.paths⟩

structure Rule.IsPlain (r : Rule) : Prop where
  http : ∀ h ∈ r.http, h.IsPlain

instance (r : Rule) : Decidable r.IsPlain :=
  decidable_of_iff (∀ h ∈ r.http, h.IsPlain) ⟨fun h => ⟨h⟩, fun h => h.http⟩

structure Spec.IsPlain (s : Spec) : Prop where
  rules : ∀ r ∈ s.rules, r.IsPlain

instance (s : Spec) : Decidable s.IsPlain :=
  decidable_of_iff (∀ r ∈ s.rules, r.IsPlain) ⟨fun h => ⟨h⟩, fun h => h.rules⟩

instance : Path.codec.Restores Path.IsPlain := by
  refine Codec.restores_record (by decide +kernel)
    (.field (.field (.field (.field (.field (.field (.build ?_)))))))
  intro _ hpath _ hhost _ hheaders _ hsplits _ happend _ htimeout hplain
  exact .field (.field (.field (.field (.field (.field .build
    hpath) hhost) hheaders) hsplits) happend) htimeout hplain.timeout

instance : (Slot.shown (.list Path.codec) []).Restores fun ps => ∀ p ∈ ps, p.IsPlain :=
  Slot.restores_shown rfl

instance : Http.codec.Restores Http.IsPlain := by
  refine Codec.restores_record (by decide +kernel) (.field (.build ?_))
  intro _ hpaths hplain
  exact .field .build hpaths hplain.paths

instance : (Slot.shown Visibility.codec .external).Restores fun _ => True :=
  have : Visibility.codec.Restores fun _ => True :=
    Codec.restores_choice fun v => by cases v <;> decide +kernel
  Slot.restores_shown (by rfl)

instance : Rule.codec.Restores Rule.IsPlain := by
  refine Codec.restores_record (by decide +kernel) (.field (.field (.field (.build ?_))))
  intro _ hhosts _ hvisibility _ hhttp hplain
  exact .field (.field (.field .build hhosts) hvisibility) hhttp hplain.http

instance : HttpOption.codec.Restores fun _ => True :=
  Codec.restores_choice fun o => by cases o <;> decide +kernel

theorem Spec.yields_returns : Spec.fields.Yields fun s => s.IsPlain → Spec.fields.Returns s s := by
  refine .field (.field (.build ?_))
  intro _ hrules _ hoption hplain
  exact .field (.field .build hrules hplain.rules) hoption

instance : Spec.codec.Restores Spec.IsPlain :=
  have : (Codec.record "IngressSpec" Spec.fields).Restores Spec.IsPlain :=
    Codec.restores_record (by decide +kernel) Spec.yields_returns
  inferInstanceAs (Codec.Restores (Codec.described _ _) _)

structure Condition.IsPlain (c : Condition) : Prop where
  lastTransitionTime : ∀ t ∈ c.lastTransitionTime, t.IsPlain

instance (c : Condition) : Decidable c.IsPlain :=
  decidable_of_iff (∀ t ∈ c.lastTransitionTime, t.IsPlain)
    ⟨fun h => ⟨h⟩, fun h => h.lastTransitionTime⟩

structure Status.IsPlain (s : Status) : Prop where
  conditions : ∀ c ∈ s.conditions, c.IsPlain

instance (s : Status) : Decidable s.IsPlain :=
  decidable_of_iff (∀ c ∈ s.conditions, c.IsPlain) ⟨fun h => ⟨h⟩, fun h => h.conditions⟩

instance : Condition.codec.Restores Condition.IsPlain := by
  refine Codec.restores_record (by decide +kernel)
    (.field (.field (.field (.field (.field (.field (.build ?_)))))))
  intro _ htype _ hstatus _ hseverity _ htime _ hreason _ hmessage hplain
  exact .field (.field (.field (.field (.field (.field .build htype) hstatus) hseverity) htime
    hplain.lastTransitionTime)
    hreason) hmessage

instance : (Slot.hidden .boolean false (!·)).Restores fun _ => True :=
  Slot.restores_hidden fun b => by cases b <;> decide

instance : Endpoint.codec.Restores fun _ => True := by
  refine Codec.restores_record (by decide +kernel) (.field (.field (.field (.field (.build ?_)))))
  intro _ hip _ hdomain _ hinternal _ hmesh _
  exact .field (.field (.field (.field .build hip) hdomain) hinternal) hmesh

instance : LoadBalancer.codec.Restores fun _ => True := by
  refine Codec.restores_record (by decide +kernel) (.field (.build ?_))
  intro _ hendpoints _
  exact .field .build hendpoints

instance : Status.codec.Restores Status.IsPlain := by
  refine Codec.restores_record (by decide +kernel) (.field (.field (.field (.field (.build ?_)))))
  intro _ hgeneration _ hconditions _ hpublic _ hprivate hplain
  exact .field (.field (.field (.field .build hgeneration) hconditions hplain.conditions) hpublic)
    hprivate

/-- All points in time are plain, and all timeouts are short. -/
structure IsPlain (i : Ingress) : Prop where
  metadata : i.metadata.IsPlain
  spec : i.spec.IsPlain
  status : ∀ s ∈ i.status, s.IsPlain

instance (i : Ingress) : Decidable i.IsPlain :=
  decidable_of_iff (i.metadata.IsPlain ∧ i.spec.IsPlain ∧ ∀ s ∈ i.status, s.IsPlain)
    ⟨fun h => ⟨h.1, h.2.1, h.2.2⟩, fun h => ⟨h.metadata, h.spec, h.status⟩⟩

instance : codec.Restores IsPlain := by
  refine kind.restores_codec (by decide +kernel) (by decide +kernel) (by decide +kernel)
    (.field (.field (.field (.build ?_))))
  intro _ hmetadata _ hspec _ hstatus hplain
  exact .field (.field (.field .build hmetadata hplain.metadata) hspec hplain.spec) hstatus
    hplain.status

end Ingress

namespace Route

instance : Target.codec.Restores fun _ => True := by
  refine Codec.restores_record (by decide +kernel) (.field (.field (.field (.build ?_))))
  intro _ hkind _ hname _ hweight _
  exact .field (.field (.field .build hkind) hname) hweight

instance : PortRef.codec.Restores fun _ => True := by
  refine Codec.restores_record (by decide +kernel) (.field (.build ?_))
  intro _ hport _
  exact .field .build hport

instance : Termination.codec.Restores fun _ => True :=
  Codec.restores_choice fun t => by cases t <;> decide +kernel

instance : InsecurePolicy.codec.Restores fun _ => True where
  restore := (Codec.restores_choice fun p => by cases p <;> decide +kernel).restore

instance : Tls.codec.Restores fun _ => True := by
  refine Codec.restores_record (by decide +kernel) (.field (.field (.build ?_)))
  intro _ htermination _ hpolicy _
  exact .field (.field .build htermination) hpolicy

instance : WildcardPolicy.codec.Restores fun _ => True :=
  Codec.restores_choice fun p => by cases p <;> decide +kernel

instance : (Slot.hidden (.list Target.codec) [] List.isEmpty).Restores fun ts => ∀ t ∈ ts, True :=
  Ingress.restores_listSlot

instance : Spec.codec.Restores fun _ => True where
  restore := by
    refine (Codec.restores_record (by decide +kernel)
      (.field (.field (.field (.field (.field (.field (.field (.build ?_))))))))).restore
    intro _ hhost _ hpath _ htarget _ halternate _ hport _ htls _ hpolicy _
    exact .field (.field (.field (.field (.field (.field (.field .build
      hhost) hpath) htarget) halternate) hport) htls) hpolicy

structure IsPlain (r : Route) : Prop where
  metadata : r.metadata.IsPlain

instance (r : Route) : Decidable r.IsPlain :=
  decidable_of_iff r.metadata.IsPlain ⟨fun h => ⟨h⟩, fun h => h.metadata⟩

instance : codec.Restores IsPlain := by
  refine kind.restores_codec (by decide +kernel) (by decide +kernel) (by decide +kernel)
    (.field (.field (.build ?_)))
  intro _ hmetadata _ hspec hplain
  exact .field (.field .build hmetadata hplain.metadata) hspec

end Route

/-- An ingress or a route that was read from a JSON document reads back from the document that it is
written as, unless a point in time or a timeout in it has no exact text. -/
theorem read_write_of_read :
    (∀ (doc : Json) (i : Ingress), Ingress.codec.read doc = .ok i → i.IsPlain →
      Ingress.codec.read (Ingress.codec.write i) = .ok i) ∧
    (∀ (doc : Json) (r : Route), Route.codec.read doc = .ok r → r.IsPlain →
      Route.codec.read (Route.codec.write r) = .ok r) :=
  ⟨fun doc i h hi => (Codec.Restores.restore doc i h hi).1,
    fun doc r h hr => (Codec.Restores.restore doc r h hr).1⟩

/-- A document with an empty map, an unordered one, numbers and nulls where they may be left out, a
timeout below zero and one with a fraction. -/
def timedIngressDocument : Json :=
  let path (timeout : String) : Json := .object [
    ("timeout", .text timeout),
    ("splits", .array [.object [("serviceNamespace", .text "demo"), ("serviceName", .text "hello"),
      ("servicePort", .text "http"), ("percent", .int 100)]])]
  let condition : Json := .object [("type", .text "Ready"), ("status", .text "True"),
    ("lastTransitionTime", .text "2024-02-29T12:30:45+01:00"), ("reason", .null)]
  .object [
    ("metadata", .object [
      ("annotations", .object []),
      ("creationTimestamp", .text "2024-02-28T23:59:59Z"),
      ("labels", .object [("b", .text "1"), ("a", .text "2")]),
      ("managedFields", .array [.object [("fieldsV1", .object [("f:spec", .array [.null])])]])]),
    ("spec", .object [("rules", .array [.object [
      ("hosts", .array [.text "foo.example.com"]),
      ("visibility", .text "ClusterLocal"),
      ("http", .object [("paths", .array [path "-1h0.5s", path "1us", path "0"])])]])]),
    ("status", .object [("observedGeneration", .int 3), ("conditions", .array [condition]),
      ("privateLoadBalancer", .object [("ingress", .array [])])])]

def timedRouteDocument : Json :=
  .object [
    ("metadata",
      .object [("name", .text "r"), ("deletionTimestamp", .text "0001-03-01t00:00:00Z")]),
    ("spec", .object [
      ("to", .object [("kind", .text "Service"), ("name", .text "hello"), ("weight", .int (-1))]),
      ("port", .object [("targetPort", .int 80)]),
      ("tls", .object [("termination", .object [("edge", .null)])])])]

def timedIngress : Ingress :=
  (Ingress.codec.read timedIngressDocument).toOption.get (by decide +kernel)

def timedRoute : Route := (Route.codec.read timedRouteDocument).toOption.get (by decide +kernel)

theorem read_write_timed :
    Ingress.codec.read timedIngressDocument = .ok timedIngress ∧ timedIngress.IsPlain ∧
      Ingress.codec.read (Ingress.codec.write timedIngress) = .ok timedIngress ∧
      Route.codec.read timedRouteDocument = .ok timedRoute ∧ timedRoute.IsPlain ∧
      Route.codec.read (Route.codec.write timedRoute) = .ok timedRoute := by
  have hingress : Ingress.codec.read timedIngressDocument = .ok timedIngress :=
    toOption_eq_some.1 (Option.some_get _).symm
  have hroute : Route.codec.read timedRouteDocument = .ok timedRoute :=
    toOption_eq_some.1 (Option.some_get _).symm
  have hingressPlain : timedIngress.IsPlain := by decide +kernel
  have hroutePlain : timedRoute.IsPlain := by decide +kernel
  exact ⟨hingress, hingressPlain, read_write_of_read.1 _ _ hingress hingressPlain,
    hroute, hroutePlain, read_write_of_read.2 _ _ hroute hroutePlain⟩

end EdgeRoutes
