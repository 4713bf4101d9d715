import EdgeRoutes.Proofs.Routing.Backend
import EdgeRoutes.Proofs.Routing.Name

/-!
Routes in a log. The text of a key cannot be taken apart in general, since a dot may belong to the
namespace or to the name. The namespace of a route is a label of a domain and has no dot, so the
text of its key tells the route from all others, whatever the id of its owner is.
-/

namespace EdgeRoutes

namespace ResourceKey

variable {k k' : ResourceKey}

theorem text_eq (k : ResourceKey) :
    k.text = k.kind ++ String.singleton '/' ++
      (k.inNamespace ++ String.singleton '.' ++ k.name) := by
  simp only [text, String.append_assoc]
  rfl

/-- Keys with the same text are of one kind, with whatever namespaces and names. -/
theorem kind_eq_of_text_eq (hkind : '/' ∉ k.kind.toList) (hkind' : '/' ∉ k'.kind.toList)
    (h : k.text = k'.text) : k.kind = k'.kind := by
  rw [text_eq, text_eq, Text.append_eq_append_iff hkind hkind'] at h
  exact h.1

/-- Of one kind, keys with no dot in their namespaces are told apart by their texts. -/
theorem text_eq_iff_of_kind_eq (hkind : k.kind = k'.kind) (h : '.' ∉ k.inNamespace.toList)
    (h' : '.' ∉ k'.inNamespace.toList) :
    k.text = k'.text ↔ k.inNamespace = k'.inNamespace ∧ k.name = k'.name := by
  rw [text_eq, text_eq, hkind, String.append_right_inj, Text.append_eq_append_iff h h']

/-- With a dot in a namespace they are not. -/
example : text ⟨"demo.route-x", "hello", "Route"⟩ =
    text ⟨"demo", "route-x.hello", "Route"⟩ := by decide

end ResourceKey

theorem Route.key_text_ne (r : Route) (i : Ingress) : r.key.text ≠ i.key.text := by
  intro h
  have hkind : "Route" = "Ingress" :=
    ResourceKey.kind_eq_of_text_eq (by decide : '/' ∉ "Route".toList)
      (by decide : '/' ∉ "Ingress".toList) h
  exact absurd hkind (by decide)

namespace Routing

theorem Factory.key_of_mem {f : Factory} {i : Ingress} {routes : List Route}
    (h : (f.makeRoutes i).result = .ok routes) {r : Route} (hr : r ∈ routes) :
    ∃ b name, resolveBackend i = some b ∧ r.metadata.inNamespace = some b.inNamespace ∧
      r.metadata.name = some name ∧ r.key = ⟨b.inNamespace, name, "Route"⟩ := by
  obtain ⟨p, -, b, hb, rfl⟩ := eq_routeTo_of_mem h hr
  exact ⟨b, _, hb, rfl, rfl, rfl⟩

/-- Two routes, of one ingress or of two, have the same text in a log exactly when they share
namespace and name. The namespace in it is that of the backend, which is always there, and no
ingress has the same text. -/
theorem makeRoutes_key_text_eq_iff (f g : Factory) (a b : Ingress) (rs ss : List Route)
    (ha : (f.makeRoutes a).result = .ok rs) (hb : (g.makeRoutes b).result = .ok ss)
    (r s : Route) (hr : r ∈ rs) (hs : s ∈ ss) :
    (r.key.text = s.key.text ↔
      r.metadata.inNamespace = s.metadata.inNamespace ∧ r.metadata.name = s.metadata.name) ∧
    (∃ backend, resolveBackend a = some backend ∧ backend.inNamespace ≠ "" ∧
      r.metadata.inNamespace = some backend.inNamespace ∧ r.key.inNamespace = backend.inNamespace) ∧
    ∀ i : Ingress, r.key.text ≠ i.key.text := by
  obtain ⟨backend, name, hbackend, hspace, hname, hkey⟩ := Factory.key_of_mem ha hr
  obtain ⟨backend', name', hbackend', hspace', hname', hkey'⟩ := Factory.key_of_mem hb hs
  obtain ⟨hcomplete, hdotless⟩ := resolveBackend_spec hbackend
  obtain ⟨-, hdotless'⟩ := resolveBackend_spec hbackend'
  refine ⟨?_, ⟨backend, hbackend, hcomplete.2, hspace, by rw [hkey]⟩, r.key_text_ne⟩
  rw [hspace, hname, hspace', hname', Option.some_inj, Option.some_inj, hkey, hkey']
  exact ResourceKey.text_eq_iff_of_kind_eq rfl hdotless.2 hdotless'.2

/-- `mixedIngress` with an id of the owner that holds the text of a key. -/
def slashedIngress : Ingress :=
  { mixedIngress with
    metadata := { mixedIngress.metadata with uid := some "abc123/Route.ns.route-abc123" } }

theorem makeRoutes_key_text_mixedIngress :
    ∃ rs ss, ((Factory.mk "600s").makeRoutes mixedIngress).result = .ok rs ∧
      ((Factory.mk "60s").makeRoutes slashedIngress).result = .ok ss ∧
      rs.length = 3 ∧ ss.length = 3 ∧
      ∀ r ∈ rs, ∀ s ∈ ss, r.key.text ≠ s.key.text ∧ r.key.inNamespace = "ns" ∧
        r.key.text ≠ mixedIngress.key.text := by
  have ha := Factory.makeRoutes_of_resolved ⟨"600s"⟩ mixedIngress mixedIngress_not_disabled
    mixedIngress_backend
  have hb := Factory.makeRoutes_of_resolved ⟨"60s"⟩ slashedIngress mixedIngress_not_disabled
    mixedIngress_backend
  refine ⟨_, _, ha, hb, by rw [List.length_map]; decide, by rw [List.length_map]; decide, ?_⟩
  intro r hr s hs
  obtain ⟨hiff, ⟨backend, hbackend, -, -, hspace⟩, hingress⟩ :=
    makeRoutes_key_text_eq_iff _ _ _ _ _ _ ha hb r s hr hs
  obtain ⟨host, -, hname⟩ := name_eq ha hr
  obtain ⟨host', -, hname'⟩ := name_eq hb hs
  rw [mixedIngress_backend] at hbackend
  cases hbackend
  refine ⟨fun htext => ?_, hspace, hingress _⟩
  have hnames := (hiff.1 htext).2
  rw [hname, hname', Option.some_inj, routeName_eq_iff] at hnames
  exact absurd hnames.1 (by decide)

end Routing

end EdgeRoutes
