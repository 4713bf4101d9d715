import EdgeRoutes.Proofs.Routing.RouteSet
import EdgeRoutes.Proofs.Sha256

/-!
When two routes share a name. The part of a name for the host has a fixed length, so it can be cut
off again whatever the id of the owner looks like, and it stands for the first 24 bits of a digest.
-/

namespace EdgeRoutes

/-- The bits of the digest of a host that its route name shows. -/
def hostBits (host : String) : List Bool := (Sha256.bits host.toUTF8.toList).take 24

theorem length_hostHash (host : String) : (hostHash host).toList.length = 6 := by
  simp [hostHash, hostHashLength, Sha256.length_hex]

theorem hostHash_eq_iff (host host' : String) :
    hostHash host = hostHash host' ↔ hostBits host = hostBits host' := by
  unfold hostHash
  rw [String.ofList_inj]
  exact Sha256.take_hex_eq_iff 6 _ _

theorem routeName_eq_iff (owner owner' host host' : String) :
    routeName owner host = routeName owner' host' ↔
      owner = owner' ∧ hostBits host = hostBits host' := by
  rw [← hostHash_eq_iff]
  constructor
  · intro h
    have hl : (hostHash host).toList.length = (hostHash host').toList.length := by
      rw [length_hostHash, length_hostHash]
    have hlist := congrArg String.toList h
    simp only [routeName, String.toList_append] at hlist
    obtain ⟨hfront, hhash⟩ := List.append_inj' hlist hl
    obtain ⟨hfront, -⟩ := List.append_inj' hfront rfl
    obtain ⟨-, howner⟩ := List.append_inj hfront rfl
    exact ⟨String.toList_inj.1 howner, String.toList_inj.1 hhash⟩
  · rintro ⟨rfl, hhash⟩
    rw [routeName, routeName, hhash]

namespace Routing

def ownerId (i : Ingress) : String := i.metadata.uid.getD ""

theorem name_eq {f : Factory} {i : Ingress} {routes : List Route}
    (h : (f.makeRoutes i).result = .ok routes) {r : Route} (hr : r ∈ routes) :
    ∃ host, r.spec.host = some host ∧ r.metadata.name = some (routeName (ownerId i) host) := by
  obtain ⟨p, -, b, -, rfl⟩ := Factory.eq_routeTo_of_mem h hr
  exact ⟨p.2, rfl, rfl⟩

/-- Two routes, of one ingress or of two, share a name exactly when the owners have one id and the
digests of the hosts begin with the same 24 bits. The name shows these bits as six digits after the
id of the owner. -/
theorem makeRoutes_name_eq_iff (f g : Factory) (a b : Ingress) (rs ss : List Route)
    (ha : (f.makeRoutes a).result = .ok rs) (hb : (g.makeRoutes b).result = .ok ss)
    (r s : Route) (hr : r ∈ rs) (hs : s ∈ ss) :
    ∃ host host', r.spec.host = some host ∧ s.spec.host = some host' ∧
      (r.metadata.name = s.metadata.name ↔
        ownerId a = ownerId b ∧ hostBits host = hostBits host') ∧
      (ownerId a ≠ ownerId b → r.metadata.name ≠ s.metadata.name) ∧
      ∃ digits, r.metadata.name = some ("route-" ++ ownerId a ++ "-" ++ String.ofList digits) ∧
        digits.length = 6 ∧ (∀ c ∈ digits, c ∈ Sha256.lowerDigits) ∧
        digits.flatMap Sha256.digitBits = hostBits host := by
  obtain ⟨host, hh, hn⟩ := name_eq ha hr
  obtain ⟨host', hh', hn'⟩ := name_eq hb hs
  have hiff : r.metadata.name = s.metadata.name ↔
      ownerId a = ownerId b ∧ hostBits host = hostBits host' := by
    rw [hn, hn', Option.some_inj, routeName_eq_iff]
  refine ⟨host, host', hh, hh', hiff, fun hne he => hne (hiff.1 he).1,
    (Sha256.hex host.toUTF8.toList).take 6, hn, ?_, ?_, Sha256.take_hex 6 _⟩
  · simp [Sha256.length_hex]
  · exact fun c hc => Sha256.mem_hex (List.mem_of_mem_take hc)

def longerIngress : Ingress :=
  { mixedIngress with metadata := { mixedIngress.metadata with uid := some "abc123-45a335" } }

theorem makeRoutes_names_mixedIngress :
    ∃ rs ss, ((Factory.mk "600s").makeRoutes mixedIngress).result = .ok rs ∧
      ((Factory.mk "60s").makeRoutes longerIngress).result = .ok ss ∧
      rs.length = 3 ∧ ss.length = 3 ∧
      ∀ r ∈ rs, ∀ s ∈ ss, r.metadata.name ≠ s.metadata.name := by
  have ha := Factory.makeRoutes_of_resolved ⟨"600s"⟩ mixedIngress mixedIngress_not_disabled
    mixedIngress_backend
  have hb := Factory.makeRoutes_of_resolved ⟨"60s"⟩ longerIngress mixedIngress_not_disabled
    mixedIngress_backend
  refine ⟨_, _, ha, hb, by rw [List.length_map]; decide, by rw [List.length_map]; decide, ?_⟩
  intro r hr s hs
  obtain ⟨-, -, -, -, -, hne, -⟩ := makeRoutes_name_eq_iff _ _ _ _ _ _ ha hb r s hr hs
  exact hne (by decide)

end Routing

end EdgeRoutes
