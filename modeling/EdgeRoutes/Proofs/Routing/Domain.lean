import EdgeRoutes.Proofs.Routing.Backend
import Mathlib.Logic.ExistsUnique

namespace EdgeRoutes

namespace Backend

/-- The shortest domain of a service. -/
def domain (b : Backend) : String := b.name ++ "." ++ b.inNamespace ++ "." ++ "svc"

/-- A domain of the service, with or without more labels behind the third. -/
def IsNamedBy (b : Backend) (name : String) : Prop :=
  name = b.domain ∨ ∃ rest, name = b.domain ++ "." ++ rest

variable {b : Backend} {name : String}

theorem split_of_isDotless (h : b.IsDotless) (rest : String) :
    Text.split '.' (b.name ++ "." ++ b.inNamespace ++ "." ++ rest) =
      b.name :: b.inNamespace :: Text.split '.' rest := by
  have hassoc : b.name ++ "." ++ b.inNamespace ++ "." ++ rest =
      b.name ++ String.singleton '.' ++ (b.inNamespace ++ String.singleton '.' ++ rest) := by
    simp only [String.append_assoc]
    rfl
  rw [hassoc, Text.split_append h.1, Text.split_append h.2]

theorem ofDomain?_eq_some_iff_split :
    ofDomain? name = some b ↔
      ∃ rest, Text.split '.' name = b.name :: b.inNamespace :: "svc" :: rest := by
  unfold ofDomain?
  obtain ⟨service, space⟩ := b
  obtain _ | ⟨x, _ | ⟨y, _ | ⟨z, rest⟩⟩⟩ := Text.split '.' name
  case cons.cons.cons =>
    by_cases hz : z = "svc"
    · simp [hz]
    · simp [hz]
  all_goals simp

theorem split_eq_svc_iff {rest : String} :
    (∃ more, Text.split '.' rest = "svc" :: more) ↔
      rest = "svc" ∨ ∃ more, rest = "svc" ++ "." ++ more := by
  have hsvc : '.' ∉ "svc".toList := by decide
  simp only [Text.split_eq_cons_iff, hsvc, not_false_eq_true, true_and]
  constructor
  · rintro ⟨_, ⟨rfl, -⟩ | ⟨more, rfl, -⟩⟩
    · exact .inl rfl
    · exact .inr ⟨more, rfl⟩
  · rintro (rfl | ⟨more, rfl⟩)
    · exact ⟨_, .inl ⟨rfl, rfl⟩⟩
    · exact ⟨_, .inr ⟨more, rfl, rfl⟩⟩

theorem ofDomain?_of_isDotless (h : b.IsDotless) {rest : String} :
    ofDomain? (b.name ++ "." ++ b.inNamespace ++ "." ++ rest) = some b ↔
      rest = "svc" ∨ ∃ more, rest = "svc" ++ "." ++ more := by
  rw [ofDomain?_eq_some_iff_split, split_of_isDotless h, ← split_eq_svc_iff]
  simp

theorem isNamedBy_iff :
    b.IsNamedBy name ↔ ∃ rest, name = b.name ++ "." ++ b.inNamespace ++ "." ++ rest ∧
      (rest = "svc" ∨ ∃ more, rest = "svc" ++ "." ++ more) := by
  constructor
  · rintro (rfl | ⟨more, rfl⟩)
    · exact ⟨"svc", rfl, .inl rfl⟩
    · exact ⟨"svc" ++ "." ++ more, by simp only [domain, String.append_assoc], .inr ⟨more, rfl⟩⟩
  · rintro ⟨_, rfl, rfl | ⟨more, rfl⟩⟩
    · exact .inl rfl
    · exact .inr ⟨more, by simp only [domain, String.append_assoc]⟩

theorem ofDomain?_eq_some_iff : ofDomain? name = some b ↔ b.IsDotless ∧ b.IsNamedBy name := by
  constructor
  · intro h
    obtain ⟨rest, hsplit⟩ := ofDomain?_eq_some_iff_split.1 h
    obtain ⟨hname, ⟨-, hnil⟩ | ⟨behind, rfl, hbehind⟩⟩ := Text.split_eq_cons_iff.1 hsplit
    · cases hnil
    obtain ⟨hspace, ⟨-, hnil⟩ | ⟨tail, rfl, htail⟩⟩ := Text.split_eq_cons_iff.1 hbehind
    · cases hnil
    refine ⟨⟨hname, hspace⟩, isNamedBy_iff.2 ⟨tail, ?_, split_eq_svc_iff.1 ⟨rest, htail⟩⟩⟩
    simp only [String.append_assoc]
    rfl
  · rintro ⟨hdotless, hnamed⟩
    obtain ⟨tail, rfl, htail⟩ := isNamedBy_iff.1 hnamed
    exact (ofDomain?_of_isDotless hdotless).2 htail

theorem ofDomain?_append (h : ofDomain? name = some b) (rest : String) :
    ofDomain? (name ++ "." ++ rest) = some b := by
  obtain ⟨hdotless, hnamed⟩ := ofDomain?_eq_some_iff.1 h
  refine ofDomain?_eq_some_iff.2 ⟨hdotless, .inr ?_⟩
  obtain rfl | ⟨more, rfl⟩ := hnamed
  · exact ⟨rest, rfl⟩
  · exact ⟨more ++ "." ++ rest, by simp only [String.append_assoc]⟩

/-- The third label is `svc`, it does not merely begin so. -/
theorem ofDomain?_of_longer_label (h : b.IsDotless) {c : Char} (hc : c ≠ '.') (rest : String) :
    ofDomain? (b.domain ++ String.singleton c ++ rest) = none := by
  have hassoc : b.domain ++ String.singleton c ++ rest =
      b.name ++ "." ++ b.inNamespace ++ "." ++ ("svc" ++ String.singleton c ++ rest) := by
    simp only [domain, String.append_assoc]
  rw [Option.eq_none_iff_forall_ne_some]
  intro b' hb'
  obtain ⟨more, hsplit⟩ := ofDomain?_eq_some_iff_split.1 hb'
  rw [hassoc, split_of_isDotless h] at hsplit
  have hthird := (List.cons.inj (List.cons.inj hsplit).2).2
  obtain hsvc | ⟨behind, hsvc⟩ := split_eq_svc_iff.1 ⟨more, hthird⟩
  · simpa using congrArg String.toList hsvc
  · have hlist := congrArg String.toList hsvc
    simp [hc] at hlist

/-- A domain is accepted exactly if it is the domain of a service, alone or with a dot and anything
behind it; it names no other service. Every other text is refused: the empty one, and those with a
third label that is longer than `svc`. -/
theorem ofDomain?_accepts (name : String) :
    (∀ b : Backend, ofDomain? name = some b ↔ b.IsDotless ∧ b.IsNamedBy name) ∧
    (∀ b b' : Backend, b.IsDotless → b.IsNamedBy name → b'.IsDotless → b'.IsNamedBy name → b = b') ∧
    (ofDomain? name = none ↔ ∀ b : Backend, b.IsDotless → ¬ b.IsNamedBy name) ∧
    ofDomain? "" = none ∧
    ∀ (b : Backend) (c : Char) (rest : String), b.IsDotless → c ≠ '.' →
      ofDomain? (b.domain ++ String.singleton c ++ rest) = none := by
  refine ⟨fun b => ofDomain?_eq_some_iff, ?unique, ?refused, rfl,
    fun b c rest hb hc => ofDomain?_of_longer_label hb hc rest⟩
  case unique =>
    intro b b' hb hnamed hb' hnamed'
    have h := ofDomain?_eq_some_iff.2 ⟨hb, hnamed⟩
    rw [ofDomain?_eq_some_iff.2 ⟨hb', hnamed'⟩] at h
    exact (Option.some.inj h).symm
  case refused =>
    rw [Option.eq_none_iff_forall_ne_some]
    simp only [ne_eq, ofDomain?_eq_some_iff, not_and]

/-- A domain with a label of the cluster behind the third, and one with two empty labels. Without
its last letter the second is no domain of a service. -/
theorem ofDomain?_gateway :
    ofDomain? "gateway.ns.svc.local" = some ⟨"gateway", "ns"⟩ ∧ ofDomain? "..svc" = some ⟨"", ""⟩ ∧
      (∀ b : Backend, b.IsDotless → ¬ b.IsNamedBy "..sv") ∧
      ofDomain? "gateway.ns.svcs.local" = none := by
  have hgateway : IsDotless ⟨"gateway", "ns"⟩ := ⟨by decide, by decide⟩
  obtain ⟨haccepted, -, -, -, hlonger⟩ := ofDomain?_accepts "gateway.ns.svc.local"
  obtain ⟨haccepted', -⟩ := ofDomain?_accepts "..svc"
  obtain ⟨-, -, hrefused, -⟩ := ofDomain?_accepts "..sv"
  exact ⟨(haccepted _).2 ⟨hgateway, .inr ⟨"local", rfl⟩⟩,
    (haccepted' _).2 ⟨⟨by decide, by decide⟩, .inl rfl⟩,
    hrefused.1 (by decide), hlonger _ 's' ".local" hgateway (by decide)⟩

end Backend

namespace Routing

/-- A name is too short for either reading, a host to expose, or a service of the cluster. -/
inductive NameKind where
  | bare
  | external
  | service
deriving DecidableEq

def NameKind.Fits (name : String) : NameKind → Prop
  | bare => name.toList.count '.' < 2
  | external => isExternal name = true ∧ Backend.ofDomain? name = none
  | service => isExternal name = false ∧ (Backend.ofDomain? name).isSome = true

instance (name : String) : DecidablePred (NameKind.Fits name)
  | .bare => inferInstanceAs (Decidable (_ < _))
  | .external => inferInstanceAs (Decidable (_ ∧ _))
  | .service => inferInstanceAs (Decidable (_ ∧ _))

variable {name : String}

theorem isExternal_eq_false_of_not_form (h : ¬ HasExternalForm name) : isExternal name = false :=
  Bool.eq_false_iff.2 fun he => h ((isExternal_iff name).1 he)

theorem neither_of_bare (h : name.toList.count '.' < 2) :
    isExternal name = false ∧ Backend.ofDomain? name = none := by
  have hlength : ¬ 3 ≤ (Text.split '.' name).length := by
    rw [Text.length_split]
    omega
  exact ⟨isExternal_eq_false_of_not_form fun hx => hlength hx.1,
    Backend.ofDomain?_of_not_form fun hs => hlength hs.1⟩

theorem isExternal_of_service {b : Backend} (h : Backend.ofDomain? name = some b) :
    isExternal name = false := by
  have hform : HasServiceForm name := by
    by_contra hno
    rw [Backend.ofDomain?_of_not_form hno] at h
    cases h
  exact isExternal_eq_false_of_not_form fun hx => hx.2 hform.2

theorem ofDomain?_of_external (h : isExternal name = true) : Backend.ofDomain? name = none := by
  rw [Option.eq_none_iff_forall_ne_some]
  intro b hb
  rw [isExternal_of_service hb] at h
  cases h

theorem external_or_service (h : 2 ≤ name.toList.count '.') :
    isExternal name = true ∨ (Backend.ofDomain? name).isSome = true := by
  have hlength : 3 ≤ (Text.split '.' name).length := by
    rw [Text.length_split]
    omega
  by_cases hsvc : (Text.split '.' name)[2]? = some "svc"
  · exact .inr (by rw [Backend.ofDomain?_of_form ⟨hlength, hsvc⟩, Option.isSome_some])
  · exact .inl ((isExternal_iff name).2 ⟨hlength, hsvc⟩)

theorem NameKind.exists_fits (name : String) : ∃ kind : NameKind, kind.Fits name := by
  by_cases hdots : name.toList.count '.' < 2
  · exact ⟨bare, hdots⟩
  · obtain hx | hs := external_or_service (Nat.le_of_not_lt hdots)
    · exact ⟨external, hx, ofDomain?_of_external hx⟩
    · obtain ⟨b, hb⟩ := Option.isSome_iff_exists.1 hs
      exact ⟨service, isExternal_of_service hb, hs⟩

theorem NameKind.eq_of_fits {kind kind' : NameKind} (h : kind.Fits name) (h' : kind'.Fits name) :
    kind = kind' := by
  cases kind <;> cases kind' <;> simp_all [Fits, neither_of_bare]

theorem NameKind.existsUnique_fits (name : String) : ∃! kind : NameKind, kind.Fits name := by
  obtain ⟨kind, hkind⟩ := exists_fits name
  exact ⟨kind, hkind, fun _ h => eq_of_fits h hkind⟩

theorem isExternal_of_mem {f : Factory} {i : Ingress} {routes : List Route}
    (h : (f.makeRoutes i).result = .ok routes) {r : Route} (hr : r ∈ routes) :
    ∃ host, r.spec.host = some host ∧ isExternal host = true := by
  obtain ⟨p, hp, b, -, rfl⟩ := Factory.eq_routeTo_of_mem h hr
  exact ⟨p.2, rfl, (isExternal_iff _).2 (mem_exposures.1 hp).2.2.2⟩

/-- The two readings of a name agree: it has fewer than three labels and is neither, or it is a host
to expose and no service, or a service and no host to expose. So no route is made for a service,
whatever labels stand behind its third. -/
theorem readings_agree (name : String) :
    (∃! kind : NameKind, kind.Fits name) ∧
    (NameKind.bare.Fits name → isExternal name = false ∧ Backend.ofDomain? name = none) ∧
    (∀ (f : Factory) (i : Ingress) (routes : List Route), (f.makeRoutes i).result = .ok routes →
      ∀ r ∈ routes, ∃ host, r.spec.host = some host ∧ Backend.ofDomain? host = none) ∧
    ∀ b, Backend.ofDomain? name = some b → ∀ longer,
      (longer = name ∨ ∃ rest, longer = name ++ "." ++ rest) →
      isExternal longer = false ∧
      ∀ (f : Factory) (i : Ingress) (routes : List Route), (f.makeRoutes i).result = .ok routes →
        ∀ r ∈ routes, r.spec.host ≠ some longer := by
  refine ⟨NameKind.existsUnique_fits name, neither_of_bare, ?routed, ?service⟩
  case routed =>
    intro f i routes h r hr
    obtain ⟨host, hhost, hx⟩ := isExternal_of_mem h hr
    exact ⟨host, hhost, ofDomain?_of_external hx⟩
  case service =>
    intro b hb longer hlonger
    have hservice : Backend.ofDomain? longer = some b := by
      obtain rfl | ⟨rest, rfl⟩ := hlonger
      · exact hb
      · exact Backend.ofDomain?_append hb rest
    have hno := isExternal_of_service hservice
    refine ⟨hno, fun f i routes h r hr hhost => ?_⟩
    obtain ⟨host, hhost', hx⟩ := isExternal_of_mem h hr
    rw [hhost] at hhost'
    cases hhost'
    rw [hno] at hx
    cases hx

/-- `mixedIngress` names a service among its hosts, and has routes for other hosts only. -/
theorem readings_agree_mixedIngress :
    let service := "hello.default.svc.cluster.local"
    NameKind.bare.Fits "localhost" ∧ isExternal "localhost" = false ∧
      Backend.ofDomain? service = some ⟨"hello", "default"⟩ ∧ isExternal service = false ∧
      ∃ routes, ((Factory.mk "600s").makeRoutes mixedIngress).result = .ok routes ∧
        routes.length = 3 ∧ ∀ r ∈ routes, r.spec.host ≠ some service := by
  intro service
  have hmade := Factory.makeRoutes_of_resolved ⟨"600s"⟩ mixedIngress mixedIngress_not_disabled
    mixedIngress_backend
  have hbare : NameKind.bare.Fits "localhost" := by decide
  have hdomain : Backend.ofDomain? "hello.default.svc" = some ⟨"hello", "default"⟩ := by decide
  obtain ⟨-, hneither, -⟩ := readings_agree "localhost"
  obtain ⟨-, -, -, hservice⟩ := readings_agree "hello.default.svc"
  obtain ⟨hno, hroutes⟩ := hservice _ hdomain service (.inr ⟨"cluster.local", rfl⟩)
  exact ⟨hbare, (hneither hbare).1, Backend.ofDomain?_append hdomain "cluster.local", hno, _, hmade,
    by rw [List.length_map]; decide, hroutes _ _ _ hmade⟩

end Routing

end EdgeRoutes
