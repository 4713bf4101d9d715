import EdgeRoutes.Proofs.Duration.Clock
import EdgeRoutes.Proofs.Resource.LastTimeout
import EdgeRoutes.Proofs.Routing.Frame

namespace EdgeRoutes

open Duration (Clock signedText)

/-- A text that begins with a sign or a digit does not stand for nothing. -/
theorem Duration.isTimeout_signedText (negative : Bool) (c : Clock) (h : c.total ≤ 2 ^ 53) :
    Ingress.IsTimeout (signedText negative c) ⟨negative, c.total, 0, by omega, by decide⟩ := by
  obtain ⟨first, hfirst, hdigit⟩ := c.beginsWithDigit_text
  have hhead : (signedText negative c).toList.head? = some (if negative then '-' else first) := by
    cases negative <;> simp [signedText, hfirst]
  have hnot : ∀ s : String, (∀ d, s.toList.head? = some d → d ≠ '-' ∧ d.isDigit = false) →
      signedText negative c ≠ s := by
    rintro s hletter rfl
    obtain ⟨hminus, hno⟩ := hletter _ hhead
    cases negative with
    | true => exact hminus rfl
    | false =>
      rw [if_neg (by decide), hdigit] at hno
      cases hno
  refine ⟨hnot "" (by simp), ?_, Duration.ofText_signedText negative c h⟩
  rw [Yaml.isNull, List.contains_eq_mem, decide_eq_false_iff_not]
  intro hmem
  refine hnot (signedText negative c) (fun d hd => ?_) rfl
  have hnull : ∀ s ∈ ["null", "Null", "NULL", "~"],
      ∃ e, s.toList.head? = some e ∧ e ≠ '-' ∧ e.isDigit = false := by
    simp only [List.forall_mem_cons]
    exact ⟨⟨'n', rfl, by decide⟩, ⟨'N', rfl, by decide⟩, ⟨'N', rfl, by decide⟩,
      ⟨'~', rfl, by decide⟩, by simp⟩
  obtain ⟨e, he, hno⟩ := hnull _ hmem
  rw [hd] at he
  cases he
  exact hno

namespace Routing

def timeoutOf (r : Route) : Option String := r.metadata.annotationTable.get? timeoutAnnotation

namespace Factory

variable (f : Factory) {i : Ingress}

theorem ruleTimeout_of_getLast? {rule : Ingress.Rule} {http : Ingress.Http} {p : Ingress.Path}
    {d : Duration} (hhttp : rule.http = some http) (hlast : http.paths.getLast? = some p)
    (hd : p.timeout = some d) : f.ruleTimeout rule = some d.annotation := by
  have hpaths : rulePaths rule = http.paths := by
    rw [rulePaths, hhttp]
  have hpath : f.pathTimeout p = d.annotation := by
    rw [pathTimeout, hd]
  rw [ruleTimeout_eq, hpaths, hlast, Option.map_some, hpath]

theorem timeoutOf_routeTo {rule : Ingress.Rule} {timeout : String}
    (h : f.ruleTimeout rule = some timeout) (host : String) (b : Backend) :
    timeoutOf (f.routeTo i host rule b) = some timeout :=
  f.get?_annotations_of_ruleTimeout i h

theorem eq_routeTo_of_getElem? {routes : List Route} (h : (f.makeRoutes i).result = .ok routes)
    {n : Nat} {r : Route} (hr : routes[n]? = some r) {p : Ingress.Rule × String}
    (hp : (exposures i.spec.rules)[n]? = some p) : ∃ b, r = f.routeTo i p.2 p.1 b := by
  obtain ⟨rfl, -⟩ | ⟨b, -, -, rfl⟩ := routes_of_ok h
  · cases hr
  · rw [List.getElem?_map, hp, Option.map_some] at hr
    exact ⟨b, (Option.some.inj hr).symm⟩

end Factory

/-- A timeout of whole hours, minutes and seconds, of `2 ^ 53` seconds at most, is accepted with its
sign. Where it stands at the last path of a rule, every route of a host of the rule has the total
number of seconds in its annotation. -/
theorem makeRoutes_clockTimeout (negative : Bool) (c : Clock) (h : c.total ≤ 2 ^ 53) :
    Duration.ofText (signedText negative c) = .ok ⟨negative, c.total, 0, by omega, by decide⟩ ∧
    ∀ (doc : Wire) (i : Ingress) (k : Nat), doc.read Ingress.codec = some i →
      Ingress.HasLastTimeout doc k (signedText negative c) →
      ∃ rule, i.spec.rules[k]? = some rule ∧
        ∀ (f : Factory) (routes : List Route), (f.makeRoutes i).result = .ok routes →
          ∀ (n : Nat) (host : String) (r : Route),
            (exposures i.spec.rules)[n]? = some (rule, host) → routes[n]? = some r →
            r.spec.host = some host ∧ timeoutOf r =
              some (String.ofList
                ((if negative then ['-'] else []) ++ Numeral.digits c.total ++ ['s'])) := by
  have htimeout := Duration.isTimeout_signedText negative c h
  refine ⟨htimeout.denotes, fun doc i k hread hdoc => ?_⟩
  obtain ⟨rule, http, p, hrule, hhttp, hlast, hd⟩ := Ingress.timeout_of_read htimeout hdoc hread
  refine ⟨rule, hrule, fun f routes hroutes n host r hp hr => ?_⟩
  obtain ⟨b, rfl⟩ := f.eq_routeTo_of_getElem? hroutes hr hp
  refine ⟨rfl, ?_⟩
  rw [f.timeoutOf_routeTo (f.ruleTimeout_of_getLast? hhttp hlast hd),
    Duration.annotation_whole _ rfl h]

/-- A document with a path of no timeout, and a rule whose last path has one below zero. -/
def clockDocument : Json :=
  let ruleOf (host : String) (paths : List Json) : Json :=
    .object [("hosts", .array [.text host]), ("http", .object [("paths", .array paths)])]
  let lb : Json :=
    .object [("ingress", .array [.object [("domainInternal", .text "kourier.ns.svc")]])]
  .object [("metadata", .object []),
    ("spec", .object [("rules", .array [ruleOf "a.example.com" [.object []],
      ruleOf "b.example.com" [.object [], .object [("timeout", .text "-1h02m3s")]]])]),
    ("status", .object [("publicLoadBalancer", lb)])]

def clockOfDocument : Clock :=
  .hours ⟨['1'], by simp, by simp⟩ ⟨['0', '2'], by simp, by simp⟩ ⟨['3'], by simp, by simp⟩

theorem hasLastTimeout_clockDocument :
    Ingress.HasLastTimeout (.json clockDocument) 1 (signedText true clockOfDocument) := by
  have htext : signedText true clockOfDocument = "-1h02m3s" := by decide +kernel
  rw [htext]
  exact ⟨_, .object rfl, _, _, _, .object rfl, rfl, rfl, _, .object rfl, _, _, _, .object rfl, rfl,
    rfl, _, .object rfl, rfl⟩

def clockIngress : Ingress :=
  ((Wire.json clockDocument).read Ingress.codec).get (by decide +kernel)

theorem makeRoutes_clockDocument :
    clockOfDocument.total ≤ 2 ^ 53 ∧
    (Wire.json clockDocument).read Ingress.codec = some clockIngress ∧
      ∃ routes r, ((Factory.mk "600s").makeRoutes clockIngress).result = .ok routes ∧
        routes[1]? = some r ∧ r.spec.host = some "b.example.com" ∧ timeoutOf r = some "-3723s" := by
  have htotal : clockOfDocument.total ≤ 2 ^ 53 := by decide +kernel
  have hread : (Wire.json clockDocument).read Ingress.codec = some clockIngress :=
    (Option.some_get _).symm
  obtain ⟨-, hdoc⟩ := makeRoutes_clockTimeout true clockOfDocument htotal
  obtain ⟨rule, hrule, hroutes⟩ := hdoc _ _ 1 hread hasLastTimeout_clockDocument
  have henabled : ¬ Disabled clockIngress := by
    rw [← contains_iff_disabled]
    decide +kernel
  have hbackend : resolveBackend clockIngress = some ⟨"kourier", "ns"⟩ := by decide +kernel
  have hexposed : (exposures clockIngress.spec.rules)[1]? =
      clockIngress.spec.rules[1]?.map (·, "b.example.com") := by decide +kernel
  rw [hrule, Option.map_some] at hexposed
  have hmade := Factory.makeRoutes_of_resolved ⟨"600s"⟩ clockIngress henabled hbackend
  have hroute : ((exposures clockIngress.spec.rules).map fun p =>
      (Factory.mk "600s").routeTo clockIngress p.2 p.1 ⟨"kourier", "ns"⟩)[1]? =
        some ((Factory.mk "600s").routeTo clockIngress "b.example.com" rule ⟨"kourier", "ns"⟩) := by
    rw [List.getElem?_map, hexposed, Option.map_some]
  obtain ⟨hhost, ht⟩ := hroutes ⟨"600s"⟩ _ hmade 1 "b.example.com" _ hexposed hroute
  have htext :
      String.ofList (['-'] ++ Numeral.digits clockOfDocument.total ++ ['s']) = "-3723s" := by
    decide +kernel
  rw [if_pos rfl, htext] at ht
  exact ⟨htotal, hread, _, _, hmade, hroute, hhost, ht⟩

end Routing

end EdgeRoutes
