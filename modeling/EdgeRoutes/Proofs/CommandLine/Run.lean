import EdgeRoutes.CommandLine.Run
import EdgeRoutes.Proofs.Routing.RouteSet
import EdgeRoutes.Proofs.Yaml.Stream

namespace EdgeRoutes.CommandLine

open Routing (Factory)

/-- What has to succeed before anything is printed. -/
inductive Stage where
  | readConfiguration
  | parseConfiguration
  | controllerName
  | timeout
  | readIngress
  | parseIngress
  | makeRoutes

def parseFailure? {α : Type} (c : Codec α) (text : String) : Option Failure :=
  match c.ofYaml text with
  | .ok _ => none
  | .error .unfit => some .unfitDocument
  | .error .outOfRange => some .outOfRange

def content? {α : Type} (c : Codec α) (file : Option String) : Option α :=
  file.bind fun text => (c.ofYaml text).toOption

namespace Stage

def all : List Stage :=
  [readConfiguration, parseConfiguration, controllerName, timeout,
    readIngress, parseIngress, makeRoutes]

def ofConfiguration : List Stage := [readConfiguration, parseConfiguration, controllerName, timeout]

def ofIngress : List Stage := [readIngress, parseIngress, makeRoutes]

theorem all_eq : all = ofConfiguration ++ ofIngress := rfl

/-- Why a stage fails with the texts of the two files, if it fails. What becomes of other stages
does not matter, except that there has to be something to work on. -/
def failure? (configuration ingress : Option String) : Stage → Option Failure
  | readConfiguration => if configuration.isNone then some .unreadableFile else none
  | parseConfiguration => configuration.bind (parseFailure? Configuration.codec)
  | controllerName => (content? Configuration.codec configuration).bind fun c =>
    if c.controllerName = "" then some (.configuration .controllerName) else none
  | timeout => (content? Configuration.codec configuration).bind fun c =>
    if c.defaultTimeoutSeconds = 0 then some (.configuration .timeout) else none
  | readIngress => if ingress.isNone then some .unreadableFile else none
  | parseIngress => ingress.bind (parseFailure? Ingress.codec)
  | makeRoutes => (content? Configuration.codec configuration).bind fun c =>
    (content? Ingress.codec ingress).bind fun i =>
      match ((Factory.ofConfiguration c).makeRoutes i).result with
      | .ok _ => none
      | .error e => some (.routing e)

def firstFailure? (configuration ingress : Option String) : Option Failure :=
  all.findSome? (failure? configuration ingress)

end Stage

namespace Outcome

variable {α β : Type}

theorem bind_of_ok {o : Outcome α} {a : α} (h : o.result = .ok a) (next : α → Outcome β) :
    o >>= next = ⟨o.output ++ (next a).output, o.log ++ (next a).log, (next a).result⟩ := by
  simp only [bind, h]

theorem bind_of_error {o : Outcome α} {e : Failure} (h : o.result = .error e)
    (next : α → Outcome β) :
    o >>= next = ⟨o.output, o.log, .error e⟩ := by
  simp only [bind, h]

theorem ofExcept_ok_bind (a : α) (next : α → Outcome β) : ofExcept (.ok a) >>= next = next a := by
  rw [bind_of_ok rfl]
  simp [ofExcept]

theorem ofExcept_error_bind (e : Failure) (next : α → Outcome β) :
    ofExcept (.error e) >>= next = ofExcept (.error e) := by
  rw [bind_of_error rfl]
  rfl

@[simp] theorem reporting_result (o : Outcome α) : o.reporting.result = o.result := by
  rw [reporting]
  split
  · rfl
  · rfl

@[simp] theorem reporting_output (o : Outcome α) : o.reporting.output = o.output := by
  rw [reporting]
  split
  · rfl
  · rfl

def AllOrNothing (o : Outcome α) : Prop := ∀ e, o.result = .error e → o.output = ""

theorem AllOrNothing.of_silent {o : Outcome α} (h : o.output = "") : o.AllOrNothing := fun _ _ => h

theorem AllOrNothing.of_ok {o : Outcome α} {a : α} (h : o.result = .ok a) : o.AllOrNothing := by
  intro e he
  rw [h] at he
  cases he

theorem AllOrNothing.bind {o : Outcome α} {next : α → Outcome β} (ho : o.output = "")
    (hnext : ∀ a, (next a).AllOrNothing) : (o >>= next).AllOrNothing := by
  cases h : o.result with
  | error e =>
    rw [bind_of_error h]
    exact .of_silent ho
  | ok a =>
    rw [bind_of_ok h]
    intro e he
    rw [ho, String.empty_append]
    exact hnext a e he

theorem AllOrNothing.reporting {o : Outcome α} (h : o.AllOrNothing) : o.reporting.AllOrNothing := by
  intro e he
  rw [reporting_result] at he
  rw [reporting_output]
  exact h e he

end Outcome

/-! The stages -/

theorem readFile_output {α : Type} (c : Codec α) (file : Option String) :
    (readFile c file).output = "" := by
  cases file with
  | none => rfl
  | some text => rfl

theorem makeRoutes_output (f : Factory) (i : Ingress) : (makeRoutes f i).output = "" := by
  rw [makeRoutes]
  split
  · rfl
  · rfl

/-- Routes are written one after another, and that does not fail. -/
theorem writeRoutes_eq (routes : List Route) :
    writeRoutes routes = ⟨Yaml.renderStream (routes.map Route.codec.write),
      routes.map fun r => .writing r.key, .ok ()⟩ := by
  induction routes with
  | nil => rfl
  | cons r rest ih =>
    rw [writeRoutes, Outcome.bind_of_ok rfl, ih]
    simp [writeRoute, Yaml.renderStream, String.join_cons]

theorem allOrNothing_runWith (c : Configuration) (ingress : Option String) :
    (runWith c ingress).AllOrNothing := by
  refine .bind rfl fun _ => .bind (readFile_output _ _) fun i =>
    .bind (makeRoutes_output _ _) fun routes => ?_
  rw [writeRoutes_eq]
  exact .of_ok rfl

/-- A run that fails, for whatever reason, prints nothing. -/
theorem output_eq_empty_of_error {args : List String} {file : String → Option String} {e : Failure}
    (h : (run args file).result = .error e) : (run args file).output = "" := by
  have hrun : (run args file).AllOrNothing := by
    rw [run]
    cases Request.ofArguments args with
    | none => exact .of_silent rfl
    | some request =>
      cases request with
      | help => exact .of_ok rfl
      | version => exact .of_ok rfl
      | expose files =>
        exact .bind (readFile_output _ _) fun c => (allOrNothing_runWith c _).reporting
  exact hrun e h

theorem readFile_some {α : Type} (c : Codec α) (text : String) :
    (∃ e, parseFailure? c text = some e ∧ readFile c (some text) = .ofExcept (.error e)) ∨
      ∃ a, parseFailure? c text = none ∧ content? c (some text) = some a ∧
        readFile c (some text) = .ofExcept (.ok a) := by
  cases h : c.ofYaml text with
  | ok a =>
    refine .inr ⟨a, ?_, ?_, ?_⟩
    · rw [parseFailure?, h]
    · simp [content?, h, Except.toOption]
    · simp [readFile, h, Except.mapError]
  | error e =>
    cases e with
    | unfit =>
      exact .inl ⟨.unfitDocument, by rw [parseFailure?, h], by simp [readFile, h, Except.mapError]⟩
    | outOfRange =>
      exact .inl ⟨.outOfRange, by rw [parseFailure?, h], by simp [readFile, h, Except.mapError]⟩

/-- Until the configuration is known to be one that can be used, the ingress does not matter. -/
theorem expose_ofConfiguration (configuration ingress : Option String) :
    (∃ e, Stage.ofConfiguration.findSome? (Stage.failure? configuration ingress) = some e ∧
        (expose configuration ingress).result = .error e) ∨
      ∃ c, Stage.ofConfiguration.findSome? (Stage.failure? configuration ingress) = none ∧
        content? Configuration.codec configuration = some c ∧ validate c = .ofExcept (.ok ()) ∧
        expose configuration ingress = (runWith c ingress).reporting := by
  cases configuration with
  | none => exact .inl ⟨.unreadableFile, rfl, rfl⟩
  | some text =>
    obtain ⟨e, he, hread⟩ | ⟨c, he, hc, hread⟩ := readFile_some Configuration.codec text
    · refine .inl ⟨e, by simp [Stage.ofConfiguration, Stage.failure?, he], ?_⟩
      rw [expose, hread, Outcome.ofExcept_error_bind, Outcome.ofExcept]
    · have hexpose : expose (some text) ingress = (runWith c ingress).reporting := by
        rw [expose, hread, Outcome.ofExcept_ok_bind]
      have hinvalid : ∀ fault, c.validate = .error fault →
          (expose (some text) ingress).result = .error (.configuration fault) := by
        intro fault hfault
        rw [hexpose, Outcome.reporting_result, runWith, validate, hfault, Except.mapError,
          Outcome.ofExcept_error_bind, Outcome.ofExcept]
      by_cases hname : c.controllerName = ""
      · exact .inl ⟨.configuration .controllerName,
          by simp [Stage.ofConfiguration, Stage.failure?, he, hc, hname],
          hinvalid _ (by rw [Configuration.validate, if_pos hname])⟩
      by_cases htimeout : c.defaultTimeoutSeconds = 0
      · exact .inl ⟨.configuration .timeout,
          by simp [Stage.ofConfiguration, Stage.failure?, he, hc, hname, htimeout],
          hinvalid _ (by rw [Configuration.validate, if_neg hname, if_pos htimeout])⟩
      refine .inr ⟨c, by simp [Stage.ofConfiguration, Stage.failure?, he, hc, hname, htimeout], hc,
        ?_, hexpose⟩
      rw [validate, Configuration.validate, if_neg hname, if_neg htimeout, Except.mapError]

theorem runWith_ofIngress {configuration : Option String} (ingress : Option String)
    {c : Configuration}
    (hc : content? Configuration.codec configuration = some c)
    (hvalid : validate c = .ofExcept (.ok ())) :
    (∃ e, Stage.ofIngress.findSome? (Stage.failure? configuration ingress) = some e ∧
        (runWith c ingress).result = .error e) ∨
      ∃ i routes, Stage.ofIngress.findSome? (Stage.failure? configuration ingress) = none ∧
        content? Ingress.codec ingress = some i ∧
        ((Factory.ofConfiguration c).makeRoutes i).result = .ok routes ∧
        (runWith c ingress).result = .ok () ∧
        (runWith c ingress).output = Yaml.renderStream (routes.map Route.codec.write) := by
  rw [runWith, hvalid, Outcome.ofExcept_ok_bind]
  cases ingress with
  | none => exact .inl ⟨.unreadableFile, rfl, rfl⟩
  | some text =>
    obtain ⟨e, he, hread⟩ | ⟨i, he, hi, hread⟩ := readFile_some Ingress.codec text
    · refine .inl ⟨e, by simp [Stage.ofIngress, Stage.failure?, he], ?_⟩
      rw [hread, Outcome.ofExcept_error_bind, Outcome.ofExcept]
    · rw [hread, Outcome.ofExcept_ok_bind]
      cases hmade : ((Factory.ofConfiguration c).makeRoutes i).result with
      | error e =>
        have hresult : (makeRoutes (.ofConfiguration c) i).result = .error (.routing e) := by
          simp only [makeRoutes, hmade]
        refine .inl ⟨.routing e, by simp [Stage.ofIngress, Stage.failure?, he, hc, hi, hmade], ?_⟩
        rw [Outcome.bind_of_error hresult]
      | ok routes =>
        have hresult : (makeRoutes (.ofConfiguration c) i).result = .ok routes := by
          simp only [makeRoutes, hmade]
        rw [Outcome.bind_of_ok hresult, makeRoutes_output, String.empty_append, writeRoutes_eq]
        exact .inr ⟨i, routes, by simp [Stage.ofIngress, Stage.failure?, he, hc, hi, hmade], hi,
          hmade, rfl, rfl⟩

/-- A run reports the first failure of a stage, or prints what all stages have led to. -/
theorem expose_result (configuration ingress : Option String) :
    (∃ e, Stage.firstFailure? configuration ingress = some e ∧
        (expose configuration ingress).result = .error e) ∨
      ∃ c i routes, Stage.firstFailure? configuration ingress = none ∧
        content? Configuration.codec configuration = some c ∧
        content? Ingress.codec ingress = some i ∧
        ((Factory.ofConfiguration c).makeRoutes i).result = .ok routes ∧
        (expose configuration ingress).result = .ok () ∧
        (expose configuration ingress).output =
          Yaml.renderStream (routes.map Route.codec.write) := by
  rw [Stage.firstFailure?, Stage.all_eq, List.findSome?_append]
  obtain ⟨e, he, hresult⟩ | ⟨c, hnone, hc, hvalid, hexpose⟩ :=
    expose_ofConfiguration configuration ingress
  · exact .inl ⟨e, by rw [he, Option.some_or], hresult⟩
  · rw [hnone, Option.none_or, hexpose, Outcome.reporting_result, Outcome.reporting_output]
    obtain h | ⟨i, routes, hingress, hi, hmade, hresult⟩ := runWith_ofIngress ingress hc hvalid
    · exact .inl h
    · exact .inr ⟨c, i, routes, hingress, hc, hi, hmade, hresult⟩

/-! What is printed -/

def routeDocuments (routes : List Route) : List String :=
  routes.map fun r => Yaml.render (Route.codec.write r)

/-- The last line of the document of a route is about wildcards. -/
theorem endsLine_write {r : Route} (h : r.spec.wildcardPolicy = some .none) :
    Yaml.EndsLine (Route.codec.write r) := by
  obtain ⟨metadata, host, path, target, alternateBackends, port, tls, policy⟩ := r
  dsimp only at h
  subst h
  obtain ⟨front, hspec⟩ : ∃ front, Route.Spec.codec.write
      ⟨host, path, target, alternateBackends, port, tls, some .none⟩ =
        .object (front ++ [("wildcardPolicy", .text "None")]) := ⟨_, rfl⟩
  obtain ⟨fields, hroute⟩ : ∃ fields, Route.codec.write
      ⟨metadata, host, path, target, alternateBackends, port, tls, some .none⟩ =
        .object (fields ++ [("spec", Route.Spec.codec.write
          ⟨host, path, target, alternateBackends, port, tls, some .none⟩)]) :=
    ⟨("apiVersion", .text Route.kind.apiVersion) :: ("kind", .text Route.kind.kind) :: _, rfl⟩
  rw [hroute, hspec]
  exact Yaml.endsLine_object (Yaml.endsLine_object (Yaml.endsLine_text (by decide +kernel)) _ _) _ _

theorem getLast?_render_of_endsLine {j : Json} (h : Yaml.EndsLine j) :
    (Yaml.render j).toList.getLast? = some '\n' := by
  rw [Yaml.render, String.toList_ofList]
  exact h _

theorem documents_of_makeRoutes {f : Factory} {i : Ingress} {routes : List Route}
    (h : (f.makeRoutes i).result = .ok routes) :
    Yaml.documents (Yaml.renderStream (routes.map Route.codec.write)) = routeDocuments routes := by
  rw [Yaml.documents_renderStream, List.map_map]
  · rfl
  · intro j hj
    obtain ⟨r, hr, rfl⟩ := List.mem_map.1 hj
    obtain ⟨p, -, b, -, rfl⟩ := f.eq_routeTo_of_mem h hr
    exact getLast?_render_of_endsLine (endsLine_write rfl)

/-- A run that is asked for routes reports the failure of the first stage that fails, whatever
becomes of the later ones, and then prints nothing. If no stage fails, it prints the documents of
the routes, each after a line of three hyphens; no line in a document starts with three hyphens, so
that the documents can be told apart. -/
theorem run_allOrNothing (args : List String) (file : String → Option String) (files : Files)
    (h : Request.ofArguments args = some (.expose files)) :
    (∀ (before after : List Stage) (s : Stage) (e : Failure), Stage.all = before ++ s :: after →
      (∀ t ∈ before, t.failure? (file files.configuration) (file files.ingress) = none) →
      s.failure? (file files.configuration) (file files.ingress) = some e →
      (run args file).result = .error e ∧ (run args file).output = "") ∧
    ((∀ s : Stage, s.failure? (file files.configuration) (file files.ingress) = none) →
      ∃ c i routes, content? Configuration.codec (file files.configuration) = some c ∧
        content? Ingress.codec (file files.ingress) = some i ∧
        ((Factory.ofConfiguration c).makeRoutes i).result = .ok routes ∧
        (run args file).result = .ok () ∧
        (run args file).output = String.join ((routeDocuments routes).map ("---\n" ++ ·)) ∧
        (∀ d ∈ routeDocuments routes, ∀ rest, Yaml.FromLine d.toList rest →
          ¬ ['-', '-', '-'] <+: rest) ∧
        Yaml.documents (run args file).output = routeDocuments routes) := by
  have hrun : run args file = expose (file files.configuration) (file files.ingress) := by
    rw [run, h]
  constructor
  · intro before after s e hall hbefore hs
    have hfirst : Stage.firstFailure? (file files.configuration) (file files.ingress) = some e := by
      rw [Stage.firstFailure?, hall, List.findSome?_append, List.findSome?_eq_none_iff.2 hbefore,
        Option.none_or, List.findSome?_cons, hs]
    obtain ⟨e', he', hresult⟩ | ⟨c, i, routes, hnone, -⟩ :=
      expose_result (file files.configuration) (file files.ingress)
    · rw [hfirst] at he'
      cases he'
      rw [← hrun] at hresult
      exact ⟨hresult, output_eq_empty_of_error hresult⟩
    · rw [hfirst] at hnone
      cases hnone
  · intro hnone
    have hfirst : Stage.firstFailure? (file files.configuration) (file files.ingress) = none :=
      List.findSome?_eq_none_iff.2 fun s _ => hnone s
    obtain ⟨e, he, -⟩ | ⟨c, i, routes, -, hc, hi, hmade, hresult, houtput⟩ :=
      expose_result (file files.configuration) (file files.ingress)
    · rw [hfirst] at he
      cases he
    · rw [hrun]
      refine ⟨c, i, routes, hc, hi, hmade, hresult, ?_, fun d hd rest hrest => ?_, ?_⟩
      · rw [houtput, Yaml.renderStream, routeDocuments, List.map_map, List.map_map]
        rfl
      · obtain ⟨r, -, rfl⟩ := List.mem_map.1 hd
        exact Yaml.not_marker_of_fromLine _ hrest
      · rw [houtput]
        exact documents_of_makeRoutes hmade

def exampleFiles : Files := ⟨"config.yaml", "ingress.yaml"⟩

def exampleArguments : List String :=
  ["--with-config-file", exampleFiles.configuration, "--ingress-file=" ++ exampleFiles.ingress]

def exampleConfiguration : String := "controller_name: c\n"

/-- An ingress with a label that looks like the end of a document. -/
def exampleIngress : String :=
  "metadata: \x7blabels: \x7ba: \"b\\n---\"\x7d\x7d\n" ++
  "spec: \x7brules: [\x7bhosts: [a.b.c]\x7d]\x7d\n" ++
  "status: \x7bpublicLoadBalancer: \x7bingress: [\x7bdomainInternal: k.n.svc\x7d]\x7d\x7d\n"

def exampleTexts (path : String) : Option String :=
  if path = exampleFiles.configuration then some exampleConfiguration
  else if path = exampleFiles.ingress then some exampleIngress
  else none

def brokenTexts (path : String) : Option String :=
  if path = exampleFiles.configuration then
    some "controller_name: c\ndefault_max_revision_timeout_seconds: 0\n"
  else none

/-- An ingress that is missing does not count after a timeout of zero, and a label does not count as
the end of a document. -/
theorem run_exampleArguments :
    Request.ofArguments exampleArguments = some (.expose exampleFiles) ∧
    ((run exampleArguments brokenTexts).result = .error (.configuration .timeout) ∧
      (run exampleArguments brokenTexts).output = "") ∧
    ∃ r : Route, (run exampleArguments exampleTexts).output =
      "---\n" ++ Yaml.render (Route.codec.write r) ∧
      Yaml.documents (run exampleArguments exampleTexts).output =
        [Yaml.render (Route.codec.write r)] := by
  have hrequest : Request.ofArguments exampleArguments = some (.expose exampleFiles) := by
    decide +kernel
  obtain ⟨hfails, -⟩ := run_allOrNothing exampleArguments brokenTexts exampleFiles hrequest
  obtain ⟨-, hprints⟩ := run_allOrNothing exampleArguments exampleTexts exampleFiles hrequest
  have hbefore : ∀ t ∈ [Stage.readConfiguration, .parseConfiguration, .controllerName],
      t.failure? (brokenTexts exampleFiles.configuration) (brokenTexts exampleFiles.ingress) =
        none := by
    decide +kernel
  have htimeout : Stage.timeout.failure? (brokenTexts exampleFiles.configuration)
      (brokenTexts exampleFiles.ingress) = some (.configuration .timeout) := by decide +kernel
  have hnone : Stage.all.findSome? (Stage.failure? (exampleTexts exampleFiles.configuration)
      (exampleTexts exampleFiles.ingress)) = none := by decide +kernel
  have hcount :
    ((content? Configuration.codec (exampleTexts exampleFiles.configuration)).bind fun c =>
      (content? Ingress.codec (exampleTexts exampleFiles.ingress)).bind fun i =>
        ((Factory.ofConfiguration c).makeRoutes i).result.toOption.map List.length) = some 1 := by
    decide +kernel
  have hall : ∀ s : Stage, s ∈ Stage.all := by
    intro s
    cases s <;> simp [Stage.all]
  obtain ⟨c, i, routes, hc, hi, hmade, -, houtput, -, hdocuments⟩ :=
    hprints fun s => List.findSome?_eq_none_iff.1 hnone s (hall s)
  have hlength : routes.length = 1 := by
    rw [hc, Option.bind_some, hi, Option.bind_some, hmade] at hcount
    exact Option.some.inj hcount
  obtain ⟨r, rfl⟩ := List.length_eq_one_iff.1 hlength
  refine ⟨hrequest, hfails _ _ .timeout _ rfl hbefore htimeout, r, ?_, hdocuments⟩
  rw [houtput]
  simp [routeDocuments, String.join_cons, String.join_nil]

end EdgeRoutes.CommandLine
