import EdgeRoutes.Proofs.Codec.Wire
import EdgeRoutes.Resource.Ingress

namespace EdgeRoutes.Ingress

open Fields (Ensures)

def Path.HasTimeout (w : Wire) (s : String) : Prop :=
  ∃ v, w.HasEntry Path.fields "timeout" v ∧ v.text? = some s

def Http.HasLastTimeout (w : Wire) (s : String) : Prop :=
  ∃ v items path, w.HasEntry Http.fields "paths" v ∧ v.items? = some items ∧
    items.getLast? = some path ∧ Path.HasTimeout path s

def Rule.HasLastTimeout (w : Wire) (s : String) : Prop :=
  ∃ v, w.HasEntry Rule.fields "http" v ∧ Http.HasLastTimeout v s

def Spec.HasLastTimeout (w : Wire) (k : Nat) (s : String) : Prop :=
  ∃ v items rule, w.HasEntry Spec.fields "rules" v ∧ v.items? = some items ∧
    items[k]? = some rule ∧ Rule.HasLastTimeout rule s

/-- The last path of rule `k` in an ingress document has the timeout `s`. -/
def HasLastTimeout (doc : Wire) (k : Nat) (s : String) : Prop :=
  ∃ v, doc.HasEntry fields "spec" v ∧ Spec.HasLastTimeout v k s

def Path.timeoutSlot : Slot (Option Duration) := Slot.optional .duration |>.described
  "Superseded by the revision timeout, still honoured when translating to routes."

theorem Path.declares_timeout : Path.fields.Declares "timeout" Path.timeoutSlot Path.timeout := by
  refine .field (.field (.field (.field (.field (.field (.build fun run => ?_))))))
  intro path _ hostOverride _ headers _ splits _ appendHeaders _ timeout htimeout
  exact ⟨_, htimeout⟩

theorem Http.declares_paths :
    Http.fields.Declares "paths" (.shown (.list Path.codec) []) Http.paths := by
  refine .field (.build fun run => ?_)
  intro paths hpaths
  exact ⟨_, hpaths⟩

theorem Rule.declares_http : Rule.fields.Declares "http" (.optional Http.codec) Rule.http := by
  refine .field (.field (.field (.build fun run => ?_)))
  intro hosts _ visibility _ http hhttp
  exact ⟨_, hhttp⟩

theorem Spec.declares_rules : Spec.fields.Declares "rules" (listSlot Rule.codec) Spec.rules := by
  refine .field (.field (.build fun run => ?_))
  intro rules hrules httpOption _
  exact ⟨_, hrules⟩

theorem declares_spec : fields.Declares "spec" (.required Spec.codec) Ingress.spec := by
  refine .field (.field (.field (.build fun run => ?_)))
  intro metadata _ spec hspec status _
  exact ⟨_, hspec⟩

/-- A text that denotes a duration and does not stand for nothing. -/
structure IsTimeout (s : String) (d : Duration) : Prop where
  ne_empty : s ≠ ""
  ne_null : Yaml.isNull s = false
  denotes : Duration.ofText s = .ok d

theorem exists_getElem?_of_forall₂ {α β : Type} {p : α → β → Prop} {as : List α} {bs : List β}
    (h : List.Forall₂ p as bs) {k : Nat} {a : α} (ha : as[k]? = some a) :
    ∃ b, bs[k]? = some b ∧ p a b := by
  induction h generalizing k with
  | nil => cases ha
  | cons hab _ ih =>
    cases k with
    | zero =>
      cases ha
      exact ⟨_, rfl, hab⟩
    | succ k => exact ih ha

variable {s : String} {d : Duration} {w : Wire}

theorem Path.timeout_of_read (hs : IsTimeout s d) (hw : Path.HasTimeout w s) {p : Path}
    (h : w.read Path.codec = some p) : p.timeout = some d := by
  obtain ⟨v, hentry, htext⟩ := hw
  have hslot : v.readSlot (.optional .duration) = some p.timeout := by
    have := Wire.readSlot_of_hasEntry Path.declares_timeout h hentry
    cases v <;> exact this
  obtain habsent | ⟨e, he, hread⟩ := Wire.readSlot_optional hslot
  · obtain hempty | hnull := habsent.text? htext
    · exact absurd hempty hs.ne_empty
    · rw [hs.ne_null] at hnull
      cases hnull
  · have hd := Wire.read_duration htext hread
    rw [hs.denotes] at hd
    cases hd
    exact he

theorem Http.timeout_of_read (hs : IsTimeout s d) (hw : Http.HasLastTimeout w s) {h : Http}
    (hread : w.read Http.codec = some h) :
    ∃ p, h.paths.getLast? = some p ∧ p.timeout = some d := by
  obtain ⟨v, items, path, hentry, hitems, hlast, htimeout⟩ := hw
  have hlist : v.read (.list Path.codec) = some h.paths := by
    have := Wire.readSlot_of_hasEntry Http.declares_paths hread hentry
    cases v <;> exact this
  have hall := Wire.forall₂_read_list hitems hlist
  rw [List.getLast?_eq_getElem?, hall.length_eq] at hlast
  obtain ⟨p, hp, hpath⟩ := exists_getElem?_of_forall₂ hall hlast
  rw [← List.getLast?_eq_getElem?] at hp
  exact ⟨p, hp, Path.timeout_of_read hs htimeout hpath⟩

theorem Rule.timeout_of_read (hs : IsTimeout s d) (hw : Rule.HasLastTimeout w s) {r : Rule}
    (hread : w.read Rule.codec = some r) :
    ∃ h p, r.http = some h ∧ h.paths.getLast? = some p ∧ p.timeout = some d := by
  obtain ⟨v, hentry, hlast⟩ := hw
  have hslot := Wire.readSlot_of_hasEntry Rule.declares_http hread hentry
  obtain habsent | ⟨h, hh, hhttp⟩ := Wire.readSlot_optional hslot
  · obtain ⟨_, _, _, hpaths, -⟩ := hlast
    exact absurd habsent hpaths.not_isAbsent
  · obtain ⟨p, hp, hd⟩ := Http.timeout_of_read hs hlast hhttp
    exact ⟨h, p, hh, hp, hd⟩

theorem Spec.timeout_of_read (hs : IsTimeout s d) {k : Nat} (hw : Spec.HasLastTimeout w k s)
    {spec : Spec} (hread : w.read Spec.codec = some spec) :
    ∃ r h p, spec.rules[k]? = some r ∧ r.http = some h ∧ h.paths.getLast? = some p ∧
      p.timeout = some d := by
  obtain ⟨v, items, rule, hentry, hitems, hk, hlast⟩ := hw
  have hrecord : w.read (.record "IngressSpec" Spec.fields) = some spec := by
    cases w <;> exact hread
  have hlist : v.read (.list Rule.codec) = some spec.rules := by
    have := Wire.readSlot_of_hasEntry Spec.declares_rules hrecord hentry
    cases v <;> exact this
  obtain ⟨r, hr, hrule⟩ := exists_getElem?_of_forall₂ (Wire.forall₂_read_list hitems hlist) hk
  obtain ⟨h, p, hh, hp, hd⟩ := Rule.timeout_of_read hs hlast hrule
  exact ⟨r, h, p, hr, hh, hp, hd⟩

theorem timeout_of_read (hs : IsTimeout s d) {k : Nat} {doc : Wire} (hw : HasLastTimeout doc k s)
    {i : Ingress} (hread : doc.read codec = some i) :
    ∃ r h p, i.spec.rules[k]? = some r ∧ r.http = some h ∧ h.paths.getLast? = some p ∧
      p.timeout = some d := by
  obtain ⟨v, hentry, hlast⟩ := hw
  have hrecord : doc.read (.record "Ingress" fields) = some i := by
    cases doc <;> exact hread
  have hspec : v.read Spec.codec = some i.spec := by
    have := Wire.readSlot_of_hasEntry declares_spec hrecord hentry
    cases v <;> exact this
  exact Spec.timeout_of_read hs hlast hspec

end EdgeRoutes.Ingress
