import EdgeRoutes.Codec.Schema
import EdgeRoutes.Proofs.Table

/-!
What a cluster makes of a published schema: it accepts the values that the keywords allow, and drops
the fields that are declared nowhere. A format says more about texts and numbers, and is not
checked.
-/

namespace EdgeRoutes

/-- The keywords of a published schema, with their values. -/
abbrev Keywords := List (String × Json)

namespace Keywords

variable (s : Keywords)

def hasType (type : String) : Bool :=
  match s.lookup "type" with
  | some (.text t) => t = type
  | _ => false

def isSet (keyword : String) : Bool :=
  match s.lookup keyword with
  | some (.bool b) => b
  | _ => false

def isPort : Bool := s.isSet "x-kubernetes-int-or-string"

def lists (t : String) : Bool :=
  match s.lookup "enum" with
  | some (.array values) => values.any fun
    | .text v => v = t
    | _ => false
  | some _ => false
  | none => true

def hasRequired (fields : List (String × Json)) : Bool :=
  match s.lookup "required" with
  | some (.array names) => names.all fun
    | .text name => (fields.lookup name).isSome
    | _ => false
  | some _ => false
  | none => true

/-- The keywords that decide about values other than null. -/
def deciding : List String :=
  ["type", "x-kubernetes-int-or-string", "enum", "required", "items", "properties",
    "additionalProperties"]

def known : List String := deciding ++ ["nullable", "default", "description", "format"]

/-- A schema is an object of known keywords. -/
def schema? : Option Json → Option Keywords
  | some (.object s) => if ∀ e ∈ s, e.1 ∈ known then some s else none
  | _ => none

def items? : Option Keywords := schema? (s.lookup "items")

/-- The schema of a field: the one declared under its name, or the one for fields of any name. -/
def property? (name : String) : Option Keywords :=
  schema? (((s.lookup "properties").bind (Json.field? name)).orElse fun _ =>
    s.lookup "additionalProperties")

mutual

/-- The value is allowed, and every field in it is declared. -/
def accepts (s : Keywords) : Json → Bool
  | .null => s.isSet "nullable"
  | .bool _ => s.hasType "boolean"
  | .int _ => s.hasType "integer" || s.isPort
  | .float _ => s.hasType "number"
  | .text t => (s.hasType "string" || s.isPort) && s.lists t
  | .array items => s.hasType "array" && match s.items? with
    | some t => acceptsItems t items
    | none => false
  | .object fields => s.hasType "object" && s.hasRequired fields && acceptsFields s.property? fields

def acceptsItems (t : Keywords) : List Json → Bool
  | [] => true
  | j :: rest => accepts t j && acceptsItems t rest

def acceptsFields (declared : String → Option Keywords) : List (String × Json) → Bool
  | [] => true
  | (name, j) :: rest => (match declared name with
    | some t => accepts t j
    | none => false) && acceptsFields declared rest

end

mutual

/-- The value without the fields that are not declared. -/
def prune (s : Keywords) : Json → Json
  | .array items => match s.items? with
    | some t => .array (pruneItems t items)
    | none => .array items
  | .object fields => .object (pruneFields s.property? fields)
  | j => j

def pruneItems (t : Keywords) : List Json → List Json
  | [] => []
  | j :: rest => prune t j :: pruneItems t rest

def pruneFields (declared : String → Option Keywords) : List (String × Json) → List (String × Json)
  | [] => []
  | (name, j) :: rest => match declared name with
    | some t => (name, prune t j) :: pruneFields declared rest
    | none => pruneFields declared rest

end

mutual

theorem prune_of_accepts (s : Keywords) (j : Json) (h : s.accepts j = true) : s.prune j = j := by
  cases j with
  | null | bool | int | float | text => simp [prune]
  | array items =>
    rw [accepts, Bool.and_eq_true] at h
    rw [prune]
    cases ht : s.items? with
    | none => rfl
    | some t =>
      rw [ht] at h
      exact congrArg Json.array (pruneItems_of_accepts t items h.2)
  | object fields =>
    rw [accepts, Bool.and_eq_true] at h
    rw [prune, pruneFields_of_accepts s.property? fields h.2]

theorem pruneItems_of_accepts (t : Keywords) (items : List Json) (h : acceptsItems t items = true) :
    pruneItems t items = items := by
  cases items with
  | nil => rw [pruneItems]
  | cons j rest =>
    rw [acceptsItems, Bool.and_eq_true] at h
    rw [pruneItems, prune_of_accepts t j h.1, pruneItems_of_accepts t rest h.2]

theorem pruneFields_of_accepts (declared : String → Option Keywords) (fields : List (String × Json))
    (h : acceptsFields declared fields = true) : pruneFields declared fields = fields := by
  cases fields with
  | nil => rw [pruneFields]
  | cons field rest =>
    obtain ⟨name, j⟩ := field
    rw [acceptsFields, Bool.and_eq_true] at h
    rw [pruneFields]
    cases ht : declared name with
    | none => simp [ht] at h
    | some t =>
      simp only [ht] at h
      simp only [prune_of_accepts t j h.1, pruneFields_of_accepts declared rest h.2]

end

theorem acceptsItems_iff (t : Keywords) (items : List Json) :
    acceptsItems t items = true ↔ ∀ j ∈ items, t.accepts j = true := by
  induction items with
  | nil => simp [acceptsItems]
  | cons j rest ih => rw [acceptsItems, Bool.and_eq_true, ih, List.forall_mem_cons]

theorem acceptsFields_iff (declared : String → Option Keywords) (fields : List (String × Json)) :
    acceptsFields declared fields = true ↔
      ∀ f ∈ fields, ∃ t, declared f.1 = some t ∧ t.accepts f.2 = true := by
  induction fields with
  | nil => simp [acceptsFields]
  | cons f rest ih =>
    rw [acceptsFields, Bool.and_eq_true, ih, List.forall_mem_cons]
    cases declared f.1 <;> simp

/-- A keyword that does not decide makes no difference. -/
theorem accepts_congr {s t : Keywords} {keyword : String} (hkeyword : keyword ∉ deciding)
    (h : ∀ k, k ≠ keyword → s.lookup k = t.lookup k) {j : Json}
    (hnull : j = .null → keyword ≠ "nullable") : s.accepts j = t.accepts j := by
  have hdeciding : ∀ k ∈ deciding, s.lookup k = t.lookup k := fun k hk =>
    h k (ne_of_mem_of_not_mem hk hkeyword)
  simp only [deciding, List.forall_mem_cons] at hdeciding
  obtain ⟨htype, hport, henum, hrequired, hitems, hproperties, hadditional, -⟩ := hdeciding
  have hhas : s.hasType = t.hasType := by
    funext type
    rw [hasType, hasType, htype]
  have hset : s.isPort = t.isPort := by rw [isPort, isPort, isSet, isSet, hport]
  have hlists : s.lists = t.lists := by
    funext text
    rw [lists, lists, henum]
  have hneeds : s.hasRequired = t.hasRequired := by
    funext fields
    rw [hasRequired, hasRequired, hrequired]
  have hof : s.items? = t.items? := by rw [items?, items?, hitems]
  have hdeclared : s.property? = t.property? := by
    funext name
    rw [property?, property?, hproperties, hadditional]
  cases j with
  | null => rw [accepts, accepts, isSet, isSet, h "nullable" (hnull rfl).symm]
  | bool | int | float | text | array | object =>
    simp only [accepts, hhas, hset, hlists, hneeds, hof, hdeclared]

end Keywords

namespace Schema

open Keywords

mutual

/-- No part of the schema is open to any value at all. -/
def isTyped : Schema → Bool
  | .text _ | .choice _ | .integer _ | .boolean | .port => true
  | .list s | .table s | .described _ s | .nullable s | .withDefault _ s => s.isTyped
  | .record properties _ => areTyped properties
  | .anything => false

def areTyped : List (String × Schema) → Bool
  | [] => true
  | (_, s) :: rest => s.isTyped && areTyped rest

end

theorem fst_mem_known : (s : Schema) → ∀ e ∈ s.fields, e.1 ∈ known
  | .text none | .text (some _) | .choice _ | .integer _ | .boolean | .port | .list _ | .table _
  | .anything => by simp [fields, known, deciding]
  | .record properties required => by
    simp only [fields]
    split <;> split <;> simp [known, deciding]
  | .described _ s => by
    rw [fields, List.forall_mem_cons]
    exact ⟨by simp [known], fun e he => s.fst_mem_known e (List.mem_of_mem_filter he)⟩
  | .nullable s | .withDefault _ s => by
    rw [fields, List.forall_mem_cons]
    exact ⟨by simp [known], s.fst_mem_known⟩

theorem schema?_fields (s : Schema) : schema? (some (.object s.fields)) = some s.fields :=
  if_pos s.fst_mem_known

section Simple

attribute [local simp] accepts fields Admits hasType isPort isSet lists List.lookup_cons

theorem accepts_text_iff (format : Option String) (j : Json) :
    Keywords.accepts (text format).fields j = true ↔ (text format).Admits j := by
  cases format <;> cases j <;> simp

theorem accepts_choice_iff (values : List String) (j : Json) :
    Keywords.accepts (choice values).fields j = true ↔ (choice values).Admits j := by
  cases j <;> simp

theorem accepts_integer_iff (format : String) (j : Json) :
    Keywords.accepts (integer format).fields j = true ↔ (integer format).Admits j := by
  cases j <;> simp

theorem accepts_boolean_iff (j : Json) :
    Keywords.accepts boolean.fields j = true ↔ boolean.Admits j := by
  cases j <;> simp

theorem accepts_port_iff (j : Json) : Keywords.accepts port.fields j = true ↔ port.Admits j := by
  cases j <;> simp

end Simple

theorem accepts_list_iff {items : Schema}
    (h : ∀ j, Keywords.accepts items.fields j = true ↔ items.Admits j) (j : Json) :
    Keywords.accepts (list items).fields j = true ↔ (list items).Admits j := by
  cases j with
  | array js =>
    have hitems : Keywords.items? (list items).fields = some items.fields := schema?_fields items
    have htype : Keywords.hasType (list items).fields "array" = true := by
      simp [fields, hasType, List.lookup_cons]
    simp [accepts, hitems, htype, acceptsItems_iff, h, Admits]
  | null | bool | int | float | text | object =>
    simp [accepts, fields, Admits, hasType, isPort, isSet, List.lookup_cons]

theorem accepts_table_iff {values : Schema}
    (h : ∀ j, Keywords.accepts values.fields j = true ↔ values.Admits j) (j : Json) :
    Keywords.accepts (table values).fields j = true ↔ (table values).Admits j := by
  cases j with
  | object fs =>
    have hproperty : ∀ name, Keywords.property? (table values).fields name = some values.fields :=
      fun _ => schema?_fields values
    have hrequired : Keywords.hasRequired (table values).fields fs = true := rfl
    have htype : Keywords.hasType (table values).fields "object" = true := by
      simp [fields, hasType, List.lookup_cons]
    simp [accepts, acceptsFields_iff, hproperty, hrequired, htype, h, Admits]
  | null | bool | int | float | text | array =>
    simp [accepts, fields, Admits, hasType, isPort, isSet, List.lookup_cons]

theorem lookup_propertyFields (properties : List (String × Schema)) (name : String) :
    (propertyFields properties).lookup name =
      (properties.lookup name).map fun s => Json.object s.fields := by
  induction properties with
  | nil => rfl
  | cons p rest ih =>
    rw [propertyFields, List.lookup_cons, List.lookup_cons, ih]
    cases name == p.1 <;> rfl

theorem property?_record (properties : List (String × Schema)) (required : List String)
    (name : String) :
    Keywords.property? (record properties required).fields name =
      (properties.lookup name).map Schema.fields := by
  have hadditional : (record properties required).fields.lookup "additionalProperties" = none := by
    simp only [fields]
    split <;> split <;> simp [List.lookup_cons]
  -- a record without properties has no such keyword, and then no field is declared either
  have hproperties : ((record properties required).fields.lookup "properties").bind
      (Json.field? name) = (properties.lookup name).map fun s => Json.object s.fields := by
    simp only [fields]
    split
    · next hempty =>
      rw [List.isEmpty_iff.1 hempty]
      split <;> simp [List.lookup_cons]
    · rw [← lookup_propertyFields]
      rfl
  rw [property?, hproperties, hadditional]
  cases properties.lookup name with
  | none => rfl
  | some s => exact schema?_fields s

theorem hasRequired_record (properties : List (String × Schema)) (required : List String)
    (fs : List (String × Json)) :
    Keywords.hasRequired (record properties required).fields fs = true ↔
      ∀ name ∈ required, name ∈ fs.map Prod.fst := by
  have hlookup : (record properties required).fields.lookup "required" =
      if required.isEmpty then none
      else some (.array ((required.mergeSort (· ≤ ·)).map .text)) := by
    simp only [fields]
    split <;> split <;> simp [List.lookup_cons]
  rw [hasRequired, hlookup]
  by_cases hempty : required.isEmpty
  · simp [List.isEmpty_iff.1 hempty]
  · rw [if_neg hempty]
    simp only [List.all_map, List.all_eq_true, List.mem_mergeSort, Function.comp_apply,
      Entries.isSome_lookup_iff]

theorem admitsProperty_iff (properties : List (String × Schema)) (name : String) (j : Json) :
    AdmitsProperty properties name j ↔ ∃ s, properties.lookup name = some s ∧ s.Admits j := by
  induction properties with
  | nil => simp [AdmitsProperty]
  | cons p rest ih =>
    rw [AdmitsProperty, List.lookup_cons]
    by_cases h : p.1 = name
    · simp [h]
    · rw [if_neg h, ih, beq_eq_false_iff_ne.2 (Ne.symm h)]

theorem accepts_record_iff {properties : List (String × Schema)} (required : List String)
    (h : ∀ name s, properties.lookup name = some s →
      ∀ j, Keywords.accepts s.fields j = true ↔ s.Admits j) (j : Json) :
    Keywords.accepts (record properties required).fields j = true ↔
      (record properties required).Admits j := by
  cases j with
  | object fs =>
    have htype : Keywords.hasType (record properties required).fields "object" = true := by
      simp only [fields]
      split <;> split <;> simp [hasType, List.lookup_cons]
    have hdeclared : ∀ f : String × Json,
        (∃ t, Keywords.property? (record properties required).fields f.1 = some t ∧
          Keywords.accepts t f.2 = true) ↔ AdmitsProperty properties f.1 f.2 := fun f => by
      rw [property?_record, admitsProperty_iff]
      cases hs : properties.lookup f.1 with
      | none => simp
      | some s => simp [h f.1 s hs f.2]
    simp [accepts, htype, hasRequired_record, acceptsFields_iff, hdeclared, Admits]
  | null | bool | int | float | text | array =>
    simp only [fields]
    split <;> split <;> simp [accepts, Admits, hasType, isPort, isSet, List.lookup_cons]

theorem accepts_described (description : String) (s : Schema) (j : Json) :
    Keywords.accepts (described description s).fields j = Keywords.accepts s.fields j := by
  have hlookup : ∀ k, k ≠ "description" →
      (described description s).fields.lookup k = s.fields.lookup k := fun k hk => by
    rw [fields, Entries.lookup_cons_of_ne hk, Entries.lookup_filter_of_ne hk]
  exact accepts_congr (by decide) hlookup fun _ => by decide

theorem accepts_withDefault (value : Json) (s : Schema) (j : Json) :
    Keywords.accepts (withDefault value s).fields j = Keywords.accepts s.fields j :=
  accepts_congr (by decide) (fun _ hk => Entries.lookup_cons_of_ne hk value s.fields)
    fun _ => by decide

theorem accepts_nullable_iff (s : Schema) (j : Json) :
    Keywords.accepts (nullable s).fields j = true ↔
      j = .null ∨ Keywords.accepts s.fields j = true := by
  -- the keyword in front decides about null, and about nothing else
  by_cases hj : j = .null
  · simp [hj, accepts, fields, isSet]
  · have hsame : Keywords.accepts (nullable s).fields j = Keywords.accepts s.fields j :=
      accepts_congr (by decide) (fun _ hk => Entries.lookup_cons_of_ne hk (.bool true) s.fields)
        fun hnull => absurd hnull hj
    simp [hsame, hj]

mutual

/-- The published form of a schema accepts what the schema admits, and nothing else. -/
theorem accepts_fields_iff (s : Schema) (hs : s.isTyped = true) (j : Json) :
    Keywords.accepts s.fields j = true ↔ s.Admits j := by
  cases s with
  | text format => exact accepts_text_iff format j
  | choice values => exact accepts_choice_iff values j
  | integer format => exact accepts_integer_iff format j
  | boolean => exact accepts_boolean_iff j
  | port => exact accepts_port_iff j
  | list items => exact accepts_list_iff (accepts_fields_iff items hs) j
  | table values => exact accepts_table_iff (accepts_fields_iff values hs) j
  | record properties required =>
    exact accepts_record_iff required (accepts_properties_iff properties hs) j
  | described description s =>
    rw [accepts_described, Admits]
    exact accepts_fields_iff s hs j
  | nullable s => rw [accepts_nullable_iff, Admits, accepts_fields_iff s hs j]
  | withDefault value s =>
    rw [accepts_withDefault, Admits]
    exact accepts_fields_iff s hs j
  | anything => cases hs

theorem accepts_properties_iff (properties : List (String × Schema))
    (hs : areTyped properties = true) (name : String) (s : Schema)
    (h : properties.lookup name = some s) (j : Json) :
    Keywords.accepts s.fields j = true ↔ s.Admits j := by
  cases properties with
  | nil => cases h
  | cons p rest =>
    rw [areTyped, Bool.and_eq_true] at hs
    rw [List.lookup_cons] at h
    split at h
    · cases h
      exact accepts_fields_iff p.2 hs.1 j
    · exact accepts_properties_iff rest hs.2 name s h j

end

end Schema

end EdgeRoutes
