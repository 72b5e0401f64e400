import TemporalOperator.DynamicConfig
import TemporalOperator.Lib.GoMap
import TemporalOperator.Lib.Json.Value

/-!
# The values of the rendered dynamic config

`RenderDynamicConfig` from the bytes of the spec to the YAML text. The YAML library converts what `json.Marshal` has
written; it is assumed to lose nothing of a text without the character U+0085, which it takes for a line break.

* `render` : the function; `Survives` : what is read from the text has the values and constraints of the spec;
* `KeptRaw` : the values that are kept by reading them into an empty interface, which are those that survive, if the
  spec is `OneLine`, without U+0085;
* `document_refines` : the document is the one of `renderDynamicConfig`, which leaves the JSON texts as they are.
-/

namespace TemporalOperator.RawConfig

open Lib Lib.Json

/-- `DynamicConfigValue` with the bytes of `value.raw`. -/
structure RawValue where
  value : List UInt8
  constraints : Option DynamicConfigConstraints := none
  deriving DecidableEq, Repr

structure RawSpec where
  values : GoMap (List RawValue) := .empty
  deriving DecidableEq, Repr

/-! ## Rendering -/

/-- `dynamicConfigEntry`. Constraints without entries are left out. -/
structure Entry where
  value : GoValue
  constraints : List (String × String)

def decodeRawValue (raw : List UInt8) : Except String GoValue :=
  if raw = [] then .ok .null else (unmarshal raw).mapError fun e => "invalid JSON value: " ++ e

def entries (key : String) : List RawValue → Except String (List Entry)
  | [] => .ok []
  | v :: vs => do
    let value ← (decodeRawValue v.value).mapError fun e => "dynamic config key " ++ GoText.quote key ++ ": " ++ e
    let rest ← entries key vs
    return ⟨value, (v.constraints.map constraintsToMap).getD []⟩ :: rest

def doc (removed : List String) (version : String) :
    List (String × List RawValue) → Except String (List (String × List Entry))
  | [] => .ok []
  | (key, values) :: rest =>
    if key ∈ removed then
      .error ("dynamic config key " ++ GoText.quote key ++ " was removed in Temporal " ++ version)
    else do
      let es ← entries key values
      let d ← doc removed version rest
      return (key, es) :: d

def constraintsValue (constraints : List (String × String)) : GoValue :=
  .map (constraints.map fun c => (c.1.toList, .string c.2.toList))

/-- The struct as the map of its fields. -/
def entryValue (e : Entry) : GoValue :=
  .map (("value".toList, e.value) ::
    if e.constraints = [] then [] else [("constraints".toList, constraintsValue e.constraints)])

def docValue (d : List (String × List Entry)) : GoValue :=
  .map (d.map fun e => (e.1.toList, .slice (e.2.map entryValue)))

/-- There is no U+0085, which YAML 1.1 counts as a line break, in the text. -/
def NoNextLine (s : List Char) : Prop := '\u0085' ∉ s

instance (s : List Char) : Decidable (NoNextLine s) := inferInstanceAs (Decidable (_ ∉ _))

/-- The YAML library over a type of texts: the conversion from JSON, by the value that it stands for, and a decoder. -/
structure YamlLibrary (Text : Type) where
  jsonToYAML : Value → Except String Text
  decode : Text → Option Value
  empty : Text
  decode_empty : decode empty = some .null
  /-- What `json.Marshal` writes is converted without a loss, where no text has a U+0085. -/
  decode_jsonToYAML : ∀ g v text, g.AllText NoNextLine → marshal g = .ok v → jsonToYAML v = .ok text →
    decode text = some v

section Render

variable {Text : Type} (yaml : YamlLibrary Text)

/-- `yaml.Marshal`. -/
def YamlLibrary.marshal (g : GoValue) : Except String Text := do
  let v ← (Json.marshal g).mapError fun e => "error marshaling into JSON: " ++ e
  yaml.jsonToYAML v

def removedKeys (matrix : List VersionInfo) (version : String) : List String :=
  match lookupVersion matrix version with
  | .ok info => info.removedDynamicConfig
  | .error _ => []

/-- `RenderDynamicConfig`. -/
def render (matrix : List VersionInfo) (spec : Option RawSpec) (version : String) : Except String Text :=
  match spec with
  | none => .ok yaml.empty
  | some spec =>
    if spec.values.entries = [] then .ok yaml.empty
    else do
      let d ← doc (removedKeys matrix version) version spec.values.entries
      (yaml.marshal (docValue d)).mapError fun e => "marshaling dynamic config: " ++ e

end Render

/-! ## Reading a rendered document -/

/-- A constrained value: the value, and the constraints that are set. -/
abbrev Constrained := Value × (List TextUnit → Option Value)

/-- The key in a decoded document. -/
def name (s : String) : List TextUnit := textOf s.toList

theorem name_injective : Function.Injective name := fun _ _ h => String.toList_injective (textOf_injective h)

def readConstraints : Option Value → Option (List TextUnit → Option Value)
  | none => some fun _ => none
  | some (.object field) => some field
  | some _ => none

def readEntry : Value → Option Constrained
  | .object field => do
    let value ← field (name "value")
    let constraints ← readConstraints (field (name "constraints"))
    return (value, constraints)
  | _ => none

def readEntries : Value → Option (List Constrained)
  | .array elems => elems.mapM readEntry
  | _ => none

/-- The fields of a document. An empty one has none. -/
def readDocument : Value → Option (List TextUnit → Option Value)
  | .null => some fun _ => none
  | .object field => some field
  | _ => none

/-- The exact value that is given. A text that is not JSON gives none, and its spec is not accepted. -/
def givenValue (raw : List UInt8) : Value :=
  match parse raw with
  | .ok j => j.value
  | .error _ => .null

def givenConstraint (s : String) : Option Value := if s = "" then none else some (.string (name s))

/-- The constraints that are given. An empty string sets none. -/
def givenConstraints (c : DynamicConfigConstraints) (key : List TextUnit) : Option Value :=
  if key = name "namespace" then givenConstraint c.namespace_
  else if key = name "taskQueueName" then givenConstraint c.taskQueueName
  else if key = name "taskQueueType" then givenConstraint c.taskQueueType
  else none

def given (v : RawValue) : Constrained := (givenValue v.value, givenConstraints (v.constraints.getD {}))

def RawSpec.given (spec : Option RawSpec) : List TextUnit → Option (List Constrained) :=
  fieldOf (((spec.getD {}).values.entries).map fun e => (name e.1, e.2.map RawConfig.given))

/-- The text is a document with the keys of the spec, and under each of them the values that are given, in order, with
their constraints. -/
def Survives {Text : Type} (yaml : YamlLibrary Text) (spec : Option RawSpec) (text : Text) : Prop :=
  ∃ v field, yaml.decode text = some v ∧ readDocument v = some field ∧
    ∀ key, (field key).map readEntries = (RawSpec.given spec key).map some

/-! ## One entry -/

/-- The bytes are kept by reading them into an empty interface. -/
def KeptRaw (raw : List UInt8) : Prop := ∀ j, parse raw = .ok j → j.Kept

theorem decodeRawValue_kept {raw : List UInt8} {g : GoValue} {v : Value} (hg : decodeRawValue raw = .ok g)
    (hv : marshal g = .ok v) : v = givenValue raw ↔ KeptRaw raw := by
  unfold decodeRawValue at hg
  unfold givenValue KeptRaw
  split at hg
  · rename_i hempty
    subst hempty
    obtain rfl := Except.ok.inj hg
    unfold marshal at hv
    obtain rfl := Except.ok.inj hv
    refine ⟨fun _ j h => ?_, fun _ => rfl⟩
    cases h
  · obtain ⟨j, hj, hdecode⟩ := bind_eq_ok.mp (mapError_eq_ok.mp hg)
    rw [hj]
    refine (marshal_decode_iff j g v hdecode hv).trans ⟨fun hkept _ h => Except.ok.inj h ▸ hkept, fun h => h j rfl⟩

def stringFields (constraints : List (String × String)) : List (List TextUnit × Value) :=
  constraints.map fun c => (name c.1, .string (name c.2))

theorem marshal_constraintsValue (constraints : List (String × String)) :
    marshal (constraintsValue constraints) = .ok (.object (fieldOf (stringFields constraints))) := by
  have hentries : marshalEntries (constraints.map fun c => (c.1.toList, GoValue.string c.2.toList)) =
      .ok (stringFields constraints) := by
    induction constraints with
    | nil =>
      rw [List.map_nil, marshalEntries]
      rfl
    | cons c constraints ih =>
      rw [List.map_cons, marshalEntries, marshalEntry, marshal, ih]
      rfl
  rw [constraintsValue, marshal, hentries]
  rfl

theorem readEntry_marshal {e : Entry} {w : Value} (h : marshal (entryValue e) = .ok w) :
    ∃ v, marshal e.value = .ok v ∧ readEntry w = some (v, fieldOf (stringFields e.constraints)) := by
  unfold entryValue marshal at h
  obtain ⟨ms, hms, hobject⟩ := bind_eq_ok.mp h
  obtain rfl := Except.ok.inj hobject
  obtain ⟨v, rest, hv, hrest, rfl⟩ := marshalEntries_cons hms
  refine ⟨v, hv, ?_⟩
  split at hrest
  · rename_i hnone
    unfold marshalEntries at hrest
    obtain rfl := Except.ok.inj hrest
    rw [hnone]
    rfl
  · obtain ⟨c, rest', hc, hrest', rfl⟩ := marshalEntries_cons hrest
    unfold marshalEntries at hrest'
    obtain rfl := Except.ok.inj hrest'
    rw [marshal_constraintsValue] at hc
    obtain rfl := Except.ok.inj hc
    rfl

theorem fieldOf_stringFields_filter (k s : String) (rest : List (String × String)) (key : List TextUnit) :
    fieldOf (stringFields (((k, s) :: rest).filter (·.2 ≠ ""))) key =
      (fieldOf (stringFields (rest.filter (·.2 ≠ ""))) key).or (if name k = key then givenConstraint s else none) := by
  unfold givenConstraint
  by_cases hs : s = ""
  · rw [if_pos hs, ite_self, Option.or_none, List.filter_cons_of_neg (by simp [hs])]
  · rw [if_neg hs, List.filter_cons_of_pos (by simp [hs])]
    rfl

theorem fieldOf_constraintsToMap (c : DynamicConfigConstraints) :
    fieldOf (stringFields (constraintsToMap c)) = givenConstraints c := by
  funext key
  unfold constraintsToMap givenConstraints
  rw [fieldOf_stringFields_filter, fieldOf_stringFields_filter, fieldOf_stringFields_filter]
  by_cases hnamespace : key = name "namespace"
  · subst hnamespace
    rfl
  · rw [if_neg (Ne.symm hnamespace), if_neg hnamespace, Option.or_none]
    by_cases hqueue : key = name "taskQueueName"
    · subst hqueue
      rfl
    · rw [if_neg (Ne.symm hqueue), if_neg hqueue, Option.or_none]
      exact if_congr eq_comm rfl rfl

theorem constraints_given (c : Option DynamicConfigConstraints) :
    fieldOf (stringFields ((c.map constraintsToMap).getD [])) = givenConstraints (c.getD {}) := by
  rw [← fieldOf_constraintsToMap]
  cases c with
  | none => rfl
  | some c => rfl

/-! ## The document -/

theorem readEntries_marshal {key : String} {vs : List RawValue} {es : List Entry} {ws : List Value}
    (hes : entries key vs = .ok es) (hws : marshalAll (es.map entryValue) = .ok ws) :
    ∃ rs, readEntries (.array ws) = some rs ∧ (rs = vs.map given ↔ ∀ v ∈ vs, KeptRaw v.value) := by
  induction vs generalizing es ws with
  | nil =>
    unfold entries at hes
    obtain rfl := Except.ok.inj hes
    rw [List.map_nil, marshalAll] at hws
    obtain rfl := Except.ok.inj hws
    exact ⟨[], rfl, ⟨fun _ _ h => (List.not_mem_nil h).elim, fun _ => rfl⟩⟩
  | cons v vs ih =>
    unfold entries at hes
    obtain ⟨g, hg, hrest⟩ := bind_eq_ok.mp hes
    obtain ⟨es', hes', hcons⟩ := bind_eq_ok.mp hrest
    obtain rfl := Except.ok.inj hcons
    rw [List.map_cons, marshalAll] at hws
    obtain ⟨w, hw, hrest⟩ := bind_eq_ok.mp hws
    obtain ⟨ws', hws', hcons⟩ := bind_eq_ok.mp hrest
    obtain rfl := Except.ok.inj hcons
    obtain ⟨u, hu, hread⟩ := readEntry_marshal hw
    obtain ⟨rs, hrs, hkept⟩ := ih hes' hws'
    dsimp only at hread
    rw [constraints_given] at hread
    refine ⟨(u, givenConstraints (v.constraints.getD {})) :: rs, ?_, ?_⟩
    · change ws'.mapM readEntry = some rs at hrs
      show (w :: ws').mapM readEntry = _
      rw [List.mapM_cons, hread, hrs]
      rfl
    · rw [List.map_cons, List.cons.injEq, List.forall_mem_cons, hkept, given, Prod.mk.injEq,
        decodeRawValue_kept (mapError_eq_ok.mp hg) hu]
      simp only [and_true]

theorem doc_cons {removed : List String} {version : String} {e : String × List RawValue}
    {values : List (String × List RawValue)} {d : List (String × List Entry)}
    (h : doc removed version (e :: values) = .ok d) :
    ∃ es rest, entries e.1 e.2 = .ok es ∧ doc removed version values = .ok rest ∧ d = (e.1, es) :: rest := by
  unfold doc at h
  split at h
  · exact nomatch h
  · obtain ⟨es, hes, hrest⟩ := bind_eq_ok.mp h
    obtain ⟨rest, hd, hcons⟩ := bind_eq_ok.mp hrest
    exact ⟨es, rest, hes, hd, (Except.ok.inj hcons).symm⟩

theorem doc_keys {removed : List String} {version : String} {values : List (String × List RawValue)}
    {d : List (String × List Entry)} (h : doc removed version values = .ok d) :
    d.map Prod.fst = values.map Prod.fst := by
  induction values generalizing d with
  | nil =>
    unfold doc at h
    obtain rfl := Except.ok.inj h
    rfl
  | cons e values ih =>
    obtain ⟨es, rest, -, hrest, rfl⟩ := doc_cons h
    rw [List.map_cons, List.map_cons, ih hrest]

/-- The fields that are written for a document, and those that are given. -/
theorem readFields_marshal {removed : List String} {version : String} {values : List (String × List RawValue)}
    {d : List (String × List Entry)} {ms : List (List TextUnit × Value)} (hsorted : values.Pairwise (·.1 < ·.1))
    (hd : doc removed version values = .ok d)
    (hms : marshalEntries (d.map fun e => (e.1.toList, .slice (e.2.map entryValue))) = .ok ms) :
    fieldOf (ms.map fun m => (m.1, readEntries m.2)) = fieldOf (values.map fun e => (name e.1, some (e.2.map given))) ↔
      ∀ e ∈ values, ∀ v ∈ e.2, KeptRaw v.value := by
  induction values generalizing d ms with
  | nil =>
    unfold doc at hd
    obtain rfl := Except.ok.inj hd
    rw [List.map_nil, marshalEntries] at hms
    obtain rfl := Except.ok.inj hms
    exact ⟨fun _ _ h => (List.not_mem_nil h).elim, fun _ => rfl⟩
  | cons e values ih =>
    obtain ⟨hhead, htail⟩ := List.pairwise_cons.mp hsorted
    obtain ⟨es, d', hes, hd', rfl⟩ := doc_cons hd
    rw [List.map_cons] at hms
    obtain ⟨w, ms', hw, hms', rfl⟩ := marshalEntries_cons hms
    dsimp only at hw
    unfold marshal at hw
    obtain ⟨ws, hws, harray⟩ := bind_eq_ok.mp hw
    obtain rfl := Except.ok.inj harray
    obtain ⟨rs, hrs, hkept⟩ := readEntries_marshal hes hws
    rw [List.map_cons, List.map_cons, List.forall_mem_cons]
    show fieldOf ((name e.1, readEntries (.array ws)) :: _) = fieldOf ((name e.1, _) :: _) ↔ _
    have hnames : ∀ k ∈ values.map Prod.fst, name k ≠ name e.1 := by
      intro k hk heq
      obtain ⟨e', he', rfl⟩ := List.mem_map.mp hk
      exact absurd (name_injective heq) (hhead e' he').ne'
    rw [hrs, fieldOf_cons_eq_iff, Option.some.injEq, hkept, ih htail hd' hms']
    · intro f hf heq
      obtain ⟨m, hm, rfl⟩ := List.mem_map.mp hf
      have hkey : m.1 ∈ (values.map Prod.fst).map name := by
        rw [← doc_keys hd']
        have hmem := List.mem_map_of_mem (f := Prod.fst) hm
        rw [marshalEntries_keys hms'] at hmem
        simpa [name, Function.comp_def] using hmem
      obtain ⟨k, hk, hkm⟩ := List.mem_map.mp hkey
      exact hnames k hk (hkm.trans heq)
    · intro f hf heq
      obtain ⟨e', he', rfl⟩ := List.mem_map.mp hf
      exact hnames e'.1 (List.mem_map_of_mem he') heq

/-! ## Rendering -/

/-- No string that is read from the value, and no constraint, has a U+0085. -/
structure RawValue.OneLine (v : RawValue) : Prop where
  value : ∀ g, decodeRawValue v.value = .ok g → g.AllText NoNextLine
  constraints : ∀ c ∈ v.constraints, ∀ s ∈ [c.namespace_, c.taskQueueName, c.taskQueueType], NoNextLine s.toList

def RawSpec.OneLine (spec : RawSpec) : Prop :=
  ∀ e ∈ spec.values.entries, NoNextLine e.1.toList ∧ ∀ v ∈ e.2, v.OneLine

theorem mem_entries {key : String} {vs : List RawValue} {es : List Entry} (h : entries key vs = .ok es) :
    ∀ e ∈ es, ∃ v ∈ vs, decodeRawValue v.value = .ok e.value ∧
      e.constraints = (v.constraints.map constraintsToMap).getD [] := by
  induction vs generalizing es with
  | nil =>
    unfold entries at h
    obtain rfl := Except.ok.inj h
    exact fun _ he => absurd he List.not_mem_nil
  | cons v vs ih =>
    unfold entries at h
    obtain ⟨g, hg, hrest⟩ := bind_eq_ok.mp h
    obtain ⟨es', hes', hcons⟩ := bind_eq_ok.mp hrest
    obtain rfl := Except.ok.inj hcons
    intro e he
    rcases List.mem_cons.mp he with rfl | he
    · exact ⟨v, List.mem_cons_self, mapError_eq_ok.mp hg, rfl⟩
    · obtain ⟨v', hv', hrest⟩ := ih hes' e he
      exact ⟨v', List.mem_cons_of_mem _ hv', hrest⟩

theorem mem_doc {removed : List String} {version : String} {values : List (String × List RawValue)}
    {d : List (String × List Entry)} (h : doc removed version values = .ok d) :
    ∀ e ∈ d, ∃ vs, (e.1, vs) ∈ values ∧ entries e.1 vs = .ok e.2 := by
  induction values generalizing d with
  | nil =>
    unfold doc at h
    obtain rfl := Except.ok.inj h
    exact fun _ he => absurd he List.not_mem_nil
  | cons e values ih =>
    obtain ⟨es, rest, hes, hrest, rfl⟩ := doc_cons h
    intro e' he'
    rcases List.mem_cons.mp he' with rfl | he'
    · exact ⟨e.2, List.mem_cons_self, hes⟩
    · obtain ⟨vs, hvs, hentries⟩ := ih hrest e' he'
      exact ⟨vs, List.mem_cons_of_mem _ hvs, hentries⟩

theorem RawValue.OneLine.constraintsValue {v : RawValue} (h : v.OneLine) :
    (constraintsValue ((v.constraints.map constraintsToMap).getD [])).AllText NoNextLine := by
  have hmem : ∀ p ∈ (v.constraints.map constraintsToMap).getD [], NoNextLine p.1.toList ∧ NoNextLine p.2.toList := by
    cases hc : v.constraints with
    | none => exact fun _ hp => absurd hp List.not_mem_nil
    | some c =>
      have htexts := h.constraints c hc
      simp only [List.forall_mem_cons] at htexts
      intro p hp
      have hfields := List.mem_of_mem_filter hp
      simp only [List.mem_cons, List.not_mem_nil, or_false] at hfields
      rcases hfields with rfl | rfl | rfl
      · exact ⟨show NoNextLine "namespace".toList by decide, htexts.1⟩
      · exact ⟨show NoNextLine "taskQueueName".toList by decide, htexts.2.1⟩
      · exact ⟨show NoNextLine "taskQueueType".toList by decide, htexts.2.2.1⟩
  refine .map (List.forall_mem_map.mpr fun p hp => (hmem p hp).1) (List.forall_mem_map.mpr fun p hp => ?_)
  exact .string (hmem p hp).2

theorem allText_entryValue {e : Entry} (hvalue : e.value.AllText NoNextLine)
    (hconstraints : (constraintsValue e.constraints).AllText NoNextLine) : (entryValue e).AllText NoNextLine := by
  have hkeys : NoNextLine "value".toList ∧ NoNextLine "constraints".toList := by decide
  unfold entryValue
  split
  · exact .map (List.forall_mem_singleton.mpr hkeys.1) (List.forall_mem_singleton.mpr hvalue)
  · exact .map (List.forall_mem_cons.mpr ⟨hkeys.1, List.forall_mem_singleton.mpr hkeys.2⟩)
      (List.forall_mem_cons.mpr ⟨hvalue, List.forall_mem_singleton.mpr hconstraints⟩)

theorem RawSpec.OneLine.docValue {spec : RawSpec} (h : spec.OneLine) {removed : List String} {version : String}
    {d : List (String × List Entry)} (hd : doc removed version spec.values.entries = .ok d) :
    (docValue d).AllText NoNextLine := by
  refine .map (List.forall_mem_map.mpr fun e he => ?_) (List.forall_mem_map.mpr fun e he => ?_)
  · obtain ⟨vs, hvs, -⟩ := mem_doc hd e he
    exact (h _ hvs).1
  · obtain ⟨vs, hvs, hentries⟩ := mem_doc hd e he
    refine .slice (List.forall_mem_map.mpr fun entry hentry => ?_)
    obtain ⟨v, hv, hvalue, hconstraints⟩ := mem_entries hentries entry hentry
    have hline := (h _ hvs).2 v hv
    exact allText_entryValue (hline.value _ hvalue) (hconstraints ▸ hline.constraintsValue)

theorem render_eq_ok {Text : Type} {yaml : YamlLibrary Text} {matrix : List VersionInfo} {spec : RawSpec}
    {version : String} {text : Text} (hvalues : spec.values.entries ≠ []) (hlines : spec.OneLine)
    (h : render yaml matrix (some spec) version = .ok text) :
    ∃ d ms, doc (removedKeys matrix version) version spec.values.entries = .ok d ∧
      marshalEntries (d.map fun e => (e.1.toList, .slice (e.2.map entryValue))) = .ok ms ∧
      yaml.decode text = some (.object (fieldOf ms)) := by
  unfold render at h
  dsimp only at h
  rw [if_neg hvalues] at h
  obtain ⟨d, hd, hmarshal⟩ := bind_eq_ok.mp h
  have hyaml := mapError_eq_ok.mp hmarshal
  unfold YamlLibrary.marshal at hyaml
  obtain ⟨v, hv, hconvert⟩ := bind_eq_ok.mp hyaml
  have hdecode := yaml.decode_jsonToYAML (docValue d) v text (hlines.docValue hd) (mapError_eq_ok.mp hv) hconvert
  have hv' := mapError_eq_ok.mp hv
  unfold docValue marshal at hv'
  obtain ⟨ms, hms, hobject⟩ := bind_eq_ok.mp hv'
  obtain rfl := Except.ok.inj hobject
  exact ⟨d, ms, hd, hms, hdecode⟩

theorem survives_iff_fields {Text : Type} {yaml : YamlLibrary Text} {spec : RawSpec} {text : Text}
    {ms : List (List TextUnit × Value)} (h : yaml.decode text = some (.object (fieldOf ms))) :
    Survives yaml (some spec) text ↔
      fieldOf (ms.map fun m => (m.1, readEntries m.2)) =
        fieldOf (spec.values.entries.map fun e => (name e.1, some (e.2.map given))) := by
  have hgiven : ∀ key, fieldOf (spec.values.entries.map fun e => (name e.1, some (e.2.map given))) key =
      (RawSpec.given (some spec) key).map some := by
    intro key
    unfold RawSpec.given
    rw [← fieldOf_map, List.map_map]
    rfl
  rw [funext_iff]
  constructor
  · rintro ⟨v, field, hdecode, hread, hall⟩ key
    rw [h] at hdecode
    obtain rfl := Option.some.inj hdecode
    obtain rfl := Option.some.inj hread
    rw [fieldOf_map, hgiven]
    exact hall key
  · intro hall
    refine ⟨_, fieldOf ms, h, rfl, fun key => ?_⟩
    rw [← hgiven, ← hall, fieldOf_map]

theorem survives_empty {Text : Type} {yaml : YamlLibrary Text} {matrix : List VersionInfo} {spec : Option RawSpec}
    {version : String} {text : Text} (hvalues : (spec.getD {}).values.entries = [])
    (h : render yaml matrix spec version = .ok text) : Survives yaml spec text := by
  have htext : text = yaml.empty := by
    cases spec with
    | none => exact (Except.ok.inj h).symm
    | some spec =>
      rw [Option.getD_some] at hvalues
      unfold render at h
      dsimp only at h
      rw [if_pos hvalues] at h
      exact (Except.ok.inj h).symm
  rw [htext]
  refine ⟨.null, fun _ => none, yaml.decode_empty, rfl, fun key => ?_⟩
  unfold RawSpec.given
  rw [hvalues]
  rfl

/-- A library that takes the values themselves for texts. -/
def valueLibrary : YamlLibrary Value where
  jsonToYAML := .ok
  decode := some
  empty := .null
  decode_empty := rfl
  decode_jsonToYAML _ _ _ _ _ h := congrArg some (Except.ok.inj h).symm

def ascii (s : String) : List UInt8 := s.toList.map fun c => UInt8.ofNat c.toNat

def oneValue (raw : List UInt8) : RawSpec where
  values := .single "frontend.rps" [{ value := raw, constraints := some { namespace_ := "orders" } }]

theorem oneValue_oneLine {raw : List UInt8} {j : Json} (hparse : parse raw = .ok j)
    (h : ∀ g, decode j = .ok g → g.AllText NoNextLine) : (oneValue raw).OneLine := by
  intro e he
  obtain rfl := List.mem_singleton.mp he
  refine ⟨show NoNextLine "frontend.rps".toList by decide, fun v hv => ?_⟩
  obtain rfl := List.mem_singleton.mp hv
  refine ⟨fun g hg => ?_, fun c hc => ?_⟩
  · unfold decodeRawValue at hg
    split at hg
    · rename_i hempty
      obtain rfl : raw = [] := hempty
      cases hparse
    · obtain ⟨j', hj', hdecode⟩ := bind_eq_ok.mp (mapError_eq_ok.mp hg)
      obtain rfl := Except.ok.inj (hparse.symm.trans hj')
      exact h g hdecode
  · obtain rfl := Option.some.inj hc
    show ∀ s ∈ ["orders", "", ""], NoNextLine s.toList
    decide

theorem allText_convertNumber {literal : List Char} {g : GoValue} {P : List Char → Prop}
    (h : convertNumber literal = .ok g) : g.AllText P := by
  unfold convertNumber at h
  split at h
  · obtain rfl := Except.ok.inj h
    exact .float _
  · cases h

/-- **The values and constraints of an accepted spec without U+0085 survive just when every value is kept by reading it
into an empty interface: its numbers are short and its strings well formed.** -/
theorem dynamic_values_survive_iff {Text : Type} (yaml : YamlLibrary Text) (matrix : List VersionInfo)
    (spec : Option RawSpec) (version : String) (text : Text) (h : render yaml matrix spec version = .ok text)
    (hlines : ∀ s ∈ spec, s.OneLine) :
    Survives yaml spec text ↔ ∀ e ∈ (spec.getD {}).values.entries, ∀ v ∈ e.2, KeptRaw v.value := by
  by_cases hvalues : (spec.getD {}).values.entries = []
  · refine iff_of_true (survives_empty hvalues h) ?_
    rw [hvalues]
    exact fun _ he => (List.not_mem_nil he).elim
  · cases spec with
    | none => exact absurd rfl hvalues
    | some spec =>
      obtain ⟨d, ms, hd, hms, hdecode⟩ := render_eq_ok hvalues (hlines spec rfl) h
      rw [survives_iff_fields hdecode]
      exact readFields_marshal spec.values.sorted hd hms

theorem dynamic_values_survive_short :
    ∃ text, render valueLibrary supportedVersions (some (oneValue (ascii "[1.5,null,true]"))) "1.31.0" = .ok text ∧
      Survives valueLibrary (some (oneValue (ascii "[1.5,null,true]"))) text := by
  have hok : (render valueLibrary supportedVersions (some (oneValue (ascii "[1.5,null,true]"))) "1.31.0").isOk = true := by
    decide +kernel
  have hparse : parse (ascii "[1.5,null,true]") = .ok (.array [.number "1.5".toList, .null, .bool true]) := rfl
  have hkept : KeptRaw (ascii "[1.5,null,true]") := by
    intro j hj
    rw [hparse] at hj
    obtain rfl := Except.ok.inj hj
    have hshort : ShortNumber "1.5".toList := by
      have hwritten : (Float64.parseFloat (String.ofList "1.5".toList)).toOption.bind Float64.written =
          some (Float64.exact "1.5".toList) := by
        decide +kernel
      exact (shortNumber_iff hwritten).mp rfl
    simp only [Kept, KeptAll, and_true]
    exact hshort
  have hline : (oneValue (ascii "[1.5,null,true]")).OneLine := by
    refine oneValue_oneLine hparse fun g hread => ?_
    rw [decode, decodeAll, decode] at hread
    cases hnumber : convertNumber "1.5".toList with
    | error e =>
      rw [hnumber] at hread
      cases hread
    | ok f =>
      rw [hnumber] at hread
      have hslice : g = .slice [f, .null, .bool true] := by
        rw [decodeAll, decodeAll, decodeAll, decode, decode] at hread
        exact (Except.ok.inj hread).symm
      rw [hslice]
      refine .slice fun e he => ?_
      simp only [List.mem_cons, List.not_mem_nil, or_false] at he
      rcases he with rfl | rfl | rfl
      · exact allText_convertNumber hnumber
      · exact .null
      · exact .bool true
  obtain ⟨text, htext⟩ := exists_ok_of_isOk hok
  have hlines : ∀ s ∈ some (oneValue (ascii "[1.5,null,true]")), s.OneLine := by
    simpa only [Option.mem_some_iff, forall_eq'] using hline
  refine ⟨text, htext, (dynamic_values_survive_iff _ _ _ _ text htext hlines).mpr fun e he v hv => ?_⟩
  obtain rfl := List.mem_singleton.mp he
  obtain rfl := List.mem_singleton.mp hv
  exact hkept

/-- An integer that is not a binary64 number is rounded. -/
theorem dynamic_values_rounded :
    ∃ text, render valueLibrary supportedVersions (some (oneValue (ascii "9223372036854775807"))) "1.31.0" = .ok text ∧
      ¬ Survives valueLibrary (some (oneValue (ascii "9223372036854775807"))) text := by
  have hok : (render valueLibrary supportedVersions (some (oneValue (ascii "9223372036854775807"))) "1.31.0").isOk =
      true := by
    decide +kernel
  obtain ⟨text, htext⟩ := exists_ok_of_isOk hok
  refine ⟨text, htext, fun hsurvives => ?_⟩
  have hline : (oneValue (ascii "9223372036854775807")).OneLine := by
    have hparse : parse (ascii "9223372036854775807") = .ok (.number "9223372036854775807".toList) := rfl
    refine oneValue_oneLine hparse fun g hread => ?_
    rw [decode] at hread
    exact allText_convertNumber hread
  obtain ⟨d, ms, hd, hms, hdecode⟩ := render_eq_ok (List.cons_ne_nil _ _) hline htext
  rw [survives_iff_fields hdecode, readFields_marshal (GoMap.sorted _) hd hms] at hsurvives
  have hkept := hsurvives _ (List.mem_singleton.mpr rfl) _ (List.mem_singleton.mpr rfl)
    (.number "9223372036854775807".toList) rfl
  unfold Kept at hkept
  have hwritten : (Float64.parseFloat (String.ofList "9223372036854775807".toList)).toOption.bind Float64.written =
      some 9223372036854776000 := by
    decide +kernel
  have hne : (9223372036854776000 : ℚ) ≠ Float64.exact "9223372036854775807".toList := by decide +kernel
  exact hne ((shortNumber_iff hwritten).mpr hkept)

/-! ## Against the documents of `renderDynamicConfig`

There a JSON text is a string, whatever it is taken for. -/

section Refinement

variable (show_ : GoValue → String)

def abstractRaw (raw : List UInt8) : RawJSON :=
  if raw = [] then .empty
  else
    match unmarshal raw with
    | .ok g => .value (show_ g)
    | .error e => .invalid e

def abstractValue (v : RawValue) : DynamicConfigValue := ⟨abstractRaw show_ v.value, v.constraints⟩

def abstractValues (e : String × List RawValue) : String × List DynamicConfigValue :=
  (e.1, e.2.map (abstractValue show_))

def RawSpec.abstract (spec : RawSpec) : DynamicConfigSpec := ⟨spec.values.entries.map (abstractValues show_)⟩

/-- No value is rendered as a null. -/
def nullForEmpty : RawJSON → RawJSON
  | .empty => .value (show_ .null)
  | v => v

def abstractEntry (e : Entry) : DynamicConfigEntry := ⟨.value (show_ e.value), e.constraints⟩

def withNull (e : DynamicConfigEntry) : DynamicConfigEntry := { e with value := nullForEmpty show_ e.value }

theorem decodeRawValue_refines (raw : List UInt8) :
    (decodeRawValue raw).map (fun g => RawJSON.value (show_ g)) =
      (TemporalOperator.decodeRawValue (abstractRaw show_ raw)).map (nullForEmpty show_) := by
  unfold decodeRawValue abstractRaw
  split
  · rfl
  · cases unmarshal raw with
    | error e => rfl
    | ok g => rfl

theorem entries_refines (key : String) (vs : List RawValue) :
    (entries key vs).map (List.map (abstractEntry show_)) =
      (dynamicConfigEntries key (vs.map (abstractValue show_))).map (List.map (withNull show_)) := by
  induction vs with
  | nil => rfl
  | cons v vs ih =>
    refine map_bind_congr (map_mapError_congr (decodeRawValue_refines show_ v.value)) fun g r hvalue => ?_
    refine map_bind_congr ih fun es rs hrest => ?_
    have hentry : abstractEntry show_ ⟨g, (v.constraints.map constraintsToMap).getD []⟩ =
        withNull show_ ⟨r, (v.constraints.map constraintsToMap).getD []⟩ :=
      congrArg (DynamicConfigEntry.mk · _) hvalue
    show Except.ok (_ :: es.map _) = Except.ok (_ :: rs.map _)
    rw [hentry, hrest]
    rfl

theorem doc_refines (removed : List String) (version : String) (values : List (String × List RawValue)) :
    (doc removed version values).map (List.map fun e => (e.1, e.2.map (abstractEntry show_))) =
      (dynamicConfigDoc removed version (values.map (abstractValues show_))).map
        (List.map fun e => (e.1, e.2.map (withNull show_))) := by
  induction values with
  | nil => rfl
  | cons e values ih =>
    rw [List.map_cons, doc, abstractValues, dynamicConfigDoc]
    split
    · rfl
    · refine map_bind_congr (entries_refines show_ e.1 e.2) fun es rs hes => ?_
      refine map_bind_congr ih fun d d' hd => ?_
      show Except.ok ((e.1, es.map _) :: d.map _) = Except.ok ((e.1, rs.map _) :: d'.map _)
      rw [hes, hd]

/-- The document is the one of `renderDynamicConfig`. -/
theorem document_refines (matrix : List VersionInfo) (spec : RawSpec) (version : String) :
    (doc (removedKeys matrix version) version spec.values.entries).map
        (List.map fun e => (e.1, e.2.map (abstractEntry show_))) =
      (renderDynamicConfig matrix (spec.abstract show_) version).map
        (List.map fun e => (e.1, e.2.map (withNull show_))) := by
  have hsorted : (spec.values.entries.map (abstractValues show_)).Pairwise fun a b => a.1 ≤ b.1 := by
    rw [List.pairwise_map]
    exact spec.values.sorted.imp fun h => le_of_lt h
  unfold renderDynamicConfig RawSpec.abstract
  dsimp only
  rw [hsorted.insertionSort_eq]
  exact doc_refines show_ _ version _

end Refinement

end TemporalOperator.RawConfig
