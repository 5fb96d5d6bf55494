import CapsuleFlow.Proofs.SchemaKeywords
import CapsuleFlow.Proofs.RecordReading
import CapsuleFlow.Proofs.CanonicalEquivalence
import CapsuleFlow.Flow
import CapsuleFlow.Schema.Bundled

/-!
# The flow schema and the flow reader

The flow schema and the flow reader describe one format twice. The schema asks for an object
with a string `flow_id` and an array `steps` of objects with a string `name` and
`capsule_path`, each at least one character long, and optional fields of given types. The
reader asks the same, but trims white space off the identifier, the name and the capsule path
before it asks that they are not empty. So a document the schema accepts is read in full, every
step valid, exactly when these texts hold something besides white space
(`flow_reader_refuses_only_blank_texts`), and a flow identifier of one space is accepted by
the schema and refused by the reader (`flow_schema_admits_blank_id`).

The schema is walked keyword by keyword (`flowShaped_of_violations`); a step is read by the
record reader (`readValue_step`). The schema looks a key up at its first member and the
reader keeps the last, so documents are taken as a JSON library holds them, their keys in
increasing order (`Value.Ordered`).
-/

namespace CapsuleFlow

open Json Schema Decode

/-- What the flow schema asks of the members of a step: a string name and capsule path, and
each optional field, where given, of its type. -/
structure StepShaped (ms : List (String × Value)) : Prop where
  name : ∃ s, ms.lookup "name" = some (.string s)
  capsulePath : ∃ s, ms.lookup "capsule_path" = some (.string s)
  expectCapsuleType : ∀ v, ms.lookup "expect_capsule_type" = some v → ∃ s, v = .string s
  computeHashes : ∀ v, ms.lookup "compute_hashes" = some v → ∃ b, v = .bool b
  expectFailure : ∀ v, ms.lookup "expect_failure" = some v → ∃ b, v = .bool b
  failureReason : ∀ v, ms.lookup "failure_reason" = some v → ∃ s, v = .string s

/-! ## Reading a shaped step -/

theorem readValue_record (name : String) (fields : List (String × Shape × Absent))
    (ms : List (String × Value)) :
    readValue (.record name fields) (.object ms) =
      recordFromMembers (16 * valueSize (.object ms) + 63) fields ms := rfl

theorem getD_found_bool {ms : List (String × Value)} {k : String} (fuel : Nat) (dflt : Bool)
    (h : ∀ v, ms.lookup k = some v → ∃ b, v = .bool b) :
    ∃ b, ((ms.lookup k).bind fun x => (fromValue fuel .bool x).toOption).getD (.bool dflt) =
      .bool b := by
  cases hk : ms.lookup k with
  | none => exact ⟨dflt, rfl⟩
  | some v =>
    obtain ⟨b, rfl⟩ := h v hk
    cases fuel with
    | zero => exact ⟨dflt, rfl⟩
    | succ fuel => exact ⟨b, rfl⟩

theorem readValue_step {ms : List (String × Value)} (hs : StepShaped ms)
    (hkeys : Value.KeysIncreasing ms) {name path : String}
    (hname : ms.lookup "name" = some (.string name))
    (hpath : ms.lookup "capsule_path" = some (.string path)) :
    ∃ d, readValue FlowStep.shape (.object ms) = .ok d ∧ (FlowStep.ofDatum d).name = name ∧
      (FlowStep.ofDatum d).capsulePath = path := by
  obtain ⟨m, hm⟩ : ∃ m, 16 * valueSize (.object ms) + 63 = m + 3 := ⟨_, rfl⟩
  unfold FlowStep.shape
  rw [readValue_record, hm, recordFromMembers_eq (by decide) (Value.keys_nodup_of_increasing hkeys)
    ?read, finishRecord_eq ?required]
  · obtain ⟨b4, h4⟩ := getD_found_bool (m + 2) true hs.computeHashes
    obtain ⟨b5, h5⟩ := getD_found_bool (m + 2) false hs.expectFailure
    refine ⟨_, rfl, ?_⟩
    simp only [foundFields, List.map_cons, List.map_nil, List.zip_cons_cons, List.zip_nil_right,
      Absent.fallback, hname, hpath, Option.bind_some]
    rw [h4, h5]
    exact ⟨rfl, rfl⟩
  case read =>
    rintro ⟨k, v⟩ hmem f hf hfk
    have hv : ms.lookup k = some v := Value.lookup_eq_some_of_mem hkeys hmem
    simp only [List.mem_cons, List.not_mem_nil, or_false] at hf
    rcases hf with rfl | rfl | rfl | rfl | rfl | rfl <;> dsimp only at hfk <;> subst hfk
    · rw [hname, Option.some_inj] at hv
      subst hv
      exact ⟨_, rfl⟩
    · rw [hpath, Option.some_inj] at hv
      subst hv
      exact ⟨_, rfl⟩
    · obtain ⟨s, rfl⟩ := hs.expectCapsuleType v hv
      exact ⟨_, rfl⟩
    · obtain ⟨b, rfl⟩ := hs.computeHashes v hv
      exact ⟨_, rfl⟩
    · obtain ⟨b, rfl⟩ := hs.expectFailure v hv
      exact ⟨_, rfl⟩
    · obtain ⟨s, rfl⟩ := hs.failureReason v hv
      exact ⟨_, rfl⟩
  case required =>
    intro p hp hreq
    simp only [foundFields, List.map_cons, List.map_nil, List.zip_cons_cons, List.zip_nil_right,
      List.mem_cons, List.not_mem_nil, or_false] at hp
    rcases hp with rfl | rfl | rfl | rfl | rfl | rfl
    · rw [hname]
      rfl
    · rw [hpath]
      rfl
    all_goals simp at hreq

/-- How the reader ends a step it has read, given the step's name and capsule path: a blank
name or capsule path makes the step malformed. -/
def StepDecl.checked (name path : String) (step : FlowStep) : StepDecl :=
  if (Text.trim name).isEmpty then .malformed none "step name must not be empty"
  else if (Text.trim path).isEmpty then .malformed (some name) "capsule_path must not be empty"
  else .valid step

theorem StepDecl.checked_valid_iff {name path : String} {step : FlowStep} :
    (∃ s, StepDecl.checked name path step = .valid s) ↔
      (Text.trim name).isEmpty = false ∧ (Text.trim path).isEmpty = false := by
  unfold StepDecl.checked
  cases (Text.trim name).isEmpty <;> cases (Text.trim path).isEmpty <;> simp

theorem StepDecl.checked_reason {name path : String} {step : FlowStep} {n : Option String}
    {r : String} (h : StepDecl.checked name path step = .malformed n r) :
    r = "step name must not be empty" ∨ r = "capsule_path must not be empty" := by
  unfold StepDecl.checked at h
  split_ifs at h <;> simp_all

theorem StepDecl.ofValue_shaped {ms : List (String × Value)} (hs : StepShaped ms)
    (hkeys : Value.KeysIncreasing ms) :
    ∃ name path, ∃ step : FlowStep, ms.lookup "name" = some (.string name) ∧
      ms.lookup "capsule_path" = some (.string path) ∧
      StepDecl.ofValue (.object ms) = StepDecl.checked name path step := by
  obtain ⟨name, hname⟩ := hs.name
  obtain ⟨path, hpath⟩ := hs.capsulePath
  obtain ⟨d, hd, hn, hp⟩ := readValue_step hs hkeys hname hpath
  refine ⟨name, path, FlowStep.ofDatum d, hname, hpath, ?_⟩
  simp only [StepDecl.ofValue, hd, hn, hp, Value.get?_object, hname, Option.bind_some, Value.str?,
    StepDecl.checked]

theorem FlowSpec.ofValue_shaped {ms : List (String × Value)} {id : String} {steps : List Value}
    (hid : ms.lookup "flow_id" = some (.string id)) (hsteps : ms.lookup "steps" = some (.array steps)) :
    FlowSpec.ofValue (.object ms) =
      if (Text.trim id).isEmpty then .error "flow_id must be a non-empty string"
      else .ok { flowId := id, description := (ms.lookup "description").bind Value.str?
                 steps := steps.map StepDecl.ofValue } := by
  unfold FlowSpec.ofValue
  simp only [Value.get?_object, hid, hsteps]
  split <;> rfl

/-! ## What the schema asks -/

section Schema

variable {reg : Registry} {sc : Scope} {n : Nat} {sp ip : List String}

theorem stepShaped_of_violations {x : Value}
    (h : violations reg (n + 2) sc bundledFlowStepSchema sp x ip = []) (hv : sc.vocabularies = {}) :
    ∃ ms, x = .object ms ∧ StepShaped ms := by
  obtain ⟨ms, rfl⟩ := hasType_object (hasType_of_obj h hv rfl rfl)
  have htyped : ∀ k t, (k, t) ∈ [("name", "string"), ("capsule_path", "string"),
      ("expect_capsule_type", "string"), ("compute_hashes", "boolean"),
      ("expect_failure", "boolean"), ("failure_reason", "string")] →
      ∀ v, ms.lookup k = some v → hasType v t = true := by
    intro k t hkt v hval
    simp only [List.mem_cons, Prod.mk.injEq, List.not_mem_nil, or_false] at hkt
    rcases hkt with ⟨rfl, rfl⟩ | ⟨rfl, rfl⟩ | ⟨rfl, rfl⟩ | ⟨rfl, rfl⟩ | ⟨rfl, rfl⟩ | ⟨rfl, rfl⟩ <;>
      exact hasType_of_obj (violations_of_obj_property h hv rfl rfl rfl hval rfl) hv rfl rfl
  have hrequired : ∀ k, k = "name" ∨ k = "capsule_path" → ∃ s, ms.lookup k = some (.string s) := by
    rintro k hk
    obtain ⟨v, hval⟩ := Option.isSome_iff_exists.mp
      (lookup_isSome_of_obj_required h hv rfl rfl (k := k) (by rcases hk with rfl | rfl <;> simp))
    obtain ⟨s, rfl⟩ := hasType_string (htyped k "string" (by rcases hk with rfl | rfl <;> simp) v hval)
    exact ⟨s, hval⟩
  exact ⟨ms, rfl, hrequired "name" (.inl rfl), hrequired "capsule_path" (.inr rfl),
    fun v hval => hasType_string (htyped _ _ (by simp) v hval),
    fun v hval => hasType_boolean (htyped _ _ (by simp) v hval),
    fun v hval => hasType_boolean (htyped _ _ (by simp) v hval),
    fun v hval => hasType_string (htyped _ _ (by simp) v hval)⟩

/-- What the flow schema asks of a document: an object with a string `flow_id` and an array
`steps` of shaped step objects. -/
theorem flowShaped_of_violations {doc : Value}
    (h : violations reg (n + 4) sc bundledFlowSchema sp doc ip = []) (hv : sc.vocabularies = {}) :
    ∃ ms id steps, doc = .object ms ∧ ms.lookup "flow_id" = some (.string id) ∧
      ms.lookup "steps" = some (.array steps) ∧
      ∀ step ∈ steps, ∃ sms, step = .object sms ∧ StepShaped sms := by
  obtain ⟨ms, rfl⟩ := hasType_object (hasType_of_obj h hv rfl rfl)
  obtain ⟨fid, hfid⟩ := Option.isSome_iff_exists.mp
    (lookup_isSome_of_obj_required h hv rfl rfl (k := "flow_id") (by simp))
  obtain ⟨id, rfl⟩ :=
    hasType_string (hasType_of_obj (violations_of_obj_property h hv rfl rfl rfl hfid rfl) hv rfl rfl)
  obtain ⟨st, hst⟩ := Option.isSome_iff_exists.mp
    (lookup_isSome_of_obj_required h hv rfl rfl (k := "steps") (by simp))
  have hsteps := violations_of_obj_property h hv rfl rfl rfl hst rfl
  obtain ⟨steps, rfl⟩ := hasType_array (hasType_of_obj hsteps hv rfl rfl)
  refine ⟨ms, id, steps, rfl, hfid, hst, fun step hstep => ?_⟩
  obtain ⟨ip', hitem⟩ := violations_of_obj_item hsteps hv rfl rfl rfl hstep
  exact stepShaped_of_violations hitem hv

end Schema

theorem bundledSchemas_flow : bundledSchemas.get? flowSchema = some bundledFlowSchema := by
  simp only [SchemaSet.get?, bundledSchemas, Value.keyedOf_eq_insertAll]
  rfl

theorem flow_check_of_validateDocument {doc : Value}
    (h : bundledSchemas.validateDocument doc flowSchema = .ok ()) :
    ∃ reg base, (Validator.mk reg base bundledFlowSchema).check doc = [] := by
  obtain ⟨v, hbuild, hcheck⟩ := SchemaSet.check_of_validateDocument h
  have hroot : v.root = bundledFlowSchema := by
    have hget := SchemaSet.build_root hbuild
    rw [bundledSchemas_flow] at hget
    exact (Option.some.inj hget).symm
  exact ⟨v.registry, v.base, hroot ▸ hcheck⟩

theorem flowSchema_vocabularies (reg : Registry) (base : String) :
    (Scope.target reg base bundledFlowSchema).vocabularies = {} := by
  simp only [Scope.target, bundledFlowSchema, Value.obj, Value.membersOf, Value.keyedOf_eq_insertAll]
  rfl

/-! ## The schema against the reader -/

/-- The member `k` is a string with something besides white space. -/
def Json.Value.FilledAt (v : Value) (k : String) : Prop :=
  ∃ s, v.get? k = some (.string s) ∧ (Text.trim s).isEmpty = false

theorem filledAt_iff {v : Value} {k s : String} (h : v.get? k = some (.string s)) :
    v.FilledAt k ↔ (Text.trim s).isEmpty = false := by
  constructor
  · rintro ⟨s', hs', hfilled⟩
    rw [h, Option.some_inj, Value.string.injEq] at hs'
    rwa [hs']
  · exact fun hfilled => ⟨s, h, hfilled⟩

/-- The texts the flow reader trims hold something besides white space: the flow's
identifier, and each step's name and capsule path. -/
def FilledFlow (doc : Value) : Prop :=
  doc.FilledAt "flow_id" ∧ ∀ steps, doc.get? "steps" = some (.array steps) →
    ∀ step ∈ steps, step.FilledAt "name" ∧ step.FilledAt "capsule_path"

/-- How a document that the flow schema accepts is read, its keys in increasing order: as an
object with a string identifier and an array of steps, each ended by its name and capsule
path. -/
theorem checked_flow_reads {reg : Registry} {base : String} {doc : Value}
    (hvalid : (Validator.mk reg base bundledFlowSchema).check doc = []) (hord : doc.Ordered) :
    ∃ ms id steps, doc = .object ms ∧ ms.lookup "flow_id" = some (.string id) ∧
      ms.lookup "steps" = some (.array steps) ∧
      ∀ step ∈ steps, ∃ name path, ∃ s : FlowStep, step.get? "name" = some (.string name) ∧
        step.get? "capsule_path" = some (.string path) ∧
        StepDecl.ofValue step = StepDecl.checked name path s := by
  obtain ⟨ms, id, steps, rfl, hid, hsteps, hshaped⟩ :=
    flowShaped_of_violations (n := 1020) hvalid (flowSchema_vocabularies reg base)
  refine ⟨ms, id, steps, rfl, hid, hsteps, fun step hstep => ?_⟩
  obtain ⟨sms, rfl, hs⟩ := hshaped step hstep
  have hkeys : Value.KeysIncreasing sms := by
    have hdoc := (Value.ordered_object ms).mp hord
    have harr := hdoc.2 _ (Value.mem_of_lookup_eq_some hsteps)
    exact ((Value.ordered_object sms).mp ((Value.ordered_array steps).mp harr _ hstep)).1
  obtain ⟨name, path, s, hname, hpath, hdecl⟩ := StepDecl.ofValue_shaped hs hkeys
  exact ⟨name, path, s, by simpa using hname, by simpa using hpath, hdecl⟩

/-- The flow schema and the flow reader agree but for blank texts. A document the schema
accepts, its keys in increasing order as a JSON library holds them, is read in full with
every step valid exactly when its identifier and each step's name and capsule path hold
something besides white space; the reader refuses it for nothing but a blank identifier,
and marks a step malformed for nothing but a blank name or capsule path. -/
theorem flow_reader_refuses_only_blank_texts (reg : Registry) (base : String) (doc : Value)
    (hvalid : (Validator.mk reg base bundledFlowSchema).check doc = []) (hord : doc.Ordered) :
    ((∃ spec, FlowSpec.ofValue doc = .ok spec ∧ ∀ d ∈ spec.steps, ∃ s, d = .valid s) ↔
      FilledFlow doc) ∧
    (∀ e, FlowSpec.ofValue doc = .error e → e = "flow_id must be a non-empty string") ∧
    (∀ spec, FlowSpec.ofValue doc = .ok spec → ∀ d ∈ spec.steps, ∀ n r, d = .malformed n r →
      r = "step name must not be empty" ∨ r = "capsule_path must not be empty") := by
  obtain ⟨ms, id, steps, rfl, hid, hsteps, hstep⟩ := checked_flow_reads hvalid hord
  rw [FlowSpec.ofValue_shaped hid hsteps]
  have hidFilled : (Value.object ms).FilledAt "flow_id" ↔ (Text.trim id).isEmpty = false :=
    filledAt_iff (by simpa using hid)
  have hvalidSteps : (∀ d ∈ steps.map StepDecl.ofValue, ∃ s, d = .valid s) ↔
      ∀ step ∈ steps, step.FilledAt "name" ∧ step.FilledAt "capsule_path" := by
    simp only [List.mem_map, forall_exists_index, and_imp, forall_apply_eq_imp_iff₂]
    refine forall₂_congr fun step hmem => ?_
    obtain ⟨name, path, s, hname, hpath, hdecl⟩ := hstep step hmem
    rw [hdecl, filledAt_iff hname, filledAt_iff hpath, StepDecl.checked_valid_iff]
  refine ⟨⟨?_, ?_⟩, ?_, ?_⟩
  · rintro ⟨spec, hspec, hall⟩
    split at hspec
    · cases hspec
    · next hblank =>
      obtain rfl := Except.ok.inj hspec
      refine ⟨hidFilled.mpr (by simpa using hblank), fun steps' hsteps' => ?_⟩
      rw [Value.get?_object, hsteps, Option.some_inj, Value.array.injEq] at hsteps'
      subst hsteps'
      exact hvalidSteps.mp hall
  · rintro ⟨hidF, hstepsF⟩
    refine ⟨_, if_neg (by simp [hidFilled.mp hidF]), hvalidSteps.mpr (hstepsF steps (by simpa using hsteps))⟩
  · intro e he
    split at he
    · exact (Except.error.inj he).symm
    · cases he
  · intro spec hspec d hd n r hdr
    split at hspec
    · cases hspec
    · obtain rfl := Except.ok.inj hspec
      obtain ⟨step, hmem, rfl⟩ := List.mem_map.mp hd
      obtain ⟨name, path, s, -, -, hdecl⟩ := hstep step hmem
      exact StepDecl.checked_reason (hdecl ▸ hdr)

/-- A flow of one step, accepted by the schema, is read in full. -/
theorem flow_of_one_step_read_in_full :
    (Validator.mk {} "" bundledFlowSchema).check (.object [("flow_id", .string "smoke"),
        ("steps", .array [.object [("capsule_path", .string "a.json"), ("name", .string "a")]])]) = [] ∧
      Value.Ordered (.object [("flow_id", .string "smoke"),
        ("steps", .array [.object [("capsule_path", .string "a.json"), ("name", .string "a")]])]) ∧
      ∃ spec, FlowSpec.ofValue (.object [("flow_id", .string "smoke"),
          ("steps", .array [.object [("capsule_path", .string "a.json"), ("name", .string "a")]])]) =
        .ok spec ∧ ∀ d ∈ spec.steps, ∃ s, d = .valid s := by
  have hcheck : (Validator.mk {} "" bundledFlowSchema).check (.object [("flow_id", .string "smoke"),
      ("steps", .array [.object [("capsule_path", .string "a.json"), ("name", .string "a")]])]) = [] := by
    simp only [bundledFlowSchema, bundledFlowStepSchema, Value.obj, Value.membersOf,
      Value.keyedOf_eq_insertAll]
    decide +kernel
  have hord : Value.Ordered (.object [("flow_id", .string "smoke"),
      ("steps", .array [.object [("capsule_path", .string "a.json"), ("name", .string "a")]])]) := by
    refine (Value.ordered_object _).mpr ⟨List.pairwise_pair.mpr (by decide), ?_⟩
    simp only [List.mem_cons, List.not_mem_nil, or_false, forall_eq_or_imp, forall_eq]
    refine ⟨trivial, (Value.ordered_array _).mpr ?_⟩
    simp only [List.mem_cons, List.not_mem_nil, or_false, forall_eq]
    exact (Value.ordered_object _).mpr ⟨List.pairwise_pair.mpr (by decide), by simp [Value.Ordered]⟩
  have hfilled : FilledFlow (.object [("flow_id", .string "smoke"),
      ("steps", .array [.object [("capsule_path", .string "a.json"), ("name", .string "a")]])]) := by
    refine ⟨⟨"smoke", rfl, by decide +kernel⟩, fun steps hsteps step hstep => ?_⟩
    change some (Value.array _) = some (Value.array steps) at hsteps
    simp only [Option.some_inj, Value.array.injEq] at hsteps
    subst hsteps
    simp only [List.mem_cons, List.not_mem_nil, or_false] at hstep
    subst hstep
    exact ⟨⟨"a", rfl, by decide +kernel⟩, ⟨"a.json", rfl, by decide +kernel⟩⟩
  exact ⟨hcheck, hord, ((flow_reader_refuses_only_blank_texts {} "" _ hcheck hord).1).mpr hfilled⟩

/-- The schema accepts a flow identifier of one space, which the reader refuses. -/
theorem flow_schema_admits_blank_id :
    (Validator.mk {} "" bundledFlowSchema).check
        (.object [("flow_id", .string " "), ("steps", .array [])]) = [] ∧
      Value.Ordered (.object [("flow_id", .string " "), ("steps", .array [])]) ∧
      FlowSpec.ofValue (.object [("flow_id", .string " "), ("steps", .array [])]) =
        .error "flow_id must be a non-empty string" := by
  refine ⟨?_, (Value.ordered_object _).mpr ⟨List.pairwise_pair.mpr (by decide), by
    simp [Value.Ordered, Value.ItemsOrdered]⟩, rfl⟩
  simp only [bundledFlowSchema, bundledFlowStepSchema, Value.obj, Value.membersOf,
    Value.keyedOf_eq_insertAll]
  decide +kernel

end CapsuleFlow
