import CapsuleFlow.Enforce
import CapsuleFlow.Store
import CapsuleFlow.Adapter
import CapsuleFlow.Canonical
import CapsuleFlow.Digest
import CapsuleFlow.Json.Reader

/-!
# Running a flow

A run takes a flow step by step. For each step it loads the capsule and builds its trace
entry, checks the declared type, lets the observers fold the entry in, enforces the
rules on what they then know, applies the step's expectation, and hands the capsule to
the adapter. Each step runs to its end before the next starts.

A problem with one step is reported and the run goes on with the next: a malformed
declaration, a capsule that does not load, is no object or has no canonical form skips
the step; any other failure is reported and the step still enters the trace. A flow that
does not load or read at all gives one failure of the flow and nothing else.

Runs work in any monad that takes log events, over any store, so the same run serves a
store in memory and the files on a disk.
-/

namespace CapsuleFlow

open CapsuleFlow.Json

/-- The result of a run. The run passed when it reported no failure. -/
structure RunResult where
  /-- Absent when the flow did not load or read. -/
  flowId : Option String
  failures : List Failure
  trace : List TraceEntry
  /-- Absent when the flow did not load or read. -/
  observers : Option Observers
  deriving Inhabited

namespace RunResult

/-- Whether the run reported no failure. -/
def ok (r : RunResult) : Bool := r.failures.isEmpty

/-- The failures with a code, in the order reported. -/
def failuresWith (r : RunResult) (code : FailureCode) : List Failure :=
  r.failures.filter (·.code == code)

/-- A result on the wire; missing observers are written as an empty object. -/
def toJson (r : RunResult) : Value :=
  Value.obj [("flow_id", Value.optString r.flowId), ("ok", .bool r.ok),
    ("failures", .array (r.failures.map Failure.toJson)),
    ("trace", .array (r.trace.map TraceEntry.toJson)),
    ("observers", match r.observers with
      | some o => o.toJson
      | none => .object [])]

end RunResult

/-- Why a flow could not be run at all. -/
inductive FlowError where
  /-- The flow document did not load. -/
  | load (path : String) (e : StoreError)
  /-- The flow document is no flow. -/
  | invalid (reason : String)
  deriving DecidableEq, Repr

def FlowError.message : FlowError → String
  | .load p e => s!"failed to load flow {p}: {e.message}"
  | .invalid r => s!"invalid flow: {r}"

/-- The failure code of a flow error. -/
def FlowError.code : FlowError → FailureCode
  | .load _ _ => .flowLoadFailed
  | .invalid _ => .invalidFlow

/-- A capsule path as the store is asked for it: an absolute path as it is, a relative
one under the base directory. -/
def capsuleLocation (baseDir capsulePath : String) : String :=
  if Path.isAbsolute capsulePath then capsulePath else Path.join baseDir capsulePath

/-- How a run is made: where documents come from, how capsules are made canonical and
hashed, and where loaded capsules are dispatched. -/
structure Runner (m : Type → Type) where
  store : Store m
  canonical : CanonicalOptions := {}
  hash : HashOptions := {}
  adapter : Option Adapter := none

/-- What a run has gathered so far. -/
structure RunState where
  observers : Observers := {}
  trace : List TraceEntry := []
  failures : List Failure := []
  deriving Inhabited

namespace Runner

variable {m : Type → Type} [Monad m] [MonadLog m]

/-- Reports a failure: logs it and adds it to the list. -/
def report (flowId : String) (s : RunState) (f : Failure) : m RunState := do
  MonadLog.emit {
    level := .info, message := f.message
    fields := [("flow_id", .text flowId)] ++
      (f.stepIndex.toList.map fun i => ("step_index", .nat i)) ++
      (f.stepName.toList.map fun n => ("step_name", .text n)) ++
      [("code", .shown f.code.label)] }
  return { s with failures := s.failures ++ [f] }

/-- Reports failures in order. -/
def reportAll (flowId : String) (s : RunState) : List Failure → m RunState
  | [] => pure s
  | f :: fs => do reportAll flowId (← report flowId s f) fs

/-- The trace entry of a step and the capsule it loaded, or the one failure that kept
it from loading. -/
def buildEntry (r : Runner m) (i : Nat) (step : FlowStep) (baseDir : String) :
    m (Except Failure (TraceEntry × Value)) := do
  let fail := Failure.atStep i step.name
  let path ← r.store.resolve (capsuleLocation baseDir step.capsulePath)
  let capsule ← match ← r.store.get path with
    | .ok v => pure v
    | .error e => return .error (fail .fileError s!"failed to load {path}: {e.message}")
  let .object _ := capsule
    | return .error (fail .invalidCapsule s!"capsule must be a JSON object, got {capsule.kindName}")
  let type := CapsuleType.of capsule
  let plain : CapsuleMeta := { capsuleType := type, capsulePath := path }
  let built : Except Failure (CapsuleMeta × CapsuleEvent) :=
    if step.computeHashes then
      match canonicalize r.canonical capsule with
      | .error e => .error (fail .invalidCapsule s!"canonicalization failed: {e.message}")
      | .ok text =>
        match Json.parse text with
        | .error e => .error (fail .invalidCapsule s!"canonical form does not reparse: {e.text}")
        | .ok normal =>
          let digest := digestText r.hash text
          .ok ({ plain with canonicalJson := some text, hashHex := some digest.hex
                            capsuleHash := some (Role.capsule.idOf digest) },
               CapsuleEvent.decode type normal)
    else .ok (plain, CapsuleEvent.decode type .null)
  match built with
  | .error f => return .error f
  | .ok (meta_, event) =>
    MonadLog.emit { level := .trace, message := "trace entry built"
                    fields := [("step_index", .nat i), ("step_name", .shown step.name),
                      ("capsule_type", .shown type.label), ("hashed", .bool step.computeHashes)] }
    return .ok (⟨i, step.name, meta_, event⟩, capsule)

/-- The failure of a capsule whose type is not the one the step declares. -/
def typeMismatch (i : Nat) (step : FlowStep) (e : TraceEntry) : Option Failure :=
  step.expectCapsuleType.bind fun expected =>
    let actual := e.capsule.capsuleType.label
    if expected == actual then none
    else some (Failure.atStep i step.name .unexpectedCapsuleType
      s!"expected capsule type {expected}, got {actual}")

/-- Hands a loaded capsule to the adapter, if there is one, and logs its answer. -/
def dispatch (r : Runner m) (flowId : String) (i : Nat) (capsule : Value) : m Unit := do
  let some a := r.adapter | return ()
  let answer := a.dispatch capsule { flowId := some flowId, stepIndex := some i }
  MonadLog.emit { level := .debug, message := "adapter response"
                  fields := [("flow_id", .text flowId), ("step_index", .nat i),
                    ("adapter", .text a.name), ("accepted", .bool answer.accepted),
                    ("status", .text (answer.status.getD ""))] }

/-- The log event of a step that expected to fail and did. -/
def expectedNote (i : Nat) (step : FlowStep) (violations : List Failure) : List LogEvent :=
  if step.expectFailure && !violations.isEmpty then
    [{ level := .debug, message := "expected violation observed"
       fields := [("step_index", .nat i), ("step_name", .shown step.name),
         ("count", .nat violations.length)] }]
  else []

def emitAll : List LogEvent → m Unit
  | [] => pure ()
  | e :: es => do MonadLog.emit e; emitAll es

def runStep (r : Runner m) (flowId baseDir : String) (s : RunState) (i : Nat) :
    StepDecl → m RunState
  | .malformed name reason =>
    report flowId s ⟨some i, name, .invalidFlow, s!"invalid step declaration: {reason}"⟩
  | .valid step => do
    match ← r.buildEntry i step baseDir with
    | .error f => report flowId s f
    | .ok (entry, capsule) =>
      let s ← reportAll flowId s (typeMismatch i step entry).toList
      let (observers, raised) := s.observers.observe entry
      emitAll (s.observers.notes entry raised)
      let s ← reportAll flowId { s with observers } raised
      let violations := enforce entry observers
      emitAll (expectedNote i step violations)
      let s ← reportAll flowId s (applyExpectation i step violations)
      r.dispatch flowId i capsule
      return { s with trace := s.trace ++ [entry] }

/-- Runs the steps from index `i` on. -/
def runSteps (r : Runner m) (flowId baseDir : String) (s : RunState) (i : Nat) :
    List StepDecl → m RunState
  | [] => pure s
  | d :: ds => do runSteps r flowId baseDir (← r.runStep flowId baseDir s i d) (i + 1) ds

/-- Runs a flow read already, with relative capsule paths under a base directory. -/
def run (r : Runner m) (flow : FlowSpec) (baseDir : String) : m RunResult := do
  MonadLog.emit { level := .info, message := "flow started"
                  fields := [("flow_id", .text flow.flowId), ("steps", .nat flow.steps.length)] }
  let s ← r.runSteps flow.flowId baseDir {} 0 flow.steps
  MonadLog.emit { level := .info, message := "flow finished"
                  fields := [("flow_id", .text flow.flowId), ("ok", .bool s.failures.isEmpty),
                    ("failures", .nat s.failures.length)] }
  return { flowId := some flow.flowId, failures := s.failures, trace := s.trace
           observers := some s.observers }

/-- The result of a flow that could not be run. -/
def rejected (e : FlowError) : m RunResult := do
  MonadLog.emit { level := .warn, message := "flow rejected"
                  fields := [("code", .shown e.code.label), ("error", .shown e.message)] }
  return { flowId := none, failures := [Failure.ofFlow e.code e.message], trace := []
           observers := none }

def loadFlow (r : Runner m) (path : String) : m (Except FlowError FlowSpec) := do
  match ← r.store.get path with
  | .error e => return .error (.load path e)
  | .ok doc => return (FlowSpec.ofValue doc).mapError .invalid

/-- Loads the flow at a path and runs it, with relative capsule paths under the flow
file's directory. -/
def runFlow (r : Runner m) (path : String) : m RunResult := do
  match ← r.loadFlow path with
  | .error e => rejected e
  | .ok flow => r.run flow ((Path.parent path).getD "")

end Runner

end CapsuleFlow
