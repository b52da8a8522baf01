import FuturesBot.ReplayRunStates

/-! The replay runtime: it creates, starts, steps, pauses and resumes runs over a bound timeline,
and keeps their states, receipts and outputs in stores. -/
namespace FuturesBot.Replay

open DateTimes Dicts KeySorting Checks

inductive ReplayRunManifestStatus where
  | PLANNED
  | BLOCKED
  | INVALIDATED
  deriving DecidableEq, Repr

/-- A run manifest, with what a run is created from. -/
structure ReplayRunManifest where
  manifest_id : TrimmedText
  replay_plan_id : TrimmedText
  created_at : DateTime
  status : ReplayRunManifestStatus
  fingerprint_ids : List TrimmedText
  deriving DecidableEq

inductive ReplayArtifactKind where
  | TIMELINE
  | COVERAGE_REPORT
  | COVERAGE_DIFF
  deriving DecidableEq, Repr

inductive ReplayArtifactFingerprintStatus where
  | GENERATED
  | INVALIDATED
  deriving DecidableEq, Repr

/-- An artifact fingerprint, with what a run is checked against. -/
structure ReplayArtifactFingerprint where
  fingerprint_id : TrimmedText
  artifact_kind : ReplayArtifactKind
  artifact_id : TrimmedText
  replay_plan_id : Option TrimmedText
  generated_at : DateTime
  status : ReplayArtifactFingerprintStatus
  deriving DecidableEq

/-! The stores. -/

abbrev InMemoryReplayRunManifestStore :=
  KeyedDict fun manifest : ReplayRunManifest => manifest.manifest_id.value

abbrev InMemoryReplayArtifactFingerprintStore :=
  KeyedDict fun fingerprint : ReplayArtifactFingerprint => fingerprint.fingerprint_id.value

abbrev InMemoryReplayRunStateStore := KeyedDict fun state : ReplayRunState => state.run_id.value

namespace InMemoryReplayRunStateStore

def create (store : InMemoryReplayRunStateStore) (state : ReplayRunState) :
    Except ReplayError InMemoryReplayRunStateStore :=
  if state.status ≠ .CREATED then
    .error (.check "replay run state create requires CREATED status")
  else if state.revision ≠ 0 then
    .error (.check "replay run state create requires revision 0")
  else match store.saveOnce state with
    | none => .error (.runConflict state.run_id.value)
    | some store => .ok store

def replace (store : InMemoryReplayRunStateStore) (state : ReplayRunState)
    (expected_revision : ℕ) : Except ReplayError InMemoryReplayRunStateStore :=
  match store.get? state.run_id.value with
  | none => .error (.runNotFound state.run_id.value)
  | some existing =>
    if existing.revision ≠ expected_revision then
      .error (.staleRevision expected_revision existing.revision)
    else match checkAll
        (validateTransition existing.toReplayRunFields state.toReplayRunFields) with
      | .error e => .error e
      | .ok () => .ok (store.put state)

end InMemoryReplayRunStateStore

abbrev InMemoryReplayEventDispatchReceiptStore (env : Env) :=
  KeyedDict fun receipt : ReplayEventDispatchReceipt env => receipt.receipt_id

def InMemoryReplayEventDispatchReceiptStore.save {env : Env}
    (store : InMemoryReplayEventDispatchReceiptStore env)
    (receipt : ReplayEventDispatchReceipt env) :
    Except ReplayError (InMemoryReplayEventDispatchReceiptStore env) :=
  match store.saveOnce receipt with
  | none => .error (.receiptConflict receipt.receipt_id)
  | some store => .ok store

abbrev ReceiptOrder := ℕ ×ₗ String

def receiptOrderKey {env : Env} (r : ReplayEventDispatchReceipt env) : ReceiptOrder :=
  toLex (r.context.event_order_index, r.receipt_id.value)

def InMemoryReplayEventDispatchReceiptStore.listForRun {env : Env}
    (store : InMemoryReplayEventDispatchReceiptStore env) (run_id : String) :
    List (ReplayEventDispatchReceipt env) :=
  sortBy receiptOrderKey (store.values.filter fun r => r.context.run_id.value = run_id)

abbrev InMemoryReplayEventOutputRecordStore (env : Env) :=
  KeyedDict fun record : ReplayEventOutputRecord env => record.output_record_id

def InMemoryReplayEventOutputRecordStore.save {env : Env}
    (store : InMemoryReplayEventOutputRecordStore env) (record : ReplayEventOutputRecord env) :
    Except ReplayError (InMemoryReplayEventOutputRecordStore env) :=
  match store.saveOnce record with
  | none => .error (.outputConflict record.output_record_id)
  | some store => .ok store

abbrev OutputOrder := ℕ ×ₗ (String ×ₗ (String ×ₗ (ℕ ×ₗ String)))

def outputRecordRunOrderKey {env : Env} (r : ReplayEventOutputRecord env) : OutputOrder :=
  toLex (r.context.event_order_index, toLex (r.handler_id.value, toLex (r.handler_version.value,
    toLex (r.handler_output_index, r.output_record_id.value))))

def InMemoryReplayEventOutputRecordStore.listForRun {env : Env}
    (store : InMemoryReplayEventOutputRecordStore env) (run_id : String) :
    List (ReplayEventOutputRecord env) :=
  sortBy outputRecordRunOrderKey (store.values.filter fun r => r.context.run_id.value = run_id)

/-- The stores that the runtime only reads. -/
structure ReplayCatalog where
  manifest_store : InMemoryReplayRunManifestStore
  timeline_store : InMemoryReplayTimelineStore
  fingerprint_store : InMemoryReplayArtifactFingerprintStore

/-- The stores that the runtime writes. -/
structure ReplayStores (env : Env) where
  run_store : InMemoryReplayRunStateStore
  receipt_store : InMemoryReplayEventDispatchReceiptStore env
  output_store : InMemoryReplayEventOutputRecordStore env

def ReplayStores.empty (env : Env) : ReplayStores env := ⟨.empty, .empty, .empty⟩

structure LocalDeterministicReplayRuntime (env : Env) where
  catalog : ReplayCatalog
  dispatcher : LocalDeterministicReplayDispatcher env

/-! What the operations check first. -/

section Checked

variable {env : Env}

def loadState (stores : ReplayStores env) (run_id : String) : Except ReplayError ReplayRunState :=
  match stores.run_store.get? run_id with
  | none => .error (.runNotFound run_id)
  | some state => .ok state

def validatedDispatcherFingerprint (dispatcher : LocalDeterministicReplayDispatcher env) :
    Except ReplayError HexDigest :=
  let fingerprint := buildReplayDispatcherFingerprint env dispatcher.descriptors
  if fingerprint ≠ dispatcher.dispatcher_fingerprint then
    .error (.check "dispatcher descriptors do not match dispatcher fingerprint")
  else .ok fingerprint

def requireMatchingDispatcher (dispatcher : LocalDeterministicReplayDispatcher env)
    (state : ReplayRunState) : Except ReplayError HexDigest :=
  match validatedDispatcherFingerprint dispatcher with
  | .error e => .error e
  | .ok fingerprint =>
    if fingerprint ≠ state.dispatcher_fingerprint then
      .error (.check "runtime dispatcher fingerprint does not match run state")
    else .ok fingerprint

/-- The captured time. A naive time cannot be compared with that of the state. -/
def requireNonRegressingRuntimeTime (captured_now : Option DateTime) (state : ReplayRunState) :
    Except ReplayError DateTime :=
  match captured_now with
  | none => .error (.check "can't compare offset-naive and offset-aware datetimes")
  | some now =>
    if now < state.updated_at then
      .error (.check "runtime clock regression: captured time is before state updated_at")
    else .ok now

def resultFields (previous current : ReplayRunFields)
    (receipts : List (ReplayEventDispatchReceipt env)) : ReplayRunStepFields env where
  run_id := current.run_id
  previous_status := previous.status
  current_status := current.status
  previous_revision := previous.revision
  current_revision := current.revision
  previous_next_event_index := previous.next_event_index
  previous_processed_event_count := previous.processed_event_count
  processed_receipts := receipts
  next_event_index := current.next_event_index
  processed_event_count := current.processed_event_count
  total_event_count := current.total_event_count
  completed := decide (current.status = .COMPLETED)

def stepResult (previous current : ReplayRunState)
    (receipts : List (ReplayEventDispatchReceipt env)) :
    Except ReplayError (ReplayRunStepResult env) :=
  ReplayRunStepResult.of
    (resultFields previous.toReplayRunFields current.toReplayRunFields receipts)

/-- The state as updated, its result without receipts, and the replacement in the store. -/
def replaceState (stores : ReplayStores env) (state : ReplayRunState) (update : ReplayRunFields) :
    ReplayStores env × Except ReplayError (ReplayRunStepResult env) :=
  match ReplayRunState.of update with
  | .error e => (stores, .error e)
  | .ok replacement =>
    match stepResult state replacement [] with
    | .error e => (stores, .error e)
    | .ok result =>
      match InMemoryReplayRunStateStore.replace stores.run_store replacement state.revision with
      | .error e => (stores, .error e)
      | .ok run_store => ({ stores with run_store }, .ok result)

end Checked

namespace LocalDeterministicReplayRuntime

variable {env : Env} (runtime : LocalDeterministicReplayRuntime env)

/-! Creating a run. -/

def existingRunBinding (existing : ReplayRunState)
    (manifest_id timeline_id timeline_fingerprint_id : String) (dispatcher_fingerprint : HexDigest) :
    List (Check ReplayError) :=
  [require (existing.manifest_id.value = manifest_id ∧ existing.timeline_id.value = timeline_id ∧
      existing.timeline_fingerprint_id.value = timeline_fingerprint_id ∧
      existing.dispatcher_fingerprint = dispatcher_fingerprint)
    (.check "replay run_id already exists with a conflicting binding")]

def manifestChecks (manifest : ReplayRunManifest) : List (Check ReplayError) :=
  [require (manifest.status = .PLANNED) (.check "replay run manifest must be PLANNED")]

def timelineChecks (manifest : ReplayRunManifest) (timeline : ReplayTimeline)
    (timeline_fingerprint_id : String) : List (Check ReplayError) :=
  [require (timeline.status = .BUILT) (.check "replay timeline must be BUILT"),
    require (timeline.replay_plan_id = manifest.replay_plan_id)
      (.check "timeline replay_plan_id must match manifest replay_plan_id"),
    require (timeline_fingerprint_id ∈ manifest.fingerprint_ids.map (·.value))
      (.check "timeline_fingerprint_id must be present in manifest fingerprint_ids")]

def fingerprintChecks (manifest : ReplayRunManifest) (timeline : ReplayTimeline)
    (timeline_id : String) (fingerprint : ReplayArtifactFingerprint) : List (Check ReplayError) :=
  [require (fingerprint.status = .GENERATED) (.check "timeline fingerprint must be GENERATED"),
    require (fingerprint.artifact_kind = .TIMELINE)
      (.check "timeline fingerprint artifact_kind must be TIMELINE"),
    require (fingerprint.artifact_id.value = timeline_id)
      (.check "timeline fingerprint artifact_id must match timeline_id"),
    require (fingerprint.replay_plan_id = some manifest.replay_plan_id)
      (.check "timeline fingerprint replay_plan_id must match manifest replay_plan_id"),
    require (fingerprint.generated_at ≤ manifest.created_at)
      (.check "timeline fingerprint generated_at must not be after manifest created_at"),
    require (timeline.created_at ≤ fingerprint.generated_at)
      (.check "timeline created_at must not be after timeline fingerprint generated_at")]

/-- What a new run is made of. -/
def createdFields (manifest : ReplayRunManifest) (timeline : ReplayTimeline)
    (fingerprint : ReplayArtifactFingerprint) (dispatcher_fingerprint : HexDigest)
    (run_id : TrimmedText) (now : DateTime) : ReplayRunFields where
  run_id
  manifest_id := manifest.manifest_id
  replay_plan_id := manifest.replay_plan_id
  timeline_id := timeline.timeline_id
  timeline_fingerprint_id := fingerprint.fingerprint_id
  dispatcher_fingerprint
  created_at := now
  updated_at := now
  started_at := none
  paused_at := none
  completed_at := none
  status := .CREATED
  revision := 0
  total_event_count := timeline.events.length
  next_event_index := 0
  processed_event_count := 0
  last_processed_event_id := none

/-- The manifest, timeline and fingerprint of a new run. -/
def boundArtifacts (manifest_id timeline_id timeline_fingerprint_id : String) :
    Except ReplayError (ReplayRunManifest × ReplayTimeline × ReplayArtifactFingerprint) :=
  match runtime.catalog.manifest_store.get? manifest_id with
  | none => .error (.manifestNotFound manifest_id)
  | some manifest =>
    match checkAll (manifestChecks manifest) with
    | .error e => .error e
    | .ok () =>
      match runtime.catalog.timeline_store.get? timeline_id with
      | none => .error (.timelineNotFound timeline_id)
      | some timeline =>
        match checkAll (timelineChecks manifest timeline timeline_fingerprint_id) with
        | .error e => .error e
        | .ok () =>
          match runtime.catalog.fingerprint_store.get? timeline_fingerprint_id with
          | none => .error (.fingerprintNotFound timeline_fingerprint_id)
          | some fingerprint =>
            match checkAll (fingerprintChecks manifest timeline timeline_id fingerprint) with
            | .error e => .error e
            | .ok () => .ok (manifest, timeline, fingerprint)

def newRun (run_id manifest_id timeline_id timeline_fingerprint_id : String)
    (dispatcher_fingerprint : HexDigest) (now : Option DateTime) :
    Except ReplayError ReplayRunState :=
  match runtime.boundArtifacts manifest_id timeline_id timeline_fingerprint_id with
  | .error e => .error e
  | .ok (manifest, timeline, fingerprint) =>
    match now with
    | none => .error (.check "can't compare offset-naive and offset-aware datetimes")
    | some now =>
      if now < manifest.created_at then
        .error (.check "manifest created_at must not be after replay run created_at")
      else match TrimmedText.of run_id with
        | none => .error (.check "field must be a non-empty trimmed string")
        | some run_id =>
          ReplayRunState.of
            (createdFields manifest timeline fingerprint dispatcher_fingerprint run_id now)

/-- `create_run`. -/
def createRun (stores : ReplayStores env)
    (run_id manifest_id timeline_id timeline_fingerprint_id : String) (now : Option DateTime) :
    ReplayStores env × Except ReplayError ReplayRunState :=
  match validatedDispatcherFingerprint runtime.dispatcher with
  | .error e => (stores, .error e)
  | .ok dispatcher_fingerprint =>
    match stores.run_store.get? run_id with
    | some existing =>
      match checkAll (existingRunBinding existing manifest_id timeline_id timeline_fingerprint_id
        dispatcher_fingerprint) with
      | .error e => (stores, .error e)
      | .ok () => (stores, .ok existing)
    | none =>
      match runtime.newRun run_id manifest_id timeline_id timeline_fingerprint_id
        dispatcher_fingerprint now with
      | .error e => (stores, .error e)
      | .ok state =>
        match InMemoryReplayRunStateStore.create stores.run_store state with
        | .error e => (stores, .error e)
        | .ok run_store => ({ stores with run_store }, .ok state)

/-! Starting, pausing and resuming. -/

/-- An operation on a run of one status: the update at the time that the clock gives. -/
def transitionRun (stores : ReplayStores env) (run_id : String) (required : ReplayRunStatus)
    (now : Option DateTime) (update : ReplayRunState → DateTime → ReplayRunFields) :
    ReplayStores env × Except ReplayError (ReplayRunStepResult env) :=
  match loadState stores run_id with
  | .error e => (stores, .error e)
  | .ok state =>
    if state.status ≠ required then (stores, .error (.onlyStatus required state.status))
    else match requireMatchingDispatcher runtime.dispatcher state with
      | .error e => (stores, .error e)
      | .ok _ =>
        match requireNonRegressingRuntimeTime now state with
        | .error e => (stores, .error e)
        | .ok now => replaceState stores state (update state now)

def startUpdate (state : ReplayRunState) (now : DateTime) : ReplayRunFields :=
  let status : ReplayRunStatus := if state.total_event_count = 0 then .COMPLETED else .RUNNING
  { state.toReplayRunFields with
    updated_at := now
    started_at := some now
    completed_at := if status = .COMPLETED then some now else none
    status
    revision := state.revision + 1 }

def pauseUpdate (state : ReplayRunState) (now : DateTime) : ReplayRunFields :=
  { state.toReplayRunFields with
    updated_at := now
    paused_at := some now
    status := .PAUSED
    revision := state.revision + 1 }

def resumeUpdate (state : ReplayRunState) (now : DateTime) : ReplayRunFields :=
  { state.toReplayRunFields with
    updated_at := now
    paused_at := none
    status := .RUNNING
    revision := state.revision + 1 }

/-- `start_run`. -/
def startRun (stores : ReplayStores env) (run_id : String) (now : Option DateTime) :
    ReplayStores env × Except ReplayError (ReplayRunStepResult env) :=
  runtime.transitionRun stores run_id .CREATED now startUpdate

/-- `pause_run`. -/
def pauseRun (stores : ReplayStores env) (run_id : String) (now : Option DateTime) :
    ReplayStores env × Except ReplayError (ReplayRunStepResult env) :=
  runtime.transitionRun stores run_id .RUNNING now pauseUpdate

/-- `resume_run`. -/
def resumeRun (stores : ReplayStores env) (run_id : String) (now : Option DateTime) :
    ReplayStores env × Except ReplayError (ReplayRunStepResult env) :=
  runtime.transitionRun stores run_id .PAUSED now resumeUpdate

/-! Stepping. -/

def loadBoundTimeline (state : ReplayRunState) : Except ReplayError ReplayTimeline :=
  match runtime.catalog.timeline_store.get? state.timeline_id.value with
  | none => .error (.boundTimelineNotFound state.timeline_id.value)
  | some timeline =>
    match checkAll [
      require (timeline.status = .BUILT) (.check "bound replay timeline must be BUILT"),
      require (timeline.timeline_id = state.timeline_id)
        (.check "loaded replay timeline id does not match run state"),
      require (timeline.replay_plan_id = state.replay_plan_id)
        (.check "bound replay timeline replay_plan_id does not match run state"),
      require (timeline.events.length = state.total_event_count)
        (.check "bound replay timeline event count does not match run state"),
      require (0 < state.next_event_index → state.last_processed_event_id =
          (timeline.events[state.next_event_index - 1]?).map (·.event_id))
        (.check "last_processed_event_id must match the bound timeline event before next_event_index"),
      require (timeline.events.map (·.order_index) = List.range timeline.events.length)
        (.check "timeline event order_index must equal tuple position")] with
    | .error e => .error e
    | .ok () => .ok timeline

end LocalDeterministicReplayRuntime

/-- The context of an event of a run. -/
def contextOf (state : ReplayRunFields) (event : ReplayTimelineEvent) : ReplayDispatchContext where
  run_id := state.run_id
  manifest_id := state.manifest_id
  replay_plan_id := state.replay_plan_id
  timeline_id := state.timeline_id
  timeline_fingerprint_id := state.timeline_fingerprint_id
  dispatcher_fingerprint := state.dispatcher_fingerprint
  event_id := event.event_id
  event_order_index := event.order_index
  event_time := event.event_time
  event_kind := event.kind

/-- What a step has built before it writes. -/
structure StepWrites (env : Env) where
  expected_revision : ℕ
  replacement : ReplayRunState
  result : ReplayRunStepResult env
  output_records : List (ReplayEventOutputRecord env)
  receipts : List (ReplayEventDispatchReceipt env)

namespace LocalDeterministicReplayRuntime

variable {env : Env} (runtime : LocalDeterministicReplayRuntime env)

def dispatchPlan (handlers : ReplayHandlers) (state : ReplayRunFields)
    (event : ReplayTimelineEvent) : Except ReplayError (ReplayEventDispatchPlan env) :=
  runtime.dispatcher.planDispatch handlers (contextOf state event) event
    (buildReplayEventDispatchReceiptId env state.run_id event.order_index event.event_id)

def dispatchPlans (handlers : ReplayHandlers) (state : ReplayRunFields) :
    List ReplayTimelineEvent → Except ReplayError (List (ReplayEventDispatchPlan env))
  | [] => .ok []
  | event :: events =>
    match runtime.dispatchPlan handlers state event with
    | .error e => .error e
    | .ok plan =>
      match dispatchPlans handlers state events with
      | .error e => .error e
      | .ok plans => .ok (plan :: plans)

def dispatchReceipt (env : Env) (state : ReplayRunFields) (event : ReplayTimelineEvent)
    (plan : ReplayEventDispatchPlan env) : Except ReplayError (ReplayEventDispatchReceipt env) :=
  ReplayEventDispatchReceipt.of env {
    receipt_id := buildReplayEventDispatchReceiptId env state.run_id event.order_index event.event_id
    context := contextOf state event
    handler_ids := plan.handler_ids
    output_record_ids := plan.output_records.map (·.output_record_id) }

def dispatchReceipts (env : Env) (state : ReplayRunFields) :
    List ReplayTimelineEvent → List (ReplayEventDispatchPlan env) →
      Except ReplayError (List (ReplayEventDispatchReceipt env))
  | event :: events, plan :: plans =>
    match dispatchReceipt env state event plan with
    | .error e => .error e
    | .ok receipt =>
      match dispatchReceipts env state events plans with
      | .error e => .error e
      | .ok receipts => .ok (receipt :: receipts)
  | _, _ => .ok []

def validateBundleRecord (expected : List ReplayDispatchHandlerDescriptor)
    (receipt : ReplayEventDispatchReceipt env) (record : ReplayEventOutputRecord env) :
    List (Check ReplayError) :=
  [require (record.handler_id ∈ expected.map (·.handler_id))
      (.check "output record handler_id must match dispatcher descriptor"),
    require (∀ d ∈ expected, d.handler_id = record.handler_id →
        record.handler_version = d.handler_version)
      (.check "output record handler_version must match dispatcher descriptor"),
    require (record.dispatch_receipt_id = receipt.receipt_id)
      (.check "output record dispatch_receipt_id must match dispatch receipt")] ++
    contextChecks (fun field => .check ("output record " ++ field ++
      " must match dispatch receipt")) record.context receipt.context

/-- `_validate_dispatch_bundle`. -/
def validateDispatchBundle (dispatcher_fingerprint : HexDigest) (state : ReplayRunFields)
    (event : ReplayTimelineEvent) (plan : ReplayEventDispatchPlan env)
    (receipt : ReplayEventDispatchReceipt env) : List (Check ReplayError) :=
  let expected := runtime.dispatcher.selectedDescriptorsFor event.kind
  [require (plan.handler_ids = expected.map (·.handler_id))
      (.check "dispatch plan handler_ids must match selected dispatcher handlers")] ++
    contextChecks (fun field => .check ("dispatch plan context " ++ field ++
      " must match run event")) plan.context (contextOf state event) ++
    contextChecks (fun field => .check ("dispatch receipt " ++ field ++
      " must match run event")) receipt.context (contextOf state event) ++
    [require (plan.context.dispatcher_fingerprint = dispatcher_fingerprint)
        (.check "dispatch plan context dispatcher_fingerprint must match dispatcher"),
      require (receipt.context.dispatcher_fingerprint = dispatcher_fingerprint)
        (.check "dispatch receipt dispatcher_fingerprint must match run state"),
      require (receipt.handler_ids = plan.handler_ids)
        (.check "dispatch receipt handler_ids must match dispatch plan"),
      require (receipt.output_record_ids = plan.output_records.map (·.output_record_id))
        (.check "dispatch receipt output_record_ids must match dispatch plan output records")] ++
    plan.output_records.flatMap (validateBundleRecord expected receipt)

def validateDispatchBundles (dispatcher_fingerprint : HexDigest) (state : ReplayRunFields) :
    List ReplayTimelineEvent → List (ReplayEventDispatchPlan env) →
      List (ReplayEventDispatchReceipt env) → List (Check ReplayError)
  | event :: events, plan :: plans, receipt :: receipts =>
    runtime.validateDispatchBundle dispatcher_fingerprint state event plan receipt ++
      validateDispatchBundles dispatcher_fingerprint state events plans receipts
  | _, _, _ => []

def stepUpdate (state : ReplayRunState) (last_event : ReplayTimelineEvent)
    (next_event_index : ℕ) (now : DateTime) : ReplayRunFields :=
  let completed := decide (next_event_index = state.total_event_count)
  { state.toReplayRunFields with
    updated_at := now
    completed_at := if completed then some now else none
    status := if completed then .COMPLETED else .RUNNING
    revision := state.revision + 1
    next_event_index
    processed_event_count := next_event_index
    last_processed_event_id := some last_event.event_id }

/-- How many events a step processes: those asked for, at most those that remain. -/
def stepCount (state : ReplayRunFields) (max_events : ℕ) : ℕ :=
  min max_events (state.total_event_count - state.next_event_index)

def stepEvents (state : ReplayRunFields) (timeline : ReplayTimeline) (max_events : ℕ) :
    List ReplayTimelineEvent :=
  (timeline.events.drop state.next_event_index).take (stepCount state max_events)

/-- The plans, receipts and outputs of a list of events. -/
def dispatchEvents (handlers : ReplayHandlers) (dispatcher_fingerprint : HexDigest)
    (state : ReplayRunFields) (events : List ReplayTimelineEvent) :
    Except ReplayError
      (List (ReplayEventDispatchReceipt env) × List (ReplayEventOutputRecord env)) :=
  match runtime.dispatchPlans handlers state events with
  | .error e => .error e
  | .ok plans =>
    match dispatchReceipts env state events plans with
    | .error e => .error e
    | .ok receipts =>
      match checkAll
        (runtime.validateDispatchBundles dispatcher_fingerprint state events plans receipts) with
      | .error e => .error e
      | .ok () => .ok (receipts, plans.flatMap (·.output_records))

/-- The part of `step_run` that only reads the loaded state. -/
def prepareStep (handlers : ReplayHandlers) (state : ReplayRunState) (max_events : ℕ)
    (now : Option DateTime) : Except ReplayError (StepWrites env) :=
  if state.status ≠ .RUNNING then .error (.onlyStatus .RUNNING state.status)
  else match requireMatchingDispatcher runtime.dispatcher state with
    | .error e => .error e
    | .ok dispatcher_fingerprint =>
      match runtime.loadBoundTimeline state with
      | .error e => .error e
      | .ok timeline =>
        if state.total_event_count ≤ state.next_event_index then
          .error (.check "RUNNING replay run has no remaining events to process")
        else
          let events := stepEvents state.toReplayRunFields timeline max_events
          match runtime.dispatchEvents handlers dispatcher_fingerprint state.toReplayRunFields
            events with
          | .error e => .error e
          | .ok (receipts, output_records) =>
            match events.getLast? with
            | none => .error (.check "tuple index out of range")
            | some last_event =>
              match requireNonRegressingRuntimeTime now state with
              | .error e => .error e
              | .ok now =>
                match ReplayRunState.of (stepUpdate state last_event (state.next_event_index +
                  stepCount state.toReplayRunFields max_events) now) with
                | .error e => .error e
                | .ok replacement =>
                  match stepResult state replacement receipts with
                  | .error e => .error e
                  | .ok result =>
                    .ok ⟨state.revision, replacement, result, output_records, receipts⟩

end LocalDeterministicReplayRuntime

section Writes

variable {env : Env}

/-- `_preflight_append_only_writes`. -/
def preflight (stores : ReplayStores env) (writes : StepWrites env) :
    List (Check ReplayError) :=
  writes.receipts.flatMap (fun receipt : ReplayEventDispatchReceipt env =>
      [require (∀ existing ∈ stores.receipt_store.get? receipt.receipt_id, existing = receipt)
        (.receiptConflict receipt.receipt_id)]) ++
    writes.output_records.flatMap fun record : ReplayEventOutputRecord env =>
      [require (∀ existing ∈ stores.output_store.get? record.output_record_id, existing = record)
        (.outputConflict record.output_record_id)]

/-- One save after the other. A refused save leaves what those before it have written. -/
def saveOutputs (stores : ReplayStores env) : List (ReplayEventOutputRecord env) →
    ReplayStores env × Except ReplayError Unit
  | [] => (stores, .ok ())
  | record :: records =>
    match InMemoryReplayEventOutputRecordStore.save stores.output_store record with
    | .error e => (stores, .error e)
    | .ok output_store => saveOutputs { stores with output_store } records

def saveReceipts (stores : ReplayStores env) : List (ReplayEventDispatchReceipt env) →
    ReplayStores env × Except ReplayError Unit
  | [] => (stores, .ok ())
  | receipt :: receipts =>
    match InMemoryReplayEventDispatchReceiptStore.save stores.receipt_store receipt with
    | .error e => (stores, .error e)
    | .ok receipt_store => saveReceipts { stores with receipt_store } receipts

/-- The writes of a step, the state last. -/
def writeStep (stores : ReplayStores env) (writes : StepWrites env) :
    ReplayStores env × Except ReplayError (ReplayRunStepResult env) :=
  match checkAll (preflight stores writes) with
  | .error e => (stores, .error e)
  | .ok () =>
    match saveOutputs stores writes.output_records with
    | (stores, .error e) => (stores, .error e)
    | (stores, .ok ()) =>
      match saveReceipts stores writes.receipts with
      | (stores, .error e) => (stores, .error e)
      | (stores, .ok ()) =>
        match InMemoryReplayRunStateStore.replace stores.run_store writes.replacement
          writes.expected_revision with
        | .error e => (stores, .error e)
        | .ok run_store => ({ stores with run_store }, .ok writes.result)

end Writes

/-- `step_run`. -/
def LocalDeterministicReplayRuntime.stepRun {env : Env}
    (runtime : LocalDeterministicReplayRuntime env) (handlers : ReplayHandlers)
    (stores : ReplayStores env) (run_id : String) (max_events : ℤ) (now : Option DateTime) :
    ReplayStores env × Except ReplayError (ReplayRunStepResult env) :=
  if max_events ≤ 0 then (stores, .error (.check "max_events must be > 0"))
  else match loadState stores run_id with
    | .error e => (stores, .error e)
    | .ok state =>
      match runtime.prepareStep handlers state max_events.toNat now with
      | .error e => (stores, .error e)
      | .ok writes => writeStep stores writes

end FuturesBot.Replay
