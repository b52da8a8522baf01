import FuturesBot.ReplayInputs

/-! Replay timelines: the events of input batches in one order, and the builder that makes a
timeline of the batches of a plan. -/
namespace FuturesBot.Replay

open TextLines DateTimes Dicts KeySorting Checks

inductive ReplayTimelineStatus where
  | PLANNED
  | BUILT
  | VALIDATED
  | INVALIDATED
  deriving DecidableEq, Repr

/-- Why a timeline is refused. A failed check of a model carries its message. -/
inductive TimelineError where
  | check (message : String)
  | planNotFound (replay_plan_id : String)
  | batchNotFound (batch_id : String)
  | batchPlan (batch_id : String)
  | batchWindow (batch_id : String)
  | batchPolicy (batch_id : String)
  | batchNotValidated (batch_id : String) (status : ReplayInputValidationStatus)
  | timelineConflict (timeline_id : String)
  deriving DecidableEq

structure ReplayTimelineEvent where
  event_id : TrimmedText
  batch_id : TrimmedText
  input_dataset_id : TrimmedText
  record_id : TrimmedText
  kind : ReplayInputKind
  instrument : ReplayInstrumentRef
  event_time : DateTime
  source_sequence : ℕ
  order_index : ℕ
  content_hash : Option TrimmedText
  deriving DecidableEq

abbrev TimeSequenceId := ℕ ×ₗ (ℕ ×ₗ String)

abbrev TimeKindSequenceId := ℕ ×ₗ (String ×ₗ (ℕ ×ₗ String))

def timeSequenceIdKey (e : ReplayTimelineEvent) : TimeSequenceId :=
  toLex (e.event_time.micros, toLex (e.source_sequence, e.event_id.value))

def timeKindSequenceIdKey (e : ReplayTimelineEvent) : TimeKindSequenceId :=
  toLex (e.event_time.micros, toLex (e.kind.value, toLex (e.source_sequence, e.event_id.value)))

/-- A timeline before its own check. -/
structure ReplayTimelineFields where
  timeline_id : TrimmedText
  replay_plan_id : TrimmedText
  temporal_window : TemporalWindow
  ordering_policy : ReplayOrderingPolicy
  input_batch_ids : List String
  input_dataset_ids : List String
  events : List ReplayTimelineEvent
  created_at : DateTime
  status : ReplayTimelineStatus
  notes : Option TrimmedText
  deriving DecidableEq

namespace ReplayTimelineFields

variable (t : ReplayTimelineFields)

def validateNonEmptyRequirements : List (Check TimelineError) :=
  [require (t.status = .VALIDATED → t.input_batch_ids ≠ [])
      (.check "input_batch_ids cannot be empty for VALIDATED timelines"),
    require (t.status = .VALIDATED → t.input_dataset_ids ≠ [])
      (.check "input_dataset_ids cannot be empty for VALIDATED timelines"),
    require (t.status = .VALIDATED → t.events ≠ [])
      (.check "events cannot be empty for VALIDATED timelines")]

def validateUniqueIds : List (Check TimelineError) :=
  [require t.input_batch_ids.Nodup (.check "duplicate input_batch_ids are not allowed"),
    require t.input_dataset_ids.Nodup (.check "duplicate input_dataset_ids are not allowed"),
    require (t.events.map (·.event_id)).Nodup
      (.check "duplicate event_id values are not allowed"),
    require (t.events.map fun e => (e.batch_id, e.record_id)).Nodup
      (.check "duplicate (batch_id, record_id) pairs are not allowed")]

def validateEventWindow : List (Check TimelineError) :=
  t.events.flatMap fun e => [require (t.temporal_window.Contains e.event_time)
    (.check "events must be inside temporal_window [start_at, end_at)")]

def validateEventSets : List (Check TimelineError) :=
  [require ((∀ e ∈ t.events, e.batch_id.value ∈ t.input_batch_ids) ∧
      ∀ i ∈ t.input_batch_ids, i ∈ t.events.map (·.batch_id.value))
      (.check "input_batch_ids must match event batch_id set"),
    require ((∀ e ∈ t.events, e.input_dataset_id.value ∈ t.input_dataset_ids) ∧
      ∀ i ∈ t.input_dataset_ids, i ∈ t.events.map (·.input_dataset_id.value))
      (.check "input_dataset_ids must match event input_dataset_id set")]

def validateOrderIndexes : List (Check TimelineError) :=
  [require (t.events.map (·.order_index) = List.range t.events.length)
    (.check ("order_index must be contiguous 0..len(events)-1 " ++
      "and events must be sorted by order_index"))]

def validateEventOrdering : List (Check TimelineError) :=
  match t.ordering_policy with
  | .EVENT_TIME_THEN_SEQUENCE =>
    [require (sortBy timeSequenceIdKey t.events = t.events)
      (.check "events must be sorted according to EVENT_TIME_THEN_SEQUENCE policy")]
  | .EVENT_TIME_THEN_KIND_THEN_SEQUENCE =>
    [require (sortBy timeKindSequenceIdKey t.events = t.events)
      (.check "events must be sorted according to EVENT_TIME_THEN_KIND_THEN_SEQUENCE policy")]
  | .SOURCE_ORDER => []
  | .OTHER => []

/-- `_validate_timeline`. -/
def validateTimeline : List (Check TimelineError) :=
  t.validateNonEmptyRequirements ++ t.validateUniqueIds ++ t.validateEventWindow ++
    if t.events = [] then []
    else t.validateEventSets ++ t.validateOrderIndexes ++ t.validateEventOrdering

end ReplayTimelineFields

structure ReplayTimeline extends ReplayTimelineFields where
  valid : checkAll toReplayTimelineFields.validateTimeline = .ok ()
  deriving DecidableEq

def ReplayTimeline.of (t : ReplayTimelineFields) : Except TimelineError ReplayTimeline :=
  match h : checkAll t.validateTimeline with
  | .ok () => .ok ⟨t, h⟩
  | .error e => .error e

abbrev InMemoryReplayTimelineStore :=
  KeyedDict fun timeline : ReplayTimeline => timeline.timeline_id.value

def InMemoryReplayTimelineStore.save (store : InMemoryReplayTimelineStore)
    (timeline : ReplayTimeline) : Except TimelineError InMemoryReplayTimelineStore :=
  match store.saveOnce timeline with
  | none => .error (.timelineConflict timeline.timeline_id.value)
  | some store => .ok store

/-! The builder. -/

/-- A call of `build_timeline`, with the time the clock then gives: none when it is naive. -/
structure TimelineRequest where
  timeline_id : String
  replay_plan_id : String
  input_batch_ids : List String
  temporal_window : TemporalWindow
  ordering_policy : ReplayOrderingPolicy
  status : ReplayTimelineStatus
  notes : Option String
  now : Option DateTime

structure LocalReplayTimelineBuilder where
  input_batch_store : InMemoryReplayInputBatchStore
  timeline_store : InMemoryReplayTimelineStore
  replay_plan_store : Option InMemoryReplayPlanStore

/-- A record with the batch and the dataset it comes from. -/
structure BatchRecord where
  record : ReplayInputRecord
  batch_id : TrimmedText
  input_dataset_id : TrimmedText
  deriving DecidableEq

namespace BatchRecord

variable (x : BatchRecord)

def eventId : String := x.batch_id.value ++ (":" ++ x.record.record_id.value)

def timeSequenceKey : TimeSequenceId :=
  toLex (x.record.event_time.micros, toLex (x.record.source_sequence, x.eventId))

def timeKindSequenceKey : TimeKindSequenceId :=
  toLex (x.record.event_time.micros, toLex (x.record.kind.value,
    toLex (x.record.source_sequence, x.eventId)))

def toEvent (order_index : ℕ) : Except TimelineError ReplayTimelineEvent :=
  match TrimmedText.of x.eventId with
  | none => .error (.check "field must be a non-empty trimmed string")
  | some event_id => .ok {
      event_id
      batch_id := x.batch_id
      input_dataset_id := x.input_dataset_id
      record_id := x.record.record_id
      kind := x.record.kind
      instrument := x.record.instrument
      event_time := x.record.event_time
      source_sequence := x.record.source_sequence
      order_index
      content_hash := x.record.content_hash }

end BatchRecord

namespace LocalReplayTimelineBuilder

def checkPlan (builder : LocalReplayTimelineBuilder) (request : TimelineRequest) :
    Except TimelineError Unit :=
  match builder.replay_plan_store with
  | none => .ok ()
  | some store =>
    match store.get? request.replay_plan_id with
    | none => .error (.planNotFound request.replay_plan_id)
    | some plan =>
      if request.temporal_window ∈ plan.temporal_windows then .ok ()
      else .error
        (.check "temporal_window must exactly match one of replay_plan.temporal_windows")

def checkBatch (request : TimelineRequest) (batch_id : String) (batch : ReplayInputBatch) :
    List (Check TimelineError) :=
  [require (batch.replay_plan_id.value = request.replay_plan_id) (.batchPlan batch_id),
    require (batch.temporal_window = request.temporal_window) (.batchWindow batch_id),
    require (batch.ordering_policy = request.ordering_policy) (.batchPolicy batch_id),
    require (batch.validation_status = .VALIDATED)
      (.batchNotValidated batch_id batch.validation_status)]

def loadBatches (store : InMemoryReplayInputBatchStore) (request : TimelineRequest) :
    List String → Except TimelineError (List ReplayInputBatch)
  | [] => .ok []
  | batch_id :: batch_ids =>
    match store.get? batch_id with
    | none => .error (.batchNotFound batch_id)
    | some batch =>
      match checkAll (checkBatch request batch_id batch) with
      | .error e => .error e
      | .ok () =>
        match loadBatches store request batch_ids with
        | .error e => .error e
        | .ok batches => .ok (batch :: batches)

def rawRecords (batches : List ReplayInputBatch) : List BatchRecord :=
  batches.flatMap fun batch =>
    batch.records.map fun record => ⟨record, batch.batch_id, batch.input_dataset_id⟩

def sortRaw (raw : List BatchRecord) : ReplayOrderingPolicy → List BatchRecord
  | .EVENT_TIME_THEN_SEQUENCE => sortBy (·.timeSequenceKey) raw
  | .EVENT_TIME_THEN_KIND_THEN_SEQUENCE => sortBy (·.timeKindSequenceKey) raw
  | .SOURCE_ORDER => raw
  | .OTHER => raw

def buildEvents : ℕ → List BatchRecord → Except TimelineError (List ReplayTimelineEvent)
  | _, [] => .ok []
  | i, x :: xs =>
    match x.toEvent i with
    | .error e => .error e
    | .ok event =>
      match buildEvents (i + 1) xs with
      | .error e => .error e
      | .ok events => .ok (event :: events)

def datasetIds (batches : List ReplayInputBatch) : List String :=
  sortBy id (batches.map (·.input_dataset_id.value)).dedup

/-- The fields of the timeline that the model checks one by one. -/
def timelineFields (request : TimelineRequest) (batches : List ReplayInputBatch)
    (events : List ReplayTimelineEvent) : Except TimelineError ReplayTimelineFields :=
  match TrimmedText.of request.timeline_id, TrimmedText.of request.replay_plan_id with
  | some timeline_id, some replay_plan_id =>
    match request.now with
    | none => .error (.check "timestamp must be timezone-aware")
    | some created_at =>
      let fields (notes : Option TrimmedText) : ReplayTimelineFields := {
        timeline_id
        replay_plan_id
        temporal_window := request.temporal_window
        ordering_policy := request.ordering_policy
        input_batch_ids := request.input_batch_ids
        input_dataset_ids := datasetIds batches
        events
        created_at
        status := request.status
        notes }
      match request.notes with
      | none => .ok (fields none)
      | some notes =>
        match TrimmedText.of notes with
        | none => .error (.check "notes must be a non-empty trimmed string")
        | some notes => .ok (fields (some notes))
  | _, _ => .error (.check "field must be a non-empty trimmed string")

def newTimeline (request : TimelineRequest) (batches : List ReplayInputBatch) :
    Except TimelineError ReplayTimeline :=
  match buildEvents 0 (sortRaw (rawRecords batches) request.ordering_policy) with
  | .error e => .error e
  | .ok events =>
    match timelineFields request batches events with
    | .error e => .error e
    | .ok fields => ReplayTimeline.of fields

/-- `build_timeline`. -/
def buildTimeline (builder : LocalReplayTimelineBuilder) (request : TimelineRequest) :
    LocalReplayTimelineBuilder × Except TimelineError ReplayTimeline :=
  if ¬ request.input_batch_ids.Nodup then
    (builder, .error (.check "duplicate input_batch_ids are not allowed"))
  else match builder.checkPlan request with
    | .error e => (builder, .error e)
    | .ok () =>
      match loadBatches builder.input_batch_store request request.input_batch_ids with
      | .error e => (builder, .error e)
      | .ok batches =>
        match newTimeline request batches with
        | .error e => (builder, .error e)
        | .ok timeline =>
          match InMemoryReplayTimelineStore.save builder.timeline_store timeline with
          | .error e => (builder, .error e)
          | .ok timeline_store => ({ builder with timeline_store }, .ok timeline)

end LocalReplayTimelineBuilder

end FuturesBot.Replay
