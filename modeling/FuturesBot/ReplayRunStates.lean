import FuturesBot.ReplayDispatch

/-! The state of a replay run, the result of one operation on it, and the transitions that the
state store accepts. -/
namespace FuturesBot.Replay

open DateTimes Dicts Checks

/-! States. -/

structure ReplayRunFields where
  run_id : TrimmedText
  manifest_id : TrimmedText
  replay_plan_id : TrimmedText
  timeline_id : TrimmedText
  timeline_fingerprint_id : TrimmedText
  dispatcher_fingerprint : HexDigest
  created_at : DateTime
  updated_at : DateTime
  started_at : Option DateTime
  paused_at : Option DateTime
  completed_at : Option DateTime
  status : ReplayRunStatus
  revision : ℕ
  total_event_count : ℕ
  next_event_index : ℕ
  processed_event_count : ℕ
  last_processed_event_id : Option TrimmedText
  deriving DecidableEq

namespace ReplayRunFields

variable (s : ReplayRunFields)

/-- An optional time of a run lies between its creation and its update. -/
def validateOptionalTime (field_name : String) (value : Option DateTime) :
    List (Check ReplayError) :=
  [require (∀ t ∈ value, s.created_at ≤ t) (.check (field_name ++ " must be >= created_at")),
    require (∀ t ∈ value, t ≤ s.updated_at) (.check ("updated_at must be >= " ++ field_name))]

def validateTemporalOrder : List (Check ReplayError) :=
  [require (s.created_at ≤ s.updated_at) (.check "updated_at must be >= created_at")] ++
    s.validateOptionalTime "started_at" s.started_at ++
    s.validateOptionalTime "paused_at" s.paused_at ++
    s.validateOptionalTime "completed_at" s.completed_at ++
    [require (∀ a ∈ s.started_at, ∀ b ∈ s.paused_at, a ≤ b)
        (.check "paused_at must be >= started_at"),
      require (∀ a ∈ s.started_at, ∀ b ∈ s.completed_at, a ≤ b)
        (.check "completed_at must be >= started_at")]

def validateStatusRules : List (Check ReplayError) :=
  match s.status with
  | .CREATED =>
    [require (s.revision = 0) (.check "CREATED requires revision == 0"),
      require (s.started_at = none) (.check "CREATED requires started_at is None"),
      require (s.paused_at = none) (.check "CREATED requires paused_at is None"),
      require (s.completed_at = none) (.check "CREATED requires completed_at is None"),
      require (s.updated_at = s.created_at) (.check "CREATED requires updated_at == created_at"),
      require (s.next_event_index = 0) (.check "CREATED requires next_event_index == 0"),
      require (s.processed_event_count = 0) (.check "CREATED requires processed_event_count == 0")]
  | .RUNNING =>
    [require (s.started_at ≠ none) (.check "RUNNING requires started_at"),
      require (s.paused_at = none) (.check "RUNNING requires paused_at is None"),
      require (s.completed_at = none) (.check "RUNNING requires completed_at is None"),
      require (∀ t ∈ s.started_at, t ≤ s.updated_at)
        (.check "RUNNING requires updated_at >= started_at"),
      require (s.next_event_index < s.total_event_count)
        (.check "RUNNING requires next_event_index < total_event_count")]
  | .PAUSED =>
    [require (s.started_at ≠ none) (.check "PAUSED requires started_at"),
      require (s.paused_at ≠ none) (.check "PAUSED requires paused_at"),
      require (s.completed_at = none) (.check "PAUSED requires completed_at is None"),
      require (s.paused_at = some s.updated_at) (.check "PAUSED requires paused_at == updated_at"),
      require (s.next_event_index < s.total_event_count)
        (.check "PAUSED requires next_event_index < total_event_count")]
  | .COMPLETED =>
    [require (s.started_at ≠ none) (.check "COMPLETED requires started_at"),
      require (s.completed_at ≠ none) (.check "COMPLETED requires completed_at"),
      require (s.paused_at = none) (.check "COMPLETED requires paused_at is None"),
      require (s.completed_at = some s.updated_at)
        (.check "COMPLETED requires completed_at == updated_at"),
      require (s.next_event_index = s.total_event_count)
        (.check "COMPLETED requires next_event_index == total_event_count"),
      require (s.processed_event_count = s.total_event_count)
        (.check "COMPLETED requires processed_event_count == total_event_count")]
  | .FAILED => []
  | .INVALIDATED => []

/-- `_validate_state`. -/
def validateState : List (Check ReplayError) :=
  [require (s.next_event_index ≤ s.total_event_count)
      (.check "next_event_index must be <= total_event_count"),
    require (s.processed_event_count ≤ s.total_event_count)
      (.check "processed_event_count must be <= total_event_count"),
    require (s.processed_event_count = s.next_event_index)
      (.check "processed_event_count must equal next_event_index")] ++
    s.validateTemporalOrder ++
    [require (s.processed_event_count = 0 → s.last_processed_event_id = none)
        (.check "last_processed_event_id must be None when no events are processed"),
      require (s.processed_event_count ≠ 0 → s.last_processed_event_id ≠ none)
        (.check "last_processed_event_id is required when events have been processed")] ++
    s.validateStatusRules

end ReplayRunFields

structure ReplayRunState extends ReplayRunFields where
  valid : checkAll toReplayRunFields.validateState = .ok ()
  deriving DecidableEq

def ReplayRunState.of (s : ReplayRunFields) : Except ReplayError ReplayRunState :=
  match h : checkAll s.validateState with
  | .ok () => .ok ⟨s, h⟩
  | .error e => .error e

/-! Transitions. -/

def noProgressChange (previous current : ReplayRunFields) : List (Check ReplayError) :=
  [require (current.next_event_index = previous.next_event_index)
      (.check "transition requires unchanged next_event_index"),
    require (current.processed_event_count = previous.processed_event_count)
      (.check "transition requires unchanged processed_event_count"),
    require (current.last_processed_event_id = previous.last_processed_event_id)
      (.check "transition requires unchanged last_processed_event_id")]

def positiveProgress (previous current : ReplayRunFields) : List (Check ReplayError) :=
  [require (previous.next_event_index < current.next_event_index)
      (.check "progress transition requires next_event_index to increase"),
    require (current.processed_event_count + previous.next_event_index =
        previous.processed_event_count + current.next_event_index)
      (.check "processed/index progress deltas must match"),
    require (current.last_processed_event_id ≠ none)
      (.check "progress transition requires last_processed_event_id"),
    require (current.last_processed_event_id ≠ previous.last_processed_event_id)
      (.check "progress transition requires last_processed_event_id to advance")]

def validateStatusTransition (previous current : ReplayRunFields) : List (Check ReplayError) :=
  match previous.status, current.status with
  | .CREATED, .RUNNING =>
    noProgressChange previous current ++ [require (0 < current.total_event_count)
      (.check "CREATED -> RUNNING requires total_event_count > 0")]
  | .CREATED, .COMPLETED =>
    noProgressChange previous current ++ [require (current.total_event_count = 0)
      (.check "CREATED -> COMPLETED requires total_event_count == 0")]
  | .RUNNING, .PAUSED => noProgressChange previous current
  | .PAUSED, .RUNNING => noProgressChange previous current
  | .RUNNING, .RUNNING =>
    positiveProgress previous current ++
      [require (current.next_event_index < current.total_event_count)
        (.check "RUNNING -> RUNNING requires next_event_index < total_event_count")]
  | .RUNNING, .COMPLETED =>
    positiveProgress previous current ++
      [require (current.next_event_index = current.total_event_count)
        (.check "RUNNING -> COMPLETED requires next_event_index == total_event_count")]
  | p, c => [require False (.transition p c)]

def validateStartedAt (previous current : ReplayRunFields) : List (Check ReplayError) :=
  match previous.started_at with
  | none =>
    if current.status = .RUNNING ∨ current.status = .COMPLETED then
      [require (current.started_at = some current.updated_at)
        (.check "started_at must be set to updated_at when starting a run")]
    else [require (current.started_at = none)
      (.check "started_at cannot be set outside a start transition")]
  | some _ => [require (current.started_at = previous.started_at)
      (.check "started_at cannot change once set")]

def validateCompletedAt (previous current : ReplayRunFields) : List (Check ReplayError) :=
  match previous.completed_at with
  | none =>
    if current.status = .COMPLETED then
      [require (current.completed_at = some current.updated_at)
        (.check "completed_at must be set to updated_at when completing a run")]
    else [require (current.completed_at = none)
      (.check "completed_at can only be set by completion")]
  | some _ => [require (current.completed_at = previous.completed_at)
      (.check "completed_at cannot change once set")]

def validatePausedAt (previous current : ReplayRunFields) : List (Check ReplayError) :=
  match previous.status, current.status with
  | .RUNNING, .PAUSED => [require (current.paused_at = some current.updated_at)
      (.check "paused_at must be set to updated_at when pausing")]
  | .PAUSED, .RUNNING => [require (current.paused_at = none)
      (.check "paused_at must be cleared when resuming")]
  | _, _ => [require (current.paused_at = previous.paused_at)
      (.check "paused_at changed outside pause/resume transition")]

def identityUnchanged (field_name : String) (same : Prop) [Decidable same] : Check ReplayError :=
  require same (.check ("replay run identity field cannot change: " ++ field_name))

/-- `validate_replay_run_state_transition`. -/
def validateTransition (previous current : ReplayRunFields) : List (Check ReplayError) :=
  [identityUnchanged "run_id" (previous.run_id = current.run_id),
    identityUnchanged "manifest_id" (previous.manifest_id = current.manifest_id),
    identityUnchanged "replay_plan_id" (previous.replay_plan_id = current.replay_plan_id),
    identityUnchanged "timeline_id" (previous.timeline_id = current.timeline_id),
    identityUnchanged "timeline_fingerprint_id"
      (previous.timeline_fingerprint_id = current.timeline_fingerprint_id),
    identityUnchanged "dispatcher_fingerprint"
      (previous.dispatcher_fingerprint = current.dispatcher_fingerprint),
    identityUnchanged "created_at" (previous.created_at = current.created_at),
    identityUnchanged "total_event_count" (previous.total_event_count = current.total_event_count),
    require (current.revision = previous.revision + 1)
      (.check "current revision must equal previous revision + 1"),
    require (previous.updated_at ≤ current.updated_at)
      (.check "current updated_at must be >= previous updated_at")] ++
    validateStatusTransition previous current ++ validateStartedAt previous current ++
    validateCompletedAt previous current ++ validatePausedAt previous current

/-! Step results. -/

structure ReplayRunStepFields (env : Env) where
  run_id : TrimmedText
  previous_status : ReplayRunStatus
  current_status : ReplayRunStatus
  previous_revision : ℕ
  current_revision : ℕ
  previous_next_event_index : ℕ
  previous_processed_event_count : ℕ
  processed_receipts : List (ReplayEventDispatchReceipt env)
  next_event_index : ℕ
  processed_event_count : ℕ
  total_event_count : ℕ
  completed : Bool

/-- The run of a receipt, which every receipt of a step shares. -/
def ReplayDispatchContext.bindings (c : ReplayDispatchContext) : List (String × String) :=
  [("manifest_id", c.manifest_id.value), ("replay_plan_id", c.replay_plan_id.value),
    ("timeline_id", c.timeline_id.value),
    ("timeline_fingerprint_id", c.timeline_fingerprint_id.value),
    ("dispatcher_fingerprint", c.dispatcher_fingerprint.value)]

namespace ReplayRunStepFields

variable {env : Env} (r : ReplayRunStepFields env)

def validateCounts : List (Check ReplayError) :=
  [require (r.current_revision = r.previous_revision + 1)
      (.check "current_revision must equal previous_revision + 1"),
    require (r.next_event_index ≤ r.total_event_count)
      (.check "next_event_index must be <= total_event_count"),
    require (r.processed_event_count ≤ r.total_event_count)
      (.check "processed_event_count must be <= total_event_count"),
    require (r.previous_next_event_index ≤ r.total_event_count)
      (.check "previous_next_event_index must be <= total_event_count"),
    require (r.previous_processed_event_count ≤ r.total_event_count)
      (.check "previous_processed_event_count must be <= total_event_count"),
    require (r.previous_processed_event_count = r.previous_next_event_index)
      (.check "previous_processed_event_count must equal previous_next_event_index"),
    require (r.processed_event_count = r.next_event_index)
      (.check "processed_event_count must equal next_event_index"),
    require (r.previous_next_event_index ≤ r.next_event_index)
      (.check "next_event_index must be >= previous_next_event_index"),
    require (r.previous_processed_event_count ≤ r.processed_event_count)
      (.check "processed_event_count must be >= previous_processed_event_count")]

def progressDelta : ℕ := r.next_event_index - r.previous_next_event_index

def validateReceipts : List (Check ReplayError) :=
  [require (r.progressDelta = r.processed_receipts.length)
      (.check "receipt count must equal replay progress delta"),
    require (r.processed_receipts.map (·.context.event_order_index) =
        List.range' r.previous_next_event_index r.progressDelta)
      (.check "processed receipt order indexes must exactly match progress"),
    require (r.processed_receipts.map (·.receipt_id)).Nodup
      (.check "duplicate receipt_id values are not allowed"),
    require (∀ receipt ∈ r.processed_receipts, receipt.context.run_id = r.run_id)
      (.check "processed receipt run_id must match result run_id"),
    require (∀ first ∈ r.processed_receipts.head?, ∀ receipt ∈ r.processed_receipts,
        receipt.context.bindings = first.context.bindings)
      (.check "processed receipt must match first receipt")]

def validateHistory : List (Check ReplayError) :=
  [require (r.previous_status = .CREATED → r.previous_revision = 0)
      (.check "CREATED result history requires previous_revision == 0"),
    require (r.previous_status = .CREATED → r.previous_next_event_index = 0)
      (.check "CREATED result history requires previous_next_event_index == 0"),
    require (r.previous_status = .CREATED → r.previous_processed_event_count = 0)
      (.check "CREATED result history requires previous_processed_event_count == 0"),
    require (r.previous_status = .RUNNING ∨ r.previous_status = .PAUSED →
        r.previous_next_event_index < r.total_event_count)
      (.check "active result history requires previous_next_event_index < total_event_count"),
    require (r.previous_status = .RUNNING ∨ r.previous_status = .PAUSED →
        r.previous_processed_event_count < r.total_event_count)
      (.check "active result history requires previous_processed_event_count < total_event_count"),
    require (r.current_status = .PAUSED → r.next_event_index < r.total_event_count)
      (.check "PAUSED result requires next_event_index < total_event_count"),
    require (r.current_status = .PAUSED → r.processed_event_count < r.total_event_count)
      (.check "PAUSED result requires processed_event_count < total_event_count")]

def validateNoProgress : List (Check ReplayError) :=
  [require (r.processed_receipts = []) (.check "no-progress transitions require no receipts"),
    require (r.progressDelta = 0) (.check "no-progress transitions require unchanged progress")]

def validateProgress : List (Check ReplayError) :=
  [require (0 < r.progressDelta) (.check "RUNNING step transitions require progress"),
    require (r.processed_receipts ≠ []) (.check "RUNNING step transitions require receipts")]

def validateStepTransition : List (Check ReplayError) :=
  r.validateHistory ++
    match r.previous_status, r.current_status with
    | .CREATED, .COMPLETED =>
      [require (r.total_event_count = 0)
          (.check "CREATED -> COMPLETED requires total_event_count == 0"),
        require (r.previous_next_event_index = 0 ∧ r.next_event_index = 0)
          (.check "CREATED -> COMPLETED requires zero progress indexes")] ++ r.validateNoProgress
    | .CREATED, .RUNNING =>
      [require (0 < r.total_event_count)
          (.check "CREATED -> RUNNING requires total_event_count > 0"),
        require (r.next_event_index = 0 ∧ r.processed_event_count = 0)
          (.check "CREATED -> RUNNING requires zero current progress")] ++ r.validateNoProgress
    | .RUNNING, .PAUSED => r.validateNoProgress
    | .PAUSED, .RUNNING => r.validateNoProgress
    | .RUNNING, .RUNNING => r.validateProgress
    | .RUNNING, .COMPLETED => r.validateProgress
    | p, c => [require False (.transition p c)]

def validateCompletion : List (Check ReplayError) :=
  [require (r.current_status = .COMPLETED → r.next_event_index = r.total_event_count)
      (.check "COMPLETED result requires next_event_index == total_event_count"),
    require (r.current_status = .COMPLETED → r.processed_event_count = r.total_event_count)
      (.check "COMPLETED result requires processed_event_count == total_event_count"),
    require (r.current_status = .RUNNING → r.next_event_index < r.total_event_count)
      (.check "RUNNING result requires next_event_index < total_event_count"),
    require (r.completed = decide (r.current_status = .COMPLETED))
      (.check "completed must match whether current_status is COMPLETED")]

/-- `_validate_result`. -/
def validateResult : List (Check ReplayError) :=
  r.validateCounts ++ r.validateReceipts ++ r.validateStepTransition ++ r.validateCompletion

end ReplayRunStepFields

structure ReplayRunStepResult (env : Env) extends ReplayRunStepFields env where
  valid : checkAll toReplayRunStepFields.validateResult = .ok ()

def ReplayRunStepResult.of {env : Env} (r : ReplayRunStepFields env) :
    Except ReplayError (ReplayRunStepResult env) :=
  match h : checkAll r.validateResult with
  | .ok () => .ok ⟨r, h⟩
  | .error e => .error e

end FuturesBot.Replay
