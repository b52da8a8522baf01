import FuturesBot.AppendOnly
import FuturesBot.Checks
import FuturesBot.DecimalArithmetic
import FuturesBot.DomainValues

/-! Result sets of an evaluation, the store that they are saved in, and the recorder that changes
them. -/
namespace FuturesBot.Research

open TextLines DateTimes DecimalNumbers Dicts Checks

inductive EvaluationResultStatus where
  | DRAFT
  | RECORDED
  | REVIEWED
  | INVALIDATED
  deriving DecidableEq, Repr

def EvaluationResultStatus.value : EvaluationResultStatus → String
  | .DRAFT => "DRAFT"
  | .RECORDED => "RECORDED"
  | .REVIEWED => "REVIEWED"
  | .INVALIDATED => "INVALIDATED"

inductive ExpectedOutcomeAssessmentStatus where
  | CONFIRMED
  | PARTIAL
  | REJECTED
  | INCONCLUSIVE
  | BUG_OR_INVALID
  | NOT_EVALUATED
  deriving DecidableEq, Repr

inductive ObservationScope where
  | FULL_RUN
  | TEMPORAL_WINDOW
  | FOLD
  | COST_SCENARIO
  | REGIME
  | BOT
  | DECISION_STACK
  | OTHER
  deriving DecidableEq, Repr

/-- Why the store refuses a result set. -/
inductive StoreError where
  | check (message : String)
  | transition (message : String)
  deriving DecidableEq

/-- Why the recorder refuses a change. What the store refuses is told as its error. -/
inductive ResultError where
  | check (message : String)
  | transition (message : String)
  | keyError (message : String)
  | store (e : StoreError)
  deriving DecidableEq

/-! The models. A model carries its texts as they are given: they are checked when it is read. -/

structure MetricObservation where
  observation_id : String
  run_id : RunId
  evaluation_plan_id : String
  metric_id : String
  observed_at : DateTime
  value : Decimal
  unit : Option String
  scope : ObservationScope
  cost_scenario_id : Option String
  temporal_window_id : Option String
  fold_id : Option String
  subject_id : Option String
  notes : Option String
  deriving DecidableEq

structure ExpectedOutcomeAssessment where
  assessment_id : String
  run_id : RunId
  evaluation_plan_id : String
  setup_id : String
  status : ExpectedOutcomeAssessmentStatus
  assessed_at : DateTime
  rationale : String
  related_observation_ids : List String
  deriving DecidableEq

structure EvaluationResultSet where
  result_set_id : String
  run_id : RunId
  evaluation_plan_id : String
  status : EvaluationResultStatus
  created_at : DateTime
  updated_at : DateTime
  observations : List MetricObservation
  assessments : List ExpectedOutcomeAssessment
  artifact_ids : List String
  notes : Option String
  deriving DecidableEq

/-- An evaluation plan, as far as observations and assessments are held against it. -/
structure EvaluationPlan where
  evaluation_plan_id : String
  metric_ids : List String
  scenario_ids : List String
  expected_outcome_ids : List String

section Validation

variable {ε : Type} (error : String → ε)

/-- `_validate_required_text`. -/
def validateRequiredText (value field_name : String) : Check ε :=
  require (Trimmed value.toList) (error (field_name ++ " must be a non-empty trimmed string"))

/-- `_validate_optional_text`. -/
def validateOptionalText (value : Option String) (field_name : String) : Check ε :=
  require (∀ text ∈ value, Trimmed text.toList)
    (error (field_name ++ " must be a non-empty trimmed string"))

def MetricObservation.validate (o : MetricObservation) : List (Check ε) :=
  [validateRequiredText error o.observation_id "field",
    validateRequiredText error o.evaluation_plan_id "field",
    validateRequiredText error o.metric_id "field",
    validateOptionalText error o.unit "text",
    validateOptionalText error o.cost_scenario_id "text",
    validateOptionalText error o.temporal_window_id "text",
    validateOptionalText error o.fold_id "text",
    validateOptionalText error o.subject_id "text",
    validateOptionalText error o.notes "text"]

def ExpectedOutcomeAssessment.validate (a : ExpectedOutcomeAssessment) : List (Check ε) :=
  [validateRequiredText error a.assessment_id "field",
    validateRequiredText error a.evaluation_plan_id "field",
    validateRequiredText error a.setup_id "field",
    validateRequiredText error a.rationale "field"] ++
    a.related_observation_ids.map fun observation_id =>
      validateRequiredText error observation_id "related_observation_id"

/-- `_validate_observations_for_result_set`. -/
def validateObservationsForResultSet (observations : List MetricObservation) (run_id : RunId)
    (evaluation_plan_id : String) : List (Check ε) :=
  require (observations.map fun o => o.observation_id).Nodup
      (error "duplicate observation_id values are not allowed") ::
    observations.flatMap fun o =>
      [require (o.run_id = run_id) (error "observation run_id must match result set run_id"),
        require (o.evaluation_plan_id = evaluation_plan_id)
          (error "observation evaluation_plan_id must match result set evaluation_plan_id")]

/-- `_validate_assessments_for_result_set`. -/
def validateAssessmentsForResultSet (assessments : List ExpectedOutcomeAssessment)
    (run_id : RunId) (evaluation_plan_id : String) : List (Check ε) :=
  require (assessments.map fun a => a.assessment_id).Nodup
      (error "duplicate assessment_id values are not allowed") ::
    assessments.flatMap fun a =>
      [require (a.run_id = run_id) (error "assessment run_id must match result set run_id"),
        require (a.evaluation_plan_id = evaluation_plan_id)
          (error "assessment evaluation_plan_id must match result set evaluation_plan_id")]

/-- What a result set checks of its own fields, without those of its parts. -/
def EvaluationResultSet.validate (r : EvaluationResultSet) : List (Check ε) :=
  [validateRequiredText error r.result_set_id "field",
    validateRequiredText error r.evaluation_plan_id "field"] ++
  r.artifact_ids.map (fun artifact_id => validateRequiredText error artifact_id "artifact_id") ++
  [validateOptionalText error r.notes "notes",
    require (r.created_at ≤ r.updated_at) (error "updated_at must be >= created_at")] ++
  validateObservationsForResultSet error r.observations r.run_id r.evaluation_plan_id ++
  validateAssessmentsForResultSet error r.assessments r.run_id r.evaluation_plan_id

/-- What is checked when a result set is read from its dump: its parts are read as well. -/
def EvaluationResultSet.validateDumped (r : EvaluationResultSet) : List (Check ε) :=
  r.observations.flatMap (fun o => o.validate error) ++
    r.assessments.flatMap (fun a => a.validate error) ++ r.validate error

end Validation

/-! Equality of the models: decimals are equal as numbers. -/

def MetricObservation.same (a b : MetricObservation) : Bool :=
  { a with value := b.value } = b ∧ a.value.same b.value

def sameObservations : List MetricObservation → List MetricObservation → Bool
  | [], [] => true
  | a :: as, b :: bs => a.same b && sameObservations as bs
  | _, _ => false

def EvaluationResultSet.same (a b : EvaluationResultSet) : Bool :=
  { a with observations := b.observations } = b ∧ sameObservations a.observations b.observations

/-! The store. -/

abbrev ResultStore := KeyedDict fun r : EvaluationResultSet => r.result_set_id

/-- `_validate_result_status_transition`, of the store and of the recorder: the message of a
refused transition. -/
def resultStatusTransition (current target : EvaluationResultStatus) : Option String :=
  let message :=
    "invalid evaluation result status transition: " ++ current.value ++ " -> " ++ target.value
  if current = target then none
  else if current = .INVALIDATED then some message
  else if current = .REVIEWED then
    if target = .INVALIDATED then none else some message
  else if target = .REVIEWED then
    if current = .RECORDED then none
    else some "evaluation result sets must be RECORDED before they can be REVIEWED"
  else if target = .DRAFT then some message
  else none

/-- `_same_result_payload_except_status_notes_and_updated_at`. -/
def sameResultPayload (left right : EvaluationResultSet) : Bool :=
  left.result_set_id = right.result_set_id ∧ left.run_id = right.run_id ∧
    left.evaluation_plan_id = right.evaluation_plan_id ∧ left.created_at = right.created_at ∧
    sameObservations left.observations right.observations ∧
    left.assessments = right.assessments ∧ left.artifact_ids = right.artifact_ids

/-- `_validate_terminal_content_immutability`. -/
def validateTerminalContentImmutability (existing candidate : EvaluationResultSet) :
    Except StoreError Unit :=
  if existing.status = .INVALIDATED then
    if candidate.same existing then .ok ()
    else .error (.check "invalidated evaluation result sets are immutable")
  else if existing.status ≠ .REVIEWED then .ok ()
  else if candidate.status = .REVIEWED then
    if candidate.same existing then .ok ()
    else .error (.check "reviewed evaluation result sets are immutable")
  else if candidate.status = .INVALIDATED ∧ sameResultPayload existing candidate = false then
    .error (.check ("reviewed evaluation result sets can only be invalidated " ++
      "without changing observations, assessments, or artifacts"))
  else .ok ()

/-- What a save over a stored result set checks. -/
def validateResave (existing result_set : EvaluationResultSet) : Except StoreError Unit := do
  checkAll [require (result_set.run_id = existing.run_id)
      (.check "result_set_id conflict: run_id mismatch"),
    require (result_set.evaluation_plan_id = existing.evaluation_plan_id)
      (.check "result_set_id conflict: evaluation_plan_id mismatch"),
    require (existing.updated_at ≤ result_set.updated_at)
      (.check ("result set updated_at regression: existing " ++ isoformat existing.updated_at ++
        ", new " ++ isoformat result_set.updated_at))]
  match resultStatusTransition existing.status result_set.status with
  | some message => .error (.transition message)
  | none => validateTerminalContentImmutability existing result_set

/-- `InMemoryEvaluationResultStore.save`. -/
def saveResultSet (d : ResultStore) (result_set : EvaluationResultSet) :
    Except StoreError ResultStore := do
  checkAll (result_set.validateDumped .check)
  match d.get? result_set.result_set_id with
  | none => pure (d.put result_set)
  | some existing =>
    validateResave existing result_set
    pure (d.put result_set)

/-! The recorder. -/

/-- What a call of the recorder reads besides the result sets. -/
structure Surroundings where
  now : DateTime
  evaluation_plan_store :
    Option (KeyedDict fun p : EvaluationPlan => p.evaluation_plan_id)
  /-- The ids of the stored artifacts. -/
  artifact_store : Option (List String)

/-- `_load_result_set`. -/
def loadResultSet (d : ResultStore) (result_set_id : String) :
    Except ResultError EvaluationResultSet :=
  match d.get? result_set_id with
  | none => .error (.keyError ("evaluation result set not found: " ++ result_set_id))
  | some result_set => .ok result_set

/-- `_ensure_result_set_mutable`. -/
def ensureResultSetMutable (result_set : EvaluationResultSet) : Except ResultError Unit :=
  if result_set.status = .REVIEWED ∨ result_set.status = .INVALIDATED then
    .error (.check "reviewed or invalidated evaluation result sets cannot be mutated")
  else .ok ()

/-- `_validate_observation_for_result_set`. -/
def validateObservationForResultSet (result_set : EvaluationResultSet)
    (observation : MetricObservation) : Except ResultError Unit :=
  checkAll [require (observation.run_id = result_set.run_id)
      (.check "observation run_id must match result set run_id"),
    require (observation.evaluation_plan_id = result_set.evaluation_plan_id)
      (.check "observation evaluation_plan_id must match result set evaluation_plan_id"),
    require (∀ existing ∈ result_set.observations,
        existing.observation_id ≠ observation.observation_id)
      (.check "duplicate observation_id values are not allowed")]

/-- `_validate_assessment_for_result_set`. -/
def validateAssessmentForResultSet (result_set : EvaluationResultSet)
    (assessment : ExpectedOutcomeAssessment) : Except ResultError Unit :=
  checkAll [require (assessment.run_id = result_set.run_id)
      (.check "assessment run_id must match result set run_id"),
    require (assessment.evaluation_plan_id = result_set.evaluation_plan_id)
      (.check "assessment evaluation_plan_id must match result set evaluation_plan_id"),
    require (∀ existing ∈ result_set.assessments,
        existing.assessment_id ≠ assessment.assessment_id)
      (.check "duplicate assessment_id values are not allowed")]

/-- `_load_evaluation_plan`. -/
def loadEvaluationPlan (w : Surroundings) (evaluation_plan_id : String) :
    Except ResultError (Option EvaluationPlan) :=
  match w.evaluation_plan_store with
  | none => .ok none
  | some plans =>
    match plans.get? evaluation_plan_id with
    | none => .error (.keyError ("evaluation plan not found: " ++ evaluation_plan_id))
    | some plan => .ok (some plan)

/-- `_validate_observation_against_plan`. -/
def validateObservationAgainstPlan (w : Surroundings) (observation : MetricObservation) :
    Except ResultError Unit := do
  match ← loadEvaluationPlan w observation.evaluation_plan_id with
  | none => pure ()
  | some plan =>
    checkAll [require (observation.metric_id ∈ plan.metric_ids)
        (.check "observation metric_id is not declared in EvaluationPlan"),
      require (∀ scenario_id ∈ observation.cost_scenario_id, scenario_id ∈ plan.scenario_ids)
        (.check "observation cost_scenario_id is not declared in EvaluationPlan")]

/-- `_validate_assessment_against_plan`. -/
def validateAssessmentAgainstPlan (w : Surroundings) (assessment : ExpectedOutcomeAssessment) :
    Except ResultError Unit := do
  match ← loadEvaluationPlan w assessment.evaluation_plan_id with
  | none => pure ()
  | some plan =>
    checkAll [require (plan.expected_outcome_ids = [] ∨
        assessment.setup_id ∈ plan.expected_outcome_ids)
      (.check "assessment setup_id is not declared in EvaluationPlan expected outcomes")]

/-- `_append_reason`. -/
def appendReason (existing_notes reason : Option String) : Except ResultError (Option String) :=
  match reason with
  | none => .ok existing_notes
  | some reason =>
    if ¬ Trimmed reason.toList then
      .error (.check "reason must be a non-empty trimmed string")
    else match existing_notes with
      | none => .ok (some reason)
      | some notes => .ok (some (notes ++ "\n" ++ reason))

/-- The save that ends every change: `_rebuild_result_set` checks the changed result set, and the
store saves it. -/
def saveRebuilt (d : ResultStore) (updated : EvaluationResultSet) :
    Except ResultError ResultStore := do
  checkAll (updated.validate .check)
  (saveResultSet d updated).mapError .store

def createResultSet (d : ResultStore) (result_set : EvaluationResultSet) :
    Except ResultError ResultStore :=
  (saveResultSet d result_set).mapError .store

def recordObservation (w : Surroundings) (d : ResultStore) (result_set_id : String)
    (observation : MetricObservation) : Except ResultError ResultStore := do
  let result_set ← loadResultSet d result_set_id
  ensureResultSetMutable result_set
  validateObservationForResultSet result_set observation
  validateObservationAgainstPlan w observation
  saveRebuilt d { result_set with
    observations := result_set.observations ++ [observation]
    updated_at := w.now }

def recordAssessment (w : Surroundings) (d : ResultStore) (result_set_id : String)
    (assessment : ExpectedOutcomeAssessment) : Except ResultError ResultStore := do
  let result_set ← loadResultSet d result_set_id
  ensureResultSetMutable result_set
  validateAssessmentForResultSet result_set assessment
  validateAssessmentAgainstPlan w assessment
  saveRebuilt d { result_set with
    assessments := result_set.assessments ++ [assessment]
    updated_at := w.now }

def attachArtifact (w : Surroundings) (d : ResultStore) (result_set_id artifact_id : String) :
    Except ResultError ResultStore := do
  checkAll [require (Trimmed artifact_id.toList)
      (.check "artifact_id must be a non-empty trimmed string"),
    require (∀ artifact_ids ∈ w.artifact_store, artifact_id ∈ artifact_ids)
      (.keyError ("evaluation artifact not found: " ++ artifact_id))]
  let result_set ← loadResultSet d result_set_id
  ensureResultSetMutable result_set
  saveRebuilt d { result_set with
    artifact_ids :=
      if artifact_id ∈ result_set.artifact_ids then result_set.artifact_ids
      else result_set.artifact_ids ++ [artifact_id]
    updated_at := w.now }

/-- `_update_status`. -/
def updateStatus (w : Surroundings) (d : ResultStore) (result_set_id : String)
    (status : EvaluationResultStatus) (reason : Option String) :
    Except ResultError ResultStore := do
  let result_set ← loadResultSet d result_set_id
  match resultStatusTransition result_set.status status with
  | some message => .error (.transition message)
  | none =>
    let notes ← appendReason result_set.notes reason
    saveRebuilt d { result_set with
      status
      updated_at := w.now
      notes }

def markRecorded (w : Surroundings) (d : ResultStore) (result_set_id : String) :
    Except ResultError ResultStore :=
  updateStatus w d result_set_id .RECORDED none

def markReviewed (w : Surroundings) (d : ResultStore) (result_set_id : String) :
    Except ResultError ResultStore :=
  updateStatus w d result_set_id .REVIEWED none

def invalidate (w : Surroundings) (d : ResultStore) (result_set_id reason : String) :
    Except ResultError ResultStore :=
  updateStatus w d result_set_id .INVALIDATED (some reason)

/-! Operations on the store, through the recorder or past it. -/

inductive ResultOperation where
  | save (result_set : EvaluationResultSet)
  | createResultSet (result_set : EvaluationResultSet)
  | recordObservation (result_set_id : String) (observation : MetricObservation)
  | recordAssessment (result_set_id : String) (assessment : ExpectedOutcomeAssessment)
  | attachArtifact (result_set_id artifact_id : String)
  | markRecorded (result_set_id : String)
  | markReviewed (result_set_id : String)
  | invalidate (result_set_id reason : String)

def applyOperation (w : Surroundings) (d : ResultStore) :
    ResultOperation → Except ResultError ResultStore
  | .save result_set => (saveResultSet d result_set).mapError .store
  | .createResultSet result_set => createResultSet d result_set
  | .recordObservation result_set_id observation => recordObservation w d result_set_id observation
  | .recordAssessment result_set_id assessment => recordAssessment w d result_set_id assessment
  | .attachArtifact result_set_id artifact_id => attachArtifact w d result_set_id artifact_id
  | .markRecorded result_set_id => markRecorded w d result_set_id
  | .markReviewed result_set_id => markReviewed w d result_set_id
  | .invalidate result_set_id reason => invalidate w d result_set_id reason

/-- The store after an operation: one that is refused changes nothing. -/
def ResultStore.after (d : ResultStore) (call : Surroundings × ResultOperation) : ResultStore :=
  match applyOperation call.1 d call.2 with
  | .ok d => d
  | .error _ => d

end FuturesBot.Research
