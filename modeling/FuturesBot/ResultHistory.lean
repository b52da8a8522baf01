import FuturesBot.EvaluationResults
import FuturesBot.StepRuns

/-! The versions of a result set: a later one does not go back, and what was reviewed stays. -/
namespace FuturesBot.Research

open DateTimes DecimalNumbers Dicts Checks StepRuns

/-! What an observation says: decimals count by their value. -/

def MetricObservation.content (o : MetricObservation) : MetricObservation × ℚ :=
  ({ o with value := ⟨false, 0, 0⟩ }, o.value.value)

theorem same_iff_content {a b : MetricObservation} : a.same b = true ↔ a.content = b.content := by
  rw [MetricObservation.same, decide_eq_true_eq, Decimal.same_iff, MetricObservation.content,
    MetricObservation.content, Prod.mk.injEq]
  refine and_congr_left fun _ => ?_
  cases a
  cases b
  simp

theorem sameObservations_iff {as bs : List MetricObservation} :
    sameObservations as bs = true ↔
      as.map (fun o => o.content) = bs.map fun o => o.content := by
  induction as generalizing bs with
  | nil =>
    cases bs with
    | nil => simp [sameObservations]
    | cons b bs => simp [sameObservations]
  | cons a as ih =>
    cases bs with
    | nil => simp [sameObservations]
    | cons b bs =>
      rw [sameObservations, Bool.and_eq_true, same_iff_content, ih, List.map_cons, List.map_cons,
        List.cons.injEq]

/-- What stays after a review. -/
def EvaluationResultSet.content (r : EvaluationResultSet) :
    RunId × String × List (MetricObservation × ℚ) × List ExpectedOutcomeAssessment × List String :=
  (r.run_id, r.evaluation_plan_id, r.observations.map fun o => o.content, r.assessments,
    r.artifact_ids)

theorem content_of_same {a b : EvaluationResultSet} (h : a.same b = true) :
    a.content = b.content := by
  obtain ⟨hfields, hobservations⟩ := of_decide_eq_true h
  rw [sameObservations_iff] at hobservations
  cases a
  cases b
  cases hfields
  rw [EvaluationResultSet.content, EvaluationResultSet.content, hobservations]

theorem content_of_samePayload {a b : EvaluationResultSet} (h : sameResultPayload a b = true) :
    a.content = b.content := by
  obtain ⟨-, hrun, hplan, -, hobservations, hassessments, hartifacts⟩ := of_decide_eq_true h
  rw [sameObservations_iff] at hobservations
  rw [EvaluationResultSet.content, EvaluationResultSet.content, hrun, hplan, hobservations,
    hassessments, hartifacts]

/-! The order of the statuses. -/

def EvaluationResultStatus.rank : EvaluationResultStatus → ℕ
  | .DRAFT => 0
  | .RECORDED => 1
  | .REVIEWED => 2
  | .INVALIDATED => 3

/-- A review is over. -/
def EvaluationResultStatus.Closed (status : EvaluationResultStatus) : Prop :=
  status = .REVIEWED ∨ status = .INVALIDATED

theorem Closed.forward {current target : EvaluationResultStatus} (h : current.Closed)
    (hrank : current.rank ≤ target.rank) : target.Closed := by
  rcases h with rfl | rfl
  · cases target <;> simp_all [EvaluationResultStatus.rank, EvaluationResultStatus.Closed]
  · cases target <;> simp_all [EvaluationResultStatus.rank, EvaluationResultStatus.Closed]

theorem transition_forward {current target : EvaluationResultStatus}
    (h : resultStatusTransition current target = none) :
    current.rank ≤ target.rank ∧
      (target = .REVIEWED → current = .RECORDED ∨ current = .REVIEWED) := by
  cases current <;> cases target <;> first | exact ⟨by decide, by decide⟩ | cases h

theorem transition_self (status : EvaluationResultStatus) :
    resultStatusTransition status status = none := by
  rw [resultStatusTransition]
  exact if_pos rfl

/-! One save. -/

/-- How a version follows the one that it replaces. -/
structure Follows (r r' : EvaluationResultSet) : Prop where
  status : r.status.rank ≤ r'.status.rank
  reviewed : r'.status = .REVIEWED → r.status = .RECORDED ∨ r.status = .REVIEWED
  updated_at : r.updated_at ≤ r'.updated_at
  run_id : r'.run_id = r.run_id
  evaluation_plan_id : r'.evaluation_plan_id = r.evaluation_plan_id
  content : r.status.Closed → r'.content = r.content

theorem terminal_content {existing candidate : EvaluationResultSet}
    (h : validateTerminalContentImmutability existing candidate = .ok ())
    (hclosed : existing.status.Closed) (hforward : existing.status.rank ≤ candidate.status.rank) :
    candidate.content = existing.content := by
  rw [validateTerminalContentImmutability] at h
  split_ifs at h with hinvalidated hsame hother hreviewed hsame hpayload
  · exact content_of_same hsame
  · -- nothing is kept before a review
    rcases hclosed with hreviewed | hinvalid
    · exact absurd hreviewed hother
    · exact absurd hinvalid hinvalidated
  · exact content_of_same hsame
  · have htarget : candidate.status = .INVALIDATED := by
      rcases Closed.forward hclosed hforward with h | h
      · exact absurd h hreviewed
      · exact h
    have hsame : sameResultPayload existing candidate = true := by
      by_contra hnot
      exact hpayload ⟨htarget, Bool.eq_false_iff.mpr hnot⟩
    exact (content_of_samePayload hsame).symm

theorem follows_of_resave {existing result_set : EvaluationResultSet}
    (h : validateResave existing result_set = .ok ()) : Follows existing result_set := by
  obtain ⟨⟨⟩, hchecks, h⟩ := bind_eq_ok.mp h
  simp only [checkAll_require, checkAll_nil, and_true] at hchecks
  obtain ⟨hrun, hplan, htime⟩ := hchecks
  cases htransition : resultStatusTransition existing.status result_set.status with
  | some message =>
    rw [htransition] at h
    cases h
  | none =>
    rw [htransition] at h
    obtain ⟨hrank, hreviewed⟩ := transition_forward htransition
    exact ⟨hrank, hreviewed, htime, hrun, hplan, fun hclosed => terminal_content h hclosed hrank⟩

/-- A save stores a result set that passes its checks, after the one that was stored. -/
theorem saveResultSet_eq_ok {d d' : ResultStore} {r : EvaluationResultSet}
    (h : saveResultSet d r = .ok d') :
    d' = d.put r ∧ checkAll (r.validateDumped StoreError.check) = .ok () ∧
      ∀ existing, d.get? r.result_set_id = some existing → Follows existing r := by
  obtain ⟨⟨⟩, hvalid, h⟩ := bind_eq_ok.mp h
  cases hget : d.get? r.result_set_id with
  | none =>
    rw [hget] at h
    cases h
    exact ⟨rfl, hvalid, nofun⟩
  | some existing =>
    rw [hget] at h
    obtain ⟨⟨⟩, hresave, h⟩ := bind_eq_ok.mp h
    cases h
    refine ⟨rfl, hvalid, ?_⟩
    rintro _ ⟨⟩
    exact follows_of_resave hresave

/-! One operation. -/

theorem bind_eq_error {ε α β : Type} {x : Except ε α} {f : α → Except ε β} {e : ε} :
    x >>= f = .error e ↔ x = .error e ∨ ∃ a, x = .ok a ∧ f a = .error e := by
  cases x with
  | error e' => simp [bind, Except.bind]
  | ok a => simp [bind, Except.bind]

section Operations

variable {w : Surroundings} {d d' : ResultStore}

theorem mapError_store_eq_ok {x : Except StoreError ResultStore} :
    x.mapError ResultError.store = .ok d' ↔ x = .ok d' := by
  cases x with
  | ok d => simp [Except.mapError]
  | error e => simp [Except.mapError]

theorem saveRebuilt_eq_ok {updated : EvaluationResultSet} (h : saveRebuilt d updated = .ok d') :
    saveResultSet d updated = .ok d' := by
  obtain ⟨⟨⟩, -, h⟩ := bind_eq_ok.mp h
  exact mapError_store_eq_ok.mp h

theorem updateStatus_saves {result_set_id : String} {status : EvaluationResultStatus}
    {reason : Option String} (h : updateStatus w d result_set_id status reason = .ok d') :
    ∃ r, saveResultSet d r = .ok d' := by
  obtain ⟨r, -, h⟩ := bind_eq_ok.mp h
  cases htransition : resultStatusTransition r.status status with
  | some message =>
    rw [htransition] at h
    cases h
  | none =>
    rw [htransition] at h
    obtain ⟨notes, -, h⟩ := bind_eq_ok.mp h
    exact ⟨_, saveRebuilt_eq_ok h⟩

/-- Every operation that goes through ends with the save of one version. -/
theorem applyOperation_saves {op : ResultOperation} (h : applyOperation w d op = .ok d') :
    ∃ r, saveResultSet d r = .ok d' := by
  cases op with
  | save r => exact ⟨r, mapError_store_eq_ok.mp h⟩
  | createResultSet r => exact ⟨r, mapError_store_eq_ok.mp h⟩
  | recordObservation id observation =>
    obtain ⟨r, -, h⟩ := bind_eq_ok.mp h
    obtain ⟨⟨⟩, -, h⟩ := bind_eq_ok.mp h
    obtain ⟨⟨⟩, -, h⟩ := bind_eq_ok.mp h
    obtain ⟨⟨⟩, -, h⟩ := bind_eq_ok.mp h
    exact ⟨_, saveRebuilt_eq_ok h⟩
  | recordAssessment id assessment =>
    obtain ⟨r, -, h⟩ := bind_eq_ok.mp h
    obtain ⟨⟨⟩, -, h⟩ := bind_eq_ok.mp h
    obtain ⟨⟨⟩, -, h⟩ := bind_eq_ok.mp h
    obtain ⟨⟨⟩, -, h⟩ := bind_eq_ok.mp h
    exact ⟨_, saveRebuilt_eq_ok h⟩
  | attachArtifact id artifact_id =>
    obtain ⟨⟨⟩, -, h⟩ := bind_eq_ok.mp h
    obtain ⟨r, -, h⟩ := bind_eq_ok.mp h
    obtain ⟨⟨⟩, -, h⟩ := bind_eq_ok.mp h
    exact ⟨_, saveRebuilt_eq_ok h⟩
  | markRecorded id => exact updateStatus_saves h
  | markReviewed id => exact updateStatus_saves h
  | invalidate id reason => exact updateStatus_saves h

/-! What the store refuses of the recorder is not the move of the status. -/

/-- Every error of the checks is one of a kind. -/
def Told {ε : Type} (error : String → ε) (cs : List (Check ε)) : Prop :=
  ∀ c ∈ cs, ∃ m, c.error = error m

section Told

variable {ε α : Type} {error : String → ε}

theorem told_nil : Told error [] := fun _ h => absurd h List.not_mem_nil

theorem told_require {p : Prop} [Decidable p] {m : String} {cs : List (Check ε)} :
    Told error (require p (error m) :: cs) ↔ Told error cs := by
  rw [Told, List.forall_mem_cons]
  exact and_iff_right ⟨m, rfl⟩

theorem told_append {cs ds : List (Check ε)} :
    Told error (cs ++ ds) ↔ Told error cs ∧ Told error ds := List.forall_mem_append

theorem told_flatMap {f : α → List (Check ε)} {l : List α} :
    Told error (l.flatMap f) ↔ ∀ a ∈ l, Told error (f a) := List.forall_mem_flatMap

theorem told_map {f : α → Check ε} {l : List α} :
    Told error (l.map f) ↔ ∀ a ∈ l, Told error [f a] := by
  rw [Told, List.forall_mem_map]
  simp only [Told, List.forall_mem_singleton]

theorem validateDumped_told (error : String → ε) (r : EvaluationResultSet) :
    Told error (r.validateDumped error) := by
  simp only [EvaluationResultSet.validateDumped, EvaluationResultSet.validate,
    MetricObservation.validate, ExpectedOutcomeAssessment.validate,
    validateObservationsForResultSet, validateAssessmentsForResultSet, validateRequiredText,
    validateOptionalText, told_append, told_flatMap, told_map, told_require, told_nil,
    implies_true, and_true]

end Told

theorem immutability_not_transition {existing candidate : EvaluationResultSet} {message : String} :
    validateTerminalContentImmutability existing candidate ≠ .error (.transition message) := by
  rw [validateTerminalContentImmutability]
  split_ifs <;> exact nofun

/-- A save over a version that may move so is not refused for the move of the status. -/
theorem saveResultSet_not_transition {r existing : EvaluationResultSet} {message : String}
    (hget : d.get? r.result_set_id = some existing)
    (hmove : resultStatusTransition existing.status r.status = none) :
    saveResultSet d r ≠ .error (.transition message) := by
  intro h
  rcases bind_eq_error.mp h with hcheck | ⟨⟨⟩, -, h⟩
  · obtain ⟨c, hc, heq⟩ := checkAll_mem hcheck
    obtain ⟨m, hm⟩ := validateDumped_told StoreError.check r c hc
    rw [heq] at hm
    cases hm
  · rw [hget] at h
    rcases bind_eq_error.mp h with hresave | ⟨⟨⟩, -, h⟩
    · rcases bind_eq_error.mp hresave with hcheck | ⟨⟨⟩, -, h⟩
      · obtain ⟨c, hc, heq⟩ := checkAll_mem hcheck
        simp only [List.mem_cons, List.not_mem_nil, or_false] at hc
        rcases hc with rfl | rfl | rfl <;> cases heq
      · rw [hmove] at h
        exact immutability_not_transition h
    · cases h

theorem loadResultSet_own_id {result_set_id : String} {r : EvaluationResultSet}
    (h : loadResultSet d result_set_id = .ok r) : d.get? r.result_set_id = some r := by
  rw [loadResultSet] at h
  cases hget : d.get? result_set_id with
  | none =>
    rw [hget] at h
    cases h
  | some r' =>
    rw [hget] at h
    cases h
    have hid : r.result_set_id = result_set_id := KeyedDict.key_of_get? hget
    rw [hid]
    exact hget

/-- A computation that the store does not stop for the move of a status. -/
def NotMoved {α : Type} (x : Except ResultError α) : Prop :=
  ∀ message, x ≠ .error (.store (.transition message))

theorem NotMoved.bind {α β : Type} {x : Except ResultError α} {f : α → Except ResultError β}
    (hx : NotMoved x) (hf : ∀ a, x = .ok a → NotMoved (f a)) : NotMoved (x >>= f) := by
  intro message h
  rcases bind_eq_error.mp h with h | ⟨a, ha, h⟩
  · exact hx message h
  · exact hf a ha message h

theorem notMoved_checkAll {cs : List (Check ResultError)}
    (h : ∀ c ∈ cs, ∀ message, c.error ≠ .store (.transition message)) : NotMoved (checkAll cs) := by
  intro message hcheck
  obtain ⟨c, hc, heq⟩ := checkAll_mem hcheck
  exact h c hc message heq

theorem notMoved_saveRebuilt {r updated : EvaluationResultSet}
    (hget : d.get? updated.result_set_id = some r)
    (hmove : resultStatusTransition r.status updated.status = none) :
    NotMoved (saveRebuilt d updated) := by
  have hchecks : NotMoved (checkAll (updated.validate ResultError.check)) := by
    apply notMoved_checkAll
    intro c hc message
    have htold := validateDumped_told ResultError.check updated
    rw [EvaluationResultSet.validateDumped, told_append] at htold
    obtain ⟨m, hm⟩ := htold.2 c hc
    rw [hm]
    exact nofun
  apply hchecks.bind
  intro _ _ message h
  cases hsave : saveResultSet d updated with
  | ok d' =>
    rw [hsave] at h
    cases h
  | error e =>
    rw [hsave] at h
    cases h
    exact saveResultSet_not_transition hget hmove hsave

/-- A change that keeps the status is not refused for it. -/
theorem notMoved_change {result_set_id : String} {r updated : EvaluationResultSet}
    (hload : loadResultSet d result_set_id = .ok r)
    (hid : updated.result_set_id = r.result_set_id) (hstatus : updated.status = r.status) :
    NotMoved (saveRebuilt d updated) := by
  apply notMoved_saveRebuilt
  · rw [hid]
    exact loadResultSet_own_id hload
  · rw [hstatus]
    exact transition_self r.status

theorem notMoved_load {result_set_id : String} : NotMoved (loadResultSet d result_set_id) := by
  intro message
  rw [loadResultSet]
  cases d.get? result_set_id <;> exact nofun

theorem notMoved_mutable {r : EvaluationResultSet} : NotMoved (ensureResultSetMutable r) := by
  intro message
  rw [ensureResultSetMutable]
  split_ifs <;> exact nofun

theorem notMoved_plan {evaluation_plan_id : String} :
    NotMoved (loadEvaluationPlan w evaluation_plan_id) := by
  intro message
  rw [loadEvaluationPlan]
  cases w.evaluation_plan_store with
  | none => exact nofun
  | some plans =>
    simp only
    cases plans.get? evaluation_plan_id <;> exact nofun

theorem notMoved_observation {r : EvaluationResultSet} {observation : MetricObservation} :
    NotMoved (validateObservationForResultSet r observation) ∧
      NotMoved (validateObservationAgainstPlan w observation) := by
  constructor
  · apply notMoved_checkAll
    simp [require]
  · apply notMoved_plan.bind
    intro plan _
    cases plan with
    | none => rintro _ ⟨⟩
    | some plan =>
      apply notMoved_checkAll
      simp [require]

theorem notMoved_assessment {r : EvaluationResultSet} {assessment : ExpectedOutcomeAssessment} :
    NotMoved (validateAssessmentForResultSet r assessment) ∧
      NotMoved (validateAssessmentAgainstPlan w assessment) := by
  constructor
  · apply notMoved_checkAll
    simp [require]
  · apply notMoved_plan.bind
    intro plan _
    cases plan with
    | none => rintro _ ⟨⟩
    | some plan =>
      apply notMoved_checkAll
      simp [require]

theorem notMoved_reason {existing_notes reason : Option String} :
    NotMoved (appendReason existing_notes reason) := by
  intro message
  rw [appendReason.eq_def]
  cases reason with
  | none => exact nofun
  | some reason =>
    simp only
    split_ifs
    all_goals cases existing_notes <;> simp

theorem notMoved_updateStatus {result_set_id : String} {status : EvaluationResultStatus}
    {reason : Option String} : NotMoved (updateStatus w d result_set_id status reason) := by
  apply notMoved_load.bind
  intro r hload
  cases htransition : resultStatusTransition r.status status with
  | some message => exact fun _ => nofun
  | none =>
    apply notMoved_reason.bind
    intro notes _
    have hget := loadResultSet_own_id hload
    exact @notMoved_saveRebuilt d r _ hget htransition

/-- The operations whose version the recorder makes. -/
def ResultOperation.ByRecorder : ResultOperation → Prop
  | .save _ | .createResultSet _ => False
  | _ => True

/-- The recorder makes no version whose status the store refuses. -/
theorem notMoved_byRecorder {op : ResultOperation} (hop : op.ByRecorder) :
    NotMoved (applyOperation w d op) := by
  cases op with
  | save r => exact absurd hop id
  | createResultSet r => exact absurd hop id
  | recordObservation id observation =>
    apply notMoved_load.bind
    intro r hload
    apply notMoved_mutable.bind
    intro _ _
    apply (@notMoved_observation w r observation).1.bind
    intro _ _
    apply (@notMoved_observation w r observation).2.bind
    intro _ _
    exact notMoved_change hload rfl rfl
  | recordAssessment id assessment =>
    apply notMoved_load.bind
    intro r hload
    apply notMoved_mutable.bind
    intro _ _
    apply (@notMoved_assessment w r assessment).1.bind
    intro _ _
    apply (@notMoved_assessment w r assessment).2.bind
    intro _ _
    exact notMoved_change hload rfl rfl
  | attachArtifact id artifact_id =>
    apply (notMoved_checkAll (by simp [require])).bind
    intro _ _
    apply notMoved_load.bind
    intro r hload
    apply notMoved_mutable.bind
    intro _ _
    exact notMoved_change hload rfl rfl
  | markRecorded id => exact notMoved_updateStatus
  | markReviewed id => exact notMoved_updateStatus
  | invalidate id reason => exact notMoved_updateStatus

end Operations

/-! Runs. -/

/-- The ids of a stored result set differ. -/
structure IdsUnique (r : EvaluationResultSet) : Prop where
  observations : (r.observations.map fun o => o.observation_id).Nodup
  assessments : (r.assessments.map fun a => a.assessment_id).Nodup

theorem idsUnique_of_valid {r : EvaluationResultSet}
    (h : checkAll (r.validateDumped StoreError.check) = .ok ()) : IdsUnique r := by
  simp only [EvaluationResultSet.validateDumped, EvaluationResultSet.validate,
    validateObservationsForResultSet, validateAssessmentsForResultSet, checkAll_append,
    checkAll_require] at h
  exact ⟨h.2.1.2.1, h.2.2.1⟩

def AllUnique (d : ResultStore) : Prop := ∀ r ∈ d.values, IdsUnique r

/-- How a version stands to a later one. -/
structure Kept (r r' : EvaluationResultSet) : Prop where
  status : r.status.rank ≤ r'.status.rank
  updated_at : r.updated_at ≤ r'.updated_at
  run_id : r'.run_id = r.run_id
  evaluation_plan_id : r'.evaluation_plan_id = r.evaluation_plan_id
  content : r.status.Closed → r'.content = r.content

theorem Kept.refl (r : EvaluationResultSet) : Kept r r :=
  ⟨Nat.le_refl _, le_refl _, rfl, rfl, fun _ => rfl⟩

theorem Kept.trans {r r' r'' : EvaluationResultSet} (h : Kept r r') (h' : Kept r' r'') :
    Kept r r'' :=
  ⟨h.status.trans h'.status, h.updated_at.trans h'.updated_at, h'.run_id.trans h.run_id,
    h'.evaluation_plan_id.trans h.evaluation_plan_id, fun hclosed =>
      (h'.content (Closed.forward hclosed h.status)).trans (h.content hclosed)⟩

theorem Follows.kept {r r' : EvaluationResultSet} (h : Follows r r') : Kept r r' :=
  ⟨h.status, h.updated_at, h.run_id, h.evaluation_plan_id, h.content⟩

/-- After a step a result set is the one before, or follows it. -/
theorem after_step {d : ResultStore} {call : Surroundings × ResultOperation} {id : String}
    {r : EvaluationResultSet} (hget : d.get? id = some r) :
    ∃ r', (d.after call).get? id = some r' ∧ (r' = r ∨ Follows r r') := by
  rw [ResultStore.after]
  cases hop : applyOperation call.1 d call.2 with
  | error e => exact ⟨r, hget, .inl rfl⟩
  | ok d' =>
    obtain ⟨saved, hsave⟩ := applyOperation_saves hop
    obtain ⟨rfl, -, hfollows⟩ := saveResultSet_eq_ok hsave
    rw [KeyedDict.get?_put]
    split_ifs with hid
    · rw [hid] at hfollows
      exact ⟨saved, rfl, .inr (hfollows r hget)⟩
    · exact ⟨r, hget, .inl rfl⟩

theorem allUnique_step {d : ResultStore} (call : Surroundings × ResultOperation)
    (hd : AllUnique d) : AllUnique (d.after call) := by
  rw [ResultStore.after]
  cases hop : applyOperation call.1 d call.2 with
  | error e => exact hd
  | ok d' =>
    obtain ⟨saved, hsave⟩ := applyOperation_saves hop
    obtain ⟨rfl, hvalid, -⟩ := saveResultSet_eq_ok hsave
    intro r hr
    rcases KeyedDict.mem_values_put.mp hr with rfl | ⟨-, hr⟩
    · exact idsUnique_of_valid hvalid
    · exact hd r hr

theorem kept_run {d : ResultStore} {id : String} {r : EvaluationResultSet}
    (hget : d.get? id = some r) (calls : List (Surroundings × ResultOperation)) :
    ∃ r', (run ResultStore.after d calls).get? id = some r' ∧ Kept r r' := by
  induction calls generalizing d r with
  | nil => exact ⟨r, hget, Kept.refl r⟩
  | cons call calls ih =>
    rw [run_cons]
    obtain ⟨r₁, hget₁, hstep⟩ := @after_step d call id r hget
    obtain ⟨r₂, hget₂, hrest⟩ := ih hget₁
    rcases hstep with rfl | hfollows
    · exact ⟨r₂, hget₂, hrest⟩
    · exact ⟨r₂, hget₂, hfollows.kept.trans hrest⟩

/-- After any operations: the ids of every stored result set differ; after any more of them its
status has not gone back, nor its time, and what a review fixes is as it was from the first
reviewed or invalidated version on; one more of them makes it reviewed only from a recorded
version; and the store refuses no version that the recorder makes for its status. -/
theorem results_never_rewritten (earlier later : List (Surroundings × ResultOperation)) :
    let d := run ResultStore.after .empty earlier
    AllUnique d ∧
      (∀ id r, d.get? id = some r →
        (∃ r', (run ResultStore.after d later).get? id = some r' ∧ Kept r r') ∧
        ∀ call, ∃ r', (d.after call).get? id = some r' ∧
          (r'.status = .REVIEWED → r.status = .RECORDED ∨ r.status = .REVIEWED)) ∧
      ∀ w op, op.ByRecorder → ∀ message,
        applyOperation w d op ≠ .error (.store (.transition message)) := by
  intro d
  refine ⟨?_, fun id r hget => ⟨kept_run hget later, fun call => ?_⟩, fun w op hop message => ?_⟩
  · have hempty : AllUnique .empty := fun r hr => absurd hr List.not_mem_nil
    exact @run_keeps _ _ ResultStore.after AllUnique (fun d call hd => allUnique_step call hd) _
      hempty earlier
  · obtain ⟨r', hget', hstep⟩ := @after_step d call id r hget
    refine ⟨r', hget', fun hreviewed => ?_⟩
    rcases hstep with rfl | hfollows
    · exact .inr hreviewed
    · exact hfollows.reviewed hreviewed
  · exact notMoved_byRecorder hop message

end FuturesBot.Research
