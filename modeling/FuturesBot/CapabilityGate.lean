import FuturesBot.ExecutionIds

/-! The gate that an order passes before it is accepted: its context fits it, the snapshots are
fresh when that is required, and the venue can execute it. -/
namespace FuturesBot

open JsonText (Json)
open Orders Venues Execution Checks

def AdmissionError.ofArithmetic : ArithmeticFailure → AdmissionError
  | .decimal e => .decimal e
  | .timedelta => .timedelta
  | .datetime => .datetime

namespace Execution

inductive ExecutionCapabilityDecisionReason where
  | EXECUTABLE
  | REJECTED_BY_VENUE_CAPABILITY
  | VALIDATION_CONTEXT_MISMATCH
  | REJECTED_BY_CAPABILITY_FRESHNESS
  | FRESHNESS_CONTEXT_REQUIRED
  | FRESHNESS_CONTEXT_MISMATCH
  deriving DecidableEq, Repr

structure ExecutionCapabilityDecision where
  executable : Bool
  reason : ExecutionCapabilityDecisionReason
  venue_validation_reason : Option String
  venue_validation_details : Option Json
  freshness_reason : Option String
  freshness_details : Option Json
  freshness_checked : Bool
  executable_iff : executable = true ↔ reason = .EXECUTABLE

structure CapabilityCheckFields where
  order_intent : OrderIntent
  venue_validation_context : VenueOrderValidationContext
  freshness_check : Option VenueCapabilityFreshnessCheck
  require_fresh_capability_snapshot : Bool

variable (digests : Digests)

/-- The members in which a freshness check differs from an order and its context. -/
def freshnessMismatches (order_intent : OrderIntent) (context : VenueOrderValidationContext)
    (freshness_check : VenueCapabilityFreshnessCheck) : List String :=
  (if freshness_check.venue_id ≠ order_intent.venue_id then ["venue_id"] else []) ++
    (if freshness_check.instrument_id ≠ order_intent.instrument_id then ["instrument_id"]
      else []) ++
    (if freshness_check.venue_snapshot ≠ some context.venue_snapshot then ["venue_snapshot"]
      else []) ++
    (if freshness_check.instrument_rules.any (digests.sameRules · context.instrument_rules) then []
      else ["instrument_rules"])

/-- `ExecutionCapabilityCheck._validate_invariants`. -/
def CapabilityCheckFields.validateCheck (c : CapabilityCheckFields) :
    List (Check AdmissionError) :=
  [require (digests.sameIntent c.venue_validation_context.order_intent c.order_intent = true)
      (.check "venue_validation_context.order_intent must match order_intent"),
    require (c.require_fresh_capability_snapshot = true → c.freshness_check ≠ none)
      (.check "require_fresh_capability_snapshot=True requires freshness_check")] ++
    (if c.require_fresh_capability_snapshot then c.freshness_check.toList else []).flatMap
      fun check =>
        ["venue_id", "instrument_id", "venue_snapshot", "instrument_rules"].map fun name =>
          require (name ∉
              freshnessMismatches digests c.order_intent c.venue_validation_context check)
            (.check ("freshness_check." ++ name ++ " must match " ++
              if name ∈ ["venue_id", "instrument_id"] then "order_intent" else "context"))

structure ExecutionCapabilityCheck extends CapabilityCheckFields where
  valid : checkAll (toCapabilityCheckFields.validateCheck digests) = .ok ()

variable {digests}

def ExecutionCapabilityCheck.of (c : CapabilityCheckFields) :
    Except AdmissionError (ExecutionCapabilityCheck digests) :=
  match h : checkAll (c.validateCheck digests) with
  | .ok () => .ok ⟨c, h⟩
  | .error e => .error e

theorem ExecutionCapabilityCheck.of_eq_ok {c : CapabilityCheckFields}
    {check : ExecutionCapabilityCheck digests} (h : ExecutionCapabilityCheck.of c = .ok check) :
    check.toCapabilityCheckFields = c := by
  unfold ExecutionCapabilityCheck.of at h
  split at h
  · cases h
    rfl
  · cases h

/-- A decision against the order, for a reason other than EXECUTABLE. -/
def notExecutable (reason : ExecutionCapabilityDecisionReason) (h : reason ≠ .EXECUTABLE) :
    ExecutionCapabilityDecision where
  executable := false
  reason
  venue_validation_reason := none
  venue_validation_details := none
  freshness_reason := none
  freshness_details := none
  freshness_checked := false
  executable_iff := ⟨fun hf => absurd hf Bool.false_ne_true, fun hr => absurd hr h⟩

namespace DeterministicExecutionCapabilityGate

/-- What the freshness check comes to: a decision against the order, or the reason and the
details to go on with. -/
def checkFreshness (c : ExecutionCapabilityCheck digests) :
    Except AdmissionError
      (ExecutionCapabilityDecision ⊕ Option VenueCapabilityFreshnessDecision) :=
  if !c.require_fresh_capability_snapshot then .ok (.inr none)
  else
    match c.freshness_check with
    | none => .ok (.inl (notExecutable .FRESHNESS_CONTEXT_REQUIRED (by decide)))
    | some freshness_check =>
      if freshnessMismatches digests c.order_intent c.venue_validation_context freshness_check ≠ []
      then
        .ok (.inl { notExecutable .FRESHNESS_CONTEXT_MISMATCH (by decide) with
          freshness_details := some (.obj [("message", .str "freshness context mismatch")]) })
      else
        match validateVenueCapabilityFreshness freshness_check with
        | .error e => .error (.ofArithmetic e)
        | .ok freshness =>
          if !freshness.fresh then
            .ok (.inl { notExecutable .REJECTED_BY_CAPABILITY_FRESHNESS (by decide) with
              freshness_reason := some freshness.reason.value
              freshness_details := some freshness.details
              freshness_checked := true })
          else .ok (.inr (some freshness))

/-- The decision of the validation, after that of the freshness. -/
def checkVenue (c : ExecutionCapabilityCheck digests)
    (freshness : Option VenueCapabilityFreshnessDecision) :
    Except AdmissionError ExecutionCapabilityDecision :=
  match validateOrderAgainstVenueCapabilities c.venue_validation_context with
  | .error e => .error (.ofArithmetic e)
  | .ok result =>
    .ok {
      executable := result.valid
      reason := if result.valid then .EXECUTABLE else .REJECTED_BY_VENUE_CAPABILITY
      venue_validation_reason := some result.reason.value
      venue_validation_details := some result.details
      freshness_reason := freshness.map (·.reason.value)
      freshness_details := freshness.map (·.details)
      freshness_checked := c.require_fresh_capability_snapshot
      executable_iff := by cases result.valid <;> simp }

def check (c : ExecutionCapabilityCheck digests) :
    Except AdmissionError ExecutionCapabilityDecision :=
  if !digests.sameIntent c.venue_validation_context.order_intent c.order_intent then
    .ok { notExecutable .VALIDATION_CONTEXT_MISMATCH (by decide) with
      venue_validation_reason := some "VALIDATION_CONTEXT_MISMATCH"
      venue_validation_details :=
        some (.obj [("message", .str "order_intent mismatch with context")]) }
  else
    match checkFreshness c with
    | .error e => .error e
    | .ok (.inl decision) => .ok decision
    | .ok (.inr freshness) => checkVenue c freshness

end DeterministicExecutionCapabilityGate

/-- What lets an executable decision through: the validation of the context it was made on, and
fresh snapshots when they are required. -/
structure Executable (c : ExecutionCapabilityCheck digests)
    (decision : ExecutionCapabilityDecision) : Prop where
  intent : digests.sameIntent c.venue_validation_context.order_intent c.order_intent = true
  validated : ∃ result,
    validateOrderAgainstVenueCapabilities c.venue_validation_context = .ok result ∧
      result.valid = true ∧ decision.venue_validation_reason = some result.reason.value ∧
      decision.venue_validation_details = some result.details
  checked : decision.freshness_checked = c.require_fresh_capability_snapshot
  fresh : c.require_fresh_capability_snapshot = true → ∃ freshness_check freshness,
    c.freshness_check = some freshness_check ∧
      freshnessMismatches digests c.order_intent c.venue_validation_context freshness_check = [] ∧
      validateVenueCapabilityFreshness freshness_check = .ok freshness ∧ freshness.fresh = true ∧
      decision.freshness_reason = some freshness.reason.value

open DeterministicExecutionCapabilityGate

theorem checkFreshness_passed {c : ExecutionCapabilityCheck digests}
    {freshness : Option VenueCapabilityFreshnessDecision}
    (h : checkFreshness c = .ok (.inr freshness))
    (hrequired : c.require_fresh_capability_snapshot = true) :
    ∃ freshness_check found, freshness = some found ∧ c.freshness_check = some freshness_check ∧
      freshnessMismatches digests c.order_intent c.venue_validation_context freshness_check = [] ∧
      validateVenueCapabilityFreshness freshness_check = .ok found ∧ found.fresh = true := by
  rw [checkFreshness, hrequired] at h
  simp only [Bool.not_true, Bool.false_eq_true, ↓reduceIte] at h
  split at h
  · exact absurd h (by simp)
  · rename_i freshness_check hcheck
    split at h
    · exact absurd h (by simp)
    · rename_i hmatch
      split at h
      · exact absurd h (by simp)
      · rename_i found hfound
        split at h
        · exact absurd h (by simp)
        · rename_i hfresh
          refine ⟨freshness_check, found, ?_, hcheck, not_not.mp hmatch, hfound, ?_⟩
          · exact (Sum.inr.inj (Except.ok.inj h)).symm
          · simpa using hfresh

/-- No decision of the freshness check alone is executable. -/
theorem checkFreshness_refused {c : ExecutionCapabilityCheck digests}
    {decision : ExecutionCapabilityDecision} (h : checkFreshness c = .ok (.inl decision)) :
    decision.executable = false := by
  rw [checkFreshness] at h
  split at h
  · exact absurd h (by simp)
  · split at h
    · rw [← Sum.inl.inj (Except.ok.inj h)]
      rfl
    · split at h
      · rw [← Sum.inl.inj (Except.ok.inj h)]
        rfl
      · split at h
        · exact absurd h (by simp)
        · split at h
          · rw [← Sum.inl.inj (Except.ok.inj h)]
            rfl
          · exact absurd h (by simp)

/-- An executable decision comes from both checks. -/
theorem check_executable {c : ExecutionCapabilityCheck digests}
    {decision : ExecutionCapabilityDecision} (h : check c = .ok decision)
    (hexecutable : decision.executable = true) : Executable c decision := by
  rw [check] at h
  split at h
  · rw [← Except.ok.inj h] at hexecutable
    exact absurd hexecutable (by simp [notExecutable])
  · rename_i hintent
    split at h
    · exact absurd h (by simp)
    · rename_i refused hrefused
      rw [← Except.ok.inj h, checkFreshness_refused hrefused] at hexecutable
      exact absurd hexecutable (by simp)
    · rename_i freshness hfreshness
      rw [checkVenue] at h
      split at h
      · exact absurd h (by simp)
      · rename_i result hresult
        have hdecision := Except.ok.inj h
        rw [← hdecision] at hexecutable
        refine ⟨by simpa using hintent, ⟨result, hresult, hexecutable, ?_, ?_⟩, ?_, ?_⟩
        · rw [← hdecision]
        · rw [← hdecision]
        · rw [← hdecision]
        · intro hrequired
          obtain ⟨freshness_check, found, rfl, hcheck, hmatch, hfound, hfresh⟩ :=
            checkFreshness_passed hfreshness hrequired
          refine ⟨freshness_check, found, hcheck, hmatch, hfound, hfresh, ?_⟩
          rw [← hdecision]
          rfl

end Execution

end FuturesBot
