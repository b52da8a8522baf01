import FuturesBot.Checks
import FuturesBot.DecimalRounding
import FuturesBot.Journal
import FuturesBot.VenueValidation

/-! Whether a collateral asset is valued safely enough for the sizing of risk: valuation
snapshots, haircut and eligibility rules, the policy they are held against, and the decision. -/
namespace FuturesBot.Collateral

open JsonText (Json)
open DateTimes DecimalNumbers Checks
open Venues (ArithmeticFailure timedeltaOfMillis decimally)

inductive CollateralValuationSourceKind where
  | MARK_PRICE
  | INDEX_PRICE
  | ORACLE_PRICE
  | VENUE_ACCOUNT_PRICE
  | MANUAL_REVIEWED_SNAPSHOT
  | TEST_FIXTURE
  | UNKNOWN
  deriving DecidableEq, Repr

inductive CollateralValuationTrust where
  | OFFICIAL
  | MANUAL_REVIEW_REQUIRED
  | TEST_ONLY
  | UNTRUSTED
  | UNKNOWN
  deriving DecidableEq, Repr

def CollateralValuationTrust.value : CollateralValuationTrust → String
  | .OFFICIAL => "OFFICIAL"
  | .MANUAL_REVIEW_REQUIRED => "MANUAL_REVIEW_REQUIRED"
  | .TEST_ONLY => "TEST_ONLY"
  | .UNTRUSTED => "UNTRUSTED"
  | .UNKNOWN => "UNKNOWN"

inductive CollateralValuationHealth where
  | HEALTHY
  | DEGRADED
  | UNAVAILABLE
  | UNKNOWN
  deriving DecidableEq, Repr

def CollateralValuationHealth.value : CollateralValuationHealth → String
  | .HEALTHY => "HEALTHY"
  | .DEGRADED => "DEGRADED"
  | .UNAVAILABLE => "UNAVAILABLE"
  | .UNKNOWN => "UNKNOWN"

inductive CollateralEligibilityStatus where
  | ELIGIBLE
  | NOT_ELIGIBLE
  | NEEDS_HUMAN_REVIEW
  | UNKNOWN
  deriving DecidableEq, Repr

inductive CollateralHaircutKind where
  | NONE
  | FIXED_PERCENTAGE
  | VENUE_DEFINED
  | TIERED
  | UNKNOWN
  deriving DecidableEq, Repr

def CollateralHaircutKind.value : CollateralHaircutKind → String
  | .NONE => "NONE"
  | .FIXED_PERCENTAGE => "FIXED_PERCENTAGE"
  | .VENUE_DEFINED => "VENUE_DEFINED"
  | .TIERED => "TIERED"
  | .UNKNOWN => "UNKNOWN"

inductive CollateralValuationDecisionReason where
  | READY
  | VALUATION_MISSING
  | VALUATION_STALE
  | VALUATION_FUTURE_DATED
  | VALUATION_SOURCE_UNTRUSTED
  | VALUATION_SOURCE_UNHEALTHY
  | HAIRCUT_RULE_MISSING
  | HAIRCUT_RULE_NOT_EFFECTIVE
  | HAIRCUT_RULE_UNKNOWN
  | COLLATERAL_NOT_ELIGIBLE
  | COLLATERAL_ELIGIBILITY_RULE_NOT_EFFECTIVE
  | REFERENCE_ASSET_MISMATCH
  | POLICY_DISABLED
  | NOT_READY
  deriving DecidableEq, Repr

structure CollateralValuationSnapshot where
  collateral_asset : AssetSymbol
  reference_asset : AssetSymbol
  price : PositiveDecimal
  source_kind : CollateralValuationSourceKind
  trust : CollateralValuationTrust
  health : CollateralValuationHealth
  observed_at : DateTime
  captured_at : DateTime
  source_id : Option DomainId
  source_payload_hash : Option HexDigest
  metadata : List (String × Json)
  captured : observed_at ≤ captured_at

instance : DecidableEq CollateralValuationSnapshot := fun a b =>
  decidable_of_iff (a.collateral_asset = b.collateral_asset ∧
    a.reference_asset = b.reference_asset ∧ a.price = b.price ∧ a.source_kind = b.source_kind ∧
    a.trust = b.trust ∧ a.health = b.health ∧ a.observed_at = b.observed_at ∧
    a.captured_at = b.captured_at ∧ a.source_id = b.source_id ∧
    a.source_payload_hash = b.source_payload_hash ∧ a.metadata = b.metadata) (by
      cases a
      cases b
      simp)

/-- A haircut; one of no kind has the rate zero. -/
structure CollateralHaircutRule where
  venue_id : Option TrimmedText
  account_mode : Option TrimmedText
  collateral_asset : AssetSymbol
  reference_asset : AssetSymbol
  haircut_kind : CollateralHaircutKind
  haircut_rate : Option {d : Decimal // d.inUnitInterval = true}
  effective_at : DateTime
  expires_at : Option DateTime
  source_id : Option DomainId
  metadata : List (String × Json)
  fixed : haircut_kind = .FIXED_PERCENTAGE → haircut_rate ≠ none
  no_haircut : haircut_kind = .NONE → haircut_rate.map (·.val) = some ⟨false, 0, 0⟩
  ordered : ∀ t ∈ expires_at, effective_at < t
  deriving DecidableEq

structure CollateralEligibilityRule where
  venue_id : Option TrimmedText
  account_mode : Option TrimmedText
  collateral_asset : AssetSymbol
  eligibility_status : CollateralEligibilityStatus
  effective_at : DateTime
  expires_at : Option DateTime
  reason : Option TrimmedText
  metadata : List (String × Json)
  ordered : ∀ t ∈ expires_at, effective_at < t
  deriving DecidableEq

structure CollateralValuationPolicy where
  valuation_required : Bool
  haircut_required : Bool
  eligibility_required : Bool
  max_valuation_age_ms : Option ℤ
  allow_manual_review_sources : Bool
  allow_test_fixture_sources : Bool
  allow_untrusted_sources : Bool
  allow_degraded_sources : Bool
  required_reference_asset : Option AssetSymbol
  metadata : List (String × Json)
  age_given : valuation_required = true → ∃ ms ∈ max_valuation_age_ms, 0 < ms

structure DecisionFields where
  collateral_asset : AssetSymbol
  reference_asset : AssetSymbol
  ready : Bool
  reason : CollateralValuationDecisionReason
  valuation_snapshot : Option CollateralValuationSnapshot
  haircut_rule : Option CollateralHaircutRule
  eligibility_rule : Option CollateralEligibilityRule
  checked_at : DateTime
  effective_value_multiplier : Option Decimal
  details : List (String × Json)
  deriving DecidableEq

/-- An error of the arithmetic, or of a check. -/
inductive ValuationError where
  | arithmetic (e : ArithmeticFailure)
  | check (message : String)
  deriving DecidableEq

def DecisionFields.validate (d : DecisionFields) : List (Check ValuationError) :=
  [require (∀ m ∈ d.effective_value_multiplier, m.inUnitInterval = true)
      (.check "effective_value_multiplier must be between 0 and 1 inclusive"),
    require (d.ready = true → d.reason = .READY)
      (.check "ready collateral valuation decision requires READY reason"),
    require (d.ready = false → d.reason ≠ .READY)
      (.check "not-ready collateral valuation decision requires non-READY reason")]

structure CollateralValuationReadinessDecision extends DecisionFields where
  valid : checkAll toDecisionFields.validate = .ok ()
  deriving DecidableEq

def CollateralValuationReadinessDecision.of (d : DecisionFields) :
    Except ValuationError CollateralValuationReadinessDecision :=
  validated (checkAll d.validate) fun h => ⟨d, h⟩

/-! The evaluation. -/

/-- The artifacts that are checked, and what they are checked against. -/
structure ValuationRequest where
  collateral_asset : AssetSymbol
  reference_asset : AssetSymbol
  checked_at : DateTime
  policy : CollateralValuationPolicy
  valuation_snapshot : Option CollateralValuationSnapshot
  haircut_rule : Option CollateralHaircutRule
  eligibility_rule : Option CollateralEligibilityRule

def trustAllowed (trust : CollateralValuationTrust) (policy : CollateralValuationPolicy) : Bool :=
  match trust with
  | .OFFICIAL => true
  | .MANUAL_REVIEW_REQUIRED => policy.allow_manual_review_sources
  | .TEST_ONLY => policy.allow_test_fixture_sources
  | .UNTRUSTED => policy.allow_untrusted_sources
  | .UNKNOWN => false

def sourceAllowed (source_kind : CollateralValuationSourceKind)
    (policy : CollateralValuationPolicy) : Bool :=
  match source_kind with
  | .UNKNOWN => false
  | .TEST_FIXTURE => policy.allow_test_fixture_sources
  | _ => true

def healthAllowed (health : CollateralValuationHealth) (policy : CollateralValuationPolicy) :
    Bool :=
  match health with
  | .HEALTHY => true
  | .DEGRADED => policy.allow_degraded_sources
  | _ => false

def effectiveMultiplier (rule : CollateralHaircutRule) :
    Except ValuationError (Option Decimal) :=
  match rule.haircut_kind with
  | .NONE => .ok (some Decimal.one)
  | .FIXED_PERCENTAGE =>
    match rule.haircut_rate with
    | none => .error (.check "fixed haircut rule must define haircut_rate")
    | some rate => ((decimally (Decimal.sub Decimal.one rate.val)).mapError .arithmetic).map some
  | _ => .ok none

def ruleIsActive (checked_at effective_at : DateTime) (expires_at : Option DateTime) : Bool :=
  decide (effective_at ≤ checked_at) && expires_at.all fun t => checked_at < t

def timeJson : Option DateTime → Json
  | none => .null
  | some t => .str (isoformat t)

/-- `_haircut_rule_window_details`. -/
def haircutRuleWindowDetails (checked_at : DateTime) (rule : CollateralHaircutRule) :
    List (String × Json) :=
  [("checked_at", .str (isoformat checked_at)),
    ("effective_at", .str (isoformat rule.effective_at)),
    ("expires_at", timeJson rule.expires_at),
    ("collateral_asset", .str rule.collateral_asset.value),
    ("reference_asset", .str rule.reference_asset.value)]

/-- `_eligibility_rule_window_details`. -/
def eligibilityRuleWindowDetails (checked_at : DateTime) (rule : CollateralEligibilityRule) :
    List (String × Json) :=
  [("checked_at", .str (isoformat checked_at)),
    ("effective_at", .str (isoformat rule.effective_at)),
    ("expires_at", timeJson rule.expires_at),
    ("collateral_asset", .str rule.collateral_asset.value)]

/-- Why a gate refuses, and the artifacts that the decision shows. -/
structure Refusal where
  reason : CollateralValuationDecisionReason
  valuation_snapshot : Option CollateralValuationSnapshot
  haircut_rule : Option CollateralHaircutRule
  eligibility_rule : Option CollateralEligibilityRule
  details : List (String × Json)
  refuses : reason ≠ .READY

section Gates

variable (q : ValuationRequest)

def expectedReference : AssetSymbol :=
  q.policy.required_reference_asset.getD q.reference_asset

/-- A refusal that shows all the artifacts of the request. -/
def refusal (reason : CollateralValuationDecisionReason) (details : List (String × Json))
    (h : reason ≠ .READY := by decide) : Refusal :=
  ⟨reason, q.valuation_snapshot, q.haircut_rule, q.eligibility_rule, details, h⟩

/-- A refusal that shows the snapshot alone. -/
def snapshotRefusal (s : CollateralValuationSnapshot) (reason : CollateralValuationDecisionReason)
    (details : List (String × Json)) (h : reason ≠ .READY := by decide) : Refusal :=
  ⟨reason, some s, none, none, details, h⟩

/-- The checks of the valuation snapshot. -/
def valuationGate : Except ValuationError (Option Refusal) :=
  match q.valuation_snapshot with
  | none =>
    .ok (some ⟨.VALUATION_MISSING, none, none, none, [("missing", .str "valuation_snapshot")],
      by decide⟩)
  | some s =>
    if s.collateral_asset ≠ q.collateral_asset ∨ s.reference_asset ≠ expectedReference q then
      .ok (some (refusal q .REFERENCE_ASSET_MISMATCH
        [("valuation_collateral_asset", .str s.collateral_asset.value),
          ("valuation_reference_asset", .str s.reference_asset.value),
          ("required_collateral_asset", .str q.collateral_asset.value),
          ("required_reference_asset", .str (expectedReference q).value)]))
    else if q.checked_at < s.captured_at then
      .ok (some (snapshotRefusal s .VALUATION_FUTURE_DATED
        [("captured_at", .str (isoformat s.captured_at))]))
    else
      match q.policy.max_valuation_age_ms with
      | none =>
        .error (.check "valuation_required policy must define max_valuation_age_ms")
      | some max_age_ms =>
        match timedeltaOfMillis max_age_ms with
        | .error e => .error (.arithmetic e)
        | .ok max_age =>
          if max_age < (q.checked_at.micros : ℤ) - s.captured_at.micros then
            .ok (some (snapshotRefusal s .VALUATION_STALE
              [("max_valuation_age_ms", .int max_age_ms)]))
          else if !sourceAllowed s.source_kind q.policy || !trustAllowed s.trust q.policy then
            .ok (some (snapshotRefusal s .VALUATION_SOURCE_UNTRUSTED
              [("trust", .str s.trust.value)]))
          else if !healthAllowed s.health q.policy then
            .ok (some (snapshotRefusal s .VALUATION_SOURCE_UNHEALTHY
              [("health", .str s.health.value)]))
          else .ok none

/-- The checks of the eligibility rule. -/
def eligibilityGate : Option Refusal :=
  if q.policy.eligibility_required then
    match q.eligibility_rule with
    | none => some (refusal q .COLLATERAL_NOT_ELIGIBLE [("eligibility_required", .bool true)])
    | some rule =>
      if rule.collateral_asset ≠ q.collateral_asset ∨ rule.eligibility_status ≠ .ELIGIBLE then
        some (refusal q .COLLATERAL_NOT_ELIGIBLE [("eligibility_required", .bool true)])
      else if !ruleIsActive q.checked_at rule.effective_at rule.expires_at then
        some (refusal q .COLLATERAL_ELIGIBILITY_RULE_NOT_EFFECTIVE
          (eligibilityRuleWindowDetails q.checked_at rule))
      else none
  else none

/-- What the checks of the haircut rule give: a refusal, or the multiplier. -/
inductive HaircutOutcome where
  | refused (r : Refusal)
  | passed (multiplier : Option Decimal)

/-- The checks of the haircut rule. -/
def haircutGate : Except ValuationError HaircutOutcome :=
  if q.policy.haircut_required then
    match q.haircut_rule with
    | none =>
      .ok (.refused ⟨.HAIRCUT_RULE_MISSING, q.valuation_snapshot, none, q.eligibility_rule,
        [("missing", .str "haircut_rule")], by decide⟩)
    | some rule =>
      if rule.collateral_asset ≠ q.collateral_asset ∨
          rule.reference_asset ≠ expectedReference q then
        .ok (.refused (refusal q .REFERENCE_ASSET_MISMATCH
          [("haircut_collateral_asset", .str rule.collateral_asset.value),
            ("haircut_reference_asset", .str rule.reference_asset.value)]))
      else if !ruleIsActive q.checked_at rule.effective_at rule.expires_at then
        .ok (.refused (refusal q .HAIRCUT_RULE_NOT_EFFECTIVE
          (haircutRuleWindowDetails q.checked_at rule)))
      else if rule.haircut_kind = .UNKNOWN then
        .ok (.refused (refusal q .HAIRCUT_RULE_UNKNOWN
          [("haircut_kind", .str rule.haircut_kind.value)]))
      else (effectiveMultiplier rule).map .passed
  else .ok (.passed none)

/-- `_decision` of a refusal. -/
def refused (r : Refusal) : Except ValuationError CollateralValuationReadinessDecision :=
  CollateralValuationReadinessDecision.of
    { collateral_asset := q.collateral_asset
      reference_asset := q.reference_asset
      ready := false
      reason := r.reason
      valuation_snapshot := r.valuation_snapshot
      haircut_rule := r.haircut_rule
      eligibility_rule := r.eligibility_rule
      checked_at := q.checked_at
      effective_value_multiplier := none
      details := r.details }

/-- `_decision` that is ready. -/
def readyDecision (effective_value_multiplier : Option Decimal) (details : List (String × Json)) :
    Except ValuationError CollateralValuationReadinessDecision :=
  CollateralValuationReadinessDecision.of
    { collateral_asset := q.collateral_asset
      reference_asset := q.reference_asset
      ready := true
      reason := .READY
      valuation_snapshot := q.valuation_snapshot
      haircut_rule := q.haircut_rule
      eligibility_rule := q.eligibility_rule
      checked_at := q.checked_at
      effective_value_multiplier
      details }

def evaluateCollateralValuationReadiness :
    Except ValuationError CollateralValuationReadinessDecision :=
  if q.reference_asset ≠ expectedReference q then
    refused q (refusal q .REFERENCE_ASSET_MISMATCH
      [("requested_reference_asset", .str q.reference_asset.value),
        ("required_reference_asset", .str (expectedReference q).value)])
  else if !q.policy.valuation_required then
    readyDecision q none [("policy_disabled", .bool true)]
  else
    match valuationGate q with
    | .error e => .error e
    | .ok (some r) => refused q r
    | .ok none =>
      match eligibilityGate q with
      | some r => refused q r
      | none =>
        match haircutGate q with
        | .error e => .error e
        | .ok (.refused r) => refused q r
        | .ok (.passed multiplier) =>
          readyDecision q multiplier
            [("required_reference_asset", .str (expectedReference q).value)]

end Gates

end FuturesBot.Collateral
