import FuturesBot.ConversionSoundness
import FuturesBot.EventJournal
import FuturesBot.ExecutionCosts
import FuturesBot.MarginLiquidation

/-! What a ready decision says about the age of the evidence that it names. -/
namespace FuturesBot

open DateTimes DecimalNumbers Checks EvidenceAges EvidenceGates

/-! Conversions by a rate or by an inverse rate. -/

namespace Conversion

variable {digests : ConversionDigests} {policy : AssetConversionPolicy}
  {source_asset target_asset : Option AssetSymbol} {from_asset to_asset : AssetSymbol}
  {rate_snapshot inverse_rate_snapshot : Option RateEvidence}
  {legs : List AssetConversionReadinessDecision} {s : AssetConversionRateSnapshot}
  {checked_at : DateTime} {d : AssetConversionReadinessDecision}

/-- The branches before any rate is looked at are passed. -/
structure PairAdmitted (policy : AssetConversionPolicy) (source_asset target_asset : Option AssetSymbol)
    (from_asset to_asset : AssetSymbol) : Prop where
  enabled : policyDisabled policy = false
  source : source_asset = some from_asset
  target : target_asset = some to_asset
  pair : policyPairReason policy from_asset to_asset = none
  differ : from_asset ≠ to_asset

theorem PairAdmitted.direct
    (h : PairAdmitted policy source_asset target_asset from_asset to_asset) :
    evaluateAssetConversionReadiness digests policy checked_at source_asset target_asset
      (some (.snapshot s)) inverse_rate_snapshot legs =
        directSnapshotDecision digests policy checked_at from_asset to_asset s := by
  obtain ⟨henabled, rfl, rfl, hpair, hdiffer⟩ := h
  simp only [evaluateAssetConversionReadiness, henabled, hpair, hdiffer, Bool.false_eq_true,
    if_false]

theorem PairAdmitted.inverse
    (h : PairAdmitted policy source_asset target_asset from_asset to_asset) :
    evaluateAssetConversionReadiness digests policy checked_at source_asset target_asset
      none (some (.snapshot s)) legs =
        inverseSnapshotDecision digests policy checked_at from_asset to_asset s := by
  obtain ⟨henabled, rfl, rfl, hpair, hdiffer⟩ := h
  simp only [evaluateAssetConversionReadiness, henabled, hpair, hdiffer, Bool.false_eq_true,
    if_false]

/-- The decision names a rate snapshot. -/
def NamesSnapshot (d : AssetConversionReadinessDecision) : Prop :=
  d.snapshot_id ≠ none ∨ d.inverse_snapshot_id ≠ none

/-- A ready decision of equal assets names no snapshot. -/
theorem pairAdmitted_of_ready
    (h : evaluateAssetConversionReadiness digests policy checked_at source_asset target_asset
      rate_snapshot inverse_rate_snapshot legs = .ok d)
    (hready : d.ready = true) (hnamed : NamesSnapshot d) :
    ∃ from_asset to_asset, PairAdmitted policy source_asset target_asset from_asset to_asset := by
  rw [evaluateAssetConversionReadiness.eq_def] at h
  split at h
  · exact absurd hready (decision_not_ready h)
  rename_i henabled
  split at h
  · exact absurd hready (decision_not_ready h)
  · exact absurd hready (decision_not_ready h)
  rename_i from_asset to_asset
  split at h
  · exact absurd hready (decision_not_ready h)
  rename_i hpair
  split at h
  · rw [sameAssetDecision] at h
    split at h
    · have hfields := AssetConversionReadinessDecision.of_eq_ok h
      rw [NamesSnapshot, hfields] at hnamed
      simp at hnamed
    · exact absurd hready (decision_not_ready h)
  rename_i hdiffer
  exact ⟨from_asset, to_asset, Bool.eq_false_iff.mpr henabled, rfl, rfl, hpair, hdiffer⟩

/-- A decision that is made as ready by a rate. -/
theorem decision_ready {source_asset target_asset : Option AssetSymbol}
    {compatibility : AssetConversionCompatibility}
    {details : List (String × JsonText.Json)} {snapshot_id inverse_snapshot_id : Option DomainId}
    {rate : Decimal} (hrate : rate.positive = true)
    (hcompatible : compatibility ≠ .UNKNOWN ∧ compatibility ≠ .NOT_COMPATIBLE)
    (hnamed : snapshot_id ≠ none ∨ inverse_snapshot_id ≠ none) :
    ∃ d, decision digests policy checked_at source_asset target_asset .READY compatibility details
      true snapshot_id inverse_snapshot_id [] (some rate) = .ok d ∧ d.ready = true ∧
        NamesSnapshot d := by
  rw [decision, AssetConversionReadinessDecision.of]
  split
  · exact ⟨_, rfl, rfl, hnamed⟩
  · next e he =>
    -- none of the checks of such a decision fails
    have hok : checkAll (DecisionFields.validate
        { policy_id := digests.policyId policy, from_asset := source_asset,
          to_asset := target_asset, ready := true, reason := .READY, compatibility, snapshot_id,
          inverse_snapshot_id, leg_decision_ids := [], checked_at, effective_rate := some rate,
          details := .obj details }) = .ok () := by
      simp [DecisionFields.validate, hrate, hcompatible]
    rw [hok] at he
    cases he

theorem direct_ready_iff :
    (∃ d, directSnapshotDecision digests policy checked_at from_asset to_asset s = .ok d ∧
      d.ready = true ∧ NamesSnapshot d) ↔
      ((s.from_asset = from_asset ∧ s.to_asset = to_asset) ∧
        directEvidenceKindAllowed s.evidence_kind = true) ∧
      snapshotRejectionReason policy checked_at s = none := by
  constructor
  · rintro ⟨d, h, hready, -⟩
    obtain ⟨-, hpair, hpassed⟩ := directSnapshotDecision_ready h hready
    refine ⟨⟨hpair, ?_⟩, hpassed⟩
    rw [directSnapshotDecision] at h
    split at h
    · exact absurd hready (decision_not_ready h)
    split at h
    · exact absurd hready (decision_not_ready h)
    · next hkind => exact (Bool.not_eq_false _).mp hkind
  · rintro ⟨⟨⟨hfrom, hto⟩, hkind⟩, hpassed⟩
    have hpair : ¬ (s.from_asset ≠ from_asset ∨ s.to_asset ≠ to_asset) := by simp [hfrom, hto]
    rw [directSnapshotDecision, if_neg hpair, if_neg (by simp [hkind]), hpassed]
    exact decision_ready s.rate.2 (by decide) (.inl (by simp))

theorem inverse_ready_iff :
    (∃ d, inverseSnapshotDecision digests policy checked_at from_asset to_asset s = .ok d ∧
      d.ready = true ∧ NamesSnapshot d) ↔
      (policy.allow_inverse_rate = true ∧ (s.from_asset = to_asset ∧ s.to_asset = from_asset) ∧
        inverseEvidenceKindAllowed s.evidence_kind = true ∧
        ∃ rate, Decimal.div ⟨false, 1, 0⟩ s.rate.1 = .ok rate ∧ rate.positive = true) ∧
      snapshotRejectionReason policy checked_at s = none := by
  constructor
  · rintro ⟨d, h, hready, -⟩
    obtain ⟨⟨rate, hdiv, hsays⟩, hpair, hpassed⟩ := inverseSnapshotDecision_ready h hready
    have hpositive : rate.positive = true := by
      have hvalid := d.valid
      simp only [DecisionFields.validate, checkAll_require] at hvalid
      exact hvalid.1 rate hsays.effective_rate
    rw [inverseSnapshotDecision] at h
    split at h
    · exact absurd hready (decision_not_ready h)
    rename_i hallowed
    split at h
    · exact absurd hready (decision_not_ready h)
    split at h
    · exact absurd hready (decision_not_ready h)
    rename_i hkind
    exact ⟨⟨(Bool.not_eq_false _).mp hallowed, hpair, (Bool.not_eq_false _).mp hkind, rate, hdiv,
      hpositive⟩, hpassed⟩
  · rintro ⟨⟨hallowed, ⟨hfrom, hto⟩, hkind, rate, hdiv, hpositive⟩, hpassed⟩
    have hpair : ¬ (s.from_asset ≠ to_asset ∨ s.to_asset ≠ from_asset) := by simp [hfrom, hto]
    rw [inverseSnapshotDecision, if_neg (by simp [hallowed]), if_neg hpair,
      if_neg (by simp [hkind]), hpassed]
    dsimp only
    rw [hdiv]
    exact decision_ready hpositive (by decide) (.inr nofun)

/-- The checks of a snapshot that has passed them once look only at its dates and its age. -/
theorem rejection_at_other_time {t : DateTime}
    (h : snapshotRejectionReason policy checked_at s = none) :
    snapshotRejectionReason policy t s = none ↔
      (∀ date ∈ [s.observed_at, s.captured_at], date ≤ t) ∧
        ageMillis s.observed_at t ≤ policy.max_rate_age := by
  constructor
  · intro hpassed
    obtain ⟨hobserved, hcaptured, hage, -⟩ :=
      checks_passed_iff.mp (checks_without_record_rules hpassed)
    exact ⟨by simp [hobserved, hcaptured], hage⟩
  · rintro ⟨hdates, hage⟩
    have hearly : ¬ (t < s.observed_at ∨ t < s.captured_at) :=
      not_or.mpr ⟨not_after_iff.mpr (hdates _ (by simp)), not_after_iff.mpr (hdates _ (by simp))⟩
    rw [snapshotRejectionReason.eq_def] at h ⊢
    have hfresh : ¬ policy.max_rate_age < ageMs t s := not_lt.mpr hage
    rw [if_neg hearly, if_neg hfresh]
    split at h
    · cases h
    split at h
    · cases h
    exact h

variable (digests policy source_asset target_asset inverse_rate_snapshot legs s)

/-- The call with a rate snapshot gives a ready decision that names a snapshot. -/
def DirectReady (checked_at : DateTime) : Prop :=
  ∃ d, evaluateAssetConversionReadiness digests policy checked_at source_asset target_asset
    (some (.snapshot s)) inverse_rate_snapshot legs = .ok d ∧ d.ready = true ∧ NamesSnapshot d

/-- The call with an inverse rate snapshot only gives a ready decision that names a snapshot. -/
def InverseReady (checked_at : DateTime) : Prop :=
  ∃ d, evaluateAssetConversionReadiness digests policy checked_at source_asset target_asset
    none (some (.snapshot s)) legs = .ok d ∧ d.ready = true ∧ NamesSnapshot d

variable {digests policy source_asset target_asset inverse_rate_snapshot legs s}

/-- Readiness that comes down to conditions without a time and the checks of a snapshot. -/
theorem isTimed_of_rejection {ready : DateTime → Prop} {fixed : Prop}
    (h : ∀ t, ready t ↔ fixed ∧ snapshotRejectionReason policy t s = none) :
    IsTimed ready [s.observed_at, s.captured_at] s.observed_at policy.max_rate_age := by
  refine ⟨∃ t, ready t, fun t => ?_⟩
  constructor
  · intro ht
    have hpassed := ((h t).mp ht).2
    exact ⟨⟨t, ht⟩, (rejection_at_other_time hpassed).mp hpassed⟩
  · rintro ⟨⟨t', ht'⟩, hdated⟩
    obtain ⟨hfixed, hpassed⟩ := (h t').mp ht'
    exact (h t).mpr ⟨hfixed, (rejection_at_other_time hpassed).mpr hdated⟩

theorem directReady_isTimed :
    IsTimed (DirectReady digests policy source_asset target_asset inverse_rate_snapshot legs s)
      [s.observed_at, s.captured_at] s.observed_at policy.max_rate_age := by
  have hready (t : DateTime) :
      DirectReady digests policy source_asset target_asset inverse_rate_snapshot legs s t ↔
        (∃ from_asset to_asset, PairAdmitted policy source_asset target_asset from_asset to_asset ∧
          (s.from_asset = from_asset ∧ s.to_asset = to_asset) ∧
            directEvidenceKindAllowed s.evidence_kind = true) ∧
          snapshotRejectionReason policy t s = none := ?_
  · exact isTimed_of_rejection hready
  constructor
  · rintro ⟨d, h, hready, hnamed⟩
    obtain ⟨from_asset, to_asset, hadmitted⟩ := pairAdmitted_of_ready h hready hnamed
    rw [hadmitted.direct] at h
    obtain ⟨hfixed, hpassed⟩ := direct_ready_iff.mp ⟨d, h, hready, hnamed⟩
    exact ⟨⟨from_asset, to_asset, hadmitted, hfixed⟩, hpassed⟩
  · rintro ⟨⟨from_asset, to_asset, hadmitted, hfixed⟩, hpassed⟩
    rw [DirectReady, hadmitted.direct]
    exact direct_ready_iff.mpr ⟨hfixed, hpassed⟩

theorem inverseReady_isTimed :
    IsTimed (InverseReady digests policy source_asset target_asset legs s)
      [s.observed_at, s.captured_at] s.observed_at policy.max_rate_age := by
  have hready (t : DateTime) :
      InverseReady digests policy source_asset target_asset legs s t ↔
        (∃ from_asset to_asset, PairAdmitted policy source_asset target_asset from_asset to_asset ∧
          policy.allow_inverse_rate = true ∧ (s.from_asset = to_asset ∧ s.to_asset = from_asset) ∧
            inverseEvidenceKindAllowed s.evidence_kind = true ∧
            ∃ rate, Decimal.div ⟨false, 1, 0⟩ s.rate.1 = .ok rate ∧ rate.positive = true) ∧
          snapshotRejectionReason policy t s = none := ?_
  · exact isTimed_of_rejection hready
  constructor
  · rintro ⟨d, h, hready, hnamed⟩
    obtain ⟨from_asset, to_asset, hadmitted⟩ := pairAdmitted_of_ready h hready hnamed
    rw [hadmitted.inverse] at h
    obtain ⟨hfixed, hpassed⟩ := inverse_ready_iff.mp ⟨d, h, hready, hnamed⟩
    exact ⟨⟨from_asset, to_asset, hadmitted, hfixed⟩, hpassed⟩
  · rintro ⟨⟨from_asset, to_asset, hadmitted, hfixed⟩, hpassed⟩
    rw [InverseReady, hadmitted.inverse]
    exact inverse_ready_iff.mpr ⟨hfixed, hpassed⟩

end Conversion

/-! Execution costs, margins and the event journal. -/

namespace ExecutionCosts

theorem ready_isTimed {digests : ExecutionCostDigests} {policy : ExecutionCostPolicy}
    {s : ExecutionCostRuleSnapshot} {q : ExecutionCostRequest} :
    IsTimed (fun checked_at =>
        (evaluateExecutionCostReadiness digests policy checked_at (.evidence s) q).ready = true)
      [s.observed_at, s.captured_at] s.observed_at policy.max_snapshot_age := by
  have hready (t : DateTime) := @evaluate_ready_iff digests policy t (.evidence s) q
  apply isTimed hready
  intro t
  rw [snapshotChecks, checkAll_append, datedChecks_passed]

end ExecutionCosts

namespace MarginLiquidation

theorem ready_isTimed {digests : MarginLiquidationDigests} {policy : MarginLiquidationPolicy}
    {s : MarginLiquidationRuleSnapshot} {q : MarginLiquidationRequest} :
    IsTimed (fun checked_at =>
        (evaluateMarginLiquidationReadiness digests policy checked_at (.evidence s) q).ready = true)
      [s.observed_at, s.captured_at] s.observed_at policy.max_snapshot_age := by
  have hready (t : DateTime) := @evaluate_ready_iff digests policy t (.evidence s) q
  apply isTimed hready
  intro t
  rw [snapshotChecks, checkAll_append, datedChecks_passed]

end MarginLiquidation

namespace EventJournal

theorem ready_isTimed {digests : EventJournalDigests} {policy : EventJournalReadinessPolicy}
    {r : EventJournalRecord} {q : EventJournalRequest} :
    IsTimed (fun checked_at =>
        (evaluateEventJournalReadiness digests policy checked_at (.evidence r) q).ready = true)
      [r.occurred_at, r.recorded_at] r.recorded_at policy.max_record_age := by
  have hready (t : DateTime) := @evaluate_ready_iff digests policy t (.evidence r) q
  apply isTimed hready
  intro t
  rw [recordChecks, checkAll_append, datedChecks_passed]

end EventJournal

/-! Readiness in time. -/

/-- A ready decision names evidence that is not from after its check, whose age in whole
milliseconds is within the maximum of the policy; exact ages within the maximum are counted so, and
ages counted so are exactly less than two milliseconds above it. Once the counted age is above the
maximum, no later check is ready. -/
theorem readiness_in_time :
    (∀ (digests : Conversion.ConversionDigests) (policy : Conversion.AssetConversionPolicy)
      (source_asset target_asset : Option AssetSymbol)
      (inverse_rate_snapshot : Option Conversion.RateEvidence)
      (legs : List Conversion.AssetConversionReadinessDecision)
      (s : Conversion.AssetConversionRateSnapshot),
      ReadyInTime (Conversion.DirectReady digests policy source_asset target_asset
          inverse_rate_snapshot legs s)
        [s.observed_at, s.captured_at] s.observed_at policy.max_rate_age ∧
      ReadyInTime (Conversion.InverseReady digests policy source_asset target_asset legs s)
        [s.observed_at, s.captured_at] s.observed_at policy.max_rate_age) ∧
    (∀ (digests : ExecutionCosts.ExecutionCostDigests) (policy : ExecutionCosts.ExecutionCostPolicy)
      (s : ExecutionCosts.ExecutionCostRuleSnapshot) (q : ExecutionCosts.ExecutionCostRequest),
      ReadyInTime (fun checked_at => (ExecutionCosts.evaluateExecutionCostReadiness digests policy
          checked_at (.evidence s) q).ready = true)
        [s.observed_at, s.captured_at] s.observed_at policy.max_snapshot_age) ∧
    (∀ (digests : MarginLiquidation.MarginLiquidationDigests)
      (policy : MarginLiquidation.MarginLiquidationPolicy)
      (s : MarginLiquidation.MarginLiquidationRuleSnapshot)
      (q : MarginLiquidation.MarginLiquidationRequest),
      ReadyInTime (fun checked_at => (MarginLiquidation.evaluateMarginLiquidationReadiness digests
          policy checked_at (.evidence s) q).ready = true)
        [s.observed_at, s.captured_at] s.observed_at policy.max_snapshot_age) ∧
    (∀ (digests : EventJournal.EventJournalDigests)
      (policy : EventJournal.EventJournalReadinessPolicy) (r : EventJournal.EventJournalRecord)
      (q : EventJournal.EventJournalRequest),
      ReadyInTime (fun checked_at => (EventJournal.evaluateEventJournalReadiness digests policy
          checked_at (.evidence r) q).ready = true)
        [r.occurred_at, r.recorded_at] r.recorded_at policy.max_record_age) := by
  refine ⟨fun _ _ _ _ _ _ _ => ⟨?_, ?_⟩, fun _ _ _ _ => ?_, fun _ _ _ _ => ?_, fun _ _ _ _ => ?_⟩
  · exact Conversion.directReady_isTimed.readyInTime (by simp)
  · exact Conversion.inverseReady_isTimed.readyInTime (by simp)
  · exact ExecutionCosts.ready_isTimed.readyInTime (by simp)
  · exact MarginLiquidation.ready_isTimed.readyInTime (by simp)
  · exact EventJournal.ready_isTimed.readyInTime (by simp)

/-! A rate that is half a millisecond too old, and a checkpoint of the next hour. -/

/-- One minute and half a millisecond after midnight. -/
def pastMinute : DateTime :=
  { Conversion.midnight with minute := 1, microsecond := 500, time_ok := by decide }

def observationStream : DomainId := ⟨"event-journal-stream:1", by decide⟩

def observationRecord : EventJournal.EventJournalRecord where
  stream_id := observationStream
  record_kind := .MARKET_DATA_OBSERVATION
  sequence_number := 1
  previous_sequence_number := none
  payload_type := ⟨"observation", by decide⟩
  payload_hash := ⟨"hash", .checked evaluates⟩
  occurred_at := Conversion.midnight
  recorded_at := Conversion.midnight
  source_kind := .LOCAL_WAL_CONTRACT
  source_trust := .OFFICIAL
  source_health := .HEALTHY
  continuity_status := .CONTINUOUS
  source_record_id := none
  idempotency_key := none
  correlation_id := none
  causation_id := none
  metadata := []
  ordered := by simp

def laterCheckpoint : EventJournal.EventJournalCheckpoint where
  stream_id := observationStream
  last_sequence_number := 1
  checkpointed_at := Conversion.oneHourLater
  source_kind := .LOCAL_WAL_CONTRACT
  source_trust := .OFFICIAL
  source_health := .HEALTHY
  source_record_id := none
  metadata := []

def minuteRecordPolicy : EventJournal.EventJournalReadinessPolicy where
  max_record_age := 60000
  require_source_record := false
  allowed_source_kinds := [.LOCAL_WAL_CONTRACT]
  allowed_source_trust := [.OFFICIAL]
  allowed_source_health := [.HEALTHY]
  allowed_record_kinds := [.MARKET_DATA_OBSERVATION]
  allowed_continuity_statuses := [.CONTINUOUS]
  require_sequence := true
  require_previous_sequence := false
  require_contiguous_sequence := false
  require_checkpoint := true
  require_payload_hash := true
  require_idempotency_key := false
  metadata := []
  max_age_positive := Conversion.minutePolicy.max_rate_age_positive
  has_kinds := by decide
  has_trust := by decide
  has_health := by decide
  has_record_kinds := by decide
  has_statuses := by decide
  known_kinds := by decide
  known_record_kinds := by decide

def sampleJournalDigests : EventJournal.EventJournalDigests where
  record _ := Conversion.sampleDigest
  checkpoint _ := Conversion.sampleDigest
  policy _ := Conversion.sampleDigest

theorem btcUsd_admitted : Conversion.PairAdmitted Conversion.minutePolicy Conversion.btc
    Conversion.usd Conversion.btc Conversion.usd :=
  ⟨by decide, rfl, rfl, by decide, by decide⟩

/-- Neither the age of a rate nor the date of a checkpoint is held to exactly. -/
theorem not_ready_exactly :
    ¬ ReadyExactly (Conversion.DirectReady Conversion.sampleConversionDigests
        Conversion.minutePolicy Conversion.btc Conversion.usd none [] Conversion.btcUsd)
      [Conversion.btcUsd.observed_at, Conversion.btcUsd.captured_at]
      Conversion.btcUsd.observed_at Conversion.minutePolicy.max_rate_age ∧
    ((EventJournal.evaluateEventJournalReadiness sampleJournalDigests minuteRecordPolicy
        Conversion.midnight (.evidence observationRecord)
        ⟨some laterCheckpoint, none, none, none⟩).ready = true ∧
      Conversion.midnight < laterCheckpoint.checkpointed_at) := by
  refine ⟨fun h => ?_, by decide +kernel, by decide +kernel⟩
  have hready : Conversion.DirectReady Conversion.sampleConversionDigests
      Conversion.minutePolicy Conversion.btc Conversion.usd none [] Conversion.btcUsd
      pastMinute := by
    rw [Conversion.DirectReady, btcUsd_admitted.direct]
    exact Conversion.direct_ready_iff.mpr ⟨⟨⟨rfl, rfl⟩, rfl⟩, by decide +kernel⟩
  have hlate : ¬ exactMillis Conversion.btcUsd.observed_at pastMinute ≤
      Conversion.minutePolicy.max_rate_age := by
    rw [exactMillis]
    decide +kernel
  exact hlate (h.within pastMinute hready)

end FuturesBot
