import FuturesBot.ConversionEvidence

/-! When the snapshots that a ready conversion decision rests on are fit for it: at the time and
under the policy of the decision itself, whatever legs it was made from. -/
namespace FuturesBot.Conversion

open DateTimes DecimalNumbers

variable {digests : ConversionDigests} {policy : AssetConversionPolicy} {checked_at : DateTime}
  {s : AssetConversionRateSnapshot}

/-- The snapshot is fit for a decision at the time under the policy. -/
structure Fit (policy : AssetConversionPolicy) (checked_at : DateTime)
    (s : AssetConversionRateSnapshot) : Prop where
  observed : s.observed_at ≤ checked_at
  captured : s.captured_at ≤ checked_at
  fresh : checked_at.micros ≤ s.observed_at.micros + 1000 * policy.max_rate_age
  trusted : s.source_trust ∈ policy.allowed_source_trust
  healthy : s.source_health ∈ policy.allowed_source_health
  spread : ∀ max_spread ∈ policy.max_spread_bps, ∀ spread ∈ s.spread_bps,
    spread.value ≤ max_spread.value

/-- The policy without the members that ask for more than a fit snapshot. -/
def withoutRecordRules (policy : AssetConversionPolicy) : AssetConversionPolicy :=
  { policy with require_source_record := false, require_bid_ask := false }

/-- The age of the snapshot is above the maximum, and is counted as within it. -/
def RoundedIn (policy : AssetConversionPolicy) (checked_at : DateTime)
    (s : AssetConversionRateSnapshot) : Prop :=
  ageMs checked_at s ≤ policy.max_rate_age ∧
    s.observed_at.micros + 1000 * policy.max_rate_age < checked_at.micros

theorem not_after_iff {a b : DateTime} : ¬ a < b ↔ b ≤ a := by
  rw [DateTime.lt_iff, DateTime.le_iff, Nat.not_lt]

theorem spread_passed_iff : (match policy.max_spread_bps, s.spread_bps with
      | some max_spread, some spread =>
        if max_spread.lt spread then some AssetConversionDecisionReason.CONVERSION_SPREAD_TOO_WIDE
        else none
      | _, _ => none) = none ↔ ∀ max_spread ∈ policy.max_spread_bps, ∀ spread ∈ s.spread_bps,
        spread.value ≤ max_spread.value := by
  cases policy.max_spread_bps with
  | none => simp
  | some max_spread =>
    cases s.spread_bps with
    | none => simp
    | some spread =>
      simp only [ite_eq_right_iff, reduceCtorEq, imp_false, Decimal.lt_iff, not_lt,
        Option.mem_def, Option.some.injEq, forall_eq']

/-- What the checks of a snapshot ask, but for its record and its bid and ask. -/
theorem checks_passed_iff :
    snapshotRejectionReason (withoutRecordRules policy) checked_at s = none ↔
      s.observed_at ≤ checked_at ∧ s.captured_at ≤ checked_at ∧
        ageMs checked_at s ≤ policy.max_rate_age ∧
        s.source_trust ∈ policy.allowed_source_trust ∧
        s.source_health ∈ policy.allowed_source_health ∧
        ∀ max_spread ∈ policy.max_spread_bps, ∀ spread ∈ s.spread_bps,
          spread.value ≤ max_spread.value := by
  rw [snapshotRejectionReason.eq_def]
  simp only [withoutRecordRules, Bool.false_and, Bool.false_eq_true, if_false]
  constructor
  · intro h
    split_ifs at h with hfuture hstale htrust hhealth
    rw [not_or] at hfuture
    exact ⟨not_after_iff.mp hfuture.1, not_after_iff.mp hfuture.2, not_lt.mp hstale, htrust,
      hhealth, spread_passed_iff.mp h⟩
  · rintro ⟨hobserved, hcaptured, hage, htrust, hhealth, hwithin⟩
    rw [if_neg (not_or.mpr ⟨not_after_iff.mpr hobserved, not_after_iff.mpr hcaptured⟩),
      if_neg (not_lt.mpr hage),
      if_neg (not_not.mpr htrust), if_neg (not_not.mpr hhealth)]
    exact spread_passed_iff.mpr hwithin

/-- A snapshot that passes all checks passes those without the record rules. -/
theorem checks_without_record_rules (h : snapshotRejectionReason policy checked_at s = none) :
    snapshotRejectionReason (withoutRecordRules policy) checked_at s = none := by
  rw [snapshotRejectionReason.eq_def] at h ⊢
  simp only [withoutRecordRules, Bool.false_and, Bool.false_eq_true, if_false]
  split_ifs at h with hfuture hstale htrust hhealth hrecord hquotes
  rw [if_neg hfuture, if_neg hstale, if_neg (not_not.mpr htrust), if_neg (not_not.mpr hhealth)]
  exact h

/-- A snapshot is fit exactly when it passes the checks and its age is not rounded in. -/
theorem fit_iff : Fit policy checked_at s ↔
    snapshotRejectionReason (withoutRecordRules policy) checked_at s = none ∧
      ¬ RoundedIn policy checked_at s := by
  rw [checks_passed_iff]
  constructor
  · intro h
    refine ⟨⟨h.observed, h.captured, ?_, h.trusted, h.healthy, h.spread⟩, fun hrounded => ?_⟩
    · -- rounding does not lift a fresh age to the next millisecond
      have hmicros : (checked_at.micros : ℤ) - s.observed_at.micros =
          ((checked_at.micros - s.observed_at.micros : ℕ) : ℤ) :=
        (Int.natCast_sub h.observed).symm
      rw [ageMs, hmicros]
      have hfresh := h.fresh
      have hsmall := checked_at.micros_lt
      apply BinaryFloats.millisOfMicros_le <;> omega
    · have hfresh := h.fresh
      have hlate := hrounded.2
      omega
  · rintro ⟨⟨hobserved, hcaptured, hage, htrust, hhealth, hspread⟩, hrounded⟩
    refine ⟨hobserved, hcaptured, ?_, htrust, hhealth, hspread⟩
    by_contra hlate
    exact hrounded ⟨hage, Nat.lt_of_not_le hlate⟩

namespace Evaluation

/-- A ready decision rests on fit snapshots only, and its effective rate is the product of the
rates along a chain from its one asset to the other. -/
def Sound (e : Evaluation) : Prop :=
  match e with
  | mk policy checked_at _ _ rate_snapshot inverse_rate_snapshot legs d =>
    d.ready = true → (∀ s ∈ e.snapshots, Fit policy checked_at s) ∧
      ∃ from_asset to_asset rate, Says d from_asset to_asset rate ∧
        RateChain from_asset to_asset rate_snapshot inverse_rate_snapshot (legs.map (·.decision))
          rate

/-- The decision is made from legs. -/
def Triangulated (e : Evaluation) : Prop :=
  match e with
  | mk _ _ _ _ rate_snapshot inverse_rate_snapshot _ _ =>
    rate_snapshot = none ∧ inverse_rate_snapshot = none

/-- A snapshot that a decision rests on comes from its legs or is the one it turned to. -/
theorem mem_snapshots {from_asset to_asset : Option AssetSymbol}
    {rate_snapshot inverse_rate_snapshot : Option RateEvidence} {legs : List Evaluation}
    {d : AssetConversionReadinessDecision}
    (h : s ∈ (mk policy checked_at from_asset to_asset rate_snapshot inverse_rate_snapshot legs
      d).snapshots) :
    from_asset ≠ to_asset ∧ (s ∈ ownSnapshot rate_snapshot inverse_rate_snapshot ∨
      (rate_snapshot = none ∧ inverse_rate_snapshot = none) ∧ s ∈ legSnapshots legs) := by
  rw [snapshots.eq_def] at h
  dsimp only at h
  split_ifs at h with hsame
  · exact absurd h List.not_mem_nil
  refine ⟨hsame, ?_⟩
  split at h
  · rw [List.mem_singleton.mp h]
    exact .inl rfl
  · rw [List.mem_singleton.mp h]
    exact .inl rfl
  · exact .inr ⟨⟨rfl, rfl⟩, h⟩
  · exact absurd h List.not_mem_nil

/-- A snapshot that a ready decision does not take from legs has passed its checks. -/
theorem Made.own_checked {e : Evaluation} (hmade : Made digests e) (hready : e.decision.ready = true)
    (hown : ¬ e.Triangulated) : ∀ s ∈ e.snapshots,
      snapshotRejectionReason e.policy e.checked_at s = none := by
  obtain @⟨policy, checked_at, source_asset, target_asset, rate_snapshot, inverse_rate_snapshot,
    legs, d, -, -, hdecision⟩ := hmade
  obtain ⟨from_asset, to_asset, rate, rfl, rfl, -, -, hpassed⟩ := evaluate_ready hdecision hready
  intro s hs
  obtain ⟨hdiffer, hsnapshot | ⟨hlegs, -⟩⟩ := mem_snapshots hs
  · exact hpassed (fun hsame => hdiffer (congrArg some hsame)) s hsnapshot
  · exact absurd hlegs hown

/-- A ready decision is sound when its snapshots are fit: the chain of rates is always there. -/
theorem Made.sound {e : Evaluation} (hmade : Made digests e)
    (hfit : e.decision.ready = true → ∀ s ∈ e.snapshots, Fit e.policy e.checked_at s) :
    e.Sound := by
  obtain @⟨policy, checked_at, source_asset, target_asset, rate_snapshot, inverse_rate_snapshot,
    legs, d, -, -, hdecision⟩ := hmade
  intro hready
  obtain ⟨from_asset, to_asset, rate, -, -, hstated, hchain, -⟩ := evaluate_ready hdecision hready
  exact ⟨hfit hready, from_asset, to_asset, rate, hstated, hchain⟩

theorem Sound.fit {e : Evaluation} (h : e.Sound) (hready : e.decision.ready = true) :
    ∀ s ∈ e.snapshots, Fit e.policy e.checked_at s := by
  cases e
  exact (h hready).1

end Evaluation

/-! Two legs decided at midnight, and a decision made from them an hour later. -/

def sampleDigest : HexDigest := .ofText (String.ofList (List.replicate 64 '0')) zeros_hex

def sampleConversionDigests : ConversionDigests where
  snapshot _ := sampleDigest
  policy _ := sampleDigest
  decision _ := sampleDigest

def midnight : DateTime := ⟨2024, 1, 1, 0, 0, 0, 0, newYear_date, midnight_clock⟩

def oneHourLater : DateTime := ⟨2024, 1, 1, 1, 0, 0, 0, newYear_date, by decide⟩

def btc : AssetSymbol := .ofText "BTC" (AssetSymbol.checked evaluates)

def usd : AssetSymbol := .ofText "USD" (by decide)

def usdt : AssetSymbol := .ofText "USDT" (AssetSymbol.checked evaluates)

def minutePolicy : AssetConversionPolicy where
  from_asset := none
  to_asset := none
  max_rate_age := 60000
  require_source_record := false
  allowed_source_trust := [.OFFICIAL]
  allowed_source_health := [.HEALTHY]
  allow_same_asset_direct_match := false
  allow_inverse_rate := false
  allow_triangulation := true
  require_bid_ask := false
  max_spread_bps := none
  metadata := []
  max_rate_age_positive := by decide
  has_trust := by decide
  has_health := by decide
  spread_bounded := by simp

def midnightRate (from_asset to_asset : AssetSymbol) (h : from_asset ≠ to_asset) (coeff : ℕ)
    (hcoeff : (⟨false, coeff, 0⟩ : Decimal).positive = true) : AssetConversionRateSnapshot where
  from_asset
  to_asset
  rate := ⟨⟨false, coeff, 0⟩, hcoeff⟩
  observed_at := midnight
  captured_at := midnight
  source_kind := .INDEX_PRICE
  source_trust := .OFFICIAL
  source_health := .HEALTHY
  evidence_kind := .DIRECT_PAIR_RATE
  bid := none
  ask := none
  mid := none
  spread_bps := none
  source_record_id := none
  metadata := []
  assets_differ := h
  captured := by decide
  spread_bounded := by simp

def btcUsd : AssetConversionRateSnapshot := midnightRate btc usd (by decide) 50000 (by decide)

def usdUsdt : AssetConversionRateSnapshot := midnightRate usd usdt (by decide) 1 (by decide)

def readyDecision (from_asset to_asset : AssetSymbol)
    (compatibility : AssetConversionCompatibility) (hcompatible : compatibility ≠ .UNKNOWN ∧
      compatibility ≠ .NOT_COMPATIBLE) (snapshot_id : Option DomainId)
    (leg_decision_ids : List DomainId) (checked_at : DateTime) (rate : PositiveDecimal)
    (details : List (String × JsonText.Json)) : AssetConversionReadinessDecision where
  policy_id := sampleConversionDigests.policyId minutePolicy
  from_asset
  to_asset
  ready := true
  reason := .READY
  compatibility
  snapshot_id
  inverse_snapshot_id := none
  leg_decision_ids
  checked_at
  effective_rate := some rate.1
  details := .obj details
  valid := by simp [DecisionFields.validate, hcompatible, rate.2]

def midnightLeg (s : AssetConversionRateSnapshot) : Evaluation :=
  .mk minutePolicy midnight s.from_asset s.to_asset (some (.snapshot s)) none []
    (readyDecision s.from_asset s.to_asset .DIRECT_RATE (by decide)
      (some (sampleConversionDigests.snapshotId s)) [] midnight s.rate
      [("direction", .str "FROM_TO")])

def staleTriangulation : Evaluation :=
  .mk minutePolicy oneHourLater btc usdt none none [midnightLeg btcUsd, midnightLeg usdUsdt]
    (readyDecision btc usdt .TRIANGULATED_RATE (by decide) none
      ([midnightLeg btcUsd, midnightLeg usdUsdt].map fun leg =>
        sampleConversionDigests.decisionId leg.decision) oneHourLater
      ⟨⟨false, 50000, 0⟩, by decide⟩ [("leg_count", .int 2)])

theorem staleTriangulation_made : staleTriangulation.Made sampleConversionDigests := by
  have hlegs : ∀ leg ∈ [midnightLeg btcUsd, midnightLeg usdUsdt],
      leg.Made sampleConversionDigests := by
    intro leg hleg
    simp only [List.mem_cons, List.not_mem_nil, or_false] at hleg
    rcases hleg with rfl | rfl
    · exact .mk (by simp) (by simp) (by rfl)
    · exact .mk (by simp) (by simp) (by rfl)
  refine .mk hlegs (fun leg hleg => ?_) (by rfl)
  simp only [List.mem_cons, List.not_mem_nil, or_false] at hleg
  rcases hleg with rfl | rfl <;> decide

end FuturesBot.Conversion
