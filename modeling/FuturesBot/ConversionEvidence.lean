import FuturesBot.AssetConversion

/-! What a conversion decision rests on: the rate snapshots at the leaves of the decisions it was
made from. -/
namespace FuturesBot.Conversion

open DateTimes DecimalNumbers Checks

/-- A decision with the call that made it: the legs are decisions with their own calls. -/
inductive Evaluation where
  | mk (policy : AssetConversionPolicy) (checked_at : DateTime)
    (from_asset to_asset : Option AssetSymbol)
    (rate_snapshot inverse_rate_snapshot : Option RateEvidence) (legs : List Evaluation)
    (decision : AssetConversionReadinessDecision)

namespace Evaluation

def policy : Evaluation → AssetConversionPolicy
  | mk policy _ _ _ _ _ _ _ => policy

def checked_at : Evaluation → DateTime
  | mk _ checked_at _ _ _ _ _ _ => checked_at

def legs : Evaluation → List Evaluation
  | mk _ _ _ _ _ _ legs _ => legs

def decision : Evaluation → AssetConversionReadinessDecision
  | mk _ _ _ _ _ _ _ decision => decision

/-- The decision is the one that its call makes, from legs that were made by theirs no later. -/
inductive Made (digests : ConversionDigests) : Evaluation → Prop where
  | mk {policy checked_at from_asset to_asset rate_snapshot inverse_rate_snapshot legs decision}
    (hlegs : ∀ leg ∈ legs, Made digests leg) (hearlier : ∀ leg ∈ legs, leg.checked_at ≤ checked_at)
    (hdecision : evaluateAssetConversionReadiness digests policy checked_at from_asset to_asset
      rate_snapshot inverse_rate_snapshot (legs.map (·.decision)) = .ok decision) :
    Made digests (.mk policy checked_at from_asset to_asset rate_snapshot inverse_rate_snapshot
      legs decision)

mutual

/-- The rate snapshots that a decision rests on, if it is ready. -/
def snapshots : Evaluation → List AssetConversionRateSnapshot
  | mk _ _ from_asset to_asset rate_snapshot inverse_rate_snapshot legs _ =>
    if from_asset = to_asset then []
    else
      match rate_snapshot, inverse_rate_snapshot with
      | some (.snapshot s), _ => [s]
      | none, some (.snapshot s) => [s]
      | none, none => legSnapshots legs
      | _, _ => []

def legSnapshots : List Evaluation → List AssetConversionRateSnapshot
  | [] => []
  | leg :: legs => leg.snapshots ++ legSnapshots legs

end

end Evaluation

/-- Ready legs connect the assets, and the rates along them multiply up to the rate. -/
def LegChain : AssetSymbol → Decimal → List AssetConversionReadinessDecision → AssetSymbol →
    Decimal → Prop
  | current, product, [], last, rate => current = last ∧ product = rate
  | current, product, leg :: legs, last, rate =>
    leg.ready = true ∧ leg.from_asset = some current ∧ ∃ leg_to leg_rate product',
      leg.to_asset = some leg_to ∧ leg.effective_rate = some leg_rate ∧
        product.mul leg_rate = .ok product' ∧ LegChain leg_to product' legs last rate

theorem followLegs_eq_through {index : ℕ} {current last : AssetSymbol} {product rate : Decimal}
    {legs : List AssetConversionReadinessDecision} :
    followLegs index current product legs = .ok (.through last rate) ↔
      LegChain current product legs last rate := by
  induction legs generalizing index current product with
  | nil => simp [followLegs, LegChain]
  | cons leg legs ih =>
    rw [followLegs, LegChain]
    cases hready : leg.ready with
    | false => simp
    | true =>
      rw [if_neg (by simp)]
      cases hfrom : leg.from_asset with
      | none => simp
      | some leg_from =>
        cases hto : leg.to_asset with
        | none => simp
        | some leg_to =>
          by_cases hcurrent : leg_from = current
          · subst hcurrent
            cases hrate : leg.effective_rate with
            | none => simp
            | some leg_rate =>
              cases hmul : product.mul leg_rate with
              | error e => simp [hmul]
              | ok product' => simp [hmul, ih]
          · simp [hcurrent]

/-- The effective rate of a ready decision: one for an asset itself, the rate of a snapshot of the
pair, the inverse of the rate of one of the inverse pair, or the product of the rates of legs that
lead from the one asset to the other. -/
inductive RateChain (from_asset to_asset : AssetSymbol)
    (rate_snapshot inverse_rate_snapshot : Option RateEvidence)
    (legs : List AssetConversionReadinessDecision) (rate : Decimal) : Prop where
  | same (hsame : from_asset = to_asset) (hone : rate = ⟨false, 1, 0⟩)
  | direct (s : AssetConversionRateSnapshot) (hsnapshot : rate_snapshot = some (.snapshot s))
    (hpair : s.from_asset = from_asset ∧ s.to_asset = to_asset) (hrate : rate = s.rate.1)
  | inverse (s : AssetConversionRateSnapshot) (hnone : rate_snapshot = none)
    (hsnapshot : inverse_rate_snapshot = some (.snapshot s))
    (hpair : s.from_asset = to_asset ∧ s.to_asset = from_asset)
    (hrate : Decimal.div ⟨false, 1, 0⟩ s.rate.1 = .ok rate)
  | legs (hnone : rate_snapshot = none) (hnone' : inverse_rate_snapshot = none)
    (hchain : LegChain from_asset ⟨false, 1, 0⟩ legs to_asset rate)

section Ready

variable {digests : ConversionDigests} {policy : AssetConversionPolicy} {checked_at : DateTime}
  {d : AssetConversionReadinessDecision} {from_asset to_asset : AssetSymbol}
  {s : AssetConversionRateSnapshot}

/-- What a decision says is what it was made with. -/
theorem decision_eq_ok {from_asset to_asset : Option AssetSymbol}
    {reason : AssetConversionDecisionReason} {compatibility : AssetConversionCompatibility}
    {details : List (String × JsonText.Json)} {ready : Bool}
    {snapshot_id inverse_snapshot_id : Option DomainId} {leg_decision_ids : List DomainId}
    {effective_rate : Option Decimal}
    (h : decision digests policy checked_at from_asset to_asset reason compatibility details ready
      snapshot_id inverse_snapshot_id leg_decision_ids effective_rate = .ok d) :
    d.ready = ready ∧ d.from_asset = from_asset ∧ d.to_asset = to_asset ∧
      d.effective_rate = effective_rate := by
  have hfields := AssetConversionReadinessDecision.of_eq_ok h
  rw [hfields]
  exact ⟨rfl, rfl, rfl, rfl⟩

/-- A decision that is made as not ready is not ready. -/
theorem decision_not_ready {from_asset to_asset : Option AssetSymbol}
    {reason : AssetConversionDecisionReason} {compatibility : AssetConversionCompatibility}
    {details : List (String × JsonText.Json)} {snapshot_id inverse_snapshot_id : Option DomainId}
    {leg_decision_ids : List DomainId} {effective_rate : Option Decimal}
    (h : decision digests policy checked_at from_asset to_asset reason compatibility details false
      snapshot_id inverse_snapshot_id leg_decision_ids effective_rate = .ok d) :
    d.ready ≠ true := by
  rw [(decision_eq_ok h).1]
  simp

/-- What a ready decision says: its assets, and its effective rate. -/
structure Says (d : AssetConversionReadinessDecision) (from_asset to_asset : AssetSymbol)
    (rate : Decimal) : Prop where
  from_asset : d.from_asset = some from_asset
  to_asset : d.to_asset = some to_asset
  effective_rate : d.effective_rate = some rate

theorem directSnapshotDecision_ready
    (h : directSnapshotDecision digests policy checked_at from_asset to_asset s = .ok d)
    (hready : d.ready = true) : Says d from_asset to_asset s.rate.1 ∧
      (s.from_asset = from_asset ∧ s.to_asset = to_asset) ∧
        snapshotRejectionReason policy checked_at s = none := by
  rw [directSnapshotDecision] at h
  split at h
  · exact absurd hready (decision_not_ready h)
  rename_i hpair
  split at h
  · exact absurd hready (decision_not_ready h)
  split at h
  · exact absurd hready (decision_not_ready h)
  rename_i hpassed
  obtain ⟨-, hfrom, hto, hrate⟩ := decision_eq_ok h
  rw [not_or, not_not, not_not] at hpair
  exact ⟨⟨hfrom, hto, hrate⟩, hpair, hpassed⟩

theorem inverseSnapshotDecision_ready
    (h : inverseSnapshotDecision digests policy checked_at from_asset to_asset s = .ok d)
    (hready : d.ready = true) : (∃ rate, Decimal.div ⟨false, 1, 0⟩ s.rate.1 = .ok rate ∧
      Says d from_asset to_asset rate) ∧ (s.from_asset = to_asset ∧ s.to_asset = from_asset) ∧
        snapshotRejectionReason policy checked_at s = none := by
  rw [inverseSnapshotDecision] at h
  split at h
  · exact absurd hready (decision_not_ready h)
  split at h
  · exact absurd hready (decision_not_ready h)
  rename_i hpair
  split at h
  · exact absurd hready (decision_not_ready h)
  split at h
  · exact absurd hready (decision_not_ready h)
  rename_i hpassed
  split at h
  · cases h
  rename_i rate hdiv
  obtain ⟨-, hfrom, hto, hrate⟩ := decision_eq_ok h
  rw [not_or, not_not, not_not] at hpair
  exact ⟨⟨rate, hdiv, hfrom, hto, hrate⟩, hpair, hpassed⟩

theorem triangulatedDecision_ready {legs : List AssetConversionReadinessDecision}
    (h : triangulatedDecision digests policy checked_at from_asset to_asset legs = .ok d)
    (hready : d.ready = true) : ∃ rate, LegChain from_asset ⟨false, 1, 0⟩ legs to_asset rate ∧
      Says d from_asset to_asset rate := by
  rw [triangulatedDecision] at h
  split at h
  · exact absurd hready (decision_not_ready h)
  split at h
  · cases h
  · exact absurd hready (decision_not_ready h)
  rename_i current rate hfollow
  split at h
  · exact absurd hready (decision_not_ready h)
  rename_i hcurrent
  rw [not_not] at hcurrent
  obtain ⟨-, hfrom, hto, hrate⟩ := decision_eq_ok h
  rw [← hcurrent]
  rw [← hcurrent] at hto
  exact ⟨rate, followLegs_eq_through.mp hfollow, hfrom, hto, hrate⟩

variable {source_asset target_asset : Option AssetSymbol}
  {rate_snapshot inverse_rate_snapshot : Option RateEvidence}
  {legs : List AssetConversionReadinessDecision}

/-- The snapshot that a call turns to, before any legs. -/
def ownSnapshot (rate_snapshot inverse_rate_snapshot : Option RateEvidence) :
    Option AssetConversionRateSnapshot :=
  match rate_snapshot, inverse_rate_snapshot with
  | some (.snapshot s), _ => some s
  | none, some (.snapshot s) => some s
  | _, _ => none

/-- A ready decision has an effective rate along a chain from the one asset to the other, and the
snapshot it turns to has passed the checks. -/
theorem evaluate_ready (h : evaluateAssetConversionReadiness digests policy checked_at source_asset
      target_asset rate_snapshot inverse_rate_snapshot legs = .ok d) (hready : d.ready = true) :
    ∃ from_asset to_asset rate, source_asset = some from_asset ∧ target_asset = some to_asset ∧
      Says d from_asset to_asset rate ∧
      RateChain from_asset to_asset rate_snapshot inverse_rate_snapshot legs rate ∧
      (from_asset ≠ to_asset → ∀ s ∈ ownSnapshot rate_snapshot inverse_rate_snapshot,
        snapshotRejectionReason policy checked_at s = none) := by
  rw [evaluateAssetConversionReadiness.eq_def] at h
  split at h
  · exact absurd hready (decision_not_ready h)
  split at h
  · exact absurd hready (decision_not_ready h)
  · exact absurd hready (decision_not_ready h)
  rename_i from_asset to_asset
  split at h
  · exact absurd hready (decision_not_ready h)
  split at h
  · rename_i hsame
    subst hsame
    rw [sameAssetDecision] at h
    split at h
    · obtain ⟨-, hfrom, hto, hrate⟩ := decision_eq_ok h
      exact ⟨from_asset, from_asset, _, rfl, rfl, ⟨hfrom, hto, hrate⟩, .same rfl rfl,
        fun hne => absurd rfl hne⟩
    · exact absurd hready (decision_not_ready h)
  rename_i hdiffer
  split at h
  · exact absurd hready (decision_not_ready h)
  · exact absurd hready (decision_not_ready h)
  · rename_i s
    obtain ⟨hstated, hpair, hpassed⟩ := directSnapshotDecision_ready h hready
    refine ⟨from_asset, to_asset, _, rfl, rfl, hstated, .direct s rfl hpair rfl, fun _ s' hs' => ?_⟩
    rw [← Option.some.inj hs']
    exact hpassed
  · rename_i s
    obtain ⟨⟨rate, hdiv, hstated⟩, hpair, hpassed⟩ := inverseSnapshotDecision_ready h hready
    refine ⟨from_asset, to_asset, rate, rfl, rfl, hstated, .inverse s rfl rfl hpair hdiv,
      fun _ s' hs' => ?_⟩
    rw [← Option.some.inj hs']
    exact hpassed
  · split at h
    · obtain ⟨rate, hchain, hstated⟩ := triangulatedDecision_ready h hready
      exact ⟨from_asset, to_asset, rate, rfl, rfl, hstated, .legs rfl rfl hchain,
        fun _ s' hs' => absurd hs' (by simp [ownSnapshot])⟩
    · exact absurd hready (decision_not_ready h)

end Ready

end FuturesBot.Conversion
