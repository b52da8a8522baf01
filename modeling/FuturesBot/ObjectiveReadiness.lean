import FuturesBot.ConversionSoundness
import FuturesBot.ObjectiveAssets

/-! What a ready decision on an objective asset rests on. -/
namespace FuturesBot.Objective

open TextLines DateTimes Checks
open Conversion (AssetConversionReadinessDecision)
open Collateral (CollateralValuationReadinessDecision)

namespace AssetPath

variable (r : AssetPath)

/-! The paths that a policy allows. -/

/-- The asset that the policy measures in. -/
def target : Option AssetSymbol :=
  match r.policy.policy_kind with
  | .ACCUMULATE_ASSET => r.policy.objective_asset
  | .MAXIMIZE_REFERENCE_VALUE => r.policy.reference_asset
  | .PRESERVE_COLLATERAL_ASSET => r.policy.objective_asset.or r.collateral_asset
  | .MATCH_SETTLEMENT_ASSET => r.settlement_asset
  | .UNKNOWN => none

/-- The assets that may be converted. -/
def sources : List AssetSymbol :=
  match r.policy.policy_kind with
  | .ACCUMULATE_ASSET | .PRESERVE_COLLATERAL_ASSET => assetTuple [r.pnl_asset, r.settlement_asset]
  | .MAXIMIZE_REFERENCE_VALUE =>
    assetTuple [r.pnl_asset, r.settlement_asset, r.collateral_asset]
  | .MATCH_SETTLEMENT_ASSET => assetTuple [r.pnl_asset]
  | .UNKNOWN => []

/-- The assets that may be the target itself. -/
def directAssets : List (Option AssetSymbol) :=
  match r.policy.policy_kind with
  | .ACCUMULATE_ASSET | .MAXIMIZE_REFERENCE_VALUE => [r.pnl_asset, r.settlement_asset]
  | .PRESERVE_COLLATERAL_ASSET => [r.pnl_asset, r.settlement_asset, r.collateral_asset]
  | .MATCH_SETTLEMENT_ASSET => [r.pnl_asset]
  | .UNKNOWN => []

def directAllowed : Bool :=
  match r.policy.policy_kind with
  | .MAXIMIZE_REFERENCE_VALUE => r.policy.allow_reference_asset_measurement
  | _ => r.policy.allow_direct_asset_match

def DirectMatch : Prop :=
  r.directAllowed = true ∧ ∃ asset, r.target = some asset ∧ some asset ∈ r.directAssets

/-- The first conversion decision that is given takes an asset of the path to the target. -/
def ConversionMade : Prop :=
  (r.policy.policy_kind = .MATCH_SETTLEMENT_ASSET → r.policy.conversion_required = true) ∧
    ∃ d ∈ r.typedConversionDecision, ∃ asset, r.target = some asset ∧
      conversionDecisionSupportsPath d r.sources asset = true

/-- No conversion decision is given, and the collateral is valued in the target. -/
def CollateralValued : Prop :=
  (r.policy.policy_kind = .MATCH_SETTLEMENT_ASSET → r.policy.conversion_required = true) ∧
    r.target ≠ none ∧ r.typedConversionDecision = none ∧
    ∃ d ∈ r.collateral_valuation_decision, r.collateralValuationSupportsPolicy d = true

/-- The policy is in force, and what it asks of the collateral is answered. -/
structure Admitted : Prop where
  enabled : policyDisabled r.policy = false
  known_kind : r.policy.policy_kind ≠ .UNKNOWN
  known_mode : r.policy.measurement_mode ≠ .UNKNOWN
  adjusted : r.policy.collateral_adjustment_required = true →
    collateralReady r.collateral_valuation_decision = true

end AssetPath

variable {r : AssetPath}

/-! Every verdict makes a decision. -/

structure Verdict.Valid (v : Verdict) : Prop where
  reason : v.ready = true ↔ v.reason = .READY
  compatible : v.ready = true → v.compatibility ≠ .UNKNOWN ∧ v.compatibility ≠ .NOT_COMPATIBLE

theorem refused_valid {reason : ObjectiveAssetDecisionReason} (h : reason ≠ .READY)
    (compatibility : ObjectiveAssetCompatibility)
    (conversion_decision : Option AssetConversionReadinessDecision)
    (details : List (String × JsonText.Json)) :
    (⟨false, reason, compatibility, conversion_decision, details⟩ : Verdict).Valid :=
  ⟨⟨nofun, fun heq => absurd heq h⟩, nofun⟩

theorem ready_valid {compatibility : ObjectiveAssetCompatibility}
    (h : compatibility ≠ .UNKNOWN ∧ compatibility ≠ .NOT_COMPATIBLE)
    (conversion_decision : Option AssetConversionReadinessDecision)
    (details : List (String × JsonText.Json)) :
    (AssetPath.readyVerdict compatibility conversion_decision details).Valid :=
  ⟨⟨fun _ => rfl, fun _ => rfl⟩, fun _ => h⟩

/-! Evidence that is asked for. -/

section Evidence

variable {sources : List AssetSymbol} {asset : AssetSymbol}
  {missing_reason not_ready_reason : ObjectiveAssetDecisionReason}
  {compatibility : ObjectiveAssetCompatibility} {details : List (String × JsonText.Json)}

theorem explicitEvidence_compatibility :
    (r.explicitEvidenceOrRequired sources asset missing_reason not_ready_reason compatibility
      details).compatibility = compatibility := by
  rw [AssetPath.explicitEvidenceOrRequired]
  cases r.typedConversionDecision with
  | some d =>
    simp only
    split_ifs <;> rfl
  | none =>
    cases r.collateral_valuation_decision with
    | some d =>
      simp only
      split_ifs <;> rfl
    | none =>
      simp only
      split_ifs <;> rfl

theorem explicitEvidence_valid (hmissing : missing_reason ≠ .READY)
    (hnot : not_ready_reason ≠ .READY)
    (hcompatible : compatibility ≠ .UNKNOWN ∧ compatibility ≠ .NOT_COMPATIBLE) :
    (r.explicitEvidenceOrRequired sources asset missing_reason not_ready_reason compatibility
      details).Valid := by
  rw [AssetPath.explicitEvidenceOrRequired]
  cases r.typedConversionDecision with
  | some d =>
    simp only
    split_ifs
    · exact ready_valid hcompatible _ _
    · exact refused_valid hnot _ _ _
  | none =>
    cases r.collateral_valuation_decision with
    | some d =>
      simp only
      split_ifs
      · exact ready_valid hcompatible _ _
      · exact refused_valid (by decide) _ _ _
      · exact refused_valid hmissing _ _ _
    | none =>
      simp only
      split_ifs
      · exact refused_valid hnot _ _ _
      · exact refused_valid hmissing _ _ _

theorem explicitEvidence_ready :
    (r.explicitEvidenceOrRequired sources asset missing_reason not_ready_reason compatibility
        details).ready = true ↔
      (∃ d ∈ r.typedConversionDecision, conversionDecisionSupportsPath d sources asset = true) ∨
        r.typedConversionDecision = none ∧
          ∃ d ∈ r.collateral_valuation_decision, r.collateralValuationSupportsPolicy d = true := by
  rw [AssetPath.explicitEvidenceOrRequired]
  cases r.typedConversionDecision with
  | some d =>
    simp only [Option.mem_def, Option.some.injEq, exists_eq_left', reduceCtorEq, false_and,
      or_false]
    split_ifs with h
    · exact ⟨fun _ => h, fun _ => rfl⟩
    · exact ⟨nofun, fun hs => absurd hs h⟩
  | none =>
    simp only [Option.mem_def, reduceCtorEq, false_and, exists_false, true_and, false_or]
    cases r.collateral_valuation_decision with
    | some d =>
      simp only [Option.some.injEq, exists_eq_left']
      split_ifs with h
      · exact ⟨fun _ => h, fun _ => rfl⟩
      · exact ⟨nofun, fun hs => absurd hs h⟩
      · exact ⟨nofun, fun hs => absurd hs h⟩
    | none =>
      simp only [reduceCtorEq, false_and, exists_false, iff_false]
      split_ifs <;> exact nofun

end Evidence

/-! The verdict of each kind of policy. -/

/-- What a policy in force decides. -/
structure Evaluated (r : AssetPath) (v : Verdict) : Prop where
  valid : v.Valid
  ready : v.ready = true ↔ r.DirectMatch ∨ r.ConversionMade ∨ r.CollateralValued
  direct : v.ready = true → (v.compatibility = .DIRECT_MATCH ↔ r.DirectMatch)

theorem evaluated_refused {v : Verdict} (hvalid : v.Valid) (hready : v.ready = false)
    (h : ¬ (r.DirectMatch ∨ r.ConversionMade ∨ r.CollateralValued)) : Evaluated r v := by
  refine ⟨hvalid, ⟨fun htrue => ?_, fun hpath => absurd hpath h⟩, fun htrue => ?_⟩
  · rw [hready] at htrue
    cases htrue
  · rw [hready] at htrue
    cases htrue

theorem evaluated_of_no_target {v : Verdict} (hvalid : v.Valid) (hready : v.ready = false)
    (htarget : r.target = none) : Evaluated r v := by
  apply evaluated_refused hvalid hready
  rintro (⟨-, asset, hasset, -⟩ | ⟨-, d, -, asset, hasset, -⟩ | ⟨-, hasset, -⟩)
  · rw [htarget] at hasset
    cases hasset
  · rw [htarget] at hasset
    cases hasset
  · exact hasset htarget

/-- A direct match is ready, and anything else is up to the evidence. -/
theorem evaluated_with_evidence {asset : AssetSymbol} {p : Prop} [Decidable p]
    {missing_reason not_ready_reason : ObjectiveAssetDecisionReason}
    {compatibility : ObjectiveAssetCompatibility}
    {conversion_decision : Option AssetConversionReadinessDecision}
    {direct details : List (String × JsonText.Json)} (htarget : r.target = some asset)
    (hdirect : p ↔ r.DirectMatch)
    (hrequired : r.policy.policy_kind = .MATCH_SETTLEMENT_ASSET →
      r.policy.conversion_required = true)
    (hmissing : missing_reason ≠ .READY) (hnot : not_ready_reason ≠ .READY)
    (hcompatible : compatibility ≠ .UNKNOWN ∧ compatibility ≠ .NOT_COMPATIBLE)
    (hother : compatibility ≠ .DIRECT_MATCH) :
    Evaluated r (if p then AssetPath.readyVerdict .DIRECT_MATCH conversion_decision direct
      else r.explicitEvidenceOrRequired r.sources asset missing_reason not_ready_reason
        compatibility details) := by
  split_ifs with h
  · have hmatch := hdirect.mp h
    exact ⟨ready_valid (by decide) _ _, ⟨fun _ => .inl hmatch, fun _ => rfl⟩,
      fun _ => ⟨fun _ => hmatch, fun _ => rfl⟩⟩
  · have hno : ¬ r.DirectMatch := fun hmatch => h (hdirect.mpr hmatch)
    refine ⟨explicitEvidence_valid hmissing hnot hcompatible, ?_, fun _ => ?_⟩
    · rw [explicitEvidence_ready]
      constructor
      · rintro (⟨d, hd, hsupports⟩ | ⟨hnone, hvalued⟩)
        · exact .inr (.inl ⟨hrequired, d, hd, asset, htarget, hsupports⟩)
        · refine .inr (.inr ⟨hrequired, ?_, hnone, hvalued⟩)
          rw [htarget]
          exact Option.some_ne_none asset
      · rintro (hmatch | ⟨-, d, hd, asset', htarget', hsupports⟩ | ⟨-, -, hnone, hvalued⟩)
        · exact absurd hmatch hno
        · rw [htarget] at htarget'
          cases htarget'
          exact .inl ⟨d, hd, hsupports⟩
        · exact .inr ⟨hnone, hvalued⟩
    · rw [explicitEvidence_compatibility]
      exact ⟨fun heq => absurd heq hother, fun hmatch => absurd hmatch hno⟩

theorem evaluateAccumulate_spec (hkind : r.policy.policy_kind = .ACCUMULATE_ASSET) :
    Evaluated r r.evaluateAccumulate := by
  have htarget : r.target = r.policy.objective_asset := by rw [AssetPath.target, hkind]
  have hsources : r.sources = assetTuple [r.pnl_asset, r.settlement_asset] := by
    rw [AssetPath.sources, hkind]
  have hmatch : r.DirectMatch ↔ r.policy.allow_direct_asset_match = true ∧
      ∃ asset, r.policy.objective_asset = some asset ∧
        some asset ∈ [r.pnl_asset, r.settlement_asset] := by
    rw [AssetPath.DirectMatch, AssetPath.directAllowed, AssetPath.directAssets, hkind, htarget]
  rw [AssetPath.evaluateAccumulate]
  cases hobjective : r.policy.objective_asset with
  | none =>
    rw [hobjective] at htarget
    exact evaluated_of_no_target (refused_valid (by decide) _ _ _) rfl htarget
  | some objective =>
    rw [hobjective] at htarget
    simp only [hobjective, Option.some.injEq, exists_eq_left'] at hmatch
    simp only [← hsources]
    apply evaluated_with_evidence htarget hmatch.symm
    · rw [hkind]
      exact nofun
    · split_ifs <;> decide
    · split_ifs <;> decide
    · split_ifs <;> decide
    · split_ifs <;> decide

theorem evaluateReferenceValue_spec (hkind : r.policy.policy_kind = .MAXIMIZE_REFERENCE_VALUE) :
    Evaluated r r.evaluateReferenceValue := by
  have htarget : r.target = r.policy.reference_asset := by rw [AssetPath.target, hkind]
  have hsources : r.sources =
      assetTuple [r.pnl_asset, r.settlement_asset, r.collateral_asset] := by
    rw [AssetPath.sources, hkind]
  have hmatch : r.DirectMatch ↔ r.policy.allow_reference_asset_measurement = true ∧
      ∃ asset, r.policy.reference_asset = some asset ∧
        some asset ∈ [r.pnl_asset, r.settlement_asset] := by
    rw [AssetPath.DirectMatch, AssetPath.directAllowed, AssetPath.directAssets, hkind, htarget]
  rw [AssetPath.evaluateReferenceValue]
  cases hreference : r.policy.reference_asset with
  | none =>
    rw [hreference] at htarget
    exact evaluated_of_no_target (refused_valid (by decide) _ _ _) rfl htarget
  | some reference =>
    rw [hreference] at htarget
    simp only [hreference, Option.some.injEq, exists_eq_left'] at hmatch
    simp only [← hsources]
    apply evaluated_with_evidence htarget hmatch.symm
    · rw [hkind]
      exact nofun
    all_goals decide

theorem evaluatePreserveCollateral_spec
    (hkind : r.policy.policy_kind = .PRESERVE_COLLATERAL_ASSET) :
    Evaluated r r.evaluatePreserveCollateral := by
  have htarget : r.target = r.policy.objective_asset.or r.collateral_asset := by
    rw [AssetPath.target, hkind]
  have hsources : r.sources = assetTuple [r.pnl_asset, r.settlement_asset] := by
    rw [AssetPath.sources, hkind]
  have hmatch : r.DirectMatch ↔ r.policy.allow_direct_asset_match = true ∧
      ∃ asset, r.policy.objective_asset.or r.collateral_asset = some asset ∧
        some asset ∈ [r.pnl_asset, r.settlement_asset, r.collateral_asset] := by
    rw [AssetPath.DirectMatch, AssetPath.directAllowed, AssetPath.directAssets, hkind, htarget]
  rw [AssetPath.evaluatePreserveCollateral]
  cases hobjective : r.policy.objective_asset.or r.collateral_asset with
  | none =>
    rw [hobjective] at htarget
    exact evaluated_of_no_target (refused_valid (by decide) _ _ _) rfl htarget
  | some objective =>
    rw [hobjective] at htarget
    simp only [hobjective, Option.some.injEq, exists_eq_left'] at hmatch
    simp only [← hsources]
    apply evaluated_with_evidence htarget hmatch.symm
    · rw [hkind]
      exact nofun
    all_goals decide

/-- A settlement in another asset needs a conversion that the policy asks for. -/
theorem evaluateMatchSettlement_spec (hkind : r.policy.policy_kind = .MATCH_SETTLEMENT_ASSET) :
    Evaluated r r.evaluateMatchSettlement := by
  have htarget : r.target = r.settlement_asset := by rw [AssetPath.target, hkind]
  have hsources : r.sources = assetTuple [r.pnl_asset] := by rw [AssetPath.sources, hkind]
  have hmatch : r.DirectMatch ↔ r.policy.allow_direct_asset_match = true ∧
      ∃ asset, r.settlement_asset = some asset ∧ some asset ∈ [r.pnl_asset] := by
    rw [AssetPath.DirectMatch, AssetPath.directAllowed, AssetPath.directAssets, hkind, htarget]
  rw [AssetPath.evaluateMatchSettlement]
  cases hsettlement : r.settlement_asset with
  | none =>
    rw [hsettlement] at htarget
    exact evaluated_of_no_target (refused_valid (by decide) _ _ _) rfl htarget
  | some settlement =>
    rw [hsettlement] at htarget
    simp only [hsettlement, Option.some.injEq, exists_eq_left', List.mem_singleton] at hmatch
    have hdirect : (r.policy.allow_direct_asset_match = true ∧ r.pnl_asset = some settlement) ↔
        r.DirectMatch :=
      (and_congr_right fun _ => eq_comm).trans hmatch.symm
    cases hrequired : r.policy.conversion_required with
    | true =>
      simp only [← hsources, Bool.true_eq_false, if_false]
      exact evaluated_with_evidence htarget hdirect (fun _ => hrequired) (by decide) (by decide)
        (by decide) (by decide)
    | false =>
      simp only [if_true]
      split_ifs with h
      · have hmatched := hdirect.mp h
        exact ⟨ready_valid (by decide) _ _, ⟨fun _ => .inl hmatched, fun _ => rfl⟩,
          fun _ => ⟨fun _ => hmatched, fun _ => rfl⟩⟩
      · apply evaluated_refused (refused_valid (by decide) _ _ _) rfl
        rintro (hmatched | ⟨hneeds, -⟩ | ⟨hneeds, -⟩)
        · exact h (hdirect.mpr hmatched)
        · exact absurd (hneeds hkind) (by rw [hrequired]; decide)
        · exact absurd (hneeds hkind) (by rw [hrequired]; decide)

/-! The verdict. -/

theorem verdict_of_admitted (h : r.Admitted) : Evaluated r r.verdict := by
  have hadjusted : ¬ (r.policy.collateral_adjustment_required = true ∧
      collateralReady r.collateral_valuation_decision = false) := by
    rintro ⟨hasked, hnot⟩
    rw [h.adjusted hasked] at hnot
    cases hnot
  rw [AssetPath.verdict, if_neg (by rw [h.enabled]; decide), if_neg h.known_kind,
    if_neg h.known_mode, if_neg hadjusted]
  cases hkind : r.policy.policy_kind with
  | ACCUMULATE_ASSET => exact evaluateAccumulate_spec hkind
  | MAXIMIZE_REFERENCE_VALUE => exact evaluateReferenceValue_spec hkind
  | PRESERVE_COLLATERAL_ASSET => exact evaluatePreserveCollateral_spec hkind
  | MATCH_SETTLEMENT_ASSET => exact evaluateMatchSettlement_spec hkind
  | UNKNOWN => exact absurd hkind h.known_kind

theorem verdict_of_not_admitted (h : ¬ r.Admitted) :
    r.verdict.Valid ∧ r.verdict.ready = false := by
  rw [AssetPath.verdict]
  split_ifs with hdisabled hkind hmode hadjusted
  · exact ⟨refused_valid (by decide) _ _ _, rfl⟩
  · exact ⟨refused_valid (by decide) _ _ _, rfl⟩
  · exact ⟨refused_valid (by decide) _ _ _, rfl⟩
  · exact ⟨refused_valid (by decide) _ _ _, rfl⟩
  · refine absurd ⟨Bool.eq_false_iff.mpr hdisabled, hkind, hmode, fun hasked => ?_⟩ h
    by_contra hnot
    exact hadjusted ⟨hasked, Bool.eq_false_iff.mpr hnot⟩

theorem verdict_valid (r : AssetPath) : r.verdict.Valid := by
  by_cases h : r.Admitted
  · exact (verdict_of_admitted h).valid
  · exact (verdict_of_not_admitted h).1

theorem admitted_of_ready (h : r.verdict.ready = true) : r.Admitted := by
  by_contra hnot
  rw [(verdict_of_not_admitted hnot).2] at h
  cases h

/-! The decision. -/

/-- The id of the valuation is one. -/
def ValuationNamed : Option ValuationEvidence → Prop
  | some (.other (some text)) => Trimmed text.toList ∧ text.toList.length ≤ 128
  | _ => True

theorem valuationDecisionId_total {digests : ObjectiveDigests}
    {valuation_decision : Option ValuationEvidence} :
    (∃ id, valuationDecisionId digests valuation_decision = .ok id) ↔
      ValuationNamed valuation_decision := by
  match valuation_decision with
  | none => exact ⟨fun _ => trivial, fun _ => ⟨none, rfl⟩⟩
  | some (.conversion d) => exact ⟨fun _ => trivial, fun _ => ⟨_, rfl⟩⟩
  | some (.measurement id) => exact ⟨fun _ => trivial, fun _ => ⟨_, rfl⟩⟩
  | some (.other none) => exact ⟨fun _ => trivial, fun _ => ⟨none, rfl⟩⟩
  | some (.other (some text)) =>
    rw [ValuationNamed, valuationDecisionId, DomainId.of]
    split_ifs with h
    · exact ⟨fun _ => h, fun _ => ⟨_, rfl⟩⟩
    · simp [h]

/-- What a decision tells of the verdict. -/
theorem decision_eq_ok {digests : ObjectiveDigests} {checked_at : DateTime} {v : Verdict}
    {d : ObjectiveAssetReadinessDecision} (h : decision digests r checked_at v = .ok d) :
    d.ready = v.ready ∧ d.compatibility = v.compatibility := by
  obtain ⟨id, -, h⟩ := bind_eq_ok.mp h
  obtain ⟨-, rfl⟩ := validated_eq_ok.mp h
  exact ⟨rfl, rfl⟩

theorem decision_total {digests : ObjectiveDigests} {checked_at : DateTime} {v : Verdict}
    (hv : v.Valid) :
    (∃ d, decision digests r checked_at v = .ok d) ↔ ValuationNamed r.valuation_decision := by
  rw [← @valuationDecisionId_total digests]
  constructor
  · rintro ⟨d, h⟩
    obtain ⟨id, hid, -⟩ := bind_eq_ok.mp h
    exact ⟨id, hid⟩
  · rintro ⟨id, hid⟩
    rw [decision, hid]
    have hnot : v.ready = false → v.reason ≠ .READY := fun hready hreason => by
      rw [hv.reason.mpr hreason] at hready
      cases hready
    refine ⟨_, validated_eq_ok.mpr ⟨?_, rfl⟩⟩
    simp only [DecisionFields.validate, checkAll_require, checkAll_nil, and_true]
    exact ⟨hv.reason.mp, hnot, hv.compatible⟩

/-! The assets of a request. -/

def IsSymbol (text : String) : Prop :=
  2 ≤ text.toList.length ∧ text.toList.length ≤ 16 ∧ text.toList.all isAssetSymbolChar = true

/-- A text that is given for an asset is a symbol. -/
def AssetNamed : Option AssetInput → Prop
  | some (.text value) => IsSymbol value
  | _ => True

theorem assetOrNone_total {input : Option AssetInput} :
    (∃ asset, assetOrNone input = .ok asset) ↔ AssetNamed input := by
  match input with
  | none => exact ⟨fun _ => trivial, fun _ => ⟨none, rfl⟩⟩
  | some (.symbol asset) => exact ⟨fun _ => trivial, fun _ => ⟨some asset, rfl⟩⟩
  | some (.text value) =>
    rw [AssetNamed, assetOrNone, AssetSymbol.of]
    split_ifs with h
    · exact ⟨fun _ => h, fun _ => ⟨_, rfl⟩⟩
    · constructor
      · rintro ⟨_, hasset⟩
        cases hasset
      · exact fun hasset => absurd hasset h

theorem path_total {q : ObjectiveRequest} :
    (∃ r, q.path = .ok r) ↔
      AssetNamed q.pnl_asset ∧ AssetNamed q.settlement_asset ∧ AssetNamed q.collateral_asset := by
  simp only [← assetOrNone_total]
  constructor
  · rintro ⟨r, h⟩
    obtain ⟨pnl, hpnl, h⟩ := bind_eq_ok.mp h
    obtain ⟨settlement, hsettlement, h⟩ := bind_eq_ok.mp h
    obtain ⟨collateral, hcollateral, -⟩ := bind_eq_ok.mp h
    exact ⟨⟨pnl, hpnl⟩, ⟨settlement, hsettlement⟩, ⟨collateral, hcollateral⟩⟩
  · rintro ⟨⟨pnl, hpnl⟩, ⟨settlement, hsettlement⟩, ⟨collateral, hcollateral⟩⟩
    exact ⟨_, bind_eq_ok.mpr ⟨pnl, hpnl, bind_eq_ok.mpr ⟨settlement, hsettlement,
      bind_eq_ok.mpr ⟨collateral, hcollateral, rfl⟩⟩⟩⟩

theorem path_valuation {q : ObjectiveRequest} (h : q.path = .ok r) :
    r.valuation_decision = q.valuation_decision := by
  obtain ⟨pnl, -, h⟩ := bind_eq_ok.mp h
  obtain ⟨settlement, -, h⟩ := bind_eq_ok.mp h
  obtain ⟨collateral, -, h⟩ := bind_eq_ok.mp h
  cases h
  rfl

/-! What a ready decision should rest on. -/

/-- A valuation of the collateral of the path, in the reference of the policy if it has one. -/
structure ValuesCollateral (r : AssetPath) (d : CollateralValuationReadinessDecision) : Prop where
  ready : d.ready = true
  collateral : r.collateral_asset = some d.collateral_asset
  reference : ∀ asset ∈ r.policy.reference_asset, d.reference_asset = asset

/-- A conversion from an asset of the path to the target. -/
structure Converts (r : AssetPath) (d : AssetConversionReadinessDecision) : Prop where
  given : r.conversion_decision = some d ∨ r.valuation_decision = some (.conversion d)
  ready : d.ready = true
  target : ∃ asset, r.target = some asset ∧ d.to_asset = some asset
  source : ∃ asset ∈ [r.pnl_asset, r.settlement_asset, r.collateral_asset],
    asset ≠ none ∧ d.from_asset = asset

structure Grounded (r : AssetPath) (d : ObjectiveAssetReadinessDecision) : Prop where
  adjusted : d.ready = true → r.policy.collateral_adjustment_required = true →
    ∃ c ∈ r.collateral_valuation_decision, ValuesCollateral r c
  direct : d.ready = true → d.compatibility = .DIRECT_MATCH →
    ∃ asset, r.target = some asset ∧
      some asset ∈ [r.pnl_asset, r.settlement_asset, r.collateral_asset]
  evidence : d.ready = true → d.compatibility ≠ .DIRECT_MATCH →
    (∃ c, Converts r c) ∨ ∃ c ∈ r.collateral_valuation_decision, ValuesCollateral r c

/-- The path is ready by itself, and the valuation that it is adjusted by is of another asset. -/
structure Misvalued (r : AssetPath) : Prop where
  admitted : r.Admitted
  asked : r.policy.collateral_adjustment_required = true
  path : r.DirectMatch ∨ r.ConversionMade
  other : ¬ ∃ c ∈ r.collateral_valuation_decision, ValuesCollateral r c

theorem CollateralValued.values (h : r.CollateralValued) :
    ∃ c ∈ r.collateral_valuation_decision, ValuesCollateral r c := by
  obtain ⟨-, -, -, c, hc, hsupports⟩ := h
  rw [AssetPath.collateralValuationSupportsPolicy] at hsupports
  simp only [Bool.and_eq_true, decide_eq_true_eq] at hsupports
  obtain ⟨⟨⟨hready, hcollateral⟩, hreference⟩, -⟩ := hsupports
  refine ⟨c, hc, hready, hcollateral, fun asset hasset => ?_⟩
  rw [hreference] at hasset
  exact Option.some.inj hasset

theorem mem_typed {d : AssetConversionReadinessDecision} (h : d ∈ r.typedConversionDecision) :
    r.conversion_decision = some d ∨ r.valuation_decision = some (.conversion d) := by
  rw [AssetPath.typedConversionDecision.eq_def] at h
  split at h
  · next d' heq =>
    cases h
    exact .inl heq
  · next heq =>
    cases h
    exact .inr heq
  · cases h

theorem mem_sources {asset : AssetSymbol} (h : asset ∈ r.sources) :
    some asset ∈ [r.pnl_asset, r.settlement_asset, r.collateral_asset] := by
  rw [AssetPath.sources] at h
  have hall : ∀ assets : List (Option AssetSymbol), asset ∈ assetTuple assets →
      some asset ∈ assets := by
    intro assets hmem
    obtain ⟨a, ha, rfl⟩ := List.mem_filterMap.mp hmem
    exact ha
  cases hkind : r.policy.policy_kind with
  | ACCUMULATE_ASSET =>
    rw [hkind] at h
    exact List.mem_append_left [r.collateral_asset] (hall _ h)
  | MAXIMIZE_REFERENCE_VALUE =>
    rw [hkind] at h
    exact hall _ h
  | PRESERVE_COLLATERAL_ASSET =>
    rw [hkind] at h
    exact List.mem_append_left [r.collateral_asset] (hall _ h)
  | MATCH_SETTLEMENT_ASSET =>
    rw [hkind] at h
    exact List.mem_append_left [r.settlement_asset, r.collateral_asset] (hall _ h)
  | UNKNOWN =>
    rw [hkind] at h
    exact absurd h List.not_mem_nil

theorem ConversionMade.converts (h : r.ConversionMade) : ∃ d, Converts r d := by
  obtain ⟨-, d, hd, asset, htarget, hsupports⟩ := h
  rw [conversionDecisionSupportsPath] at hsupports
  simp only [Bool.and_eq_true, decide_eq_true_eq, List.any_eq_true] at hsupports
  obtain ⟨⟨hready, hto⟩, source, hsource, hfrom⟩ := hsupports
  exact ⟨d, mem_typed hd, hready, ⟨asset, htarget, hto⟩, some source, mem_sources hsource,
    Option.some_ne_none source, hfrom⟩

theorem DirectMatch.target_given (h : r.DirectMatch) :
    ∃ asset, r.target = some asset ∧
      some asset ∈ [r.pnl_asset, r.settlement_asset, r.collateral_asset] := by
  obtain ⟨-, asset, htarget, hmem⟩ := h
  refine ⟨asset, htarget, ?_⟩
  rw [AssetPath.directAssets] at hmem
  cases hkind : r.policy.policy_kind with
  | ACCUMULATE_ASSET =>
    rw [hkind] at hmem
    exact List.mem_append_left [r.collateral_asset] hmem
  | MAXIMIZE_REFERENCE_VALUE =>
    rw [hkind] at hmem
    exact List.mem_append_left [r.collateral_asset] hmem
  | PRESERVE_COLLATERAL_ASSET =>
    rw [hkind] at hmem
    exact hmem
  | MATCH_SETTLEMENT_ASSET =>
    rw [hkind] at hmem
    exact List.mem_append_left [r.settlement_asset, r.collateral_asset] hmem
  | UNKNOWN =>
    rw [hkind] at hmem
    exact absurd hmem List.not_mem_nil

/-- A decision is grounded unless it is adjusted by the valuation of another asset. -/
theorem grounded_iff {digests : ObjectiveDigests} {checked_at : DateTime}
    {d : ObjectiveAssetReadinessDecision}
    (h : decision digests r checked_at r.verdict = .ok d) : Grounded r d ↔ ¬ Misvalued r := by
  obtain ⟨hready, hcompatibility⟩ := decision_eq_ok h
  constructor
  · rintro hgrounded ⟨hadmitted, hasked, hpath, hother⟩
    have hverdict : r.verdict.ready = true := by
      rw [(verdict_of_admitted hadmitted).ready]
      exact hpath.imp_right .inl
    exact hother (hgrounded.adjusted (hready.trans hverdict) hasked)
  · intro hnot
    have hspec (hd : d.ready = true) : r.Admitted ∧ Evaluated r r.verdict := by
      have hadmitted := admitted_of_ready (hready ▸ hd)
      exact ⟨hadmitted, verdict_of_admitted hadmitted⟩
    refine ⟨fun hd hasked => ?_, fun hd hdirect => ?_, fun hd hdirect => ?_⟩
    · obtain ⟨hadmitted, hevaluated⟩ := hspec hd
      by_contra hother
      rcases hevaluated.ready.mp (hready ▸ hd) with hmatch | hmade | hvalued
      · exact hnot ⟨hadmitted, hasked, .inl hmatch, hother⟩
      · exact hnot ⟨hadmitted, hasked, .inr hmade, hother⟩
      · exact hother (CollateralValued.values hvalued)
    · obtain ⟨-, hevaluated⟩ := hspec hd
      have hmatch := (hevaluated.direct (hready ▸ hd)).mp (hcompatibility ▸ hdirect)
      exact DirectMatch.target_given hmatch
    · obtain ⟨-, hevaluated⟩ := hspec hd
      rcases hevaluated.ready.mp (hready ▸ hd) with hmatch | hmade | hvalued
      · have hcompat := (hevaluated.direct (hready ▸ hd)).mpr hmatch
        exact absurd (hcompatibility.trans hcompat) hdirect
      · exact .inl (ConversionMade.converts hmade)
      · exact .inr (CollateralValued.values hvalued)

/-- A request ends in a grounded decision exactly when its texts are symbols and an id, and a path
that is ready by itself is not adjusted by the valuation of another asset. -/
theorem objective_readiness_grounded_iff (digests : ObjectiveDigests) (q : ObjectiveRequest) :
    (∃ r d, q.path = .ok r ∧ evaluateObjectiveAssetReadiness digests q = .ok d ∧ Grounded r d) ↔
      (AssetNamed q.pnl_asset ∧ AssetNamed q.settlement_asset ∧ AssetNamed q.collateral_asset) ∧
        ValuationNamed q.valuation_decision ∧ ∀ r, q.path = .ok r → ¬ Misvalued r := by
  constructor
  · rintro ⟨r, d, hpath, hdecision, hgrounded⟩
    rw [evaluateObjectiveAssetReadiness, hpath] at hdecision
    refine ⟨path_total.mp ⟨r, hpath⟩, ?_, fun r' hpath' => ?_⟩
    · rw [← path_valuation hpath]
      exact (decision_total (verdict_valid r)).mp ⟨d, hdecision⟩
    · rw [hpath] at hpath'
      cases hpath'
      exact (grounded_iff hdecision).mp hgrounded
  · rintro ⟨hassets, hvaluation, hvalued⟩
    obtain ⟨r, hpath⟩ := path_total.mpr hassets
    rw [← path_valuation hpath] at hvaluation
    obtain ⟨d, hdecision⟩ :=
      (@decision_total r digests q.checked_at _ (verdict_valid r)).mpr hvaluation
    refine ⟨r, d, hpath, ?_, (grounded_iff hdecision).mpr (hvalued r hpath)⟩
    rw [evaluateObjectiveAssetReadiness, hpath]
    exact hdecision

/-! A path that is adjusted by the valuation of another asset. -/

def btc : AssetSymbol := .ofText "BTC" (AssetSymbol.checked evaluates)

def usd : AssetSymbol := .ofText "USD" (AssetSymbol.checked evaluates)

def eth : AssetSymbol := .ofText "ETH" (AssetSymbol.checked evaluates)

def btcValuation : CollateralValuationReadinessDecision where
  collateral_asset := btc
  reference_asset := usd
  ready := true
  reason := .READY
  valuation_snapshot := none
  haircut_rule := none
  eligibility_rule := none
  checked_at := Conversion.midnight
  effective_value_multiplier := none
  details := []
  valid := by decide

def adjustedAccumulation : ObjectiveAssetPolicy where
  policy_kind := .ACCUMULATE_ASSET
  objective_asset := some btc
  reference_asset := none
  measurement_mode := .COLLATERAL_ADJUSTED_REFERENCE_VALUE
  valuation_required := false
  conversion_required := false
  collateral_adjustment_required := true
  allow_direct_asset_match := true
  allow_reference_asset_measurement := false
  allow_collateral_adjusted_measurement := false
  metadata := []
  has_objective := nofun
  has_reference := nofun
  has_adjustment := fun _ => rfl

/-- The collateral is in one asset, and its valuation is of another. -/
def otherCollateral : ObjectiveRequest where
  policy := adjustedAccumulation
  checked_at := Conversion.midnight
  pnl_asset := some (.text "BTC")
  settlement_asset := none
  collateral_asset := some (.text "ETH")
  valuation_decision := none
  conversion_decision := none
  collateral_valuation_decision := some btcValuation

def sampleDigests : ObjectiveDigests where
  policy _ := Conversion.sampleDigest
  conversion := Conversion.sampleConversionDigests
  collateral _ := Conversion.sampleDigest

/-- Its path, with the texts read as symbols. -/
def otherCollateralPath : AssetPath where
  policy := adjustedAccumulation
  pnl_asset := some btc
  settlement_asset := none
  collateral_asset := some eth
  valuation_decision := none
  conversion_decision := none
  collateral_valuation_decision := some btcValuation

theorem otherCollateral_path : otherCollateral.path = .ok otherCollateralPath := rfl

/-- The decision is ready, and no valuation of its collateral is given. -/
theorem adjusted_by_other_collateral :
    ((evaluateObjectiveAssetReadiness sampleDigests otherCollateral).toOption.map fun d =>
        (d.ready, d.collateral_asset)) = some (true, some eth) ∧
      otherCollateral.policy.collateral_adjustment_required = true ∧
      ∀ c ∈ otherCollateral.collateral_valuation_decision, c.collateral_asset ≠ eth := by
  refine ⟨?_, rfl, ?_⟩
  · obtain ⟨d, hd⟩ := (@decision_total otherCollateralPath sampleDigests otherCollateral.checked_at
      _ (verdict_valid otherCollateralPath)).mpr trivial
    have hready : d.ready = true := (decision_eq_ok hd).1.trans (by decide)
    have hcollateral : d.collateral_asset = some eth := by
      obtain ⟨id, -, h⟩ := bind_eq_ok.mp hd
      obtain ⟨-, rfl⟩ := validated_eq_ok.mp h
      rfl
    have hevaluated : evaluateObjectiveAssetReadiness sampleDigests otherCollateral = .ok d := by
      rw [evaluateObjectiveAssetReadiness, otherCollateral_path]
      exact hd
    rw [hevaluated]
    simp only [Except.toOption, Option.map_some, hready, hcollateral]
  · rintro c ⟨⟩
    decide

end FuturesBot.Objective
