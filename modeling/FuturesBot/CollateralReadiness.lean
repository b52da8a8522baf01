import FuturesBot.CollateralSoundness
import FuturesBot.DictsOfLists

/-! The readiness of a contract's asset semantics with the collateral decisions given for it: what
it owes to the order of the decisions, and which decisions it lets through. -/
namespace FuturesBot.Collateral

open JsonText (Json)
open Dicts Assets

abbrev Decision := CollateralValuationReadinessDecision

/-- `str(decision.collateral_asset)`. -/
def decisionKey (d : Decision) : String := d.collateral_asset.value

abbrev DecisionsByAsset : Type := KeyedDict decisionKey

def decisionsByAsset (decisions : List Decision) : DecisionsByAsset :=
  KeyedDict.ofList decisionKey decisions

/-- The decision is ready, with its value in the reference asset of the semantics. -/
def valued (s : ContractAssetSemantics) (d : Decision) : Bool :=
  d.ready && decide (d.reason = .READY) &&
    decide (d.reference_asset.value = (assetKey s.valuation_reference_asset).value)

def collateralValuationReady (s : ContractAssetSemantics) (decisions : List Decision) : Bool :=
  s.collateral_assets.all fun asset =>
    match (decisionsByAsset decisions).get? (assetKey asset).value with
    | none => false
    | some d => valued s d

def collateralHaircutsReady (s : ContractAssetSemantics) (decisions : List Decision) : Bool :=
  collateralValuationReady s decisions &&
    s.collateral_assets.all fun asset =>
      match (decisionsByAsset decisions).get? (assetKey asset).value with
      | none => false
      | some d => d.haircut_rule.isSome

def readinessReasonForSemanticShape (s : ContractAssetSemantics) :
    AssetSemanticsReadinessReason :=
  firstReason .READY
    [((allSemanticAssets s).any fun asset => asset.asset_class = .UNKNOWN, .ASSET_MISSING),
      (s.payoff_kind = .UNKNOWN, .PAYOFF_KIND_UNKNOWN),
      (s.collateral_mode = .UNKNOWN, .COLLATERAL_MODE_UNKNOWN),
      (s.settlement_mode = .UNKNOWN, .SETTLEMENT_MODE_UNKNOWN)]

def readinessReasonWithCollateralDecisions (s : ContractAssetSemantics)
    (decisions : List Decision) : AssetSemanticsReadinessReason :=
  if readinessReasonForSemanticShape s ≠ .READY then readinessReasonForSemanticShape s
  else if s.requires_collateral_valuation && !collateralValuationReady s decisions then
    .VALUATION_REQUIRED
  else if s.requires_haircut_rules && !collateralHaircutsReady s decisions then
    .HAIRCUT_RULES_REQUIRED
  else if s.requires_conversion_rules then .CONVERSION_RULES_REQUIRED
  else if objectiveValuationIsMissing s then .OBJECTIVE_ASSET_VALUATION_REQUIRED
  else .READY

/-- The evaluation, with the ids that the decisions carry. -/
def validateContractAssetSemanticsCollateralReadiness (decision_id : Decision → DomainId)
    (s : ContractAssetSemantics) :
    Option (List Decision) → ContractAssetSemanticsReadinessDecision
  | none => validateContractAssetSemanticsReadiness s
  | some decisions => {
      ready := readinessReasonWithCollateralDecisions s decisions = .READY
      reason := readinessReasonWithCollateralDecisions s decisions
      valuation_requirements := valuationRequirements s
      details := .obj [("venue_id", .str s.venue_id.value),
        ("instrument_id", .str s.instrument_id.value),
        ("payoff_kind", .str s.payoff_kind.value),
        ("collateral_mode", .str s.collateral_mode.value),
        ("settlement_mode", .str s.settlement_mode.value),
        ("collateral_decision_ids",
          .arr (decisions.map fun d => .str (decision_id d).value))]
      ready_iff := decide_eq_true_iff }

/-! What the evaluation asks of the decisions. -/

def collateralKeys (s : ContractAssetSemantics) : List String :=
  s.collateral_assets.map fun asset => (assetKey asset).value

/-- A decision that is valued and comes with its haircut rule. -/
def valuedWithHaircut (s : ContractAssetSemantics) (d : Decision) : Bool :=
  valued s d && d.haircut_rule.isSome

variable {s : ContractAssetSemantics} {decisions : List Decision}

theorem collateralValuationReady_iff : collateralValuationReady s decisions = true ↔
    KeyedDict.AllPass (valued s) (collateralKeys s) (decisionsByAsset decisions) := by
  simp only [collateralValuationReady, List.all_eq_true, KeyedDict.AllPass, collateralKeys,
    List.forall_mem_map]
  refine forall₂_congr fun asset _ => ?_
  cases (decisionsByAsset decisions).get? (assetKey asset).value <;> simp

theorem collateralHaircutsReady_iff : collateralHaircutsReady s decisions = true ↔
    KeyedDict.AllPass (valuedWithHaircut s) (collateralKeys s) (decisionsByAsset decisions) := by
  rw [collateralHaircutsReady, Bool.and_eq_true]
  simp only [collateralValuationReady, List.all_eq_true, KeyedDict.AllPass, collateralKeys,
    List.forall_mem_map, ← forall₂_and]
  refine forall₂_congr fun asset _ => ?_
  cases (decisionsByAsset decisions).get? (assetKey asset).value <;>
    simp [valuedWithHaircut]

/-- The reason, by the two questions that the decisions answer. -/
theorem readinessReason_cases (decisions : List Decision)
    (hshape : readinessReasonForSemanticShape s = .READY) :
    (readinessReasonWithCollateralDecisions s decisions = .VALUATION_REQUIRED ↔
      s.requires_collateral_valuation = true ∧ collateralValuationReady s decisions = false) ∧
    (readinessReasonWithCollateralDecisions s decisions = .HAIRCUT_RULES_REQUIRED ↔
      ¬ (s.requires_collateral_valuation = true ∧ collateralValuationReady s decisions = false) ∧
        s.requires_haircut_rules = true ∧ collateralHaircutsReady s decisions = false) := by
  rw [readinessReasonWithCollateralDecisions, if_neg (not_not.mpr hshape)]
  cases s.requires_collateral_valuation <;> cases collateralValuationReady s decisions <;>
    cases s.requires_haircut_rules <;> cases collateralHaircutsReady s decisions <;>
    simp <;> split_ifs <;> simp

theorem allPass_haircut_valued {d : DecisionsByAsset}
    (h : KeyedDict.AllPass (valuedWithHaircut s) (collateralKeys s) d) :
    KeyedDict.AllPass (valued s) (collateralKeys s) d := by
  intro k hk
  obtain ⟨v, hv, hp⟩ := h k hk
  rw [valuedWithHaircut, Bool.and_eq_true] at hp
  exact ⟨v, hv, hp.1⟩

/-- What the flags make the verdict depend on is uniform for every asset used as collateral. -/
def DecisionsUniform (s : ContractAssetSemantics) (decisions : List Decision) : Prop :=
  (s.requires_collateral_valuation = true →
    KeyedDict.Uniform decisionKey (valued s) (collateralKeys s) decisions) ∧
  (s.requires_haircut_rules = true →
    KeyedDict.Uniform decisionKey (valuedWithHaircut s) (collateralKeys s) decisions)

theorem reason_perm_iff (hshape : readinessReasonForSemanticShape s = .READY) :
    (∀ ws, ws.Perm decisions → readinessReasonWithCollateralDecisions s ws =
      readinessReasonWithCollateralDecisions s decisions) ↔ DecisionsUniform s decisions := by
  constructor
  · intro h
    have hvaluation : s.requires_collateral_valuation = true → ∀ ws, ws.Perm decisions →
        collateralValuationReady s ws = collateralValuationReady s decisions := by
      intro hrequired ws hperm
      have hws := (readinessReason_cases ws hshape).1
      have hds := (readinessReason_cases decisions hshape).1
      rw [h ws hperm, hds] at hws
      simp only [hrequired, true_and] at hws
      cases hw : collateralValuationReady s ws <;>
        cases hd : collateralValuationReady s decisions <;> simp_all
    refine ⟨fun hrequired => ?_, fun hrequired => ?_⟩
    · refine KeyedDict.allPass_perm_iff.mp fun ws hperm => ?_
      have heq := hvaluation hrequired ws hperm
      rw [← decisionsByAsset, ← decisionsByAsset, ← collateralValuationReady_iff,
        ← collateralValuationReady_iff, heq]
    · refine KeyedDict.allPass_perm_iff.mp fun ws hperm => ?_
      rw [← decisionsByAsset, ← decisionsByAsset]
      have hsame : (s.requires_collateral_valuation = true ∧ collateralValuationReady s ws = false) ↔
          (s.requires_collateral_valuation = true ∧
            collateralValuationReady s decisions = false) :=
        and_congr_right fun hvalued => by rw [hvaluation hvalued ws hperm]
      by_cases hblocked : s.requires_collateral_valuation = true ∧
          collateralValuationReady s decisions = false
      · -- the valuation fails in every order, and the haircuts with it
        refine iff_of_false (fun hall => ?_) fun hall => ?_
        · have hready := collateralValuationReady_iff.mpr (allPass_haircut_valued hall)
          rw [(hsame.mpr hblocked).2] at hready
          cases hready
        · have hready := collateralValuationReady_iff.mpr (allPass_haircut_valued hall)
          rw [hblocked.2] at hready
          cases hready
      · have hws := (readinessReason_cases ws hshape).2
        have hds := (readinessReason_cases decisions hshape).2
        rw [h ws hperm, hds, hsame] at hws
        rw [← collateralHaircutsReady_iff, ← collateralHaircutsReady_iff]
        simp only [hblocked, not_false_eq_true, hrequired, true_and] at hws
        cases hw : collateralHaircutsReady s ws <;>
          cases hd : collateralHaircutsReady s decisions <;> simp_all
  · rintro ⟨hvaluation, hhaircut⟩ ws hperm
    have hvalued : (s.requires_collateral_valuation && !collateralValuationReady s ws) =
        (s.requires_collateral_valuation && !collateralValuationReady s decisions) := by
      cases hrequired : s.requires_collateral_valuation with
      | false => rfl
      | true =>
        have hiff := KeyedDict.allPass_perm_iff.mpr (hvaluation hrequired) ws hperm
        rw [← decisionsByAsset, ← decisionsByAsset, ← collateralValuationReady_iff,
          ← collateralValuationReady_iff] at hiff
        rw [Bool.eq_iff_iff.mpr hiff]
    have hcut : (s.requires_haircut_rules && !collateralHaircutsReady s ws) =
        (s.requires_haircut_rules && !collateralHaircutsReady s decisions) := by
      cases hrequired : s.requires_haircut_rules with
      | false => rfl
      | true =>
        have hiff := KeyedDict.allPass_perm_iff.mpr (hhaircut hrequired) ws hperm
        rw [← decisionsByAsset, ← decisionsByAsset, ← collateralHaircutsReady_iff,
          ← collateralHaircutsReady_iff] at hiff
        rw [Bool.eq_iff_iff.mpr hiff]
    rw [readinessReasonWithCollateralDecisions, readinessReasonWithCollateralDecisions, hvalued,
      hcut]

theorem reason_shape (hshape : readinessReasonForSemanticShape s ≠ .READY) :
    readinessReasonWithCollateralDecisions s decisions = readinessReasonForSemanticShape s := by
  rw [readinessReasonWithCollateralDecisions, if_pos hshape]

/-- A semantics that is ready and asks for the value of its collateral has a ready decision as the
last of every asset used as collateral. -/
theorem ready_valued (hready : readinessReasonWithCollateralDecisions s decisions = .READY)
    (hrequired : s.requires_collateral_valuation = true ∨ s.requires_haircut_rules = true) :
    KeyedDict.AllPass (valued s) (collateralKeys s) (decisionsByAsset decisions) := by
  have hshape : readinessReasonForSemanticShape s = .READY := by
    by_contra hshape
    exact hshape ((reason_shape hshape).symm.trans hready)
  obtain ⟨hvaluation, hhaircut⟩ := readinessReason_cases decisions hshape
  rw [hready] at hvaluation hhaircut
  have hnot := mt hvaluation.mpr (by decide)
  have hnot' := mt hhaircut.mpr (by decide)
  rcases hrequired with hrequired | hrequired
  · rw [← collateralValuationReady_iff]
    by_contra hfalse
    exact hnot ⟨hrequired, by simpa using hfalse⟩
  · refine allPass_haircut_valued (collateralHaircutsReady_iff.mp ?_)
    by_contra hfalse
    exact hnot' ⟨hnot, hrequired, by simpa using hfalse⟩

/-- The readiness with collateral decisions does not depend on their order exactly when the shape
of the semantics settles it, or what the flags ask for is uniform for the assets used as
collateral. Where the value of the collateral is asked for and the decisions for one asset agree on
being ready, a ready semantics has no decision for its collateral that is not. -/
theorem collateral_readiness_order (decision_id : Decision → DomainId)
    (s : ContractAssetSemantics) (decisions : List Decision) :
    ((∀ ws, ws.Perm decisions →
        (validateContractAssetSemanticsCollateralReadiness decision_id s (some ws)).reason =
          (validateContractAssetSemanticsCollateralReadiness decision_id s
            (some decisions)).reason) ↔
      readinessReasonForSemanticShape s ≠ .READY ∨ DecisionsUniform s decisions) ∧
    ((s.requires_collateral_valuation = true ∨ s.requires_haircut_rules = true) →
      (∀ d ∈ decisions, ∀ e ∈ decisions, decisionKey d = decisionKey e →
        decisionKey d ∈ collateralKeys s → d.ready = e.ready) →
      (validateContractAssetSemanticsCollateralReadiness decision_id s (some decisions)).ready =
        true → ∀ d ∈ decisions, decisionKey d ∈ collateralKeys s → d.ready = true) := by
  refine ⟨?_, fun hrequired hagree hready d hd hkey => ?_⟩
  · change (∀ ws, ws.Perm decisions → readinessReasonWithCollateralDecisions s ws =
      readinessReasonWithCollateralDecisions s decisions) ↔ _
    by_cases hshape : readinessReasonForSemanticShape s = .READY
    · rw [reason_perm_iff hshape]
      exact ⟨.inr, fun h => h.resolve_left (not_not.mpr hshape)⟩
    · refine iff_of_true (fun ws _ => ?_) (.inl hshape)
      rw [reason_shape hshape, reason_shape hshape]
  · have hreason : readinessReasonWithCollateralDecisions s decisions = .READY :=
      decide_eq_true_iff.mp hready
    obtain ⟨last, hlast, hvalued⟩ := ready_valued hreason hrequired (decisionKey d) hkey
    obtain ⟨hmem, hlastKey⟩ := KeyedDict.mem_of_get?_ofList hlast
    -- the decision agrees with the last one for its asset
    rw [hagree d hd last hmem hlastKey.symm hkey]
    simp only [valued, Bool.and_eq_true] at hvalued
    exact hvalued.1.1

/-! A semantics whose collateral is ETH, and two decisions for it that differ. -/

def sampleAsset (symbol : String) (h : TextLines.Trimmed symbol.toList) : AssetDescriptor where
  symbol := ⟨symbol, h⟩
  asset_class := .CRYPTO
  venue_id := none
  canonical_symbol := none
  metadata := .obj []

def sampleSemantics : ContractAssetSemantics where
  venue_id := ⟨"BINANCE", .checked evaluates⟩
  instrument_id := ⟨"ETHUSD-PERP", by decide⟩
  base_asset := sampleAsset "ETH" (by decide)
  quote_asset := sampleAsset "USD" (by decide)
  margin_asset := sampleAsset "ETH" (by decide)
  settlement_asset := sampleAsset "ETH" (by decide)
  pnl_asset := sampleAsset "USD" (by decide)
  fee_asset := none
  funding_asset := none
  depth_reference_asset := none
  collateral_assets := [sampleAsset "ETH" (by decide)]
  valuation_reference_asset := sampleAsset "USD" (by decide)
  objective_asset := none
  payoff_kind := .LINEAR
  collateral_mode := .SINGLE_ASSET
  settlement_mode := .SINGLE_ASSET
  contract_size := none
  contract_value_asset := none
  requires_collateral_valuation := true
  requires_haircut_rules := false
  requires_conversion_rules := false
  requires_objective_valuation := false
  requires_margin_rules := false
  requires_liquidation_rules := false
  requires_fee_rules := false
  requires_funding_rules := false
  requires_depth_rules := false
  requires_market_data_rules := false
  requires_order_book_depth := false
  collateral_valuation_policy_id := none
  objective_asset_policy_id := none
  margin_liquidation_policy_id := none
  execution_cost_policy_id := none
  market_data_policy_id := none
  market_data_observation_kind := none
  metadata := .obj []
  has_collateral := by simp
  has_value_asset := by simp

def sampleDecision (ready : Bool) (reason : CollateralValuationDecisionReason)
    (h : ready = true ↔ reason = .READY) : Decision where
  collateral_asset := sampleCollateral
  reference_asset := sampleReference
  ready
  reason
  valuation_snapshot := none
  haircut_rule := none
  eligibility_rule := none
  checked_at := sampleCheckedAt
  effective_value_multiplier := none
  details := []
  valid := by
    cases ready
    · simpa [DecisionFields.validate] using h
    · simpa [DecisionFields.validate] using h

def acceptedForEth : Decision := sampleDecision true .READY (by decide)

def refusedForEth : Decision := sampleDecision false .VALUATION_MISSING (by decide)

/-- The verdict is that of the last decision for the asset. -/
theorem last_decision_decides :
    ¬ ∀ ws, ws.Perm [refusedForEth, acceptedForEth] →
      (validateContractAssetSemanticsCollateralReadiness (fun _ => ⟨"decision-1", by decide⟩)
          sampleSemantics (some ws)).reason =
        (validateContractAssetSemanticsCollateralReadiness (fun _ => ⟨"decision-1", by decide⟩)
          sampleSemantics (some [refusedForEth, acceptedForEth])).reason := by
  intro h
  have hswapped := h [acceptedForEth, refusedForEth] (List.Perm.swap _ _ _)
  have hrefused : (validateContractAssetSemanticsCollateralReadiness
      (fun _ => ⟨"decision-1", by decide⟩) sampleSemantics
        (some [acceptedForEth, refusedForEth])).reason = .VALUATION_REQUIRED := by
    decide +kernel
  have hready : (validateContractAssetSemanticsCollateralReadiness
      (fun _ => ⟨"decision-1", by decide⟩) sampleSemantics
        (some [refusedForEth, acceptedForEth])).reason = .READY := by
    decide +kernel
  rw [hrefused, hready] at hswapped
  cases hswapped

end FuturesBot.Collateral
