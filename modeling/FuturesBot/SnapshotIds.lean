import FuturesBot.CollateralValuation
import FuturesBot.ConversionSoundness
import FuturesBot.MarginLiquidation
import FuturesBot.ModelDumps
import FuturesBot.ReplayStateMachine

/-! The evidence snapshots as models with an id made of their content: conversion rates, collateral
valuations, and margin and liquidation rules. When two of them have one id. -/
namespace FuturesBot

open JsonText DateTimes DecimalNumbers TextLines ModelDumps
open JsonCodec (Codec text record record_readsSorted text_readsSorted)

/-! Fields. -/

/-- A text, stripped on reading. -/
def strippedText : Codec TrimmedText :=
  text.refine (fun s => if h : Trimmed (strip s.toList) then some ⟨String.ofList (strip s.toList), by
      rwa [String.toList_ofList]⟩ else none) (·.value)
    (fun t => by
      have hstrip : strip t.value.toList = t.value.toList := t.trimmed.2
      simp only [hstrip, t.trimmed, ↓reduceDIte, String.ofList_toList])

/-- `_asset_symbol`: a text, or a mapping with the text. -/
def coercedAsset : Codec AssetSymbol where
  dump := assetSymbol.dump
  load
    | .str s => assetSymbol.load (.obj [("value", .str s)])
    | v => assetSymbol.load v
  load_dump := assetSymbol.load_dump

theorem coercedAsset_readsSorted : coercedAsset.ReadsSorted := by
  have h : assetSymbol.ReadsSorted := record_readsSorted (by simpa using text_readsSorted)
  intro a
  exact h a

abbrev textField : FieldCodec TrimmedText := .plain strippedText text_readsSorted.refine

abbrev assetField : FieldCodec AssetSymbol := .plain coercedAsset coercedAsset_readsSorted

abbrev positiveField : FieldCodec PositiveDecimal :=
  FieldCodec.decimal.where_ fun d => d.positive = true

abbrev enumField {α : Type} (values : List α) (name : α → String)
    (h : ∀ a, values.find? (fun v => name v = name a) = some a) : FieldCodec α :=
  .plain (enumCodec values name h) enumCodec_readsSorted

abbrev idField : FieldCodec DomainId := .plain domainId domainId_readsSorted

abbrev hashField : FieldCodec HexDigest := .plain sha256Hex sha256Hex_readsSorted

abbrev metadataField : ModelDumps.Field := ⟨"metadata", _, .metadata, some []⟩

/-! Conversion rates. -/

namespace Conversion

def AssetConversionSourceKind.value : AssetConversionSourceKind → String
  | .MARK_PRICE => "MARK_PRICE"
  | .INDEX_PRICE => "INDEX_PRICE"
  | .ORACLE_PRICE => "ORACLE_PRICE"
  | .VENUE_ACCOUNT_PRICE => "VENUE_ACCOUNT_PRICE"
  | .MANUAL_REVIEWED_RATE => "MANUAL_REVIEWED_RATE"
  | .TEST_FIXTURE => "TEST_FIXTURE"
  | .UNKNOWN => "UNKNOWN"

def AssetConversionSourceTrust.value : AssetConversionSourceTrust → String
  | .OFFICIAL => "OFFICIAL"
  | .MANUAL_REVIEW_REQUIRED => "MANUAL_REVIEW_REQUIRED"
  | .TEST_ONLY => "TEST_ONLY"
  | .UNTRUSTED => "UNTRUSTED"
  | .UNKNOWN => "UNKNOWN"

def AssetConversionSourceHealth.value : AssetConversionSourceHealth → String
  | .HEALTHY => "HEALTHY"
  | .DEGRADED => "DEGRADED"
  | .UNAVAILABLE => "UNAVAILABLE"
  | .UNKNOWN => "UNKNOWN"

def AssetConversionEvidenceKind.value : AssetConversionEvidenceKind → String
  | .DIRECT_PAIR_RATE => "DIRECT_PAIR_RATE"
  | .INVERSE_PAIR_RATE => "INVERSE_PAIR_RATE"
  | .TRIANGULATED_RATE => "TRIANGULATED_RATE"
  | .REFERENCE_INDEX_VALUE => "REFERENCE_INDEX_VALUE"
  | .MANUAL_OFFICIAL_RATE => "MANUAL_OFFICIAL_RATE"
  | .UNKNOWN => "UNKNOWN"

def rateSnapshot : ModelKind AssetConversionRateSnapshot where
  id_name := "snapshot_id"
  head := ⟨"asset-conversion-rate:", IdHead.checked evaluates⟩
  fields := [
    required "from_asset" assetField,
    required "to_asset" assetField,
    required "rate" positiveField,
    required "observed_at" .time,
    required "captured_at" .time,
    required "source_kind" (enumField [.MARK_PRICE, .INDEX_PRICE, .ORACLE_PRICE,
      .VENUE_ACCOUNT_PRICE, .MANUAL_REVIEWED_RATE, .TEST_FIXTURE, .UNKNOWN]
      AssetConversionSourceKind.value (by intro a; cases a <;> decide)),
    required "source_trust" (enumField [.OFFICIAL, .MANUAL_REVIEW_REQUIRED, .TEST_ONLY, .UNTRUSTED,
      .UNKNOWN] AssetConversionSourceTrust.value (by intro a; cases a <;> decide)),
    required "source_health" (enumField [.HEALTHY, .DEGRADED, .UNAVAILABLE, .UNKNOWN]
      AssetConversionSourceHealth.value (by intro a; cases a <;> decide)),
    required "evidence_kind" (enumField [.DIRECT_PAIR_RATE, .INVERSE_PAIR_RATE, .TRIANGULATED_RATE,
      .REFERENCE_INDEX_VALUE, .MANUAL_OFFICIAL_RATE, .UNKNOWN] AssetConversionEvidenceKind.value
      (by intro a; cases a <;> decide)),
    nullable "bid" positiveField nofun,
    nullable "ask" positiveField nofun,
    nullable "mid" positiveField nofun,
    nullable "spread_bps" .decimal nofun,
    nullable "source_record_id" textField nofun,
    metadataField]
  apart := by decide
  toRow s := (s.from_asset, s.to_asset, s.rate, s.observed_at, s.captured_at, s.source_kind,
    s.source_trust, s.source_health, s.evidence_kind, s.bid, s.ask, s.mid, s.spread_bps,
    s.source_record_id, s.metadata, ())
  ofRow := fun (from_asset, to_asset, rate, observed_at, captured_at, source_kind, source_trust,
      source_health, evidence_kind, bid, ask, mid, spread_bps, source_record_id, metadata, _) =>
    if h : from_asset ≠ to_asset ∧ observed_at ≤ captured_at ∧
        ∀ d ∈ spread_bps, d.negative = false then
      some ⟨from_asset, to_asset, rate, observed_at, captured_at, source_kind, source_trust,
        source_health, evidence_kind, bid, ask, mid, spread_bps, source_record_id, metadata,
        h.1, h.2.1, h.2.2⟩
    else none
  ofRow_toRow s := dif_pos ⟨s.assets_differ, s.captured, s.spread_bounded⟩

end Conversion

/-! Collateral valuations. -/

namespace Collateral

def CollateralValuationSourceKind.value : CollateralValuationSourceKind → String
  | .MARK_PRICE => "MARK_PRICE"
  | .INDEX_PRICE => "INDEX_PRICE"
  | .ORACLE_PRICE => "ORACLE_PRICE"
  | .VENUE_ACCOUNT_PRICE => "VENUE_ACCOUNT_PRICE"
  | .MANUAL_REVIEWED_SNAPSHOT => "MANUAL_REVIEWED_SNAPSHOT"
  | .TEST_FIXTURE => "TEST_FIXTURE"
  | .UNKNOWN => "UNKNOWN"

def valuationSnapshot : ModelKind CollateralValuationSnapshot where
  id_name := "snapshot_id"
  head := ⟨"collateral-valuation-snapshot:", by decide⟩
  fields := [
    required "collateral_asset" assetField,
    required "reference_asset" assetField,
    required "price" positiveField,
    required "source_kind" (enumField [.MARK_PRICE, .INDEX_PRICE, .ORACLE_PRICE,
      .VENUE_ACCOUNT_PRICE, .MANUAL_REVIEWED_SNAPSHOT, .TEST_FIXTURE, .UNKNOWN]
      CollateralValuationSourceKind.value (by intro a; cases a <;> decide)),
    required "trust" (enumField [.OFFICIAL, .MANUAL_REVIEW_REQUIRED, .TEST_ONLY, .UNTRUSTED,
      .UNKNOWN] CollateralValuationTrust.value (by intro a; cases a <;> decide)),
    required "health" (enumField [.HEALTHY, .DEGRADED, .UNAVAILABLE, .UNKNOWN]
      CollateralValuationHealth.value (by intro a; cases a <;> decide)),
    required "observed_at" .time,
    required "captured_at" .time,
    nullable "source_id" idField nofun,
    nullable "source_payload_hash" hashField nofun,
    metadataField]
  apart := by decide
  toRow s := (s.collateral_asset, s.reference_asset, s.price, s.source_kind, s.trust, s.health,
    s.observed_at, s.captured_at, s.source_id, s.source_payload_hash, s.metadata, ())
  ofRow := fun (collateral_asset, reference_asset, price, source_kind, trust, health, observed_at,
      captured_at, source_id, source_payload_hash, metadata, _) =>
    if h : observed_at ≤ captured_at then
      some ⟨collateral_asset, reference_asset, price, source_kind, trust, health, observed_at,
        captured_at, source_id, source_payload_hash, metadata, h⟩
    else none
  ofRow_toRow s := dif_pos s.captured

end Collateral

/-! Margin and liquidation rules. -/

namespace MarginLiquidation

def MarginMode.all : List MarginMode := [ISOLATED, CROSS, PORTFOLIO, MULTI_ASSET, UNKNOWN]

def MarginLiquidationSourceTrust.value : MarginLiquidationSourceTrust → String
  | .OFFICIAL => "OFFICIAL"
  | .MANUAL_REVIEWED_OFFICIAL => "MANUAL_REVIEWED_OFFICIAL"
  | .TEST_ONLY => "TEST_ONLY"
  | .UNTRUSTED => "UNTRUSTED"
  | .UNKNOWN => "UNKNOWN"

def MarginLiquidationSourceHealth.value : MarginLiquidationSourceHealth → String
  | .HEALTHY => "HEALTHY"
  | .DEGRADED => "DEGRADED"
  | .STALE => "STALE"
  | .UNHEALTHY => "UNHEALTHY"
  | .UNKNOWN => "UNKNOWN"

def LiquidationModelKind.value : LiquidationModelKind → String
  | .VENUE_FORMULA => "VENUE_FORMULA"
  | .MAINTENANCE_MARGIN_MODEL => "MAINTENANCE_MARGIN_MODEL"
  | .RISK_BRACKET_MODEL => "RISK_BRACKET_MODEL"
  | .ACCOUNT_MODE_MODEL => "ACCOUNT_MODE_MODEL"
  | .NOT_PROVIDED => "NOT_PROVIDED"
  | .UNKNOWN => "UNKNOWN"

/-- The checks of the amounts and of the times. -/
def WellFormed (liquidation_fee_rate notional_floor notional_ceiling : Option Decimal)
    (observed_at captured_at : DateTime) : Prop :=
  (∀ amount ∈ [liquidation_fee_rate, notional_floor, notional_ceiling],
    ∀ d ∈ amount, d.lt ⟨false, 0, 0⟩ = false) ∧ observed_at ≤ captured_at ∧
  ∀ floor ∈ notional_floor, ∀ ceiling ∈ notional_ceiling, ceiling.lt floor = false

instance (liquidation_fee_rate notional_floor notional_ceiling : Option Decimal)
    (observed_at captured_at : DateTime) : Decidable (WellFormed liquidation_fee_rate notional_floor
      notional_ceiling observed_at captured_at) :=
  inferInstanceAs (Decidable (_ ∧ _ ∧ _))

def ruleSnapshot : ModelKind MarginLiquidationRuleSnapshot where
  id_name := "snapshot_id"
  head := ⟨"margin-liquidation-rule:", IdHead.checked evaluates⟩
  fields := [
    required "venue_id" textField,
    nullable "instrument_id" textField nofun,
    required "margin_mode" (enumField MarginMode.all MarginMode.value
      (by intro a; cases a <;> decide)),
    nullable "collateral_asset" assetField nofun,
    nullable "margin_asset" assetField nofun,
    nullable "settlement_asset" assetField nofun,
    nullable "initial_margin_rate" positiveField nofun,
    nullable "maintenance_margin_rate" positiveField nofun,
    nullable "liquidation_fee_rate" .decimal nofun,
    nullable "max_leverage" positiveField nofun,
    required "liquidation_model_kind" (enumField [.VENUE_FORMULA, .MAINTENANCE_MARGIN_MODEL,
      .RISK_BRACKET_MODEL, .ACCOUNT_MODE_MODEL, .NOT_PROVIDED, .UNKNOWN] LiquidationModelKind.value
      (by intro a; cases a <;> decide)),
    nullable "risk_tier_id" textField nofun,
    nullable "notional_floor" .decimal nofun,
    nullable "notional_ceiling" .decimal nofun,
    required "observed_at" .time,
    required "captured_at" .time,
    required "source_kind" (enumField [.VENUE_RULES, .VENUE_RISK_BRACKET, .VENUE_ACCOUNT_CONFIG,
      .MANUAL_REVIEWED_RULE, .TEST_FIXTURE, .UNKNOWN] MarginLiquidationSourceKind.value
      (by intro a; cases a <;> decide)),
    required "source_trust" (enumField [.OFFICIAL, .MANUAL_REVIEWED_OFFICIAL, .TEST_ONLY,
      .UNTRUSTED, .UNKNOWN] MarginLiquidationSourceTrust.value (by intro a; cases a <;> decide)),
    required "source_health" (enumField [.HEALTHY, .DEGRADED, .STALE, .UNHEALTHY, .UNKNOWN]
      MarginLiquidationSourceHealth.value (by intro a; cases a <;> decide)),
    nullable "source_record_id" textField nofun,
    metadataField]
  apart := by decide
  toRow s := (s.venue_id, s.instrument_id, s.margin_mode, s.collateral_asset, s.margin_asset,
    s.settlement_asset, s.initial_margin_rate, s.maintenance_margin_rate, s.liquidation_fee_rate,
    s.max_leverage, s.liquidation_model_kind, s.risk_tier_id, s.notional_floor, s.notional_ceiling,
    s.observed_at, s.captured_at, s.source_kind, s.source_trust, s.source_health,
    s.source_record_id, s.metadata, ())
  ofRow := fun (venue_id, instrument_id, margin_mode, collateral_asset, margin_asset,
      settlement_asset, initial_margin_rate, maintenance_margin_rate, liquidation_fee_rate,
      max_leverage, liquidation_model_kind, risk_tier_id, notional_floor, notional_ceiling,
      observed_at, captured_at, source_kind, source_trust, source_health, source_record_id,
      metadata, _) =>
    if h : WellFormed liquidation_fee_rate notional_floor notional_ceiling observed_at
        captured_at then
      some ⟨venue_id, instrument_id, margin_mode, collateral_asset, margin_asset, settlement_asset,
        initial_margin_rate, maintenance_margin_rate, liquidation_fee_rate, max_leverage,
        liquidation_model_kind, risk_tier_id, notional_floor, notional_ceiling, observed_at,
        captured_at, source_kind, source_trust, source_health, source_record_id, metadata, h.1,
        h.2.1, h.2.2⟩
    else none
  ofRow_toRow s := dif_pos ⟨s.amounts_nonneg, s.captured, s.notional_ordered⟩

end MarginLiquidation

/-! Ids and equality. -/

namespace ModelDumps

variable {S : Type}

/-- Two models have one id exactly when they agree in all other fields, and each of them is read
again, with the id it has, from its dump in either mode. -/
structure IdentifiedByContent (kind : ModelKind S) (env : Env) (a b : S) : Prop where
  id_eq_iff : kind.idOf env a = kind.idOf env b ↔ kind.Same a b
  python_mode : ∀ s ∈ [a, b], kind.modelValidate env (kind.modelDump env s) = some s
  json_mode : ∀ s ∈ [a, b],
    kind.modelValidate env (inMode Dumped.jsonMode (kind.modelDump env s)) = some s

theorem inMode_id (dump : Dump) : inMode id dump = dump := List.map_id dump

theorem identifiedByContent_iff (kind : ModelKind S) (env : Env) {a b : S}
    (hfree : Set.InjOn env.sha256 {kind.contentBytes a, kind.contentBytes b}) :
    IdentifiedByContent kind env a b ↔ (kind.Same a b → kind.Alike a b) := by
  have hid := kind.idOf_eq_iff env hfree
  constructor
  · intro h hsame
    have hboth := hid.mp (h.id_eq_iff.mpr hsame)
    exact hboth.2
  · intro halike
    refine ⟨?_, ?_, ?_⟩
    · rw [hid]
      exact ⟨fun h => h.1, fun h => ⟨h, halike h⟩⟩
    · intro s _
      have hread := kind.modelValidate_dump env readable_id s
      rwa [inMode_id] at hread
    · intro s _
      exact kind.modelValidate_dump env readable_jsonMode s

end ModelDumps

/-- When the ids of snapshots agree with equality: where the snapshots are equal, their numbers have
to be written with one sign and one number of places, and their metadata as one JSON value. -/
theorem snapshot_ids_agree_iff (env : Env) :
    (∀ a b : Conversion.AssetConversionRateSnapshot,
      Set.InjOn env.sha256
        {Conversion.rateSnapshot.contentBytes a, Conversion.rateSnapshot.contentBytes b} →
      (IdentifiedByContent Conversion.rateSnapshot env a b ↔
        (Conversion.rateSnapshot.Same a b → Conversion.rateSnapshot.Alike a b))) ∧
    (∀ a b : Collateral.CollateralValuationSnapshot,
      Set.InjOn env.sha256
        {Collateral.valuationSnapshot.contentBytes a, Collateral.valuationSnapshot.contentBytes b} →
      (IdentifiedByContent Collateral.valuationSnapshot env a b ↔
        (Collateral.valuationSnapshot.Same a b → Collateral.valuationSnapshot.Alike a b))) ∧
    ∀ a b : MarginLiquidation.MarginLiquidationRuleSnapshot,
      Set.InjOn env.sha256
        {MarginLiquidation.ruleSnapshot.contentBytes a,
          MarginLiquidation.ruleSnapshot.contentBytes b} →
      (IdentifiedByContent MarginLiquidation.ruleSnapshot env a b ↔
        (MarginLiquidation.ruleSnapshot.Same a b → MarginLiquidation.ruleSnapshot.Alike a b)) := by
  refine ⟨?_, ?_, ?_⟩
  · exact fun _ _ hfree => identifiedByContent_iff Conversion.rateSnapshot env hfree
  · exact fun _ _ hfree => identifiedByContent_iff Collateral.valuationSnapshot env hfree
  · exact fun _ _ hfree => identifiedByContent_iff MarginLiquidation.ruleSnapshot env hfree

namespace Conversion

/-- Snapshots of two pairs of assets are identified by their content. -/
theorem two_pairs_identified :
    IdentifiedByContent rateSnapshot Replay.sampleEnv btcUsd usdUsdt := by
  have hne : Replay.sampleEnv.sha256 (rateSnapshot.contentBytes btcUsd) ≠
      Replay.sampleEnv.sha256 (rateSnapshot.contentBytes usdUsdt) := by decide +kernel
  have hfree := Set.injOn_pair.mpr fun heq => absurd heq hne
  refine ((snapshot_ids_agree_iff Replay.sampleEnv).1 btcUsd usdUsdt hfree).mpr ?_
  intro hsame
  have hasset : btcUsd.from_asset = usdUsdt.from_asset := hsame.1
  exact absurd hasset (by decide)

/-- The rate 1.0. -/
def oneWithOnePlace : AssetConversionRateSnapshot :=
  { usdUsdt with rate := ⟨⟨false, 10, -1⟩, .refl true⟩ }

/-- The rate 1.00. -/
def oneWithTwoPlaces : AssetConversionRateSnapshot :=
  { usdUsdt with rate := ⟨⟨false, 100, -2⟩, .refl true⟩ }

theorem one_same : rateSnapshot.Same oneWithOnePlace oneWithTwoPlaces := by
  have hvalue : (⟨false, 10, -1⟩ : Decimal).value = (⟨false, 100, -2⟩ : Decimal).value := by
    norm_num [Decimal.value]
  exact ⟨rfl, rfl, hvalue, rfl, rfl, rfl, rfl, rfl, rfl, trivial, trivial, trivial, trivial,
    trivial, rfl, trivial⟩

/-- Equal snapshots of the rates 1.0 and 1.00 have two ids. -/
theorem equal_rates_two_ids :
    ¬ ∀ a b : AssetConversionRateSnapshot,
      Set.InjOn Replay.sampleEnv.sha256 {rateSnapshot.contentBytes a, rateSnapshot.contentBytes b} →
      IdentifiedByContent rateSnapshot Replay.sampleEnv a b := by
  intro h
  have hne : Replay.sampleEnv.sha256 (rateSnapshot.contentBytes oneWithOnePlace) ≠
      Replay.sampleEnv.sha256 (rateSnapshot.contentBytes oneWithTwoPlaces) := by decide +kernel
  have hfree := Set.injOn_pair.mpr fun heq => absurd heq hne
  have hagree := (h oneWithOnePlace oneWithTwoPlaces hfree).id_eq_iff
  exact hne (DomainId.ofDigest_inj.mp (hagree.mpr one_same))

end Conversion

end FuturesBot
