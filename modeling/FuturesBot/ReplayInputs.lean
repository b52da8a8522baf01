import FuturesBot.Checks
import FuturesBot.Dicts
import FuturesBot.DomainValues
import FuturesBot.KeySorting
import Mathlib.Data.Prod.Lex
import Mathlib.Data.String.Basic

/-! Replay inputs: records of one window, gathered in batches that are ordered by their policy. -/
namespace FuturesBot

open TextLines DateTimes Dicts KeySorting Checks

def TrimmedText.of (value : String) : Option TrimmedText :=
  if h : Trimmed value.toList then some ⟨value, h⟩ else none

theorem TrimmedText.of_value (t : TrimmedText) : TrimmedText.of t.value = some t :=
  dif_pos t.trimmed

namespace Replay

inductive ReplayInputKind where
  | OHLCV_BAR
  | MARK_PRICE
  | INDEX_PRICE
  | FUNDING_RATE
  | OPEN_INTEREST
  | LIQUIDATION
  | ORDER_BOOK_TOP
  | TRADE
  | SYNTHETIC_EVENT
  | OTHER
  deriving DecidableEq, Repr

def ReplayInputKind.value : ReplayInputKind → String
  | .OHLCV_BAR => "OHLCV_BAR"
  | .MARK_PRICE => "MARK_PRICE"
  | .INDEX_PRICE => "INDEX_PRICE"
  | .FUNDING_RATE => "FUNDING_RATE"
  | .OPEN_INTEREST => "OPEN_INTEREST"
  | .LIQUIDATION => "LIQUIDATION"
  | .ORDER_BOOK_TOP => "ORDER_BOOK_TOP"
  | .TRADE => "TRADE"
  | .SYNTHETIC_EVENT => "SYNTHETIC_EVENT"
  | .OTHER => "OTHER"

inductive ReplayOrderingPolicy where
  | EVENT_TIME_THEN_SEQUENCE
  | EVENT_TIME_THEN_KIND_THEN_SEQUENCE
  | SOURCE_ORDER
  | OTHER
  deriving DecidableEq, Repr

/-- The policies that order by the event time. -/
def ReplayOrderingPolicy.timeBased : ReplayOrderingPolicy → Bool
  | .EVENT_TIME_THEN_SEQUENCE => true
  | .EVENT_TIME_THEN_KIND_THEN_SEQUENCE => true
  | .SOURCE_ORDER => false
  | .OTHER => false

inductive ReplayInputValidationStatus where
  | PLANNED
  | VALIDATED
  | REJECTED
  | INVALIDATED
  deriving DecidableEq, Repr

inductive TemporalWindowKind where
  | TRAIN
  | VALIDATION
  | TEST
  | FINAL_HOLDOUT
  | REPLAY
  | PAPER
  | SHADOW
  | LIVE
  deriving DecidableEq, Repr

structure TemporalWindow where
  kind : TemporalWindowKind
  start_at : DateTime
  end_at : DateTime
  label : Option TrimmedText
  window_id : Option TrimmedText
  fold_id : Option TrimmedText
  sequence_index : Option ℕ
  ordered : start_at < end_at
  deriving DecidableEq

/-- The window holds its start, and not its end. -/
def TemporalWindow.Contains (w : TemporalWindow) (t : DateTime) : Prop :=
  ¬ (t < w.start_at ∨ w.end_at ≤ t)

instance (w : TemporalWindow) (t : DateTime) : Decidable (w.Contains t) :=
  inferInstanceAs (Decidable (¬ _))

structure ReplayInstrumentRef where
  venue : TrimmedText
  symbol : TrimmedText
  market_type : TrimmedText
  settlement_asset : AssetSymbol
  quote_asset : Option AssetSymbol
  collateral_asset : Option AssetSymbol
  pnl_asset : Option AssetSymbol
  base_asset : Option TrimmedText
  deriving DecidableEq

/-- A record without its payload, which no timeline reads. -/
structure ReplayInputRecord where
  record_id : TrimmedText
  kind : ReplayInputKind
  instrument : ReplayInstrumentRef
  event_time : DateTime
  source_sequence : ℕ
  content_hash : Option TrimmedText
  deriving DecidableEq

/-! Keys are compared in turn; times are compared as instants. -/

abbrev TimeSequence := ℕ ×ₗ ℕ

abbrev TimeKindSequence := ℕ ×ₗ (String ×ₗ ℕ)

def eventTimeSequenceKey (record : ReplayInputRecord) : TimeSequence :=
  toLex (record.event_time.micros, record.source_sequence)

def eventTimeKindSequenceKey (record : ReplayInputRecord) : TimeKindSequence :=
  toLex (record.event_time.micros, toLex (record.kind.value, record.source_sequence))

def validateRecordOrdering (records : List ReplayInputRecord) : ReplayOrderingPolicy → Prop
  | .EVENT_TIME_THEN_SEQUENCE => sortBy eventTimeSequenceKey records = records
  | .EVENT_TIME_THEN_KIND_THEN_SEQUENCE => sortBy eventTimeKindSequenceKey records = records
  | .SOURCE_ORDER => True
  | .OTHER => True

structure ReplayInputBatch where
  batch_id : TrimmedText
  replay_plan_id : TrimmedText
  input_dataset_id : TrimmedText
  temporal_window : TemporalWindow
  ordering_policy : ReplayOrderingPolicy
  records : List ReplayInputRecord
  created_at : DateTime
  validation_status : ReplayInputValidationStatus
  notes : Option TrimmedText
  nonempty : records = [] → validation_status = .PLANNED
  unique_ids : (records.map (·.record_id)).Nodup
  in_window : ∀ r ∈ records, temporal_window.Contains r.event_time
  ordered : validateRecordOrdering records ordering_policy

abbrev InMemoryReplayInputBatchStore :=
  KeyedDict fun batch : ReplayInputBatch => batch.batch_id.value

/-- A replay plan, with what a timeline is checked against. -/
structure ReplayPlan where
  replay_plan_id : TrimmedText
  temporal_windows : List TemporalWindow

abbrev InMemoryReplayPlanStore := KeyedDict fun plan : ReplayPlan => plan.replay_plan_id.value

end Replay

end FuturesBot
