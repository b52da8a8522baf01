import FuturesBot.MarketData
import FuturesBot.ReplayDispatch

/-! Replay events seen as market data: what a replay dataset is bound to, the observation of an
event, and the frame that each event leaves. -/
namespace FuturesBot.Market

open JsonText (Json Text)
open TextLines DateTimes DecimalNumbers Checks Dicts KeySorting Selections
open Replay (ReplayInputKind ReplayInstrumentRef)

/-- The kinds of events that are market observations. -/
def observationKind : ReplayInputKind → Option MarketObservationKind
  | .TRADE => some .TRADE
  | .ORDER_BOOK_TOP => some .TOP_OF_BOOK
  | .MARK_PRICE => some .MARK_PRICE
  | .INDEX_PRICE => some .INDEX_PRICE
  | _ => none

inductive ReplayMarketTimestampPolicy where
  | EVENT_TIME_AS_SOURCE_AND_RECEIVED
  deriving DecidableEq, Repr

inductive ReplayMarketPayloadHashPolicy where
  | CANONICAL_REPLAY_RECORD
  | REQUIRE_SUPPLIED_SHA256
  deriving DecidableEq, Repr

structure ReplayMarketAdapterDescriptor where
  adapter_id : AsciiText
  adapter_version : AsciiText
  supported_input_kinds : List ReplayInputKind
  timestamp_policy : ReplayMarketTimestampPolicy
  payload_hash_policy : ReplayMarketPayloadHashPolicy
  nonempty : supported_input_kinds ≠ []
  unique : supported_input_kinds.Nodup
  sorted : SortedBy ReplayInputKind.value supported_input_kinds
  supported : ∀ kind ∈ supported_input_kinds, observationKind kind ≠ none
  deriving DecidableEq

/-- What a replay dataset's instrument stands for. -/
structure ReplayMarketDataBinding where
  binding_id : DomainId
  input_dataset_id : TrimmedText
  replay_instrument : ReplayInstrumentRef
  source : MarketDataSourceDescriptor
  venue_instrument : VenueInstrumentRef
  quote_semantics : QuoteSemantics
  binding_version : AsciiText
  replayed : source.source_kind = .REPLAY ∨ source.source_kind = .SYNTHETIC
  symbol : replay_instrument.symbol.value = venue_instrument.raw_symbol.value
  venue : ∀ v ∈ source.venue, v = venue_instrument.venue
  settlement : ∀ a ∈ venue_instrument.settlement_asset, a = replay_instrument.settlement_asset
  quote : ∀ a ∈ replay_instrument.quote_asset, a = venue_instrument.logical_instrument.quote_asset
  deriving DecidableEq

def assetJson (a : AssetSymbol) : Json := .obj [("value", .str a.value)]

def optionJson {α : Type} (f : α → Json) : Option α → Json
  | none => .null
  | some a => f a

/-- `replay_instrument.model_dump(mode="json")`. -/
def instrumentJson (i : ReplayInstrumentRef) : Json :=
  .obj [
    ("venue", .str i.venue.value),
    ("symbol", .str i.symbol.value),
    ("market_type", .str i.market_type.value),
    ("settlement_asset", assetJson i.settlement_asset),
    ("quote_asset", optionJson assetJson i.quote_asset),
    ("collateral_asset", optionJson assetJson i.collateral_asset),
    ("pnl_asset", optionJson assetJson i.pnl_asset),
    ("base_asset", optionJson (fun t : TrimmedText => .str t.value) i.base_asset)]

abbrev BindingKey := String ×ₗ String

def instrumentBindingKey (input_dataset_id : TrimmedText) (i : ReplayInstrumentRef) : BindingKey :=
  toLex (input_dataset_id.value, String.ofList (Replay.canonicalJson (instrumentJson i)))

def replay_market_binding_key (b : ReplayMarketDataBinding) : BindingKey :=
  instrumentBindingKey b.input_dataset_id b.replay_instrument

abbrev BindingOrder := String ×ₗ (String ×ₗ String)

def bindingOrder (b : ReplayMarketDataBinding) : BindingOrder :=
  let key := ofLex (replay_market_binding_key b)
  toLex (key.1, toLex (key.2, b.binding_id.value))

def bindingId (b : ReplayMarketDataBinding) : String := b.binding_id.value

/-- The bindings met so far, by their keys, and what their ids stand for. -/
structure BindingTables where
  by_key : KeyedDict replay_market_binding_key
  by_binding_id : KeyedDict bindingId
  by_source_id : KeyedDict sourceKey
  by_instrument_id : KeyedDict instrumentKey

def BindingTables.empty : BindingTables :=
  ⟨KeyedDict.empty, KeyedDict.empty, KeyedDict.empty, KeyedDict.empty⟩

def BindingTables.add (t : BindingTables) (b : ReplayMarketDataBinding) :
    Except MarketError BindingTables :=
  match t.by_key.get? (replay_market_binding_key b) with
  | some existing =>
    if existing ≠ b then
      .error (.check "conflicting replay market bindings share a binding key")
    else .ok t
  | none =>
    match t.by_binding_id.putEqual id b with
    | none => .error (.check "conflicting replay market bindings share a binding_id")
    | some by_binding_id =>
      match t.by_source_id.putEqual id b.source with
      | none => .error (.check "conflicting source descriptors share a source_id")
      | some by_source_id =>
        match t.by_instrument_id.putEqual id b.venue_instrument with
        | none => .error (.check "conflicting venue instruments share a venue_instrument_id")
        | some by_instrument_id =>
          .ok ⟨t.by_key.put b, by_binding_id, by_source_id, by_instrument_id⟩

def validate_replay_market_data_bindings (bindings : List ReplayMarketDataBinding) :
    Except MarketError (List ReplayMarketDataBinding) :=
  (bindings.foldlM BindingTables.add BindingTables.empty).map fun tables =>
    sortBy bindingOrder tables.by_key.values

/-- The bindings of an adapter in their canonical order. Its fingerprint is the one its other
members give, as its model checks. -/
structure ReplayMarketAdapterAuthority where
  descriptor : ReplayMarketAdapterDescriptor
  bindings : List ReplayMarketDataBinding
  nonempty : bindings ≠ []
  canonical : validate_replay_market_data_bindings bindings = .ok bindings

/-- One binding of an adapter. Its fingerprint is the one its other members give, as its model
checks. -/
structure ReplayMarketBindingAuthority where
  descriptor : ReplayMarketAdapterDescriptor
  binding : ReplayMarketDataBinding
  deriving DecidableEq

/-- What is told of a payload value: a decimal, a text, nothing, or the JSON of another value. -/
inductive PayloadItem where
  | decimal (d : Decimal)
  | text (s : String)
  | null
  | other (dumped : Json)

/-- An input record with its payload. -/
structure PayloadRecord extends Replay.ReplayInputRecord where
  payload : Dict String PayloadItem

/-- What the adapter reads of an input batch. -/
structure PayloadBatch where
  batch_id : TrimmedText
  input_dataset_id : TrimmedText
  validation_status : Replay.ReplayInputValidationStatus
  records : List PayloadRecord
  unique_ids : (records.map fun r => r.record_id).Nodup

/-! Projections. -/

/-- The observation of an event, without its id. -/
structure ObservationProjectionFields where
  timeline_id : TrimmedText
  event_id : TrimmedText
  event_order_index : ℕ
  event_time : DateTime
  batch_id : TrimmedText
  input_dataset_id : TrimmedText
  record_id : TrimmedText
  event_kind : ReplayInputKind
  binding_authority : ReplayMarketBindingAuthority
  observation : NormalizedMarketObservation
  deriving DecidableEq

/-- The frame that an event leaves, without its id. -/
structure FrameProjectionFields where
  timeline_id : TrimmedText
  event_id : TrimmedText
  event_order_index : ℕ
  event_time : DateTime
  triggering_observation_projection_id : DomainId
  triggering_observation_id : DomainId
  frame : CrossVenueMarketFrame
  deriving DecidableEq

/-- The digests of the replay models besides those of the market models. -/
structure ReplayMarketDigests extends MarketDigests where
  binding_authority : ReplayMarketBindingAuthority → HexDigest
  connection (input_dataset_id binding_authority_fingerprint binding_id source_id
    venue_instrument_id : String) : HexDigest
  raw_payload (batch_id input_dataset_id : TrimmedText) (record : PayloadRecord) : HexDigest
  observation_projection : ObservationProjectionFields → HexDigest
  frame_projection : FrameProjectionFields → HexDigest

namespace ReplayMarketDigests

variable (digests : ReplayMarketDigests)

def binding_authority_fingerprint (a : ReplayMarketBindingAuthority) : DomainId :=
  .ofDigest ⟨"replay-market-binding-authority:", by decide⟩ (digests.binding_authority a)

def observation_projection_id (p : ObservationProjectionFields) : DomainId :=
  .ofDigest ⟨"replay-market-observation-projection:", by decide⟩
    (digests.observation_projection p)

def frame_projection_id (p : FrameProjectionFields) : DomainId :=
  .ofDigest ⟨"replay-market-frame-projection:", by decide⟩ (digests.frame_projection p)

def build_replay_market_connection_id (input_dataset_id : TrimmedText)
    (a : ReplayMarketBindingAuthority) : DomainId :=
  .ofDigest ⟨"replay-market-connection:", by decide⟩ (digests.connection input_dataset_id.value
    (digests.binding_authority_fingerprint a).value a.binding.binding_id.value
    a.binding.source.source_id.value a.binding.venue_instrument.venue_instrument_id.value)

end ReplayMarketDigests

variable (digests : ReplayMarketDigests)

namespace ObservationProjectionFields

variable (p : ObservationProjectionFields)

def validateObservationKind : List (Check MarketError) :=
  [require (observationKind p.event_kind ≠ none)
      (.check "unsupported replay input kind for market observation"),
    require (observationKind p.event_kind = some p.observation.payload.kind)
      (.check "replay event kind must match market observation payload kind")]

def validateProjectionDescriptor : List (Check MarketError) :=
  [require (p.event_kind ∈ p.binding_authority.descriptor.supported_input_kinds)
      (.check "projection event kind is not supported by binding authority"),
    require (p.binding_authority.descriptor.timestamp_policy =
        .EVENT_TIME_AS_SOURCE_AND_RECEIVED)
      (.check "unsupported replay market timestamp policy")]

def validateProjectionBinding : List (Check MarketError) :=
  [require (p.binding_authority.binding.input_dataset_id = p.input_dataset_id)
      (.check "projection input_dataset_id must match binding"),
    require (p.observation.source = p.binding_authority.binding.source)
      (.check "observation source must exactly match projection binding source"),
    require (p.observation.instrument = p.binding_authority.binding.venue_instrument)
      (.check "observation instrument must exactly match projection binding venue instrument")]

def validateObservationProvenance : List (Check MarketError) :=
  [require (p.observation.source.source_kind = .REPLAY ∨
        p.observation.source.source_kind = .SYNTHETIC)
      (.check "replay market observations require REPLAY or SYNTHETIC source"),
    require (p.observation.provenance.source_event_id = p.event_id)
      (.check "observation source_event_id must match event_id"),
    require (p.observation.provenance.source_event_time = some p.event_time)
      (.check "observation source_event_time must match event_time"),
    require (p.observation.provenance.received_at = p.event_time)
      (.check "observation received_at must match event_time"),
    require (p.observation.provenance.engine_time = none)
      (.check "replay observation engine_time must be None"),
    require (p.observation.provenance.received_monotonic_ns = 0)
      (.check "replay observation received_monotonic_ns must be 0"),
    require (p.observation.provenance.source_sequence ≠ none)
      (.check "observation source_sequence must be present"),
    require (p.observation.provenance.reconnect_generation = 0)
      (.check "replay observation reconnect_generation must be 0"),
    require (p.observation.provenance.connection_id =
        digests.build_replay_market_connection_id p.input_dataset_id p.binding_authority)
      (.check "observation connection_id must match deterministic replay authority")]

/-- `_validate_projection`. -/
def validate : List (Check MarketError) :=
  p.validateObservationKind ++ p.validateProjectionDescriptor ++ p.validateProjectionBinding ++
    p.validateObservationProvenance digests

end ObservationProjectionFields

structure ReplayMarketObservationProjection extends ObservationProjectionFields where
  valid : checkAll (toObservationProjectionFields.validate digests) = .ok ()
  deriving DecidableEq

def ReplayMarketObservationProjection.of (p : ObservationProjectionFields) :
    Except MarketError (ReplayMarketObservationProjection digests) :=
  validated (checkAll (p.validate digests)) fun h => ⟨p, h⟩

variable {digests} in
def ReplayMarketObservationProjection.projection_id
    (p : ReplayMarketObservationProjection digests) : DomainId :=
  digests.observation_projection_id p.toObservationProjectionFields

/-- `_validate_projection`. -/
def FrameProjectionFields.validate (p : FrameProjectionFields) : List (Check MarketError) :=
  [require (p.frame.as_of = p.event_time)
      (.check "frame.as_of must match frame projection event_time"),
    require (∃ o ∈ p.frame.observations, digests.observation_id o = p.triggering_observation_id)
      (.check "triggering observation ID must exist in frame")]

structure ReplayMarketFrameProjection extends FrameProjectionFields where
  valid : checkAll (toFrameProjectionFields.validate digests) = .ok ()
  deriving DecidableEq

def ReplayMarketFrameProjection.of (p : FrameProjectionFields) :
    Except MarketError (ReplayMarketFrameProjection digests) :=
  validated (checkAll (p.validate digests)) fun h => ⟨p, h⟩

variable {digests} in
def ReplayMarketFrameProjection.projection_id (p : ReplayMarketFrameProjection digests) :
    DomainId :=
  digests.frame_projection_id p.toFrameProjectionFields

/-! Timelines of frames. -/

/-- The observations of each logical instrument in the order of their events. -/
abbrev Accumulated (α : Type) := Dict InstrumentSymbol (List α)

def Accumulated.of {α : Type} (a : Accumulated α) (i : InstrumentSymbol) : List α :=
  (a.get? i).getD []

def Accumulated.add {α : Type} (a : Accumulated α) (i : InstrumentSymbol) (x : α) :
    Accumulated α :=
  a.set i (a.of i ++ [x])

structure FrameTimelineFields where
  replay_timeline_id : TrimmedText
  replay_plan_id : TrimmedText
  adapter_authority : ReplayMarketAdapterAuthority
  observation_projections : List (ReplayMarketObservationProjection digests)
  frame_projections : List (ReplayMarketFrameProjection digests)

namespace FrameTimelineFields

variable {digests}
variable (t : FrameTimelineFields digests)

/-- The checks of an observation and its frame against the authority and against each other. -/
def pairChecks (o : ReplayMarketObservationProjection digests)
    (f : ReplayMarketFrameProjection digests) : List (Check MarketError) :=
  let binding := o.binding_authority.binding
  [require (o.timeline_id = t.replay_timeline_id)
      (.check "observation projection timeline_id must match replay_timeline_id"),
    require (f.timeline_id = t.replay_timeline_id)
      (.check "frame projection timeline_id must match replay_timeline_id"),
    require (o.binding_authority.descriptor = t.adapter_authority.descriptor)
      (.check "observation projection descriptor differs from authority"),
    -- a later binding of one id or one key replaces an earlier one in the tables of the source
    require ((t.adapter_authority.bindings.reverse.find? fun b => bindingId b = bindingId binding)
        ≠ none)
      (.check "observation projection binding ID is absent from authority"),
    require ((t.adapter_authority.bindings.reverse.find? fun b => bindingId b = bindingId binding)
        = some binding)
      (.check "observation projection binding differs from authority"),
    require ((t.adapter_authority.bindings.reverse.find? fun b =>
        replay_market_binding_key b = replay_market_binding_key binding) = some binding)
      (.check "observation projection binding key differs from authority"),
    require (f.timeline_id = o.timeline_id)
      (.check "paired projection timeline IDs must match"),
    require (f.triggering_observation_projection_id = o.projection_id)
      (.check "frame triggering projection must match observation projection"),
    require (f.triggering_observation_id = digests.observation_id o.observation)
      (.check "frame triggering observation ID must match observation projection"),
    require (f.event_order_index = o.event_order_index)
      (.check "projection order indexes must match"),
    require (f.event_id = o.event_id) (.check "projection event IDs must match"),
    require (f.event_time = o.event_time) (.check "projection event times must match"),
    require (f.frame.as_of = o.event_time)
      (.check "frame.as_of must match observation projection event_time"),
    require (f.frame.logical_instrument = o.observation.instrument.logical_instrument)
      (.check "frame logical instrument must match triggering observation"),
    require (f.frame.source_health = [])
      (.check "replay market frame projections must not fabricate source health")]

/-- The frames recomputed from the observations, pair by pair. -/
def recompute : Accumulated NormalizedMarketObservation →
    List (ReplayMarketObservationProjection digests × ReplayMarketFrameProjection digests) →
      Except MarketError Unit
  | _, [] => .ok ()
  | accumulated, (o, f) :: pairs => do
    checkAll (t.pairChecks o f)
    let logical := o.observation.instrument.logical_instrument
    let accumulated := accumulated.add logical o.observation
    let expected_observations ← select_latest_market_observations digests.toMarketDigests logical
      o.event_time (accumulated.of logical)
    checkAll [
      require (f.frame.observations = expected_observations)
        (.check "frame observations must equal replay-order cumulative state"),
      require (∃ x ∈ expected_observations,
          digests.observation_id x = f.triggering_observation_id)
        (.check "triggering observation ID must exist in expected frame")]
    recompute accumulated pairs

/-- `_validate_replay_market_frame_timeline_semantics`. -/
def validateSemantics : Except MarketError Unit := do
  let order_indexes := t.observation_projections.map fun p => p.event_order_index
  checkAll [
    require (t.observation_projections.length = t.frame_projections.length)
      (.check "one frame projection is required per observation projection"),
    require (t.observation_projections.map fun p => p.projection_id).Nodup
      (.check "duplicate observation projection IDs are not allowed"),
    require (t.frame_projections.map fun p => p.projection_id).Nodup
      (.check "duplicate frame projection IDs are not allowed"),
    require (order_indexes = sortBy id order_indexes)
      (.check "observation projections must be sorted by event_order_index"),
    require order_indexes.Nodup
      (.check "projected event_order_index values must be strictly increasing")]
  t.recompute Dict.empty (t.observation_projections.zip t.frame_projections)

end FrameTimelineFields

/-- A timeline of frames. Its id is the one its other members give, as its model checks. -/
structure ReplayMarketFrameTimeline extends FrameTimelineFields digests where
  valid : toFrameTimelineFields.validateSemantics = .ok ()

def ReplayMarketFrameTimeline.of (t : FrameTimelineFields digests) :
    Except MarketError (ReplayMarketFrameTimeline digests) :=
  validated t.validateSemantics fun h => ⟨t, h⟩

end FuturesBot.Market
