import FuturesBot.Checks
import FuturesBot.DecimalArithmetic
import FuturesBot.IdStores
import FuturesBot.Journal
import FuturesBot.KeySorting
import FuturesBot.LatestSelection
import Mathlib.Data.Prod.Lex
import Mathlib.Data.String.Basic

/-! Market observations and the health of their sources: what a frame across venues is built
of, and how the latest of a stream is found. -/
namespace FuturesBot

open TextLines DateTimes DecimalNumbers

/-- A logical pair, written `BASE/QUOTE`. -/
structure InstrumentSymbol where
  base_asset : AssetSymbol
  quote_asset : AssetSymbol
  deriving DecidableEq

def InstrumentSymbol.value (i : InstrumentSymbol) : String :=
  i.base_asset.value ++ "/" ++ i.quote_asset.value

/-- A text of ASCII characters. -/
structure AsciiText extends TrimmedText where
  ascii : (value.toList.all fun c => c.toNat < 128) = true
  deriving DecidableEq

namespace Market

open Checks Dicts KeySorting Selections

inductive MarketDataSourceKind where
  | DIRECT_VENUE
  | AGGREGATOR
  | REFERENCE
  | REPLAY
  | SYNTHETIC
  | VENUE_PUBLIC_MARKET_DATA
  | VENUE_PRIVATE_ACCOUNT_MARKET_DATA
  | VENUE_MARK_PRICE_FEED
  | VENUE_INDEX_PRICE_FEED
  | VENUE_ORDER_BOOK_FEED
  | MANUAL_REVIEWED_OBSERVATION
  | TEST_FIXTURE
  | UNKNOWN
  deriving DecidableEq, Repr

inductive MarketTransportKind where
  | WEBSOCKET
  | REST
  | FILE
  | IN_MEMORY
  deriving DecidableEq, Repr

inductive VenueMarketKind where
  | SPOT
  | LINEAR_PERPETUAL
  | INVERSE_PERPETUAL
  | DELIVERY_FUTURE
  | INDEX
  | LEVERAGED_PRODUCT
  | OTHER
  deriving DecidableEq, Repr

inductive MarketObservationKind where
  | TRADE
  | TOP_OF_BOOK
  | MARK_PRICE
  | INDEX_PRICE
  deriving DecidableEq, Repr

def MarketObservationKind.value : MarketObservationKind → String
  | .TRADE => "TRADE"
  | .TOP_OF_BOOK => "TOP_OF_BOOK"
  | .MARK_PRICE => "MARK_PRICE"
  | .INDEX_PRICE => "INDEX_PRICE"

inductive QuoteSemantics where
  | CENTRAL_LIMIT_ORDER_BOOK
  | EXECUTABLE_REQUEST
  | INDICATIVE
  | UNKNOWN
  deriving DecidableEq, Repr

inductive AggressorSide where
  | BUY
  | SELL
  | UNKNOWN
  deriving DecidableEq, Repr

inductive MarketSourceHealthState where
  | LIVE
  | DEGRADED
  | STALE
  | GAP_DETECTED
  | RECONNECTING
  | RECOVERING
  | DISCONNECTED
  | UNSUPPORTED
  deriving DecidableEq, Repr

inductive MarketSourceIssueKind where
  | NO_DATA
  | STALE_DATA
  | SEQUENCE_GAP
  | OUT_OF_ORDER
  | CLOCK_SKEW
  | RECONNECTING
  | RATE_LIMITED
  | TRANSPORT_ERROR
  | INVALID_PAYLOAD
  | UNSUPPORTED
  deriving DecidableEq, Repr

def MarketSourceIssueKind.value : MarketSourceIssueKind → String
  | .NO_DATA => "NO_DATA"
  | .STALE_DATA => "STALE_DATA"
  | .SEQUENCE_GAP => "SEQUENCE_GAP"
  | .OUT_OF_ORDER => "OUT_OF_ORDER"
  | .CLOCK_SKEW => "CLOCK_SKEW"
  | .RECONNECTING => "RECONNECTING"
  | .RATE_LIMITED => "RATE_LIMITED"
  | .TRANSPORT_ERROR => "TRANSPORT_ERROR"
  | .INVALID_PAYLOAD => "INVALID_PAYLOAD"
  | .UNSUPPORTED => "UNSUPPORTED"

structure MarketDataSourceDescriptor where
  source_id : DomainId
  source_kind : MarketDataSourceKind
  provider : AsciiText
  transport : MarketTransportKind
  venue : Option TrimmedText
  source_version : AsciiText
  direct : source_kind = .DIRECT_VENUE → venue ≠ none
  deriving DecidableEq

structure VenueInstrumentRef where
  venue_instrument_id : DomainId
  venue : TrimmedText
  raw_symbol : AsciiText
  logical_instrument : InstrumentSymbol
  market_kind : VenueMarketKind
  settlement_asset : Option AssetSymbol
  collateral_asset : Option AssetSymbol
  contract_expiry : Option DateTime
  metadata_version : TrimmedText
  expiry : contract_expiry ≠ none ↔ market_kind = .DELIVERY_FUTURE
  deriving DecidableEq

structure MarketObservationProvenance where
  source_event_id : TrimmedText
  source_event_time : Option DateTime
  engine_time : Option DateTime
  received_at : DateTime
  received_monotonic_ns : ℕ
  source_sequence : Option ℕ
  connection_id : DomainId
  reconnect_generation : ℕ
  raw_payload_sha256 : HexDigest
  deriving DecidableEq

inductive MarketObservationPayload where
  | trade (trade_id : TrimmedText) (price quantity : PositiveDecimal)
      (aggressor_side : AggressorSide)
  | topOfBook (bid_price bid_quantity ask_price ask_quantity : PositiveDecimal)
      (quote_semantics : QuoteSemantics) (book : Decimal.lt ask_price.1 bid_price.1 = false)
  | markPrice (price : PositiveDecimal)
  | indexPrice (price : PositiveDecimal)
  deriving DecidableEq

def MarketObservationPayload.kind : MarketObservationPayload → MarketObservationKind
  | .trade .. => .TRADE
  | .topOfBook .. => .TOP_OF_BOOK
  | .markPrice _ => .MARK_PRICE
  | .indexPrice _ => .INDEX_PRICE

/-- A source of one venue speaks about instruments of this venue. -/
def DirectVenueMatches (source : MarketDataSourceDescriptor) (instrument : VenueInstrumentRef) :
    Prop :=
  source.source_kind = .DIRECT_VENUE → source.venue = some instrument.venue

instance (source : MarketDataSourceDescriptor) (instrument : VenueInstrumentRef) :
    Decidable (DirectVenueMatches source instrument) := inferInstanceAs (Decidable (_ → _))

/-- An observation. Its id is the one its other members give, as its model checks. -/
structure NormalizedMarketObservation where
  source : MarketDataSourceDescriptor
  instrument : VenueInstrumentRef
  provenance : MarketObservationProvenance
  payload : MarketObservationPayload
  direct : DirectVenueMatches source instrument
  deriving DecidableEq

/-- The issues a state of health may come with. -/
def healthAllowedIssues : MarketSourceHealthState → List MarketSourceIssueKind
  | .LIVE => []
  | .DEGRADED => [.CLOCK_SKEW, .INVALID_PAYLOAD, .OUT_OF_ORDER, .RATE_LIMITED]
  | .STALE => [.CLOCK_SKEW, .INVALID_PAYLOAD, .RATE_LIMITED, .STALE_DATA]
  | .GAP_DETECTED => [.CLOCK_SKEW, .INVALID_PAYLOAD, .OUT_OF_ORDER, .RATE_LIMITED, .SEQUENCE_GAP]
  | .RECONNECTING => [.NO_DATA, .RATE_LIMITED, .RECONNECTING, .TRANSPORT_ERROR]
  | .RECOVERING => [.CLOCK_SKEW, .INVALID_PAYLOAD, .OUT_OF_ORDER, .RATE_LIMITED, .RECONNECTING,
      .SEQUENCE_GAP, .STALE_DATA, .TRANSPORT_ERROR]
  | .DISCONNECTED => [.NO_DATA, .TRANSPORT_ERROR]
  | .UNSUPPORTED => [.UNSUPPORTED]

/-- `_validate_health_state_consistency`. -/
def HealthStateConsistent (state : MarketSourceHealthState) (last_received_at : Option DateTime)
    (last_sequence : Option ℕ) (issues : List MarketSourceIssueKind) : Prop :=
  (∀ issue ∈ issues, issue ∈ healthAllowedIssues state) ∧
    match state with
    | .LIVE => last_received_at ≠ none ∧ issues = []
    | .DEGRADED => last_received_at ≠ none ∧ issues ≠ []
    | .STALE => last_received_at ≠ none ∧ .STALE_DATA ∈ issues
    | .GAP_DETECTED => last_received_at ≠ none ∧ last_sequence ≠ none ∧ .SEQUENCE_GAP ∈ issues
    | .RECONNECTING => .RECONNECTING ∈ issues
    | .RECOVERING => issues ≠ []
    | .DISCONNECTED => .NO_DATA ∈ issues ∨ .TRANSPORT_ERROR ∈ issues
    | .UNSUPPORTED => issues = [.UNSUPPORTED]

instance (state : MarketSourceHealthState) (last_received_at : Option DateTime)
    (last_sequence : Option ℕ) (issues : List MarketSourceIssueKind) :
    Decidable (HealthStateConsistent state last_received_at last_sequence issues) := by
  unfold HealthStateConsistent
  cases state <;> infer_instance

/-- The health of a source. Its id is the one its other members give, as its model checks. -/
structure MarketSourceHealthSnapshot where
  source : MarketDataSourceDescriptor
  instrument : Option VenueInstrumentRef
  observation_kind : Option MarketObservationKind
  state : MarketSourceHealthState
  evaluated_at : DateTime
  last_received_at : Option DateTime
  last_source_event_time : Option DateTime
  last_sequence : Option ℕ
  reconnect_generation : ℕ
  consecutive_failures : ℕ
  issues : List MarketSourceIssueKind
  issues_unique : issues.Nodup
  issues_sorted : SortedBy MarketSourceIssueKind.value issues
  received : ∀ t ∈ last_received_at, ¬ evaluated_at < t
  direct : ∀ i ∈ instrument, DirectVenueMatches source i
  consistent : HealthStateConsistent state last_received_at last_sequence issues
  deriving DecidableEq

/-- The members of a frame but its id. -/
structure FrameFields where
  logical_instrument : InstrumentSymbol
  as_of : DateTime
  observations : List NormalizedMarketObservation
  source_health : List MarketSourceHealthSnapshot
  deriving DecidableEq

/-- The digests that ids are made of: each is the SHA-256 of the canonical JSON of the other
members of a model. -/
structure MarketDigests where
  observation : NormalizedMarketObservation → HexDigest
  health : MarketSourceHealthSnapshot → HexDigest
  frame : FrameFields → HexDigest

namespace MarketDigests

variable (digests : MarketDigests)

def observation_id (o : NormalizedMarketObservation) : DomainId :=
  .ofDigest ⟨"market-observation:", by decide⟩ (digests.observation o)

def health_snapshot_id (s : MarketSourceHealthSnapshot) : DomainId :=
  .ofDigest ⟨"market-health:", by decide⟩ (digests.health s)

def frame_id (f : FrameFields) : DomainId :=
  .ofDigest ⟨"market-frame:", by decide⟩ (digests.frame f)

end MarketDigests

/-! Keys are compared member by member. -/

abbrev StreamKey := String ×ₗ (String ×ₗ String)

abbrev HealthKey := String ×ₗ (String ×ₗ (String ×ₗ (String ×ₗ String)))

def observation_stream_key (o : NormalizedMarketObservation) : StreamKey :=
  toLex (o.source.source_id.value,
    toLex (o.instrument.venue_instrument_id.value, o.payload.kind.value))

def health_scope_key (s : MarketSourceHealthSnapshot) : HealthKey :=
  let instrument_scope := match s.instrument with
    | none => ("SOURCE", "")
    | some i => ("INSTRUMENT", i.venue_instrument_id.value)
  let observation_scope := match s.observation_kind with
    | none => ("ALL", "")
    | some kind => ("KIND", kind.value)
  toLex (s.source.source_id.value, toLex (instrument_scope.1,
    toLex (instrument_scope.2, toLex (observation_scope.1, observation_scope.2))))

/-- An error of a check, or a conflict under an id. -/
inductive MarketError where
  | check (message : String)
  | sourceConflict (source_id : String)
  | instrumentConflict (venue_instrument_id : String)
  deriving DecidableEq, Repr

/-! The comparison of observations. -/

def compareUnsequencedSameSession (candidate current : MarketObservationProvenance) :
    Except MarketError Ordering :=
  if current.received_at < candidate.received_at then .ok .gt
  else if candidate.received_at < current.received_at then .ok .lt
  else if current.received_monotonic_ns < candidate.received_monotonic_ns then .ok .gt
  else if candidate.received_monotonic_ns < current.received_monotonic_ns then .ok .lt
  else .error (.check "ambiguous latest observation for equal same-session ordering position")

def SameSession (p q : MarketObservationProvenance) : Prop :=
  p.connection_id = q.connection_id ∧ p.reconnect_generation = q.reconnect_generation

instance (p q : MarketObservationProvenance) : Decidable (SameSession p q) :=
  inferInstanceAs (Decidable (_ ∧ _))

/-- The rule for two different observations. -/
def compareProvenance (candidate current : MarketObservationProvenance) :
    Except MarketError Ordering :=
  if SameSession candidate current then
    match candidate.source_sequence, current.source_sequence with
    | some candidate_sequence, some current_sequence =>
      if current_sequence < candidate_sequence then .ok .gt
      else if candidate_sequence < current_sequence then .ok .lt
      else .error (.check "ambiguous latest observation for equal source sequence")
    | none, none => compareUnsequencedSameSession candidate current
    | _, _ =>
      .error (.check "ambiguous latest observation with inconsistent sequence availability")
  else if current.received_at < candidate.received_at then .ok .gt
  else if candidate.received_at < current.received_at then .ok .lt
  else .error (.check "ambiguous latest observation across incomparable sessions")

variable (digests : MarketDigests)

/-- `_compare_market_observations`: positive when the candidate is later. -/
def compareMarketObservations (candidate current : NormalizedMarketObservation) :
    Except MarketError Ordering :=
  if digests.observation_id candidate = digests.observation_id current then .ok .eq
  else compareProvenance candidate.provenance current.provenance

/-- Whether a candidate takes the place of the observation selected so far. -/
def observationReplaces (candidate current : NormalizedMarketObservation) :
    Except MarketError Bool :=
  (compareMarketObservations digests candidate current).map fun comparison =>
    comparison = .gt

/-- Whether a snapshot takes the place of the one selected so far. -/
def healthReplaces (snapshot current : MarketSourceHealthSnapshot) : Except MarketError Bool :=
  if current.evaluated_at < snapshot.evaluated_at then .ok true
  else if snapshot.evaluated_at = current.evaluated_at ∧
      digests.health_snapshot_id snapshot ≠ digests.health_snapshot_id current then
    .error (.check "ambiguous latest health snapshot for scope key")
  else .ok false

/-! The latest of each stream, and of each scope. -/

def checkObservation (frame_instrument : InstrumentSymbol) (frame_as_of : DateTime)
    (observation : NormalizedMarketObservation) : Except MarketError Unit :=
  checkAll [
    require (observation.instrument.logical_instrument = frame_instrument)
      (.check "observation logical instrument differs from frame instrument"),
    require (¬ frame_as_of < observation.provenance.received_at)
      (.check "observation contains future information")]

def checkHealth (frame_instrument : InstrumentSymbol) (as_of : DateTime)
    (snapshot : MarketSourceHealthSnapshot) : Except MarketError Unit :=
  checkAll [
    require (∀ i ∈ snapshot.instrument, i.logical_instrument = frame_instrument)
      (.check "health snapshot logical instrument differs from frame instrument"),
    require (¬ as_of < snapshot.evaluated_at)
      (.check "health snapshot contains future information")]

def select_latest_market_observations (logical_instrument : InstrumentSymbol) (as_of : DateTime)
    (observations : List NormalizedMarketObservation) :
    Except MarketError (List NormalizedMarketObservation) :=
  (selectLatest (checkObservation logical_instrument as_of) (observationReplaces digests)
    (KeyedDict.empty : KeyedDict observation_stream_key) observations).map fun selected =>
      sortBy observation_stream_key selected.values

/-- `_latest_health`. -/
def latestHealth (frame_instrument : InstrumentSymbol) (as_of : DateTime)
    (source_health : List MarketSourceHealthSnapshot) :
    Except MarketError (List MarketSourceHealthSnapshot) :=
  (selectLatest (checkHealth frame_instrument as_of) (healthReplaces digests)
    (KeyedDict.empty : KeyedDict health_scope_key) source_health).map (·.values)

/-! One meaning for each id of a source and of a venue instrument. -/

/-- The first value under each key, and an error for another one. -/
def shareAuthority {κ ν : Type} [DecidableEq κ] [DecidableEq ν] {key : ν → κ}
    (conflict : κ → MarketError) (known : KeyedDict key) : List ν → Except MarketError Unit
  | [] => .ok ()
  | v :: vs =>
    match known.putEqual id v with
    | some known => shareAuthority conflict known vs
    | none => .error (conflict (key v))

def sourcesOf (observations : List NormalizedMarketObservation)
    (source_health : List MarketSourceHealthSnapshot) : List MarketDataSourceDescriptor :=
  observations.map (·.source) ++ source_health.map (·.source)

def instrumentsOf (observations : List NormalizedMarketObservation)
    (source_health : List MarketSourceHealthSnapshot) : List VenueInstrumentRef :=
  observations.map (·.instrument) ++ source_health.filterMap (·.instrument)

def sourceKey (s : MarketDataSourceDescriptor) : String := s.source_id.value

def instrumentKey (i : VenueInstrumentRef) : String := i.venue_instrument_id.value

def validate_market_frame_authority_consistency (observations : List NormalizedMarketObservation)
    (source_health : List MarketSourceHealthSnapshot) : Except MarketError Unit :=
  match shareAuthority .sourceConflict (KeyedDict.empty : KeyedDict sourceKey)
      (sourcesOf observations source_health) with
  | .error e => .error e
  | .ok () =>
    shareAuthority .instrumentConflict (KeyedDict.empty : KeyedDict instrumentKey)
      (instrumentsOf observations source_health)

/-! Frames. -/

namespace FrameFields

variable (f : FrameFields)

def observationChecks : List StreamKey → List NormalizedMarketObservation →
    List (Check MarketError)
  | _, [] => []
  | observation_keys, o :: os =>
    require (o.instrument.logical_instrument = f.logical_instrument)
        (.check "frame observation logical instrument mismatch") ::
      require (¬ f.as_of < o.provenance.received_at)
        (.check "frame observations must not be newer than as_of") ::
      require (observation_stream_key o ∉ observation_keys)
        (.check "frame observations must be unique by stream key") ::
      observationChecks (observation_stream_key o :: observation_keys) os

def healthChecks : List HealthKey → List MarketSourceHealthSnapshot → List (Check MarketError)
  | _, [] => []
  | health_keys, s :: ss =>
    require (∀ i ∈ s.instrument, i.logical_instrument = f.logical_instrument)
        (.check "frame health logical instrument mismatch") ::
      require (¬ f.as_of < s.evaluated_at)
        (.check "frame source health must not be newer than as_of") ::
      require (health_scope_key s ∉ health_keys)
        (.check "frame source health must be unique by health scope") ::
      healthChecks (health_scope_key s :: health_keys) ss

/-- `_validate_frame`. -/
def validate : Except MarketError Unit :=
  match checkAll (f.observationChecks [] f.observations ++ f.healthChecks [] f.source_health ++ [
      require (f.observations = sortBy observation_stream_key f.observations)
        (.check "frame observations must be sorted by stream key"),
      require (f.source_health = sortBy health_scope_key f.source_health)
        (.check "frame source_health must be sorted by health scope key")]) with
  | .error e => .error e
  | .ok () => validate_market_frame_authority_consistency f.observations f.source_health

end FrameFields

/-- A frame. Its id is the one its other members give, as its model checks. -/
structure CrossVenueMarketFrame extends FrameFields where
  valid : toFrameFields.validate = .ok ()
  deriving DecidableEq

def CrossVenueMarketFrame.of (f : FrameFields) : Except MarketError CrossVenueMarketFrame :=
  validated f.validate fun h => ⟨f, h⟩

/-- `build_cross_venue_market_frame`: the id of the frame is made of the selected observations
and snapshots once their authority is consistent. -/
def build_cross_venue_market_frame (logical_instrument : InstrumentSymbol) (as_of : DateTime)
    (observations : List NormalizedMarketObservation)
    (source_health : List MarketSourceHealthSnapshot) :
    Except MarketError CrossVenueMarketFrame := do
  validate_market_frame_authority_consistency observations source_health
  let ordered_observations ←
    select_latest_market_observations digests logical_instrument as_of observations
  let selected_health ← latestHealth digests logical_instrument as_of source_health
  let ordered_health := sortBy health_scope_key selected_health
  validate_market_frame_authority_consistency ordered_observations ordered_health
  CrossVenueMarketFrame.of
    ⟨logical_instrument, as_of, ordered_observations, ordered_health⟩

end Market

end FuturesBot
