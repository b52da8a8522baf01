import FuturesBot.MarketData
import FuturesBot.ReplayInputs

/-! The evidence that a frame holds directly: one item for each value told by an observation or by
the health of a source. -/
namespace FuturesBot.Market

open TextLines DecimalNumbers Checks KeySorting

def AggressorSide.value : AggressorSide → String
  | .BUY => "BUY"
  | .SELL => "SELL"
  | .UNKNOWN => "UNKNOWN"

def QuoteSemantics.value : QuoteSemantics → String
  | .CENTRAL_LIMIT_ORDER_BOOK => "CENTRAL_LIMIT_ORDER_BOOK"
  | .EXECUTABLE_REQUEST => "EXECUTABLE_REQUEST"
  | .INDICATIVE => "INDICATIVE"
  | .UNKNOWN => "UNKNOWN"

def MarketSourceHealthState.value : MarketSourceHealthState → String
  | .LIVE => "LIVE"
  | .DEGRADED => "DEGRADED"
  | .STALE => "STALE"
  | .GAP_DETECTED => "GAP_DETECTED"
  | .RECONNECTING => "RECONNECTING"
  | .RECOVERING => "RECOVERING"
  | .DISCONNECTED => "DISCONNECTED"
  | .UNSUPPORTED => "UNSUPPORTED"

inductive MarketEvidenceOriginKind where
  | OBSERVATION
  | SOURCE_HEALTH
  deriving DecidableEq, Repr

def MarketEvidenceOriginKind.value : MarketEvidenceOriginKind → String
  | .OBSERVATION => "OBSERVATION"
  | .SOURCE_HEALTH => "SOURCE_HEALTH"

inductive MarketEvidenceValueKind where
  | DECIMAL
  | INTEGER
  | TEXT
  | TEXT_TUPLE
  deriving DecidableEq, Repr

inductive MarketEvidenceUnit where
  | PRICE
  | QUANTITY
  | COUNT
  | SEQUENCE
  | ENUM
  | ENUM_SET
  deriving DecidableEq, Repr

inductive MarketEvidenceKind where
  | TRADE_PRICE
  | TRADE_QUANTITY
  | TRADE_AGGRESSOR_SIDE
  | TOP_OF_BOOK_BID_PRICE
  | TOP_OF_BOOK_BID_QUANTITY
  | TOP_OF_BOOK_ASK_PRICE
  | TOP_OF_BOOK_ASK_QUANTITY
  | TOP_OF_BOOK_QUOTE_SEMANTICS
  | MARK_PRICE
  | INDEX_PRICE
  | SOURCE_HEALTH_STATE
  | SOURCE_HEALTH_ISSUES
  | SOURCE_HEALTH_RECONNECT_GENERATION
  | SOURCE_HEALTH_CONSECUTIVE_FAILURES
  | SOURCE_HEALTH_LAST_SEQUENCE
  deriving DecidableEq, Repr

namespace MarketEvidenceKind

def value : MarketEvidenceKind → String
  | TRADE_PRICE => "TRADE_PRICE"
  | TRADE_QUANTITY => "TRADE_QUANTITY"
  | TRADE_AGGRESSOR_SIDE => "TRADE_AGGRESSOR_SIDE"
  | TOP_OF_BOOK_BID_PRICE => "TOP_OF_BOOK_BID_PRICE"
  | TOP_OF_BOOK_BID_QUANTITY => "TOP_OF_BOOK_BID_QUANTITY"
  | TOP_OF_BOOK_ASK_PRICE => "TOP_OF_BOOK_ASK_PRICE"
  | TOP_OF_BOOK_ASK_QUANTITY => "TOP_OF_BOOK_ASK_QUANTITY"
  | TOP_OF_BOOK_QUOTE_SEMANTICS => "TOP_OF_BOOK_QUOTE_SEMANTICS"
  | MARK_PRICE => "MARK_PRICE"
  | INDEX_PRICE => "INDEX_PRICE"
  | SOURCE_HEALTH_STATE => "SOURCE_HEALTH_STATE"
  | SOURCE_HEALTH_ISSUES => "SOURCE_HEALTH_ISSUES"
  | SOURCE_HEALTH_RECONNECT_GENERATION => "SOURCE_HEALTH_RECONNECT_GENERATION"
  | SOURCE_HEALTH_CONSECUTIVE_FAILURES => "SOURCE_HEALTH_CONSECUTIVE_FAILURES"
  | SOURCE_HEALTH_LAST_SEQUENCE => "SOURCE_HEALTH_LAST_SEQUENCE"

def all : List MarketEvidenceKind :=
  [TRADE_PRICE, TRADE_QUANTITY, TRADE_AGGRESSOR_SIDE, TOP_OF_BOOK_BID_PRICE,
    TOP_OF_BOOK_BID_QUANTITY, TOP_OF_BOOK_ASK_PRICE, TOP_OF_BOOK_ASK_QUANTITY,
    TOP_OF_BOOK_QUOTE_SEMANTICS, MARK_PRICE, INDEX_PRICE, SOURCE_HEALTH_STATE,
    SOURCE_HEALTH_ISSUES, SOURCE_HEALTH_RECONNECT_GENERATION,
    SOURCE_HEALTH_CONSECUTIVE_FAILURES, SOURCE_HEALTH_LAST_SEQUENCE]

/-- `_KIND_MATRIX`: the origin, the shape of the value and the unit that a kind stands for. -/
def matrix : MarketEvidenceKind →
    MarketEvidenceOriginKind × MarketEvidenceValueKind × MarketEvidenceUnit
  | TRADE_PRICE => (.OBSERVATION, .DECIMAL, .PRICE)
  | TRADE_QUANTITY => (.OBSERVATION, .DECIMAL, .QUANTITY)
  | TRADE_AGGRESSOR_SIDE => (.OBSERVATION, .TEXT, .ENUM)
  | TOP_OF_BOOK_BID_PRICE => (.OBSERVATION, .DECIMAL, .PRICE)
  | TOP_OF_BOOK_BID_QUANTITY => (.OBSERVATION, .DECIMAL, .QUANTITY)
  | TOP_OF_BOOK_ASK_PRICE => (.OBSERVATION, .DECIMAL, .PRICE)
  | TOP_OF_BOOK_ASK_QUANTITY => (.OBSERVATION, .DECIMAL, .QUANTITY)
  | TOP_OF_BOOK_QUOTE_SEMANTICS => (.OBSERVATION, .TEXT, .ENUM)
  | MARK_PRICE => (.OBSERVATION, .DECIMAL, .PRICE)
  | INDEX_PRICE => (.OBSERVATION, .DECIMAL, .PRICE)
  | SOURCE_HEALTH_STATE => (.SOURCE_HEALTH, .TEXT, .ENUM)
  | SOURCE_HEALTH_ISSUES => (.SOURCE_HEALTH, .TEXT_TUPLE, .ENUM_SET)
  | SOURCE_HEALTH_RECONNECT_GENERATION => (.SOURCE_HEALTH, .INTEGER, .COUNT)
  | SOURCE_HEALTH_CONSECUTIVE_FAILURES => (.SOURCE_HEALTH, .INTEGER, .COUNT)
  | SOURCE_HEALTH_LAST_SEQUENCE => (.SOURCE_HEALTH, .INTEGER, .SEQUENCE)

/-- `_POSITIVE_DECIMAL_KINDS`. -/
def positiveDecimals : List MarketEvidenceKind :=
  [TRADE_PRICE, TRADE_QUANTITY, TOP_OF_BOOK_BID_PRICE, TOP_OF_BOOK_BID_QUANTITY,
    TOP_OF_BOOK_ASK_PRICE, TOP_OF_BOOK_ASK_QUANTITY, MARK_PRICE, INDEX_PRICE]

end MarketEvidenceKind

/-! Where evidence is from, and what it says. -/

inductive MarketEvidenceOrigin where
  | observation (observation_id : DomainId)
  | sourceHealth (health_snapshot_id : DomainId)
  deriving DecidableEq

namespace MarketEvidenceOrigin

def origin_kind : MarketEvidenceOrigin → MarketEvidenceOriginKind
  | observation _ => .OBSERVATION
  | sourceHealth _ => .SOURCE_HEALTH

/-- `_origin_deterministic_id`. -/
def id : MarketEvidenceOrigin → DomainId
  | observation observation_id => observation_id
  | sourceHealth health_snapshot_id => health_snapshot_id

end MarketEvidenceOrigin

inductive MarketEvidenceValue where
  | decimal (value : Decimal)
  | integer (value : ℕ)
  | text (value : TrimmedText)
  | textTuple (value : List TrimmedText) (unique : value.Nodup)
      (sorted : SortedBy TrimmedText.value value)
  deriving DecidableEq

namespace MarketEvidenceValue

def value_kind : MarketEvidenceValue → MarketEvidenceValueKind
  | decimal _ => .DECIMAL
  | integer _ => .INTEGER
  | text _ => .TEXT
  | textTuple .. => .TEXT_TUPLE

/-- Values are equal when they are as numbers, as texts or as lists of texts. -/
def same : MarketEvidenceValue → MarketEvidenceValue → Bool
  | decimal a, decimal b => Decimal.same a b
  | integer a, integer b => a = b
  | text a, text b => a = b
  | textTuple a _ _, textTuple b _ _ => a = b
  | _, _ => false

/-- A decimal above zero, which the kinds of prices and quantities ask for. -/
def positive : MarketEvidenceValue → Bool
  | decimal a => a.positive
  | _ => false

end MarketEvidenceValue

/-- `_text_value`. -/
def textValue (value : String) : Except MarketError MarketEvidenceValue :=
  match TrimmedText.of value with
  | some t => .ok (.text t)
  | none => .error (.check "text evidence value must be a non-empty trimmed string")

/-- `_trimmed` of every text of a tuple. -/
def trimmedTexts : List String → Except MarketError (List TrimmedText)
  | [] => .ok []
  | value :: values =>
    match TrimmedText.of value with
    | none => .error (.check "text tuple evidence value must be a non-empty trimmed string")
    | some t => (trimmedTexts values).map (t :: ·)

/-- `_text_tuple_value`. -/
def textTupleValue (values : List String) : Except MarketError MarketEvidenceValue := do
  let texts ← trimmedTexts values
  if hunique : texts.Nodup then
    if hsorted : SortedBy TrimmedText.value texts then .ok (.textTuple texts hunique hsorted)
    else .error (.check "text tuple evidence value must be sorted lexically")
  else .error (.check "text tuple evidence value must be unique")

/-! Items. -/

/-- An item before its own check, without its id. -/
structure EvidenceItemFields where
  evidence_kind : MarketEvidenceKind
  origin : MarketEvidenceOrigin
  unit : MarketEvidenceUnit
  value : MarketEvidenceValue
  deriving DecidableEq

/-- `_validate_evidence_kind_matrix`. -/
def EvidenceItemFields.validateMatrix (f : EvidenceItemFields) : List (Check MarketError) :=
  [require (f.origin.origin_kind = f.evidence_kind.matrix.1)
      (.check "market evidence origin kind does not match evidence kind"),
    require (f.value.value_kind = f.evidence_kind.matrix.2.1)
      (.check "market evidence value kind does not match evidence kind"),
    require (f.unit = f.evidence_kind.matrix.2.2)
      (.check "market evidence unit does not match evidence kind")] ++
  if f.evidence_kind ∈ MarketEvidenceKind.positiveDecimals then
    [require (f.value.positive = true)
      (.check "price and quantity evidence values must be positive")]
  else []

/-- An item. Its id is the one its other members give, as its model checks. -/
structure MarketEvidenceItem extends EvidenceItemFields where
  valid : checkAll toEvidenceItemFields.validateMatrix = .ok ()
  deriving DecidableEq

/-- The builder: the only one there is supports every kind. -/
structure MarketEvidenceBuilderDescriptor where
  supported_evidence_kinds : List MarketEvidenceKind
  complete : supported_evidence_kinds = sortBy MarketEvidenceKind.value MarketEvidenceKind.all
  deriving DecidableEq

def build_market_evidence_builder_descriptor : MarketEvidenceBuilderDescriptor :=
  ⟨_, rfl⟩

/-- The digests of the evidence models besides those of the market models. -/
structure EvidenceDigests extends MarketDigests where
  item : EvidenceItemFields → HexDigest
  set (builder : MarketEvidenceBuilderDescriptor) (frame : FrameFields)
    (items : List EvidenceItemFields) : HexDigest

namespace EvidenceDigests

variable (digests : EvidenceDigests)

def evidence_item_id (f : EvidenceItemFields) : DomainId :=
  .ofDigest ⟨"market-evidence-item:", by decide⟩ (digests.item f)

def evidence_set_id (builder : MarketEvidenceBuilderDescriptor) (frame : FrameFields)
    (items : List MarketEvidenceItem) : DomainId :=
  .ofDigest ⟨"market-evidence-set:", IdHead.checked evaluates⟩
    (digests.set builder frame (items.map fun i => i.toEvidenceItemFields))

end EvidenceDigests

abbrev EvidenceKey := String ×ₗ (String ×ₗ String)

def market_evidence_item_key (i : MarketEvidenceItem) : EvidenceKey :=
  toLex (i.origin.origin_kind.value, toLex (i.origin.id.value, i.evidence_kind.value))

variable (digests : EvidenceDigests)

/-- `_validate_canonical_items`. -/
def canonicalItemChecks (items : List MarketEvidenceItem) : List (Check MarketError) :=
  let keys := items.map market_evidence_item_key
  [require (keys = sortBy (fun k => k) keys)
      (.check "market evidence items must be sorted by canonical key"),
    require keys.Nodup (.check "duplicate market evidence semantic key"),
    require (items.map fun i => digests.evidence_item_id i.toEvidenceItemFields).Nodup
      (.check "duplicate market evidence item ID")]

/-! The items of a frame. -/

section Items

variable (builder : MarketEvidenceBuilderDescriptor)

/-- `_item`. -/
def evidenceItem (evidence_kind : MarketEvidenceKind) (origin : MarketEvidenceOrigin)
    (unit : MarketEvidenceUnit) (value : MarketEvidenceValue) :
    Except MarketError MarketEvidenceItem :=
  if evidence_kind ∉ builder.supported_evidence_kinds then
    .error (.check "builder does not support evidence kind")
  else
    let f : EvidenceItemFields := { evidence_kind, origin, unit, value }
    validated (checkAll f.validateMatrix) fun h => ⟨f, h⟩

/-- `_derive_observation_items`. -/
def deriveObservationItems (observation : NormalizedMarketObservation) :
    Except MarketError (List MarketEvidenceItem) :=
  let origin := .observation (digests.observation_id observation)
  match observation.payload with
  | .trade _ price quantity aggressor_side => do
    let price ← evidenceItem builder .TRADE_PRICE origin .PRICE (.decimal price.1)
    let quantity ← evidenceItem builder .TRADE_QUANTITY origin .QUANTITY (.decimal quantity.1)
    let side ← textValue aggressor_side.value
    let side ← evidenceItem builder .TRADE_AGGRESSOR_SIDE origin .ENUM side
    .ok [price, quantity, side]
  | .topOfBook bid_price bid_quantity ask_price ask_quantity quote_semantics _ => do
    let bid_price ←
      evidenceItem builder .TOP_OF_BOOK_BID_PRICE origin .PRICE (.decimal bid_price.1)
    let bid_quantity ←
      evidenceItem builder .TOP_OF_BOOK_BID_QUANTITY origin .QUANTITY (.decimal bid_quantity.1)
    let ask_price ←
      evidenceItem builder .TOP_OF_BOOK_ASK_PRICE origin .PRICE (.decimal ask_price.1)
    let ask_quantity ←
      evidenceItem builder .TOP_OF_BOOK_ASK_QUANTITY origin .QUANTITY (.decimal ask_quantity.1)
    let quote_semantics ← textValue quote_semantics.value
    let quote_semantics ←
      evidenceItem builder .TOP_OF_BOOK_QUOTE_SEMANTICS origin .ENUM quote_semantics
    .ok [bid_price, bid_quantity, ask_price, ask_quantity, quote_semantics]
  | .markPrice price => do
    let price ← evidenceItem builder .MARK_PRICE origin .PRICE (.decimal price.1)
    .ok [price]
  | .indexPrice price => do
    let price ← evidenceItem builder .INDEX_PRICE origin .PRICE (.decimal price.1)
    .ok [price]

/-- `_derive_health_items`. -/
def deriveHealthItems (snapshot : MarketSourceHealthSnapshot) :
    Except MarketError (List MarketEvidenceItem) := do
  let origin := .sourceHealth (digests.health_snapshot_id snapshot)
  let state ← textValue snapshot.state.value
  let state ← evidenceItem builder .SOURCE_HEALTH_STATE origin .ENUM state
  let issues ← textTupleValue (snapshot.issues.map fun issue => issue.value)
  let issues ← evidenceItem builder .SOURCE_HEALTH_ISSUES origin .ENUM_SET issues
  let generation ← evidenceItem builder .SOURCE_HEALTH_RECONNECT_GENERATION origin .COUNT
    (.integer snapshot.reconnect_generation)
  let failures ← evidenceItem builder .SOURCE_HEALTH_CONSECUTIVE_FAILURES origin .COUNT
    (.integer snapshot.consecutive_failures)
  match snapshot.last_sequence with
  | none => .ok [state, issues, generation, failures]
  | some last_sequence => do
    let last ← evidenceItem builder .SOURCE_HEALTH_LAST_SEQUENCE origin .SEQUENCE
      (.integer last_sequence)
    .ok [state, issues, generation, failures, last]

/-- The loops of `derive_market_evidence_items`. -/
def deriveItems (observations : List NormalizedMarketObservation)
    (source_health : List MarketSourceHealthSnapshot) :
    Except MarketError (List MarketEvidenceItem) := do
  let observed ← buildAll (deriveObservationItems digests builder) observations
  let health ← buildAll (deriveHealthItems digests builder) source_health
  let ordered := sortBy market_evidence_item_key (observed.flatten ++ health.flatten)
  checkAll (canonicalItemChecks digests ordered)
  .ok ordered

def derive_market_evidence_items (source_frame : CrossVenueMarketFrame) :
    Except MarketError (List MarketEvidenceItem) :=
  deriveItems digests builder source_frame.observations source_frame.source_health

end Items

/-! Sets. -/

/-- Equality of items, their ids included. -/
def sameItem (a b : MarketEvidenceItem) : Bool :=
  decide (digests.evidence_item_id a.toEvidenceItemFields =
    digests.evidence_item_id b.toEvidenceItemFields) &&
  decide (a.evidence_kind = b.evidence_kind) && decide (a.origin = b.origin) &&
  decide (a.unit = b.unit) && a.value.same b.value

/-- Equality of tuples of items. -/
def sameItems : List MarketEvidenceItem → List MarketEvidenceItem → Bool
  | [], [] => true
  | a :: as, b :: bs => sameItem digests a b && sameItems as bs
  | _, _ => false

/-- The checks that a set makes of its items. -/
def exactItems (builder : MarketEvidenceBuilderDescriptor) (source_frame : CrossVenueMarketFrame)
    (items : List MarketEvidenceItem) : Except MarketError Unit := do
  checkAll (canonicalItemChecks digests items)
  let expected_items ← derive_market_evidence_items digests builder source_frame
  checkAll [require (sameItems digests items expected_items = true)
    (.check "items must match exact source-frame derivation")]

def build_market_evidence_set_id (builder : MarketEvidenceBuilderDescriptor)
    (source_frame : CrossVenueMarketFrame) (items : List MarketEvidenceItem) :
    Except MarketError DomainId := do
  exactItems digests builder source_frame items
  .ok (digests.evidence_set_id builder source_frame.toFrameFields items)

/-- A set before its own check. -/
structure EvidenceSetFields where
  evidence_set_id : DomainId
  builder : MarketEvidenceBuilderDescriptor
  source_frame : CrossVenueMarketFrame
  items : List MarketEvidenceItem

/-- `_validate_set`. -/
def EvidenceSetFields.validate (s : EvidenceSetFields) : Except MarketError Unit := do
  exactItems digests s.builder s.source_frame s.items
  let expected ← build_market_evidence_set_id digests s.builder s.source_frame s.items
  checkAll [require (s.evidence_set_id = expected)
    (.check "evidence_set_id must match deterministic evidence set ID")]

structure MarketEvidenceSet extends EvidenceSetFields where
  valid : toEvidenceSetFields.validate digests = .ok ()

def MarketEvidenceSet.of (s : EvidenceSetFields) : Except MarketError (MarketEvidenceSet digests) :=
  validated (s.validate digests) fun h => ⟨s, h⟩

def build_market_evidence_set (builder : MarketEvidenceBuilderDescriptor)
    (source_frame : CrossVenueMarketFrame) (items : List MarketEvidenceItem) :
    Except MarketError (MarketEvidenceSet digests) := do
  let evidence_set_id ← build_market_evidence_set_id digests builder source_frame items
  MarketEvidenceSet.of digests { evidence_set_id, builder, source_frame, items }

/-- `DeterministicCrossVenueMarketEvidenceBuilder.build`. -/
def buildEvidence (frame : CrossVenueMarketFrame) :
    Except MarketError (MarketEvidenceSet digests) := do
  let builder := build_market_evidence_builder_descriptor
  let items ← derive_market_evidence_items digests builder frame
  build_market_evidence_set digests builder frame items

end FuturesBot.Market
