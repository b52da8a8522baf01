import FuturesBot.ReplayMarketAdapter

/-! The lookup of the projections of an event in a timeline of frames. -/
namespace FuturesBot.Market

open TextLines DateTimes Checks Dicts KeySorting
open Replay (ReplayInputKind ReplayTimelineEvent ReplayDispatchContext)

/-- What a lookup knows of an event, without its id. -/
structure ReplayMarketFrameLookupEntry where
  market_timeline_id : DomainId
  replay_timeline_id : TrimmedText
  replay_plan_id : TrimmedText
  adapter_fingerprint : DomainId
  event_id : TrimmedText
  event_order_index : ℕ
  event_time : DateTime
  event_kind : ReplayInputKind
  observation_projection_id : DomainId
  frame_projection_id : DomainId
  frame_id : DomainId
  triggering_observation_id : DomainId
  binding_authority_fingerprint : DomainId
  deriving DecidableEq

/-- The entries of a timeline, without their fingerprint. -/
structure LookupAuthorityFields where
  market_timeline_id : DomainId
  replay_timeline_id : TrimmedText
  replay_plan_id : TrimmedText
  adapter_fingerprint : DomainId
  supported_event_kinds : List ReplayInputKind
  entries : List ReplayMarketFrameLookupEntry
  deriving DecidableEq

/-- The digests of the lookup models besides those of the replay models. -/
structure ReplayLookupDigests extends ReplayMarketDigests where
  adapter (descriptor : ReplayMarketAdapterDescriptor) (bindings : List ReplayMarketDataBinding) :
    HexDigest
  frame_timeline : FrameTimelineFields toReplayMarketDigests → HexDigest
  lookup_entry : ReplayMarketFrameLookupEntry → HexDigest
  lookup_authority : LookupAuthorityFields → HexDigest

namespace ReplayLookupDigests

variable (digests : ReplayLookupDigests)

def adapter_fingerprint (a : ReplayMarketAdapterAuthority) : DomainId :=
  .ofDigest ⟨"replay-market-adapter:", IdHead.checked evaluates⟩
    (digests.adapter a.descriptor a.bindings)

def market_timeline_id (t : FrameTimelineFields digests.toReplayMarketDigests) : DomainId :=
  .ofDigest ⟨"replay-market-frame-timeline:", IdHead.checked evaluates⟩ (digests.frame_timeline t)

def entry_id (e : ReplayMarketFrameLookupEntry) : DomainId :=
  .ofDigest ⟨"replay-market-frame-lookup-entry:", by decide⟩ (digests.lookup_entry e)

def lookup_authority_fingerprint (a : LookupAuthorityFields) : DomainId :=
  .ofDigest ⟨"replay-market-frame-lookup-authority:", IdHead.checked evaluates⟩
    (digests.lookup_authority a)

end ReplayLookupDigests

/-- `_validate_market_projection_event_kinds`. -/
def projectionKindChecks (kinds : List ReplayInputKind) : List (Check MarketError) :=
  [require (kinds ≠ []) (.check "supported_event_kinds must be non-empty"),
    require kinds.Nodup (.check "supported_event_kinds must be unique"),
    require (kinds = sortBy ReplayInputKind.value kinds)
      (.check "supported_event_kinds must be sorted by enum value"),
    require (∀ kind ∈ kinds, observationKind kind ≠ none)
      (.check "supported_event_kinds must be market projection kinds")]

variable (digests : ReplayLookupDigests)

/-- `_validate_projection_pair`. -/
def projectionPairChecks (replay_timeline_id : TrimmedText) (kinds : List ReplayInputKind)
    (o : ReplayMarketObservationProjection digests.toReplayMarketDigests)
    (f : ReplayMarketFrameProjection digests.toReplayMarketDigests) : List (Check MarketError) :=
  projectionKindChecks kinds ++
  [require (o.timeline_id = replay_timeline_id)
      (.check "lookup observation projection timeline_id must match descriptor"),
    require (f.timeline_id = replay_timeline_id)
      (.check "lookup frame projection timeline_id must match descriptor"),
    require (o.event_id = f.event_id) (.check "lookup projection event_id values must match"),
    require (o.event_order_index = f.event_order_index)
      (.check "lookup projection event_order_index values must match"),
    require (o.event_time = f.event_time)
      (.check "lookup projection event_time values must match"),
    require (f.triggering_observation_projection_id = o.projection_id)
      (.check "lookup frame trigger projection must match observation projection"),
    require (f.triggering_observation_id = digests.observation_id o.observation)
      (.check "lookup frame trigger observation must match observation projection"),
    require (f.frame.as_of = o.event_time)
      (.check "lookup frame as_of must match observation event_time"),
    require (o.event_kind ∈ kinds) (.check "lookup observation event_kind must be supported")]

section Entries

variable (market_timeline_id : DomainId) (replay_timeline_id replay_plan_id : TrimmedText)
  (adapter_fingerprint : DomainId)

def build_replay_market_frame_lookup_entry
    (o : ReplayMarketObservationProjection digests.toReplayMarketDigests)
    (f : ReplayMarketFrameProjection digests.toReplayMarketDigests) :
    Except MarketError ReplayMarketFrameLookupEntry := do
  checkAll (projectionPairChecks digests replay_timeline_id [o.event_kind] o f)
  .ok {
    market_timeline_id
    replay_timeline_id
    replay_plan_id
    adapter_fingerprint
    event_id := o.event_id
    event_order_index := o.event_order_index
    event_time := o.event_time
    event_kind := o.event_kind
    observation_projection_id := o.projection_id
    frame_projection_id := f.projection_id
    frame_id := digests.frame_id f.frame.toFrameFields
    triggering_observation_id := f.triggering_observation_id
    binding_authority_fingerprint := digests.binding_authority_fingerprint o.binding_authority }

end Entries

namespace LookupAuthorityFields

variable (a : LookupAuthorityFields)

/-- The checks of an entry against the authority and against the entries before it. -/
def entryChecks (seen : List ReplayMarketFrameLookupEntry) (e : ReplayMarketFrameLookupEntry) :
    List (Check MarketError) :=
  [require (e.market_timeline_id = a.market_timeline_id)
      (.check "lookup authority entry market_timeline_id mismatch"),
    require (e.replay_timeline_id = a.replay_timeline_id)
      (.check "lookup authority entry replay_timeline_id mismatch"),
    require (e.replay_plan_id = a.replay_plan_id)
      (.check "lookup authority entry replay_plan_id mismatch"),
    require (e.adapter_fingerprint = a.adapter_fingerprint)
      (.check "lookup authority entry adapter_fingerprint mismatch"),
    require (e.event_kind ∈ a.supported_event_kinds)
      (.check "lookup authority entry event kind is unsupported"),
    require (∀ s ∈ seen, digests.entry_id s ≠ digests.entry_id e)
      (.check "lookup authority entry IDs must be unique"),
    require (∀ s ∈ seen, (s.event_id, s.event_order_index) ≠ (e.event_id, e.event_order_index))
      (.check "lookup authority event keys must be unique"),
    require (∀ s ∈ seen, s.event_id ≠ e.event_id)
      (.check "lookup authority event IDs must be unique"),
    require (∀ s ∈ seen, s.event_order_index ≠ e.event_order_index)
      (.check "lookup authority event order indexes must be unique"),
    require (∀ s ∈ seen, s.observation_projection_id ≠ e.observation_projection_id)
      (.check "lookup authority observation projection IDs must be unique"),
    require (∀ s ∈ seen, s.frame_projection_id ≠ e.frame_projection_id)
      (.check "lookup authority frame projection IDs must be unique")]

def checkEntries : List ReplayMarketFrameLookupEntry → List ReplayMarketFrameLookupEntry →
    Except MarketError Unit
  | _, [] => .ok ()
  | seen, e :: entries => do
    checkAll (a.entryChecks digests seen e)
    checkEntries (seen ++ [e]) entries

abbrev EntryOrder := ℕ ×ₗ String

def entryOrder (e : ReplayMarketFrameLookupEntry) : EntryOrder :=
  toLex (e.event_order_index, e.event_id.value)

/-- The checks of the fields of a lookup authority, `_validate_lookup_authority_entries` among
them. -/
def validate : Except MarketError Unit := do
  checkAll (projectionKindChecks a.supported_event_kinds ++
    [require (a.entries ≠ []) (.check "lookup authority entries must be non-empty")])
  a.checkEntries digests [] a.entries
  checkAll [require (SortedBy entryOrder a.entries) (.check
    "lookup authority entries must be sorted by event_order_index and event_id")]

end LookupAuthorityFields

/-- The entries of a timeline. Their fingerprint is the one the other members give, as the model
checks. -/
structure ReplayMarketFrameLookupAuthority extends LookupAuthorityFields where
  valid : toLookupAuthorityFields.validate digests = .ok ()

def ReplayMarketFrameLookupAuthority.of (a : LookupAuthorityFields) :
    Except MarketError (ReplayMarketFrameLookupAuthority digests) :=
  validated (a.validate digests) fun h => ⟨a, h⟩

def build_replay_market_frame_lookup_authority
    (timeline : ReplayMarketFrameTimeline digests.toReplayMarketDigests) :
    Except MarketError (ReplayMarketFrameLookupAuthority digests) := do
  let market_timeline_id := digests.market_timeline_id timeline.toFrameTimelineFields
  let adapter_fingerprint := digests.adapter_fingerprint timeline.adapter_authority
  -- a timeline has as many frames as observations
  let entries ← buildAll (fun pair => build_replay_market_frame_lookup_entry digests
      market_timeline_id timeline.replay_timeline_id timeline.replay_plan_id adapter_fingerprint
      pair.1 pair.2) (timeline.observation_projections.zip timeline.frame_projections)
  ReplayMarketFrameLookupAuthority.of digests {
    market_timeline_id
    replay_timeline_id := timeline.replay_timeline_id
    replay_plan_id := timeline.replay_plan_id
    adapter_fingerprint
    supported_event_kinds := timeline.adapter_authority.descriptor.supported_input_kinds
    entries }

structure ReplayMarketFrameLookupDescriptor where
  market_timeline_id : DomainId
  replay_timeline_id : TrimmedText
  replay_plan_id : TrimmedText
  adapter_fingerprint : DomainId
  lookup_authority_fingerprint : DomainId
  supported_event_kinds : List ReplayInputKind
  kinds_ok : checkAll (projectionKindChecks supported_event_kinds) = .ok ()
  deriving DecidableEq

theorem ReplayMarketFrameLookupAuthority.kinds_ok (a : ReplayMarketFrameLookupAuthority digests) :
    checkAll (projectionKindChecks a.supported_event_kinds) = .ok () := by
  obtain ⟨⟨⟩, h, -⟩ := bind_eq_ok.mp a.valid
  exact (checkAll_append.mp h).1

variable {digests} in
def build_replay_market_frame_lookup_descriptor (a : ReplayMarketFrameLookupAuthority digests) :
    ReplayMarketFrameLookupDescriptor where
  market_timeline_id := a.market_timeline_id
  replay_timeline_id := a.replay_timeline_id
  replay_plan_id := a.replay_plan_id
  adapter_fingerprint := a.adapter_fingerprint
  lookup_authority_fingerprint := digests.lookup_authority_fingerprint a.toLookupAuthorityFields
  supported_event_kinds := a.supported_event_kinds
  kinds_ok := a.kinds_ok

/-- `_validate_lookup_entry_matches_projection_pair`. -/
def entryPairChecks (e : ReplayMarketFrameLookupEntry)
    (o : ReplayMarketObservationProjection digests.toReplayMarketDigests)
    (f : ReplayMarketFrameProjection digests.toReplayMarketDigests) : List (Check MarketError) :=
  [require (e.replay_timeline_id = o.timeline_id)
      (.check "lookup entry timeline_id must match observation projection"),
    require (e.replay_timeline_id = f.timeline_id)
      (.check "lookup entry timeline_id must match frame projection"),
    require (e.event_id = o.event_id)
      (.check "lookup entry event_id must match observation projection"),
    require (e.event_order_index = o.event_order_index)
      (.check "lookup entry order index must match observation projection"),
    require (e.event_time = o.event_time)
      (.check "lookup entry event_time must match observation projection"),
    require (e.event_kind = o.event_kind)
      (.check "lookup entry event_kind must match observation projection"),
    require (e.observation_projection_id = o.projection_id)
      (.check "lookup entry observation projection ID must match projection"),
    require (e.frame_projection_id = f.projection_id)
      (.check "lookup entry frame projection ID must match projection"),
    require (e.frame_id = digests.frame_id f.frame.toFrameFields)
      (.check "lookup entry frame ID must match frame projection"),
    require (e.triggering_observation_id = f.triggering_observation_id)
      (.check "lookup entry triggering observation ID must match frame"),
    require (e.binding_authority_fingerprint =
        digests.binding_authority_fingerprint o.binding_authority)
      (.check "lookup entry binding authority must match observation projection")]

/-- A result before its own check. -/
structure LookupResultFields where
  descriptor : ReplayMarketFrameLookupDescriptor
  entry : ReplayMarketFrameLookupEntry
  observation_projection : ReplayMarketObservationProjection digests.toReplayMarketDigests
  frame_projection : ReplayMarketFrameProjection digests.toReplayMarketDigests
  deriving DecidableEq

variable {digests} in
/-- `validate_replay_market_frame_lookup_result`. -/
def LookupResultFields.validate (r : LookupResultFields digests) : List (Check MarketError) :=
  [require (r.entry.market_timeline_id = r.descriptor.market_timeline_id)
      (.check "lookup entry market_timeline_id must match descriptor"),
    require (r.entry.replay_timeline_id = r.descriptor.replay_timeline_id)
      (.check "lookup entry replay_timeline_id must match descriptor"),
    require (r.entry.replay_plan_id = r.descriptor.replay_plan_id)
      (.check "lookup entry replay_plan_id must match descriptor"),
    require (r.entry.adapter_fingerprint = r.descriptor.adapter_fingerprint)
      (.check "lookup entry adapter_fingerprint must match descriptor")] ++
  entryPairChecks digests r.entry r.observation_projection r.frame_projection ++
  projectionPairChecks digests r.descriptor.replay_timeline_id r.descriptor.supported_event_kinds
    r.observation_projection r.frame_projection

structure ReplayMarketFrameLookupResult extends LookupResultFields digests where
  valid : checkAll toLookupResultFields.validate = .ok ()
  deriving DecidableEq

def build_replay_market_frame_lookup_result (r : LookupResultFields digests) :
    Except MarketError (ReplayMarketFrameLookupResult digests) :=
  validated (checkAll r.validate) fun h => ⟨r, h⟩

/-- A result and its authority belong together. -/
def validate_replay_market_frame_lookup_membership (a : ReplayMarketFrameLookupAuthority digests)
    (r : ReplayMarketFrameLookupResult digests) : Except MarketError Unit :=
  if r.descriptor ≠ build_replay_market_frame_lookup_descriptor a then
    .error (.check "lookup result descriptor must match lookup authority")
  else
    -- a later entry of one id replaces an earlier one
    match a.entries.reverse.find? fun e => digests.entry_id e = digests.entry_id r.entry with
    | none => .error (.check "lookup result entry is absent from lookup authority")
    | some authority_entry =>
      if authority_entry ≠ r.entry then
        .error (.check "lookup result entry differs from lookup authority")
      else checkAll r.validate

abbrev EventKey := TrimmedText × ℕ

/-- The entry and the projections of an event. -/
structure LookupProjection where
  entry : ReplayMarketFrameLookupEntry
  observation_projection : ReplayMarketObservationProjection digests.toReplayMarketDigests
  frame_projection : ReplayMarketFrameProjection digests.toReplayMarketDigests
  deriving DecidableEq

structure LocalReplayMarketFrameLookup where
  authority : ReplayMarketFrameLookupAuthority digests
  descriptor : ReplayMarketFrameLookupDescriptor
  projections : Dict EventKey (LookupProjection digests)

/-- One entry with its projections. -/
def indexProjection (authority : ReplayMarketFrameLookupAuthority digests)
    (projections : Dict EventKey (LookupProjection digests)) (p : LookupProjection digests) :
    Except MarketError (Dict EventKey (LookupProjection digests)) := do
  let result ← build_replay_market_frame_lookup_result digests {
    descriptor := build_replay_market_frame_lookup_descriptor authority
    entry := p.entry
    observation_projection := p.observation_projection
    frame_projection := p.frame_projection }
  validate_replay_market_frame_lookup_membership digests authority result
  let key := (p.observation_projection.event_id, p.observation_projection.event_order_index)
  match projections.get? key with
  | some existing =>
    if existing ≠ p then .error (.check "ambiguous replay market projection key")
    else .error (.check "duplicate replay market projection key")
  | none => .ok (projections.set key p)

namespace LocalReplayMarketFrameLookup

/-- `__init__`. -/
def of (timeline : ReplayMarketFrameTimeline digests.toReplayMarketDigests) :
    Except MarketError (LocalReplayMarketFrameLookup digests) := do
  let authority ← build_replay_market_frame_lookup_authority digests timeline
  let pairs := timeline.observation_projections.zip timeline.frame_projections
  let entered := List.zipWith (fun e pair => ⟨e, pair.1, pair.2⟩) authority.entries pairs
  let projections ← entered.foldlM (indexProjection digests authority) Dict.empty
  .ok ⟨authority, build_replay_market_frame_lookup_descriptor authority, projections⟩

/-- `_validate_context_matches_event`. -/
def contextMatches (context : ReplayDispatchContext) (event : ReplayTimelineEvent) :
    List (Check MarketError) :=
  [require (context.event_id = event.event_id)
      (.check "dispatch context event_id does not match event"),
    require (context.event_order_index = event.order_index)
      (.check "dispatch context event_order_index does not match event"),
    require (context.event_time = event.event_time)
      (.check "dispatch context event_time does not match event"),
    require (context.event_kind = event.kind)
      (.check "dispatch context event_kind does not match event")]

variable {digests} in
def lookup (l : LocalReplayMarketFrameLookup digests) (context : ReplayDispatchContext)
    (event : ReplayTimelineEvent) : Except MarketError (ReplayMarketFrameLookupResult digests) := do
  checkAll (contextMatches context event ++
    [require (context.timeline_id = l.descriptor.replay_timeline_id)
        (.check "dispatch context timeline_id does not match market lookup"),
      require (context.replay_plan_id = l.descriptor.replay_plan_id)
        (.check "dispatch context replay_plan_id does not match market lookup"),
      require (event.kind ∈ l.descriptor.supported_event_kinds)
        (.check "event kind is not supported by market lookup")])
  match l.projections.get? (event.event_id, event.order_index) with
  | none => .error (.check "no replay market frame projection for event")
  | some p =>
    checkAll [
      require (p.observation_projection.event_id = event.event_id)
        (.check "market projection event_id does not match event"),
      require (p.observation_projection.event_order_index = event.order_index)
        (.check "market projection order_index does not match event"),
      require (p.observation_projection.event_time = event.event_time)
        (.check "market projection event_time does not match event"),
      require (p.observation_projection.event_kind = event.kind)
        (.check "market projection event_kind does not match event")]
    build_replay_market_frame_lookup_result digests {
      descriptor := l.descriptor
      entry := p.entry
      observation_projection := p.observation_projection
      frame_projection := p.frame_projection }

end LocalReplayMarketFrameLookup

end FuturesBot.Market
