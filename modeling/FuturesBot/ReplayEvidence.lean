import FuturesBot.Checks
import FuturesBot.MarketEvidence
import FuturesBot.ReplayLookup

/-! The evidence of every frame of a replay timeline. -/
namespace FuturesBot.Market

open Checks Dicts

/-- The digests of the lookup models and of the evidence models, over the same market models. -/
structure FrameEvidenceDigests extends ReplayLookupDigests, EvidenceDigests

section Projections

variable (digests : FrameEvidenceDigests)

/-- The evidence of a frame beside what a lookup knows of its event, without its id. -/
structure EvidenceProjectionFields where
  market_lookup_descriptor : ReplayMarketFrameLookupDescriptor
  market_lookup_entry : ReplayMarketFrameLookupEntry
  market_frame_projection : ReplayMarketFrameProjection digests.toReplayMarketDigests
  evidence_set : MarketEvidenceSet digests.toEvidenceDigests

/-- `_event_kind_from_frame_projection`. -/
def eventKindFromFrameProjection
    (f : ReplayMarketFrameProjection digests.toReplayMarketDigests) :
    Except MarketError MarketObservationKind :=
  match f.frame.observations.find? fun o =>
      digests.observation_id o = f.triggering_observation_id with
  | some observation => .ok observation.payload.kind
  | none => .error (.check "triggering observation ID must exist in frame projection frame")

variable {digests} in
/-- `validate_replay_market_evidence_projection_semantics`. -/
def EvidenceProjectionFields.validate (p : EvidenceProjectionFields digests) :
    Except MarketError Unit := do
  let descriptor := p.market_lookup_descriptor
  let entry := p.market_lookup_entry
  let frame_projection := p.market_frame_projection
  let source_frame := p.evidence_set.source_frame
  checkAll [
    require (entry.event_id = frame_projection.event_id)
      (.check "lookup entry event_id must match frame projection"),
    require (entry.event_order_index = frame_projection.event_order_index)
      (.check "lookup entry event_order_index must match frame projection"),
    require (entry.event_time = frame_projection.event_time)
      (.check "lookup entry event_time must match frame projection")]
  let kind ← eventKindFromFrameProjection digests frame_projection
  checkAll [
    require (observationKind entry.event_kind = some kind)
      (.check "lookup entry event_kind must match frame projection"),
    require (entry.frame_projection_id = frame_projection.projection_id)
      (.check "lookup entry frame_projection_id must match frame projection"),
    require (entry.frame_id = digests.frame_id frame_projection.frame.toFrameFields)
      (.check "lookup entry frame_id must match frame projection frame"),
    require (entry.triggering_observation_id = frame_projection.triggering_observation_id)
      (.check "lookup entry triggering_observation_id must match frame"),
    require (descriptor.market_timeline_id = entry.market_timeline_id)
      (.check "lookup descriptor market_timeline_id must match entry"),
    require (descriptor.replay_timeline_id = entry.replay_timeline_id)
      (.check "lookup descriptor replay_timeline_id must match entry"),
    require (descriptor.replay_plan_id = entry.replay_plan_id)
      (.check "lookup descriptor replay_plan_id must match entry"),
    require (descriptor.adapter_fingerprint = entry.adapter_fingerprint)
      (.check "lookup descriptor adapter_fingerprint must match entry"),
    require (entry.event_kind ∈ descriptor.supported_event_kinds)
      (.check "lookup entry event_kind must be supported by descriptor"),
    require (source_frame = frame_projection.frame)
      (.check "evidence_set source_frame must match frame projection frame"),
    require (digests.frame_id source_frame.toFrameFields = entry.frame_id)
      (.check "evidence_set source_frame frame_id must match lookup entry"),
    require (source_frame.as_of = entry.event_time)
      (.check "evidence_set source_frame as_of must match lookup entry")]

/-- The evidence of an event. Its id is the one its other members give, as its model checks. -/
structure ReplayMarketEvidenceProjection extends EvidenceProjectionFields digests where
  valid : toEvidenceProjectionFields.validate = .ok ()

def build_replay_market_evidence_projection (p : EvidenceProjectionFields digests) :
    Except MarketError (ReplayMarketEvidenceProjection digests) :=
  validated p.validate fun h => ⟨p, h⟩

/-- The evidence of every event of a timeline, without its id. -/
structure EvidenceTimelineFields where
  market_lookup_authority : ReplayMarketFrameLookupAuthority digests.toReplayLookupDigests
  evidence_builder : MarketEvidenceBuilderDescriptor
  projections : List (ReplayMarketEvidenceProjection digests)

end Projections

/-- The digest of an evidence projection besides those of the models that it is made of. -/
structure ReplayEvidenceDigests extends FrameEvidenceDigests where
  evidence_projection : EvidenceProjectionFields toFrameEvidenceDigests → HexDigest

namespace ReplayEvidenceDigests

variable (digests : ReplayEvidenceDigests)

def evidence_projection_id (p : EvidenceProjectionFields digests.toFrameEvidenceDigests) :
    DomainId :=
  .ofDigest ⟨"replay-market-evidence-projection:", IdHead.checked evaluates⟩
    (digests.evidence_projection p)

end ReplayEvidenceDigests

variable (digests : ReplayEvidenceDigests)

/-! Timelines of evidence. -/

namespace EvidenceTimelineFields

variable {digests}
variable (t : EvidenceTimelineFields digests.toFrameEvidenceDigests)

/-- A projection beside the entry at its place. -/
abbrev EnteredProjection (digests : ReplayEvidenceDigests) :=
  ReplayMarketFrameLookupEntry × ReplayMarketEvidenceProjection digests.toFrameEvidenceDigests

/-- The checks of a projection against the entry at its place and the projections before it. -/
def projectionChecks (seen : List (EnteredProjection digests)) (entered : EnteredProjection digests) :
    List (Check MarketError) :=
  let p := entered.2
  [require (∀ s ∈ seen, digests.evidence_projection_id s.2.toEvidenceProjectionFields ≠
        digests.evidence_projection_id p.toEvidenceProjectionFields)
      (.check "duplicate evidence projection ID"),
    require (∀ s ∈ seen, digests.entry_id s.2.market_lookup_entry ≠
        digests.entry_id p.market_lookup_entry)
      (.check "duplicate market lookup entry"),
    require (p.market_lookup_descriptor =
        build_replay_market_frame_lookup_descriptor t.market_lookup_authority)
      (.check "projection descriptor must match lookup authority"),
    require (p.market_lookup_entry = entered.1)
      (.check "projection lookup entry must match authority entry in canonical order"),
    require (p.evidence_set.builder = t.evidence_builder)
      (.check "projection evidence builder must match timeline builder"),
    require (p.evidence_set.source_frame = p.market_frame_projection.frame)
      (.check "projection evidence source_frame must match frame projection")]

/-- `validate_replay_market_evidence_timeline_semantics`. -/
def validate : Except MarketError Unit := do
  checkAll [
    require (t.market_lookup_authority.entries ≠ [])
      (.check "market_lookup_authority entries must be non-empty"),
    require (t.projections ≠ []) (.check "projections must be non-empty"),
    require (t.projections.length = t.market_lookup_authority.entries.length)
      (.check "one evidence projection is required per lookup entry")]
  checkSeen t.projectionChecks [] (t.market_lookup_authority.entries.zip t.projections)

end EvidenceTimelineFields

/-- A timeline of evidence. Its id is the one its other members give, as its model checks. -/
structure ReplayMarketEvidenceTimeline extends
    EvidenceTimelineFields digests.toFrameEvidenceDigests where
  valid : toEvidenceTimelineFields.validate = .ok ()

def build_replay_market_evidence_timeline
    (t : EvidenceTimelineFields digests.toFrameEvidenceDigests) :
    Except MarketError (ReplayMarketEvidenceTimeline digests) :=
  validated t.validate fun h => ⟨t, h⟩

/-- A builder of evidence: what it says of itself, and the set that it makes of a frame. -/
structure MarketEvidenceBuilderPort (digests : EvidenceDigests) where
  descriptor : MarketEvidenceBuilderDescriptor
  build : CrossVenueMarketFrame → Except MarketError (MarketEvidenceSet digests)

def DeterministicCrossVenueMarketEvidenceBuilder (digests : EvidenceDigests) :
    MarketEvidenceBuilderPort digests where
  descriptor := build_market_evidence_builder_descriptor
  build := buildEvidence digests

section Building

variable (timeline : ReplayMarketFrameTimeline digests.toReplayMarketDigests)

/-- The evidence of one frame by a builder. -/
def projectEvidence (port : MarketEvidenceBuilderPort digests.toEvidenceDigests)
    (lookup_descriptor : ReplayMarketFrameLookupDescriptor) (entry : ReplayMarketFrameLookupEntry)
    (frame_projection : ReplayMarketFrameProjection digests.toReplayMarketDigests) :
    Except MarketError (ReplayMarketEvidenceProjection digests.toFrameEvidenceDigests) := do
  let evidence_set ← port.build frame_projection.frame
  checkAll [require (evidence_set.builder = port.descriptor)
    (.check "evidence builder returned stale or foreign descriptor")]
  build_replay_market_evidence_projection digests.toFrameEvidenceDigests
    ⟨lookup_descriptor, entry, frame_projection, evidence_set⟩

/-- `DeterministicReplayMarketEvidenceTimelineBuilder.build`. -/
def buildEvidenceTimeline (port : MarketEvidenceBuilderPort digests.toEvidenceDigests) :
    Except MarketError (ReplayMarketEvidenceTimeline digests) := do
  let authority ←
    build_replay_market_frame_lookup_authority digests.toReplayLookupDigests timeline
  let lookup_descriptor := build_replay_market_frame_lookup_descriptor authority
  -- an authority has as many entries as its timeline has frames
  let projections ← buildAll (fun pair => projectEvidence digests port lookup_descriptor pair.1
    pair.2) (authority.entries.zip timeline.frame_projections)
  build_replay_market_evidence_timeline digests ⟨authority, port.descriptor, projections⟩

/-- The evidence of one frame without a builder. -/
def deriveEvidence (builder : MarketEvidenceBuilderDescriptor)
    (descriptor : ReplayMarketFrameLookupDescriptor) (entry : ReplayMarketFrameLookupEntry)
    (frame_projection : ReplayMarketFrameProjection digests.toReplayMarketDigests) :
    Except MarketError (ReplayMarketEvidenceProjection digests.toFrameEvidenceDigests) := do
  checkAll [require (entry.frame_projection_id = frame_projection.projection_id)
    (.check "lookup entry frame projection must match timeline order")]
  let items ←
    derive_market_evidence_items digests.toEvidenceDigests builder frame_projection.frame
  let evidence_set ←
    build_market_evidence_set digests.toEvidenceDigests builder frame_projection.frame items
  build_replay_market_evidence_projection digests.toFrameEvidenceDigests
    ⟨descriptor, entry, frame_projection, evidence_set⟩

def derive_replay_market_evidence_projections
    (authority : ReplayMarketFrameLookupAuthority digests.toReplayLookupDigests)
    (builder : MarketEvidenceBuilderDescriptor) :
    Except MarketError
      (List (ReplayMarketEvidenceProjection digests.toFrameEvidenceDigests)) := do
  let expected_authority ←
    build_replay_market_frame_lookup_authority digests.toReplayLookupDigests timeline
  checkAll [require (authority.toLookupAuthorityFields = expected_authority.toLookupAuthorityFields)
    (.check "market lookup authority must correspond exactly to timeline")]
  let descriptor := build_replay_market_frame_lookup_descriptor authority
  buildAll (fun pair => deriveEvidence digests builder descriptor pair.1 pair.2)
    (authority.entries.zip timeline.frame_projections)

end Building

end FuturesBot.Market
