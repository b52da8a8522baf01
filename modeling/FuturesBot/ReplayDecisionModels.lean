import FuturesBot.DecisionModels
import FuturesBot.ReplayMarketData

/-! What a decision of a stack refers to in a replay: the descriptors of the stack and of its
lookups, and the references to the market frame and the evidence it was made from. -/
namespace FuturesBot.Decisions

open JsonText (Json Text)
open JsonCodec TextLines DateTimes DecimalNumbers Checks KeySorting
open Replay (ReplayInputKind digestOf canonicalJson ReplayHandlerOutputProposal
  ReplayEventOutputRecord RawProposal)

inductive DecisionError where
  | check (message : String)
  /-- The data is refused by a model. -/
  | invalid (model : String)
  deriving DecidableEq

/-! Ids and fingerprints: digests behind a fixed text. -/

/-- The text of an id. -/
def digestName (head : IdHead) (d : HexDigest) : String := head.value ++ d.value

def HexDigest.of (value : String) : Option HexDigest :=
  if h : value.toList.length = 64 ∧ value.toList.all isHexChar = true then some (.ofText value h)
  else none

theorem HexDigest.of_value (d : HexDigest) : HexDigest.of d.value = some d := by
  have hall : d.value.toList.all isHexChar = true := by
    rw [List.all_eq_true]
    intro c hc
    have hchar := d.hex.2 c hc
    simpa [isHexChar] using hchar
  rw [of, dif_pos ⟨d.hex.1, hall⟩]
  rfl

/-- The digest of an id that starts with the given text. -/
def digestBehind (head : IdHead) (value : String) : Option HexDigest :=
  if head.value.toList.isPrefixOf value.toList then
    HexDigest.of (String.ofList (value.toList.drop head.value.toList.length))
  else none

theorem digestBehind_name (head : IdHead) (d : HexDigest) :
    digestBehind head (digestName head d) = some d := by
  rw [digestBehind, digestName, String.toList_append, if_pos (List.isPrefixOf_iff_prefix.mpr
    (List.prefix_append _ _)), List.drop_left, String.ofList_toList, HexDigest.of_value]

/-- A fingerprint. -/
def digestText (head : IdHead) : Codec HexDigest :=
  text.refine (digestBehind head) (digestName head) (digestBehind_name head)

/-- An id, as a value object. -/
def digestId (head : IdHead) : Codec HexDigest :=
  record [required "value" (digestText head)] (show ["value"].Nodup by decide) (fun d => (d, ()))
    (fun r => some r.1) (fun _ => rfl)

namespace Heads

def marketTimeline : IdHead := ⟨"replay-market-frame-timeline:", by decide⟩
def marketAdapter : IdHead := ⟨"replay-market-adapter:", by decide⟩
def bindingAuthority : IdHead := ⟨"replay-market-binding-authority:", IdHead.checked evaluates⟩
def marketLookupAuthority : IdHead := ⟨"replay-market-frame-lookup-authority:", by decide⟩
def observationProjection : IdHead :=
  ⟨"replay-market-observation-projection:", IdHead.checked evaluates⟩
def frameProjection : IdHead := ⟨"replay-market-frame-projection:", IdHead.checked evaluates⟩
def marketFrame : IdHead := ⟨"market-frame:", IdHead.checked evaluates⟩
def marketObservation : IdHead := ⟨"market-observation:", IdHead.checked evaluates⟩
def evidenceTimeline : IdHead := ⟨"replay-market-evidence-timeline:", by decide⟩
def evidenceBuilder : IdHead := ⟨"market-evidence-builder:", by decide⟩
def evidenceLookupAuthority : IdHead := ⟨"replay-market-evidence-lookup-authority:", by decide⟩
def evidenceLookupEntry : IdHead := ⟨"replay-market-evidence-lookup-entry:", by decide⟩
def evidenceProjection : IdHead := ⟨"replay-market-evidence-projection:", by decide⟩
def evidenceSet : IdHead := ⟨"market-evidence-set:", by decide⟩
def decisionContext : IdHead := ⟨"replay-decision-context:", by decide⟩
def marketContextReference : IdHead := ⟨"replay-decision-market-context-reference:", by decide⟩
def evidenceContextReference : IdHead :=
  ⟨"replay-decision-evidence-context-reference:", by decide⟩
def decision : IdHead := ⟨"replay-decision:", by decide⟩
def decisionHandler : IdHead := ⟨"replay-decision-handler:", by decide⟩
def dispatcher : IdHead := ⟨"replay-dispatcher:", by decide⟩

end Heads

/-! Members of several models. -/

/-- A schema version: the one integer the model takes. -/
def schemaVersion (n : ℕ) : Codec Unit where
  dump _ := .int n
  load
    | .int m => if m = n then some () else none
    | _ => none
  load_dump _ := if_pos rfl

/-- A non-negative integer of no more digits than a number is written with. -/
abbrev Index := {n : ℕ // (JsonText.natText n).length ≤ 4300}

def index : Codec Index := count.where_ fun n => (JsonText.natText n).length ≤ 4300

def replayInputKind : Codec ReplayInputKind :=
  enumCodec [.OHLCV_BAR, .MARK_PRICE, .INDEX_PRICE, .FUNDING_RATE, .OPEN_INTEREST, .LIQUIDATION,
    .ORDER_BOOK_TOP, .TRADE, .SYNTHETIC_EVENT, .OTHER] ReplayInputKind.value
    (by intro a; cases a <;> decide)

/-- Event kinds, each once and in the order of their values. -/
def EventKinds (kinds : List ReplayInputKind) : Prop :=
  kinds ≠ [] ∧ kinds.Nodup ∧ SortedBy ReplayInputKind.value kinds

instance (kinds : List ReplayInputKind) : Decidable (EventKinds kinds) :=
  inferInstanceAs (Decidable (_ ∧ _ ∧ _))

/-- Event kinds that are market observations. -/
def MarketEventKinds (kinds : List ReplayInputKind) : Prop :=
  EventKinds kinds ∧ ∀ kind ∈ kinds, Market.observationKind kind ≠ none

instance (kinds : List ReplayInputKind) : Decidable (MarketEventKinds kinds) :=
  inferInstanceAs (Decidable (_ ∧ _))

/-! Descriptors. -/

structure ReplayDecisionStackDescriptor where
  stack_id : TrimmedText
  stack_version : TrimmedText
  bot_id : BotId
  source_kind : DecisionSourceKind
  supported_event_kinds : {kinds : List ReplayInputKind // EventKinds kinds}
  deriving DecidableEq

structure ReplayMarketFrameLookupDescriptor where
  market_timeline_id : HexDigest
  replay_timeline_id : TrimmedText
  replay_plan_id : TrimmedText
  adapter_fingerprint : HexDigest
  lookup_authority_fingerprint : HexDigest
  supported_event_kinds : {kinds : List ReplayInputKind // MarketEventKinds kinds}
  deriving DecidableEq

structure ReplayMarketEvidenceLookupDescriptor where
  evidence_timeline_id : HexDigest
  replay_timeline_id : TrimmedText
  replay_plan_id : TrimmedText
  market_lookup_authority_fingerprint : HexDigest
  evidence_builder_fingerprint : HexDigest
  evidence_lookup_authority_fingerprint : HexDigest
  supported_event_kinds : {kinds : List ReplayInputKind // EventKinds kinds}
  deriving DecidableEq

def stackDescriptor : Codec ReplayDecisionStackDescriptor :=
  record
    [required "stack_id" trimmedText, required "stack_version" trimmedText,
      required "bot_id" domainId, required "source_kind" decisionSourceKind,
      required "supported_event_kinds" (replayInputKind.list.where_ EventKinds)] (by decide)
    (fun d => (d.stack_id, d.stack_version, d.bot_id, d.source_kind, d.supported_event_kinds, ()))
    (fun (stack_id, stack_version, bot_id, source_kind, supported_event_kinds, _) =>
      some ⟨stack_id, stack_version, bot_id, source_kind, supported_event_kinds⟩)
    (fun _ => rfl)

def marketLookupDescriptor : Codec ReplayMarketFrameLookupDescriptor :=
  record
    [defaulted "schema_version" (schemaVersion 1) (),
      required "market_timeline_id" (digestId Heads.marketTimeline),
      required "replay_timeline_id" trimmedText, required "replay_plan_id" trimmedText,
      required "adapter_fingerprint" (digestText Heads.marketAdapter),
      required "lookup_authority_fingerprint" (digestText Heads.marketLookupAuthority),
      required "supported_event_kinds" (replayInputKind.list.where_ MarketEventKinds)] (by decide)
    (fun d => ((), d.market_timeline_id, d.replay_timeline_id, d.replay_plan_id,
      d.adapter_fingerprint, d.lookup_authority_fingerprint, d.supported_event_kinds, ()))
    (fun (_, market_timeline_id, replay_timeline_id, replay_plan_id, adapter_fingerprint,
        lookup_authority_fingerprint, supported_event_kinds, _) =>
      some ⟨market_timeline_id, replay_timeline_id, replay_plan_id, adapter_fingerprint,
        lookup_authority_fingerprint, supported_event_kinds⟩)
    (fun _ => rfl)

def evidenceLookupDescriptor : Codec ReplayMarketEvidenceLookupDescriptor :=
  record
    [defaulted "schema_version" (schemaVersion 1) (),
      required "evidence_timeline_id" (digestId Heads.evidenceTimeline),
      required "replay_timeline_id" trimmedText, required "replay_plan_id" trimmedText,
      required "market_lookup_authority_fingerprint" (digestText Heads.marketLookupAuthority),
      required "evidence_builder_fingerprint" (digestText Heads.evidenceBuilder),
      required "evidence_lookup_authority_fingerprint" (digestText Heads.evidenceLookupAuthority),
      required "supported_event_kinds" (replayInputKind.list.where_ EventKinds)] (by decide)
    (fun d => ((), d.evidence_timeline_id, d.replay_timeline_id, d.replay_plan_id,
      d.market_lookup_authority_fingerprint, d.evidence_builder_fingerprint,
      d.evidence_lookup_authority_fingerprint, d.supported_event_kinds, ()))
    (fun (_, evidence_timeline_id, replay_timeline_id, replay_plan_id,
        market_lookup_authority_fingerprint, evidence_builder_fingerprint,
        evidence_lookup_authority_fingerprint, supported_event_kinds, _) =>
      some ⟨evidence_timeline_id, replay_timeline_id, replay_plan_id,
        market_lookup_authority_fingerprint, evidence_builder_fingerprint,
        evidence_lookup_authority_fingerprint, supported_event_kinds⟩)
    (fun _ => rfl)

def buildReplayDecisionHandlerFingerprint (env : Env)
    (stack_descriptor : ReplayDecisionStackDescriptor)
    (market_lookup_descriptor : ReplayMarketFrameLookupDescriptor)
    (evidence_lookup_descriptor : ReplayMarketEvidenceLookupDescriptor) : HexDigest :=
  digestOf env (.obj [
    ("evidence_lookup_descriptor", evidenceLookupDescriptor.dump evidence_lookup_descriptor),
    ("market_lookup_descriptor", marketLookupDescriptor.dump market_lookup_descriptor),
    ("stack_descriptor", stackDescriptor.dump stack_descriptor)])

/-! References to what a decision was made from. -/

structure MarketReferenceFields where
  context_id : HexDigest
  run_id : TrimmedText
  manifest_id : TrimmedText
  replay_plan_id : TrimmedText
  replay_timeline_id : TrimmedText
  timeline_fingerprint_id : TrimmedText
  dispatcher_fingerprint : TrimmedText
  event_id : TrimmedText
  event_order_index : Index
  event_time : DateTime
  event_kind : ReplayInputKind
  market_timeline_id : HexDigest
  lookup_authority_fingerprint : HexDigest
  adapter_fingerprint : HexDigest
  observation_projection_id : HexDigest
  frame_projection_id : HexDigest
  frame_id : HexDigest
  triggering_observation_id : HexDigest
  binding_authority_fingerprint : HexDigest
  deriving DecidableEq

/-- `_build_replay_decision_market_context_reference_id_from_fields`. -/
def MarketReferenceFields.buildReferenceId (env : Env) (r : MarketReferenceFields) : HexDigest :=
  digestOf env (.obj [
    ("schema_version", .int 1),
    ("adapter_fingerprint", (digestText Heads.marketAdapter).dump r.adapter_fingerprint),
    ("binding_authority_fingerprint",
      (digestText Heads.bindingAuthority).dump r.binding_authority_fingerprint),
    ("context_id", (digestId Heads.decisionContext).dump r.context_id),
    ("dispatcher_fingerprint", .str r.dispatcher_fingerprint.value),
    ("event_id", .str r.event_id.value),
    ("event_kind", .str r.event_kind.value),
    ("event_order_index", .int r.event_order_index.val),
    ("event_time", .str (isoformat r.event_time)),
    ("frame_id", (digestId Heads.marketFrame).dump r.frame_id),
    ("frame_projection_id", (digestId Heads.frameProjection).dump r.frame_projection_id),
    ("lookup_authority_fingerprint",
      (digestText Heads.marketLookupAuthority).dump r.lookup_authority_fingerprint),
    ("manifest_id", .str r.manifest_id.value),
    ("market_timeline_id", (digestId Heads.marketTimeline).dump r.market_timeline_id),
    ("observation_projection_id",
      (digestId Heads.observationProjection).dump r.observation_projection_id),
    ("replay_plan_id", .str r.replay_plan_id.value),
    ("replay_timeline_id", .str r.replay_timeline_id.value),
    ("run_id", .str r.run_id.value),
    ("timeline_fingerprint_id", .str r.timeline_fingerprint_id.value),
    ("triggering_observation_id",
      (digestId Heads.marketObservation).dump r.triggering_observation_id)])

structure ReplayDecisionMarketContextReference (env : Env) extends MarketReferenceFields where
  reference_id : HexDigest
  reference_id_eq : reference_id = toMarketReferenceFields.buildReferenceId env
  deriving DecidableEq

structure EvidenceReferenceFields where
  evidence_timeline_id : HexDigest
  evidence_lookup_authority_fingerprint : HexDigest
  evidence_builder_fingerprint : HexDigest
  evidence_lookup_entry_id : HexDigest
  evidence_projection_id : HexDigest
  evidence_set_id : HexDigest
  deriving DecidableEq

/-- `_build_replay_decision_evidence_context_reference_id_from_fields`. -/
def EvidenceReferenceFields.buildReferenceId (env : Env) (r : EvidenceReferenceFields) :
    HexDigest :=
  digestOf env (.obj [
    ("schema_version", .int 1),
    ("evidence_builder_fingerprint",
      (digestText Heads.evidenceBuilder).dump r.evidence_builder_fingerprint),
    ("evidence_lookup_authority_fingerprint",
      (digestText Heads.evidenceLookupAuthority).dump r.evidence_lookup_authority_fingerprint),
    ("evidence_lookup_entry_id",
      (digestId Heads.evidenceLookupEntry).dump r.evidence_lookup_entry_id),
    ("evidence_projection_id", (digestId Heads.evidenceProjection).dump r.evidence_projection_id),
    ("evidence_set_id", (digestId Heads.evidenceSet).dump r.evidence_set_id),
    ("evidence_timeline_id", (digestId Heads.evidenceTimeline).dump r.evidence_timeline_id)])

structure ReplayDecisionEvidenceContextReference (env : Env) extends EvidenceReferenceFields where
  reference_id : HexDigest
  reference_id_eq : reference_id = toEvidenceReferenceFields.buildReferenceId env
  deriving DecidableEq

def Readers.marketReferenceFields (r : Readers) : List Field :=
  [defaulted "schema_version" (schemaVersion 1) (),
    required "reference_id" (digestId Heads.marketContextReference),
    required "context_id" (digestId Heads.decisionContext), required "run_id" trimmedText,
    required "manifest_id" trimmedText, required "replay_plan_id" trimmedText,
    required "replay_timeline_id" trimmedText, required "timeline_fingerprint_id" trimmedText,
    required "dispatcher_fingerprint" trimmedText, required "event_id" trimmedText,
    required "event_order_index" index, required "event_time" r.instant,
    required "event_kind" replayInputKind,
    required "market_timeline_id" (digestId Heads.marketTimeline),
    required "lookup_authority_fingerprint" (digestText Heads.marketLookupAuthority),
    required "adapter_fingerprint" (digestText Heads.marketAdapter),
    required "observation_projection_id" (digestId Heads.observationProjection),
    required "frame_projection_id" (digestId Heads.frameProjection),
    required "frame_id" (digestId Heads.marketFrame),
    required "triggering_observation_id" (digestId Heads.marketObservation),
    required "binding_authority_fingerprint" (digestText Heads.bindingAuthority)]

def Readers.marketReference (r : Readers) (env : Env) :
    Codec (ReplayDecisionMarketContextReference env) :=
  record r.marketReferenceFields
    (show (fieldNames Readers.plain.marketReferenceFields).Nodup by decide)
    (fun m => ((), m.reference_id, m.context_id, m.run_id, m.manifest_id, m.replay_plan_id,
      m.replay_timeline_id, m.timeline_fingerprint_id, m.dispatcher_fingerprint, m.event_id,
      m.event_order_index, m.event_time, m.event_kind, m.market_timeline_id,
      m.lookup_authority_fingerprint, m.adapter_fingerprint, m.observation_projection_id,
      m.frame_projection_id, m.frame_id, m.triggering_observation_id,
      m.binding_authority_fingerprint, ()))
    (fun (_, reference_id, context_id, run_id, manifest_id, replay_plan_id, replay_timeline_id,
        timeline_fingerprint_id, dispatcher_fingerprint, event_id, event_order_index, event_time,
        event_kind, market_timeline_id, lookup_authority_fingerprint, adapter_fingerprint,
        observation_projection_id, frame_projection_id, frame_id, triggering_observation_id,
        binding_authority_fingerprint, _) =>
      let fields : MarketReferenceFields :=
        { context_id, run_id, manifest_id, replay_plan_id, replay_timeline_id,
          timeline_fingerprint_id, dispatcher_fingerprint, event_id, event_order_index,
          event_time, event_kind, market_timeline_id, lookup_authority_fingerprint,
          adapter_fingerprint, observation_projection_id, frame_projection_id, frame_id,
          triggering_observation_id, binding_authority_fingerprint }
      if h : reference_id = fields.buildReferenceId env then some ⟨fields, reference_id, h⟩
      else none)
    (fun m => dif_pos m.reference_id_eq)

def evidenceReference (env : Env) : Codec (ReplayDecisionEvidenceContextReference env) :=
  record
    [defaulted "schema_version" (schemaVersion 1) (),
      required "reference_id" (digestText Heads.evidenceContextReference),
      required "evidence_timeline_id" (digestId Heads.evidenceTimeline),
      required "evidence_lookup_authority_fingerprint" (digestText Heads.evidenceLookupAuthority),
      required "evidence_builder_fingerprint" (digestText Heads.evidenceBuilder),
      required "evidence_lookup_entry_id" (digestId Heads.evidenceLookupEntry),
      required "evidence_projection_id" (digestId Heads.evidenceProjection),
      required "evidence_set_id" (digestId Heads.evidenceSet)] (by decide)
    (fun m => ((), m.reference_id, m.evidence_timeline_id,
      m.evidence_lookup_authority_fingerprint, m.evidence_builder_fingerprint,
      m.evidence_lookup_entry_id, m.evidence_projection_id, m.evidence_set_id, ()))
    (fun (_, reference_id, evidence_timeline_id, evidence_lookup_authority_fingerprint,
        evidence_builder_fingerprint, evidence_lookup_entry_id, evidence_projection_id,
        evidence_set_id, _) =>
      let fields : EvidenceReferenceFields :=
        { evidence_timeline_id, evidence_lookup_authority_fingerprint,
          evidence_builder_fingerprint, evidence_lookup_entry_id, evidence_projection_id,
          evidence_set_id }
      if h : reference_id = fields.buildReferenceId env then some ⟨fields, reference_id, h⟩
      else none)
    (fun m => dif_pos m.reference_id_eq)

end FuturesBot.Decisions
