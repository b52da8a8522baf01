import FuturesBot.ReplayDecisionModels

/-! Decisions of a stack as outputs of a replay: the envelope that carries a decision with what it
was made from, its encoding as a canonical payload, and the decoding of output records. -/
namespace FuturesBot.Decisions

open JsonText (Json Text)
open JsonCodec TextLines DateTimes Checks
open Replay (ReplayInputKind canonicalJson digestOf ReplayHandlerOutputProposal
  ReplayEventOutputRecord RawProposal)

inductive ReplayDecisionOutputKind where
  | DECISION_INTENT
  | NO_TRADE_DECISION
  deriving DecidableEq, Repr

def ReplayDecisionOutputKind.value : ReplayDecisionOutputKind → String
  | .DECISION_INTENT => "replay.decision-intent.v3"
  | .NO_TRADE_DECISION => "replay.no-trade-decision.v3"

def ReplayDecisionOutputKind.of (value : String) : Option ReplayDecisionOutputKind :=
  [ReplayDecisionOutputKind.DECISION_INTENT, .NO_TRADE_DECISION].find? fun kind =>
    kind.value = value

def replayDecisionOutputKind : Codec ReplayDecisionOutputKind :=
  enumCodec [.DECISION_INTENT, .NO_TRADE_DECISION] ReplayDecisionOutputKind.value
    (by intro a; cases a <;> decide)

structure EnvelopeFields (env : Env) where
  run_id : TrimmedText
  manifest_id : TrimmedText
  replay_plan_id : TrimmedText
  timeline_id : TrimmedText
  timeline_fingerprint_id : TrimmedText
  dispatcher_fingerprint : TrimmedText
  event_id : TrimmedText
  event_order_index : Index
  event_time : DateTime
  event_kind : ReplayInputKind
  stack_descriptor : ReplayDecisionStackDescriptor
  market_lookup_descriptor : ReplayMarketFrameLookupDescriptor
  evidence_lookup_descriptor : ReplayMarketEvidenceLookupDescriptor
  market_context_reference : ReplayDecisionMarketContextReference env
  evidence_context_reference : ReplayDecisionEvidenceContextReference env
  decision_index : Index
  decision_kind : ReplayDecisionOutputKind
  decision_intent : Option DecisionIntent
  no_trade_decision : Option NoTradeDecision
  deriving DecidableEq

/-- What intents and decisions not to trade have in common. -/
structure DecisionHead where
  decision_intent_id : DomainId
  bot_id : BotId
  source_kind : DecisionSourceKind
  source_id : TrimmedText
  created_at : DateTime
  deriving DecidableEq

def DecisionIntent.head (d : DecisionIntent) : DecisionHead :=
  ⟨d.decision_intent_id, d.bot_id, d.source_kind, d.source_id, d.created_at⟩

def NoTradeDecision.head (d : NoTradeDecision) : DecisionHead :=
  ⟨d.decision_intent_id, d.bot_id, d.source_kind, d.source_id, d.created_at⟩

/-- `_populated_decision_for_kind`. -/
def populatedDecisionForKind (decision_kind : ReplayDecisionOutputKind) :
    Option DecisionIntent → Option NoTradeDecision → Except DecisionError DecisionHead
  | some intent, none =>
    if decision_kind ≠ .DECISION_INTENT then
      .error (.check "decision_kind must match decision_intent")
    else if intent.status ≠ .PROPOSED then
      .error (.check "DecisionStack may only emit PROPOSED DecisionIntent")
    else .ok intent.head
  | none, some no_trade =>
    if decision_kind ≠ .NO_TRADE_DECISION then
      .error (.check "decision_kind must match no_trade_decision")
    else .ok no_trade.head
  | _, _ => .error (.check "exactly one replay decision output must be populated")

/-- The digest of a decision's id. -/
def buildReplayDecisionIntentId (env : Env) (run_id : TrimmedText) (event_order_index : Index)
    (event_id : TrimmedText) (decision_handler_fingerprint market_context_reference_id
      evidence_context_reference_id : HexDigest) (decision_index : Index) : HexDigest :=
  digestOf env (.obj [
    ("decision_index", .int decision_index.val),
    ("decision_handler_fingerprint",
      (digestText Heads.decisionHandler).dump decision_handler_fingerprint),
    ("evidence_context_reference_id",
      (digestText Heads.evidenceContextReference).dump evidence_context_reference_id),
    ("event_id", .str event_id.value),
    ("event_order_index", .int event_order_index.val),
    ("market_context_reference_id",
      (digestId Heads.marketContextReference).dump market_context_reference_id),
    ("run_id", .str run_id.value)])

namespace EnvelopeFields

variable {env : Env}
variable (e : EnvelopeFields env)

def handlerFingerprint : HexDigest :=
  buildReplayDecisionHandlerFingerprint env e.stack_descriptor e.market_lookup_descriptor
    e.evidence_lookup_descriptor

def decisionIntentId : DomainId :=
  .ofDigest Heads.decision (buildReplayDecisionIntentId env e.run_id e.event_order_index
    e.event_id e.handlerFingerprint e.market_context_reference.reference_id
    e.evidence_context_reference.reference_id e.decision_index)

def kindChecks : List (Check DecisionError) :=
  [require (e.event_kind ∈ e.stack_descriptor.supported_event_kinds.val)
      (.check "event_kind must be supported by stack_descriptor"),
    require (e.event_kind ∈ e.market_lookup_descriptor.supported_event_kinds.val)
      (.check "event_kind must be supported by market_lookup_descriptor"),
    require (e.event_kind ∈ e.evidence_lookup_descriptor.supported_event_kinds.val)
      (.check "event_kind must be supported by evidence_lookup_descriptor")]

def descriptorChecks : List (Check DecisionError) :=
  [require (e.timeline_id = e.market_lookup_descriptor.replay_timeline_id)
      (.check "timeline_id must match market lookup descriptor"),
    require (e.replay_plan_id = e.market_lookup_descriptor.replay_plan_id)
      (.check "replay_plan_id must match market lookup descriptor"),
    require (e.timeline_id = e.evidence_lookup_descriptor.replay_timeline_id)
      (.check "timeline_id must match evidence lookup descriptor"),
    require (e.replay_plan_id = e.evidence_lookup_descriptor.replay_plan_id)
      (.check "replay_plan_id must match evidence lookup descriptor")]

/-- The members of the market reference that repeat those of the envelope. -/
def referenceValues : List (Check DecisionError) :=
  let r := e.market_context_reference
  let mismatch (field_name : String) : DecisionError :=
    .check ("market context reference " ++ field_name ++ " must match envelope")
  [require (r.run_id = e.run_id) (mismatch "run_id"),
    require (r.manifest_id = e.manifest_id) (mismatch "manifest_id"),
    require (r.replay_plan_id = e.replay_plan_id) (mismatch "replay_plan_id"),
    require (r.replay_timeline_id = e.timeline_id) (mismatch "replay_timeline_id"),
    require (r.timeline_fingerprint_id = e.timeline_fingerprint_id)
      (mismatch "timeline_fingerprint_id"),
    require (r.dispatcher_fingerprint = e.dispatcher_fingerprint)
      (mismatch "dispatcher_fingerprint"),
    require (r.event_id = e.event_id) (mismatch "event_id"),
    require (r.event_order_index = e.event_order_index) (mismatch "event_order_index"),
    require (r.event_time = e.event_time) (mismatch "event_time"),
    require (r.event_kind = e.event_kind) (mismatch "event_kind")]

def lookupChecks : List (Check DecisionError) :=
  let market := e.market_context_reference
  let evidence := e.evidence_context_reference
  [require (market.market_timeline_id = e.market_lookup_descriptor.market_timeline_id)
      (.check "market context reference timeline must match lookup"),
    require (market.lookup_authority_fingerprint =
        e.market_lookup_descriptor.lookup_authority_fingerprint)
      (.check "market context reference lookup authority must match lookup"),
    require (market.adapter_fingerprint = e.market_lookup_descriptor.adapter_fingerprint)
      (.check "market context reference adapter must match lookup"),
    require (evidence.evidence_timeline_id = e.evidence_lookup_descriptor.evidence_timeline_id)
      (.check "evidence context reference timeline must match lookup"),
    require (evidence.evidence_lookup_authority_fingerprint =
        e.evidence_lookup_descriptor.evidence_lookup_authority_fingerprint)
      (.check "evidence context reference lookup authority must match lookup"),
    require (evidence.evidence_builder_fingerprint =
        e.evidence_lookup_descriptor.evidence_builder_fingerprint)
      (.check "evidence context reference builder must match lookup")]

def decisionChecks (decision : DecisionHead) : List (Check DecisionError) :=
  [require (decision.decision_intent_id = e.decisionIntentId)
      (.check "decision_intent_id must match deterministic replay decision ID"),
    require (decision.bot_id = e.stack_descriptor.bot_id)
      (.check "decision bot_id must match stack_descriptor bot_id"),
    require (decision.source_kind = e.stack_descriptor.source_kind)
      (.check "decision source_kind must match stack_descriptor source_kind"),
    require (decision.source_id = e.stack_descriptor.stack_id)
      (.check "decision source_id must match stack_descriptor stack_id"),
    require (decision.created_at = e.event_time)
      (.check "decision created_at must match replay event_time")]

/-- `_validate_envelope`. -/
def validateEnvelope : Except DecisionError Unit := do
  checkAll (e.kindChecks ++ e.descriptorChecks ++ e.referenceValues ++ e.lookupChecks)
  let decision ← populatedDecisionForKind e.decision_kind e.decision_intent e.no_trade_decision
  checkAll (e.decisionChecks decision)

end EnvelopeFields

/-- The output of a stack for one event. -/
structure ReplayDecisionOutputEnvelope (env : Env) extends EnvelopeFields env where
  valid : toEnvelopeFields.validateEnvelope = .ok ()
  deriving DecidableEq

def ReplayDecisionOutputEnvelope.of {env : Env} (e : EnvelopeFields env) :
    Except DecisionError (ReplayDecisionOutputEnvelope env) :=
  validated e.validateEnvelope fun h => ⟨e, h⟩

def Readers.envelopeFields (r : Readers) (env : Env) : List Field :=
  [defaulted "schema_version" (schemaVersion 3) (),
    required "run_id" trimmedText, required "manifest_id" trimmedText,
    required "replay_plan_id" trimmedText, required "timeline_id" trimmedText,
    required "timeline_fingerprint_id" trimmedText, required "dispatcher_fingerprint" trimmedText,
    required "event_id" trimmedText, required "event_order_index" index,
    required "event_time" r.instant, required "event_kind" replayInputKind,
    required "stack_descriptor" stackDescriptor,
    required "market_lookup_descriptor" marketLookupDescriptor,
    required "evidence_lookup_descriptor" evidenceLookupDescriptor,
    required "market_context_reference" (r.marketReference env),
    required "evidence_context_reference" (evidenceReference env),
    required "decision_index" index, required "decision_kind" replayDecisionOutputKind,
    nullable "decision_intent" r.decisionIntent record_dump_ne_null,
    nullable "no_trade_decision" r.noTradeDecision record_dump_ne_null]

theorem envelopeFields_names (r : Readers) (env : Env) :
    (fieldNames (r.envelopeFields env)).Nodup := by
  change ["schema_version", "run_id", "manifest_id", "replay_plan_id", "timeline_id",
    "timeline_fingerprint_id", "dispatcher_fingerprint", "event_id", "event_order_index",
    "event_time", "event_kind", "stack_descriptor", "market_lookup_descriptor",
    "evidence_lookup_descriptor", "market_context_reference", "evidence_context_reference",
    "decision_index", "decision_kind", "decision_intent", "no_trade_decision"].Nodup
  decide

/-- The envelope as its model dumps and reads it. -/
def Readers.envelope (r : Readers) (env : Env) : Codec (ReplayDecisionOutputEnvelope env) :=
  record (r.envelopeFields env) (envelopeFields_names r env)
    (fun e => ((), e.run_id, e.manifest_id, e.replay_plan_id, e.timeline_id,
      e.timeline_fingerprint_id, e.dispatcher_fingerprint, e.event_id, e.event_order_index,
      e.event_time, e.event_kind, e.stack_descriptor, e.market_lookup_descriptor,
      e.evidence_lookup_descriptor, e.market_context_reference, e.evidence_context_reference,
      e.decision_index, e.decision_kind, e.decision_intent, e.no_trade_decision, ()))
    (fun (_, run_id, manifest_id, replay_plan_id, timeline_id, timeline_fingerprint_id,
        dispatcher_fingerprint, event_id, event_order_index, event_time, event_kind,
        stack_descriptor, market_lookup_descriptor, evidence_lookup_descriptor,
        market_context_reference, evidence_context_reference, decision_index, decision_kind,
        decision_intent, no_trade_decision, _) =>
      let fields : EnvelopeFields env :=
        { run_id, manifest_id, replay_plan_id, timeline_id, timeline_fingerprint_id,
          dispatcher_fingerprint, event_id, event_order_index, event_time, event_kind,
          stack_descriptor, market_lookup_descriptor, evidence_lookup_descriptor,
          market_context_reference, evidence_context_reference, decision_index, decision_kind,
          decision_intent, no_trade_decision }
      if h : fields.validateEnvelope = .ok () then some ⟨fields, h⟩ else none)
    (fun e => dif_pos e.valid)

/-! Encoding and decoding. -/

section Encoding

variable (env : Env) (r : Readers)

/-- The canonical text of an envelope. -/
def canonicalPayload (e : ReplayDecisionOutputEnvelope env) : String :=
  String.ofList (canonicalJson ((r.envelope env).dump e))

def buildReplayDecisionOutputProposal (e : ReplayDecisionOutputEnvelope env) :
    Except DecisionError (ReplayHandlerOutputProposal env) :=
  match (r.envelope env).load ((r.envelope env).dump e) with
  | none => .error (.invalid "ReplayDecisionOutputEnvelope")
  | some revalidated =>
    match ReplayHandlerOutputProposal.of env
      ⟨revalidated.decision_kind.value, canonicalPayload env r revalidated⟩ with
    | none => .error (.check "canonical_payload must be compact sorted canonical JSON")
    | some proposal => .ok proposal

/-- The members of an envelope that repeat those of its record. -/
def identityChecks (e : ReplayDecisionOutputEnvelope env) (record : ReplayEventOutputRecord env) :
    List (Check DecisionError) :=
  let context := record.context
  let mismatch (field_name : String) : DecisionError :=
    .check ("decision envelope " ++ field_name ++ " must match output record")
  [require (e.run_id = context.run_id) (mismatch "run_id"),
    require (e.manifest_id = context.manifest_id) (mismatch "manifest_id"),
    require (e.replay_plan_id = context.replay_plan_id) (mismatch "replay_plan_id"),
    require (e.timeline_id = context.timeline_id) (mismatch "timeline_id"),
    require (e.timeline_fingerprint_id = context.timeline_fingerprint_id)
      (mismatch "timeline_fingerprint_id"),
    require (e.dispatcher_fingerprint.value =
        digestName Heads.dispatcher context.dispatcher_fingerprint)
      (mismatch "dispatcher_fingerprint"),
    require (e.event_id = context.event_id) (mismatch "event_id"),
    require (e.event_order_index.val = context.event_order_index) (mismatch "event_order_index"),
    require (e.event_time = context.event_time) (mismatch "event_time"),
    require (e.event_kind = context.event_kind) (mismatch "event_kind")]

def handlerChecks (e : ReplayDecisionOutputEnvelope env) (record : ReplayEventOutputRecord env)
    (output_kind : ReplayDecisionOutputKind) : List (Check DecisionError) :=
  [require (record.handler_id.value = digestName Heads.decisionHandler e.handlerFingerprint)
      (.check "output record handler_id must match decision handler fingerprint"),
    require (record.handler_version = e.stack_descriptor.stack_version)
      (.check "output record handler_version must match stack_version"),
    require (record.handler_output_index = e.decision_index.val)
      (.check "output record handler_output_index must match decision_index"),
    require (output_kind = e.decision_kind)
      (.check "output record output_kind must match decision_kind")]

def decodeReplayDecisionOutputRecord (record : ReplayEventOutputRecord env) :
    Except DecisionError (ReplayDecisionOutputEnvelope env) :=
  match ReplayDecisionOutputKind.of record.output_kind.value with
  | none => .error (.check "output record is not a replay decision output kind")
  | some output_kind =>
    match (env.parseJson record.canonical_payload.toList).bind (r.envelope env).load with
    | none => .error (.invalid "ReplayDecisionOutputEnvelope")
    | some envelope => do
      checkAll (identityChecks env envelope record ++ handlerChecks env envelope record output_kind)
      let expected_proposal ← buildReplayDecisionOutputProposal env r envelope
      checkAll [
        require (record.output_kind = expected_proposal.output_kind)
          (.check "output_kind must match canonical replay decision encoding"),
        require (record.canonical_payload = expected_proposal.canonical_payload)
          (.check "canonical_payload must match canonical replay decision encoding")]
      .ok envelope

end Encoding

end FuturesBot.Decisions
