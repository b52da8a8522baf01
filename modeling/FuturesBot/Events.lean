import FuturesBot.DomainValues

/-! Event envelopes: the payload model of each event type, and the check that turns a
payload into the members its model dumps. -/
namespace FuturesBot

open JsonText (Json)
open JsonCodec DateTimes DecimalNumbers

inductive EventType where
  | BOT_CREATED
  | BUCKET_CREATED
  | DECISION_INTENT_CREATED
  | NO_TRADE_DECISION_CREATED
  | RISK_GATE_APPROVED
  | RISK_GATE_REJECTED
  | PAPER_POSITION_OPENED
  | PAPER_POSITION_CLOSED
  | LEDGER_MUTATION_APPLIED
  | COUNTERFACTUAL_EVALUATED
  | EXECUTION_INTENT_CREATED
  | ORDER_SUBMIT_ATTEMPTED
  | ORDER_ACCEPTED
  | ORDER_REJECTED
  | ORDER_FILL_RECEIVED
  | ORDER_CANCEL_REQUESTED
  | ORDER_CANCELLED
  | ORDER_EXPIRED
  | WAL_REPLAY_STARTED
  | WAL_REPLAY_COMPLETED
  | RECOVERY_ADOPT_STARTED
  | RECOVERY_ADOPT_COMPLETED
  | RECOVERY_ADOPT_FAILED
  deriving DecidableEq, Repr

def EventType.all : List EventType :=
  [.BOT_CREATED, .BUCKET_CREATED, .DECISION_INTENT_CREATED, .NO_TRADE_DECISION_CREATED,
    .RISK_GATE_APPROVED, .RISK_GATE_REJECTED, .PAPER_POSITION_OPENED, .PAPER_POSITION_CLOSED,
    .LEDGER_MUTATION_APPLIED, .COUNTERFACTUAL_EVALUATED, .EXECUTION_INTENT_CREATED,
    .ORDER_SUBMIT_ATTEMPTED, .ORDER_ACCEPTED, .ORDER_REJECTED, .ORDER_FILL_RECEIVED,
    .ORDER_CANCEL_REQUESTED, .ORDER_CANCELLED, .ORDER_EXPIRED, .WAL_REPLAY_STARTED,
    .WAL_REPLAY_COMPLETED, .RECOVERY_ADOPT_STARTED, .RECOVERY_ADOPT_COMPLETED,
    .RECOVERY_ADOPT_FAILED]

def EventType.name : EventType → String
  | .BOT_CREATED => "BOT_CREATED"
  | .BUCKET_CREATED => "BUCKET_CREATED"
  | .DECISION_INTENT_CREATED => "DECISION_INTENT_CREATED"
  | .NO_TRADE_DECISION_CREATED => "NO_TRADE_DECISION_CREATED"
  | .RISK_GATE_APPROVED => "RISK_GATE_APPROVED"
  | .RISK_GATE_REJECTED => "RISK_GATE_REJECTED"
  | .PAPER_POSITION_OPENED => "PAPER_POSITION_OPENED"
  | .PAPER_POSITION_CLOSED => "PAPER_POSITION_CLOSED"
  | .LEDGER_MUTATION_APPLIED => "LEDGER_MUTATION_APPLIED"
  | .COUNTERFACTUAL_EVALUATED => "COUNTERFACTUAL_EVALUATED"
  | .EXECUTION_INTENT_CREATED => "EXECUTION_INTENT_CREATED"
  | .ORDER_SUBMIT_ATTEMPTED => "ORDER_SUBMIT_ATTEMPTED"
  | .ORDER_ACCEPTED => "ORDER_ACCEPTED"
  | .ORDER_REJECTED => "ORDER_REJECTED"
  | .ORDER_FILL_RECEIVED => "ORDER_FILL_RECEIVED"
  | .ORDER_CANCEL_REQUESTED => "ORDER_CANCEL_REQUESTED"
  | .ORDER_CANCELLED => "ORDER_CANCELLED"
  | .ORDER_EXPIRED => "ORDER_EXPIRED"
  | .WAL_REPLAY_STARTED => "WAL_REPLAY_STARTED"
  | .WAL_REPLAY_COMPLETED => "WAL_REPLAY_COMPLETED"
  | .RECOVERY_ADOPT_STARTED => "RECOVERY_ADOPT_STARTED"
  | .RECOVERY_ADOPT_COMPLETED => "RECOVERY_ADOPT_COMPLETED"
  | .RECOVERY_ADOPT_FAILED => "RECOVERY_ADOPT_FAILED"

def eventType : Codec EventType :=
  enumCodec EventType.all EventType.name (by intro a; cases a <;> decide)

/-! Payload models. A model is a list of typed members and a check across them; an object
with other members is refused. -/

structure PayloadModel where
  fields : List Field
  names_nodup : (fieldNames fields).Nodup
  check : Row fields → Bool

namespace PayloadModel

def Payload (m : PayloadModel) : Type := {r : Row m.fields // m.check r = true}

def codec (m : PayloadModel) : Codec m.Payload :=
  record m.fields m.names_nodup (fun p => p.val)
    (fun r => if h : m.check r = true then some ⟨r, h⟩ else none) (fun p => dif_pos p.property)

/-- The members that dumping a typed payload gives. -/
def dump (m : PayloadModel) (p : m.Payload) : List (String × Json) := dumpRow m.fields p.val

theorem codec_dump (m : PayloadModel) (p : m.Payload) : m.codec.dump p = .obj (m.dump p) := rfl

end PayloadModel

def ofFields (fields : List Field) (h : (fieldNames fields).Nodup) : PayloadModel :=
  ⟨fields, h, fun _ => true⟩

def executionIntentCreatedPayload : PayloadModel :=
  ofFields
    [required "execution_intent_id" domainId, required "decision_intent_id" domainId,
      required "order_intent_id" domainId] (by decide)

/-- `limit_price` is coerced like any decimal; only a LIMIT order needs it positive. -/
def orderSubmitAttemptedPayload : PayloadModel where
  fields :=
    [required "execution_intent_id" domainId, required "order_intent_id" domainId,
      required "client_order_id" trimmedText, required "instrument_id" domainId,
      required "side" orderSide, required "order_type" orderType,
      required "quantity" positiveDecimal, nullable "limit_price" decimal nofun,
      required "reduce_only" flag, required "attempted_at" instant]
  names_nodup := by decide
  check := fun (_, _, _, _, _, order_type, _, limit_price, _) =>
    match order_type, limit_price with
    | .MARKET, limit_price => limit_price.isNone
    | .LIMIT, none => false
    | .LIMIT, some price => price.positive

def orderAcceptedPayload : PayloadModel :=
  ofFields
    [required "order_intent_id" domainId, required "exchange_order_id" domainId,
      required "accepted_at" instant] (by decide)

def orderRejectedPayload : PayloadModel :=
  ofFields
    [required "order_intent_id" domainId, required "rejected_at" instant,
      required "reason" trimmedText] (by decide)

def orderFillReceivedPayload : PayloadModel :=
  ofFields
    [required "order_intent_id" domainId, required "exchange_order_id" domainId,
      required "fill_id" domainId, required "filled_quantity" positiveDecimal,
      required "fill_price" positiveDecimal, nullable "fee" assetAmount nofun,
      required "received_at" instant] (by decide)

/-- The three order events that only say when and, perhaps, why. -/
def orderStatusPayload (at_field : String)
    (h : (fieldNames [required "order_intent_id" domainId, required at_field instant,
      nullable "reason" text nofun]).Nodup) : PayloadModel :=
  ofFields
    [required "order_intent_id" domainId, required at_field instant,
      nullable "reason" text nofun] h

def orderCancelRequestedPayload : PayloadModel := orderStatusPayload "requested_at" (by decide)

def orderCancelledPayload : PayloadModel := orderStatusPayload "cancelled_at" (by decide)

def orderExpiredPayload : PayloadModel := orderStatusPayload "expired_at" (by decide)

def walReplayStartedPayload : PayloadModel :=
  ofFields
    [required "run_id" domainId, required "started_at" instant,
      required "from_offset" walOffset] (by decide)

/-- `last_replayed_offset` may be null but not left out. -/
def walReplayCompletedPayload : PayloadModel :=
  ofFields
    [required "run_id" domainId, required "completed_at" instant,
      required "last_replayed_offset" (walOffset.optional nofun),
      required "records_replayed" count] (by decide)

def ensureDistinctRuns (adopting_run_id predecessor_run_id : RunId) : Bool :=
  adopting_run_id ≠ predecessor_run_id

def recoveryAdoptStartedPayload : PayloadModel where
  fields :=
    [required "adopting_run_id" domainId, required "predecessor_run_id" domainId,
      required "started_at" instant, required "reason" trimmedText]
  names_nodup := by decide
  check := fun (adopting, predecessor, _) => ensureDistinctRuns adopting predecessor

def recoveryAdoptCompletedPayload : PayloadModel where
  fields :=
    [required "adopting_run_id" domainId, required "predecessor_run_id" domainId,
      required "completed_at" instant, required "adopted_positions_count" count,
      required "adopted_open_orders_count" count]
  names_nodup := by decide
  check := fun (adopting, predecessor, _) => ensureDistinctRuns adopting predecessor

def recoveryAdoptFailedPayload : PayloadModel where
  fields :=
    [required "adopting_run_id" domainId, required "predecessor_run_id" domainId,
      required "failed_at" instant, required "reason" trimmedText]
  names_nodup := by decide
  check := fun (adopting, predecessor, _) => ensureDistinctRuns adopting predecessor

def eventPayloadModels : EventType → Option PayloadModel
  | .EXECUTION_INTENT_CREATED => some executionIntentCreatedPayload
  | .ORDER_SUBMIT_ATTEMPTED => some orderSubmitAttemptedPayload
  | .ORDER_ACCEPTED => some orderAcceptedPayload
  | .ORDER_REJECTED => some orderRejectedPayload
  | .ORDER_FILL_RECEIVED => some orderFillReceivedPayload
  | .ORDER_CANCEL_REQUESTED => some orderCancelRequestedPayload
  | .ORDER_CANCELLED => some orderCancelledPayload
  | .ORDER_EXPIRED => some orderExpiredPayload
  | .WAL_REPLAY_STARTED => some walReplayStartedPayload
  | .WAL_REPLAY_COMPLETED => some walReplayCompletedPayload
  | .RECOVERY_ADOPT_STARTED => some recoveryAdoptStartedPayload
  | .RECOVERY_ADOPT_COMPLETED => some recoveryAdoptCompletedPayload
  | .RECOVERY_ADOPT_FAILED => some recoveryAdoptFailedPayload
  | _ => none

/-- The payload an envelope keeps: the members of its typed payload, or the object as it
stands when the event type has no model. -/
def validateEventPayload (event_type : EventType) (payload : List (String × Json)) :
    Option (List (String × Json)) :=
  match eventPayloadModels event_type with
  | none => some payload
  | some m => (m.codec.load (.obj payload)).map m.dump

/-- The payloads that a validated envelope can hold. -/
def IsPayloadOf (event_type : EventType) (payload : List (String × Json)) : Prop :=
  ∀ m ∈ eventPayloadModels event_type, ∃ p : m.Payload, payload = m.dump p

theorem validateEventPayload_isPayloadOf {event_type : EventType}
    {payload normal : List (String × Json)}
    (h : validateEventPayload event_type payload = some normal) :
    IsPayloadOf event_type normal := by
  intro m hm
  have hsome : eventPayloadModels event_type = some m := hm
  rw [validateEventPayload, hsome] at h
  obtain ⟨p, -, rfl⟩ := Option.map_eq_some_iff.mp h
  exact ⟨p, rfl⟩

/-- A payload that was validated once is validated again to itself. -/
theorem validateEventPayload_of_isPayloadOf {event_type : EventType}
    {payload : List (String × Json)} (h : IsPayloadOf event_type payload) :
    validateEventPayload event_type payload = some payload := by
  unfold validateEventPayload
  split
  · rfl
  · rename_i m hm
    obtain ⟨p, rfl⟩ := h m hm
    rw [← m.codec_dump, m.codec.load_dump, Option.map_some]

/-! Envelopes. -/

/-- A payload value as Python holds it: one that JSON can carry (it equals what its JSON
reads back as), or another object, with the JSON it is dumped as when it can be dumped. -/
inductive PayloadValue where
  | native (v : Json)
  | foreign (dump : Option Json)
  deriving DecidableEq

namespace PayloadValue

def dump : PayloadValue → Option Json
  | .native v => some v
  | .foreign d => d

def isNative : PayloadValue → Bool
  | .native _ => true
  | .foreign _ => false

end PayloadValue

abbrev EventPayload := List (String × PayloadValue)

def nativePayload (payload : List (String × Json)) : EventPayload :=
  payload.map fun kv => (kv.1, .native kv.2)

def dumpPayload : EventPayload → Option (List (String × Json))
  | [] => some []
  | (k, v) :: payload => do
    let v ← v.dump
    let ms ← dumpPayload payload
    some ((k, v) :: ms)

theorem dumpPayload_nativePayload (ms : List (String × Json)) :
    dumpPayload (nativePayload ms) = some ms := by
  induction ms with
  | nil => rfl
  | cons kv ms ih =>
    change (dumpPayload (nativePayload ms)).bind _ = _
    rw [ih]
    rfl

/-- An envelope that passed its model's validators. -/
structure EventEnvelope where
  event_id : EventId
  event_type : EventType
  occurred_at : DateTime
  bot_id : Option BotId
  experiment_id : Option ExperimentId
  cohort_id : Option CohortId
  local_sequence : Option ℕ
  schema_version : TrimmedText
  payload : EventPayload
  payload_valid : (eventPayloadModels event_type).isSome = true →
    ∃ ms, IsPayloadOf event_type ms ∧ payload = nativePayload ms
  deriving DecidableEq

def eventFields : List Field :=
  [required "event_id" domainId, required "event_type" eventType,
    required "occurred_at" instant, nullable "bot_id" domainId nofun,
    nullable "experiment_id" domainId nofun, nullable "cohort_id" domainId nofun,
    nullable "local_sequence" count nofun, required "schema_version" trimmedText,
    ⟨"payload", List (String × Json), members, some []⟩]

namespace EventEnvelope

def row (e : EventEnvelope) (payload : List (String × Json)) : Row eventFields :=
  (e.event_id, e.event_type, e.occurred_at, e.bot_id, e.experiment_id, e.cohort_id,
    e.local_sequence, e.schema_version, payload, ())

def modelDump (e : EventEnvelope) : Option Json :=
  (dumpPayload e.payload).map fun ms => .obj (dumpRow eventFields (e.row ms))

def ofRow (r : Row eventFields) : Option EventEnvelope :=
  match r with
  | (event_id, event_type, occurred_at, bot_id, experiment_id, cohort_id, local_sequence,
      schema_version, payload, _) =>
    match h : validateEventPayload event_type payload with
    | none => none
    | some normal => some
        { event_id, event_type, occurred_at, bot_id, experiment_id, cohort_id, local_sequence,
          schema_version, payload := nativePayload normal
          payload_valid := fun _ => ⟨normal, validateEventPayload_isPayloadOf h, rfl⟩ }

def modelValidate : Json → Option EventEnvelope
  | .obj ms => if ∀ m ∈ ms, m.1 ∈ fieldNames eventFields then (loadRow ms eventFields).bind ofRow
    else none
  | _ => none

/-- Every payload value is one that JSON carries unchanged. -/
def Native (e : EventEnvelope) : Prop := ∀ kv ∈ e.payload, kv.2.isNative = true

instance (e : EventEnvelope) : Decidable e.Native :=
  inferInstanceAs (Decidable (∀ kv ∈ e.payload, _))

theorem nativePayload_native (ms : List (String × Json)) :
    ∀ kv ∈ nativePayload ms, kv.2.isNative = true := by
  intro kv hkv
  obtain ⟨m, -, rfl⟩ := List.mem_map.mp hkv
  rfl

/-- A native payload is the one its dump reads back as. -/
theorem nativePayload_of_dump {payload : EventPayload} {ms : List (String × Json)}
    (hnative : ∀ kv ∈ payload, kv.2.isNative = true) (h : dumpPayload payload = some ms) :
    nativePayload ms = payload := by
  induction payload generalizing ms with
  | nil =>
    obtain rfl := Option.some.inj h
    rfl
  | cons kv payload ih =>
    obtain ⟨k, v⟩ := kv
    have hv := hnative (k, v) List.mem_cons_self
    cases v with
    | foreign d => exact absurd hv Bool.false_ne_true
    | native v =>
      simp only [dumpPayload, PayloadValue.dump, Option.bind_eq_bind, Option.bind_some,
        Option.bind_eq_some_iff, Option.some.injEq] at h
      obtain ⟨ms', hms', rfl⟩ := h
      have htail := ih (fun kv hkv => hnative kv (List.mem_cons_of_mem _ hkv)) hms'
      simp only [nativePayload, List.map_cons] at htail ⊢
      rw [htail]

theorem isPayloadOf_dump (e : EventEnvelope) {ms : List (String × Json)}
    (h : dumpPayload e.payload = some ms) : IsPayloadOf e.event_type ms := by
  intro m hm
  have hsome : (eventPayloadModels e.event_type).isSome = true := by
    rw [Option.mem_def.mp hm]
    rfl
  obtain ⟨ms', hms', hpayload⟩ := e.payload_valid hsome
  rw [hpayload, dumpPayload_nativePayload] at h
  obtain rfl := Option.some.inj h
  exact hms' m hm

/-- Reading the dump of an envelope gives the envelope with its payload as JSON has it. -/
theorem modelValidate_modelDump {e : EventEnvelope} {j : Json} (h : e.modelDump = some j) :
    ∃ ms e', dumpPayload e.payload = some ms ∧ modelValidate j = some e' ∧
      e'.payload = nativePayload ms ∧ (e.payload = nativePayload ms → e' = e) := by
  obtain ⟨ms, hms, rfl⟩ := Option.map_eq_some_iff.mp h
  have hnames := dumpRow_names eventFields (e.row ms)
  have hknown : ∀ m ∈ dumpRow eventFields (e.row ms), m.1 ∈ fieldNames eventFields :=
    fun m hm => by
      rw [← hnames]
      exact List.mem_map_of_mem hm
  have hrow := loadRow_of_lookup _ eventFields (e.row ms) fun kv hkv =>
    lookup_of_nodup (by rw [hnames]; decide) hkv
  have hvalid := validateEventPayload_of_isPayloadOf (isPayloadOf_dump e hms)
  have hof : ∃ e', ofRow (e.row ms) = some e' ∧ e'.payload = nativePayload ms ∧
      (e.payload = nativePayload ms → e' = e) := by
    unfold ofRow row
    dsimp only
    split
    · rename_i hnone
      rw [hvalid] at hnone
      exact absurd hnone (by simp)
    · rename_i normal hsome
      rw [hvalid] at hsome
      obtain rfl := Option.some.inj hsome
      refine ⟨_, rfl, rfl, fun hp => ?_⟩
      obtain ⟨_, _, _, _, _, _, _, _, payload, _⟩ := e
      simp only at hp
      subst hp
      rfl
  obtain ⟨e', he', hpayload, heq⟩ := hof
  refine ⟨ms, e', hms, ?_, hpayload, heq⟩
  rw [modelValidate, if_pos hknown, hrow, Option.bind_some, he']

theorem modelValidate_native {j : Json} {e : EventEnvelope} (h : modelValidate j = some e) :
    e.Native := by
  have hof : ∀ r, ofRow r = some e → e.Native := by
    intro r hr
    unfold ofRow at hr
    split at hr
    split at hr
    · exact absurd hr (by simp)
    · obtain rfl := Option.some.inj hr
      exact nativePayload_native _
  unfold modelValidate at h
  split at h
  · split at h
    · obtain ⟨r, -, hr⟩ := Option.bind_eq_some_iff.mp h
      exact hof r hr
    · exact absurd h (by simp)
  · exact absurd h (by simp)

/-- An envelope is read back as itself exactly when its payload is native. -/
theorem modelValidate_eq_iff {e : EventEnvelope} {j : Json} (h : e.modelDump = some j) :
    modelValidate j = some e ↔ e.Native := by
  refine ⟨modelValidate_native, fun hnative => ?_⟩
  obtain ⟨ms, e', hms, hload, -, heq⟩ := modelValidate_modelDump h
  rw [hload, heq (nativePayload_of_dump hnative hms).symm]

theorem modelValidate_isSome {e : EventEnvelope} {j : Json} (h : e.modelDump = some j) :
    ∃ e', modelValidate j = some e' := by
  obtain ⟨-, e', -, hload, -, -⟩ := modelValidate_modelDump h
  exact ⟨e', hload⟩

end EventEnvelope

/-- An event for the examples of the modules above. -/
def noteEvent (note : String) : EventEnvelope where
  event_id := ⟨"event-1", by decide⟩
  event_type := .BOT_CREATED
  occurred_at := sampleTime
  bot_id := none
  experiment_id := none
  cohort_id := none
  local_sequence := none
  schema_version := ⟨"1", .checked evaluates⟩
  payload := [("note", .native (.str note))]
  payload_valid := fun h => absurd h (by decide)

end FuturesBot
