import FuturesBot.Journal
import FuturesBot.ReplayTimelines

/-! Dispatch of replay events: the handlers that take an event, the outputs they propose, and
the records and receipts that are made of them. -/
namespace FuturesBot.Replay

open JsonText (Json Text)
open TextLines DateTimes Dicts KeySorting Checks

inductive ReplayRunStatus where
  | CREATED
  | RUNNING
  | PAUSED
  | COMPLETED
  | FAILED
  | INVALIDATED
  deriving DecidableEq, Repr

/-- Why a replay call is refused. A failed check of a model carries its message. -/
inductive ReplayError where
  | check (message : String)
  | manifestNotFound (manifest_id : String)
  | timelineNotFound (timeline_id : String)
  | fingerprintNotFound (fingerprint_id : String)
  | runNotFound (run_id : String)
  | boundTimelineNotFound (timeline_id : String)
  | onlyStatus (required current : ReplayRunStatus)
  | transition (previous current : ReplayRunStatus)
  | handlerFailed (handler_id : TrimmedText)
  | handlerNotTuple (handler_id : TrimmedText)
  | handlerInvalidProposal (handler_id : TrimmedText)
  | receiptConflict (receipt_id : HexDigest)
  | outputConflict (output_record_id : HexDigest)
  | runConflict (run_id : String)
  | staleRevision (expected stored : ℕ)
  deriving DecidableEq

def canonicalJson (v : Json) : Text := JsonText.encode (JsonText.sortKeys v)

/-- The digest of a canonical JSON text. Ids are such digests behind a fixed prefix, which is
left out. -/
def digestOf (env : Env) (v : Json) : HexDigest := env.sha256 (encodeUtf8 (canonicalJson v))

def textsJson (texts : List TrimmedText) : Json := .arr (texts.map fun t => .str t.value)

/-! Handlers. -/

structure ReplayDispatchHandlerDescriptor where
  handler_id : TrimmedText
  handler_version : TrimmedText
  supported_event_kinds : List ReplayInputKind
  nonempty : supported_event_kinds ≠ []
  distinct : supported_event_kinds.Nodup
  ordered : SortedBy ReplayInputKind.value supported_event_kinds

instance : DecidableEq ReplayDispatchHandlerDescriptor := fun a b =>
  decidable_of_iff (a.handler_id = b.handler_id ∧ a.handler_version = b.handler_version ∧
    a.supported_event_kinds = b.supported_event_kinds) (by
      cases a
      cases b
      simp)

abbrev HandlerKey := String ×ₗ String

def descriptorKey (d : ReplayDispatchHandlerDescriptor) : HandlerKey :=
  toLex (d.handler_id.value, d.handler_version.value)

def descriptorJson (d : ReplayDispatchHandlerDescriptor) : Json :=
  .obj [("handler_id", .str d.handler_id.value),
    ("handler_version", .str d.handler_version.value),
    ("supported_event_kinds", .arr (d.supported_event_kinds.map fun kind => .str kind.value))]

def buildReplayDispatcherFingerprint (env : Env)
    (descriptors : List ReplayDispatchHandlerDescriptor) : HexDigest :=
  digestOf env (.arr ((sortBy descriptorKey descriptors).map descriptorJson))

/-- A registry of handlers, in the order in which they run. -/
structure LocalDeterministicReplayDispatcher (env : Env) where
  descriptors : List ReplayDispatchHandlerDescriptor
  dispatcher_fingerprint : HexDigest
  distinct : (descriptors.map (·.handler_id)).Nodup
  ordered : SortedBy descriptorKey descriptors
  fingerprint_eq : dispatcher_fingerprint = buildReplayDispatcherFingerprint env descriptors

def LocalDeterministicReplayDispatcher.of (env : Env)
    (descriptors : List ReplayDispatchHandlerDescriptor) :
    Option (LocalDeterministicReplayDispatcher env) :=
  if h : (descriptors.map (·.handler_id)).Nodup then
    some {
      descriptors := sortBy descriptorKey descriptors
      dispatcher_fingerprint :=
        buildReplayDispatcherFingerprint env (sortBy descriptorKey descriptors)
      distinct := ((sortBy_perm descriptorKey descriptors).map _).nodup_iff.mpr h
      ordered := sortBy_sorted descriptorKey descriptors
      fingerprint_eq := rfl }
  else none

def LocalDeterministicReplayDispatcher.selectedDescriptorsFor {env : Env}
    (dispatcher : LocalDeterministicReplayDispatcher env) (event_kind : ReplayInputKind) :
    List ReplayDispatchHandlerDescriptor :=
  dispatcher.descriptors.filter fun d => event_kind ∈ d.supported_event_kinds

/-- The run and the event of a dispatch. -/
structure ReplayDispatchContext where
  run_id : TrimmedText
  manifest_id : TrimmedText
  replay_plan_id : TrimmedText
  timeline_id : TrimmedText
  timeline_fingerprint_id : TrimmedText
  dispatcher_fingerprint : HexDigest
  event_id : TrimmedText
  event_order_index : ℕ
  event_time : DateTime
  event_kind : ReplayInputKind
  deriving DecidableEq

/-- The comparison of a context with what it should be, field by field. -/
def contextChecks (error : String → ReplayError) (a b : ReplayDispatchContext) :
    List (Check ReplayError) :=
  [require (a.run_id = b.run_id) (error "run_id"),
    require (a.manifest_id = b.manifest_id) (error "manifest_id"),
    require (a.replay_plan_id = b.replay_plan_id) (error "replay_plan_id"),
    require (a.timeline_id = b.timeline_id) (error "timeline_id"),
    require (a.timeline_fingerprint_id = b.timeline_fingerprint_id)
      (error "timeline_fingerprint_id"),
    require (a.dispatcher_fingerprint = b.dispatcher_fingerprint)
      (error "dispatcher_fingerprint"),
    require (a.event_id = b.event_id) (error "event_id"),
    require (a.event_order_index = b.event_order_index) (error "event_order_index"),
    require (a.event_time = b.event_time) (error "event_time"),
    require (a.event_kind = b.event_kind) (error "event_kind")]

theorem contextChecks_ok {error : String → ReplayError} {a b : ReplayDispatchContext} :
    checkAll (contextChecks error a b) = .ok () ↔ a = b := by
  simp only [contextChecks, checkAll_require, checkAll_nil, and_true]
  constructor
  · rintro ⟨h1, h2, h3, h4, h5, h6, h7, h8, h9, h10⟩
    cases a
    cases b
    simp only [ReplayDispatchContext.mk.injEq]
    exact ⟨h1, h2, h3, h4, h5, h6, h7, h8, h9, h10⟩
  · rintro rfl
    exact ⟨rfl, rfl, rfl, rfl, rfl, rfl, rfl, rfl, rfl, rfl⟩

/-! Proposals. -/

mutual

/-- Values a payload may hold: no float, no key that is empty, untrimmed or repeated, and no
integer of more digits than the reader takes. -/
def outputJsonValue : Json → Bool
  | .float _ => false
  | .int n => (JsonText.natText n.natAbs).length ≤ 4300
  | .arr items => outputJsonItems items
  | .obj members => decide (members.map (·.1)).Nodup && outputJsonMembers members
  | _ => true

def outputJsonItems : List Json → Bool
  | [] => true
  | v :: items => outputJsonValue v && outputJsonItems items

def outputJsonMembers : List (String × Json) → Bool
  | [] => true
  | (k, v) :: members =>
    decide (Trimmed k.toList) && outputJsonValue v && outputJsonMembers members

end

/-- `_validate_canonical_output_payload`: the text is the canonical text of an object. -/
def canonicalOutputPayload (env : Env) (value : String) : Bool :=
  decide (Trimmed value.toList) &&
    match env.parseJson value.toList with
    | some (.obj members) =>
      outputJsonValue (.obj members) && decide (canonicalJson (.obj members) = value.toList)
    | _ => false

structure RawProposal where
  output_kind : String
  canonical_payload : String
  deriving DecidableEq

structure ReplayHandlerOutputProposal (env : Env) where
  output_kind : TrimmedText
  canonical_payload : String
  canonical : canonicalOutputPayload env canonical_payload = true

def ReplayHandlerOutputProposal.of (env : Env) (raw : RawProposal) :
    Option (ReplayHandlerOutputProposal env) :=
  match TrimmedText.of raw.output_kind with
  | none => none
  | some output_kind =>
    if h : canonicalOutputPayload env raw.canonical_payload = true then
      some ⟨output_kind, raw.canonical_payload, h⟩
    else none

/-- What the call of a handler gives. -/
inductive HandlerOutcome where
  | raised
  | notTuple
  | proposals (proposals : List RawProposal)

/-- The handlers by their ids. -/
abbrev ReplayHandlers := TrimmedText → ReplayDispatchContext → ReplayTimelineEvent → HandlerOutcome

/-! Receipts. -/

def receiptJson (run_id : TrimmedText) (event_order_index : ℕ) (event_id : TrimmedText) : Json :=
  .obj [("event_id", .str event_id.value), ("event_order_index", .int event_order_index),
    ("run_id", .str run_id.value)]

def buildReplayEventDispatchReceiptId (env : Env) (run_id : TrimmedText) (event_order_index : ℕ)
    (event_id : TrimmedText) : HexDigest :=
  digestOf env (receiptJson run_id event_order_index event_id)

/-- The receipt id of the dispatch of a context. -/
def ReplayDispatchContext.receiptId (env : Env) (context : ReplayDispatchContext) : HexDigest :=
  buildReplayEventDispatchReceiptId env context.run_id context.event_order_index context.event_id

def validateUniqueSortedTexts (values : List TrimmedText) (field_name : String) :
    List (Check ReplayError) :=
  [require values.Nodup (.check ("duplicate " ++ field_name ++ " values are not allowed")),
    require (SortedBy (·.value) values)
      (.check (field_name ++ " must be sorted deterministically"))]

structure ReplayReceiptFields where
  receipt_id : HexDigest
  context : ReplayDispatchContext
  handler_ids : List TrimmedText
  output_record_ids : List HexDigest
  deriving DecidableEq

def ReplayReceiptFields.validateReceipt (env : Env) (r : ReplayReceiptFields) :
    List (Check ReplayError) :=
  validateUniqueSortedTexts r.handler_ids "handler_ids" ++
    [require r.output_record_ids.Nodup
        (.check "duplicate output_record_ids values are not allowed"),
      require (r.receipt_id = r.context.receiptId env)
        (.check "receipt_id must match deterministic replay dispatch ID"),
      require (r.output_record_ids ≠ [] → r.handler_ids ≠ [])
        (.check "output_record_ids require at least one handler_id")]

structure ReplayEventDispatchReceipt (env : Env) extends ReplayReceiptFields where
  valid : checkAll (toReplayReceiptFields.validateReceipt env) = .ok ()
  deriving DecidableEq

def ReplayEventDispatchReceipt.of (env : Env) (r : ReplayReceiptFields) :
    Except ReplayError (ReplayEventDispatchReceipt env) :=
  match h : checkAll (r.validateReceipt env) with
  | .ok () => .ok ⟨r, h⟩
  | .error e => .error e

/-! Output records. -/

structure ReplayOutputFields where
  output_record_id : HexDigest
  dispatch_receipt_id : HexDigest
  context : ReplayDispatchContext
  handler_id : TrimmedText
  handler_version : TrimmedText
  handler_output_index : ℕ
  output_kind : TrimmedText
  canonical_payload : String
  payload_sha256 : HexDigest
  deriving DecidableEq

def sha256Text (env : Env) (value : String) : HexDigest := env.sha256 (encodeUtf8 value.toList)

def outputJson (context : ReplayDispatchContext) (handler_id handler_version : TrimmedText)
    (handler_output_index : ℕ) (output_kind : TrimmedText) (payload_sha256 : HexDigest) : Json :=
  .obj [("event_id", .str context.event_id.value),
    ("event_order_index", .int context.event_order_index),
    ("handler_id", .str handler_id.value),
    ("handler_output_index", .int handler_output_index),
    ("handler_version", .str handler_version.value),
    ("output_kind", .str output_kind.value),
    ("payload_sha256", .str payload_sha256.value),
    ("run_id", .str context.run_id.value)]

def buildReplayEventOutputRecordId (env : Env) (context : ReplayDispatchContext)
    (handler_id handler_version : TrimmedText) (handler_output_index : ℕ)
    (output_kind : TrimmedText) (payload_sha256 : HexDigest) : HexDigest :=
  digestOf env (outputJson context handler_id handler_version handler_output_index output_kind
    payload_sha256)

def ReplayOutputFields.validateOutputRecord (env : Env) (r : ReplayOutputFields) :
    List (Check ReplayError) :=
  [require (canonicalOutputPayload env r.canonical_payload = true)
      (.check "canonical_payload must be compact sorted canonical JSON"),
    require (r.dispatch_receipt_id = r.context.receiptId env)
      (.check "dispatch_receipt_id must match deterministic replay dispatch ID"),
    require (r.payload_sha256 = sha256Text env r.canonical_payload)
      (.check "payload_sha256 must equal sha256(canonical_payload)"),
    require (r.output_record_id = buildReplayEventOutputRecordId env r.context r.handler_id
        r.handler_version r.handler_output_index r.output_kind r.payload_sha256)
      (.check "output_record_id must match deterministic replay output ID")]

structure ReplayEventOutputRecord (env : Env) extends ReplayOutputFields where
  valid : checkAll (toReplayOutputFields.validateOutputRecord env) = .ok ()
  deriving DecidableEq

def ReplayEventOutputRecord.of (env : Env) (r : ReplayOutputFields) :
    Except ReplayError (ReplayEventOutputRecord env) :=
  match h : checkAll (r.validateOutputRecord env) with
  | .ok () => .ok ⟨r, h⟩
  | .error e => .error e

/-! Plans. -/

structure ReplayPlanFields (env : Env) where
  context : ReplayDispatchContext
  handler_ids : List TrimmedText
  output_records : List (ReplayEventOutputRecord env)

abbrev OutputPosition := ℕ ×ₗ (ℕ ×ₗ String)

namespace ReplayPlanFields

variable {env : Env} (p : ReplayPlanFields env)

/-- Where an output stands: the handler's place, its index, its id. -/
def position (r : ReplayEventOutputRecord env) : OutputPosition :=
  toLex (p.handler_ids.idxOf r.handler_id,
    toLex (r.handler_output_index, r.output_record_id.value))

def validateRecords : Option OutputPosition → List (ReplayEventOutputRecord env) →
    List (Check ReplayError)
  | _, [] => []
  | previous_key, r :: rs =>
    contextChecks (fun field => .check ("output record " ++ field ++
        " must match dispatch context")) r.context p.context ++
      [require (r.handler_id ∈ p.handler_ids)
          (.check "output record handler_id must be in handler_ids"),
        require (∀ k ∈ previous_key, k < p.position r)
          (.check "output records must be in deterministic handler order")] ++
      validateRecords (some (p.position r)) rs

/-- The output indexes of a handler. -/
def indexesOf (handler_id : TrimmedText) : List ℕ :=
  (p.output_records.filter fun r => r.handler_id = handler_id).map (·.handler_output_index)

def validateIndexes : List (Check ReplayError) :=
  (p.output_records.map (·.handler_id)).dedup.flatMap fun handler_id =>
    [require (p.indexesOf handler_id = List.range (p.indexesOf handler_id).length)
      (.check "handler output indexes must be contiguous")]

/-- `_validate_plan`. -/
def validatePlan : List (Check ReplayError) :=
  validateUniqueSortedTexts p.handler_ids "handler_ids" ++
    [require (p.output_records.map (·.output_record_id)).Nodup
      (.check "duplicate output_record_id values are not allowed")] ++
    p.validateRecords none p.output_records ++ p.validateIndexes

end ReplayPlanFields

structure ReplayEventDispatchPlan (env : Env) extends ReplayPlanFields env where
  valid : checkAll toReplayPlanFields.validatePlan = .ok ()

def ReplayEventDispatchPlan.of {env : Env} (p : ReplayPlanFields env) :
    Except ReplayError (ReplayEventDispatchPlan env) :=
  match h : checkAll p.validatePlan with
  | .ok () => .ok ⟨p, h⟩
  | .error e => .error e

/-! The dispatcher. -/

namespace LocalDeterministicReplayDispatcher

variable {env : Env} (dispatcher : LocalDeterministicReplayDispatcher env)

def contextMatchesEvent (context : ReplayDispatchContext) (event : ReplayTimelineEvent) :
    List (Check ReplayError) :=
  [require (context.event_id = event.event_id)
      (.check "dispatch context event_id does not match event"),
    require (context.event_order_index = event.order_index)
      (.check "dispatch context event_order_index does not match event"),
    require (context.event_time = event.event_time)
      (.check "dispatch context event_time does not match event"),
    require (context.event_kind = event.kind)
      (.check "dispatch context event_kind does not match event")]

def revalidateProposals (env : Env) (handler_id : TrimmedText) :
    List RawProposal → Except ReplayError (List (ReplayHandlerOutputProposal env))
  | [] => .ok []
  | raw :: raws =>
    match ReplayHandlerOutputProposal.of env raw with
    | none => .error (.handlerInvalidProposal handler_id)
    | some proposal =>
      match revalidateProposals env handler_id raws with
      | .error e => .error e
      | .ok proposals => .ok (proposal :: proposals)

/-- The proposals of one handler for an event. -/
def handlerProposals (env : Env) (handlers : ReplayHandlers) (handler_id : TrimmedText)
    (context : ReplayDispatchContext) (event : ReplayTimelineEvent) :
    Except ReplayError (List (ReplayHandlerOutputProposal env)) :=
  match handlers handler_id context event with
  | .raised => .error (.handlerFailed handler_id)
  | .notTuple => .error (.handlerNotTuple handler_id)
  | .proposals raws => revalidateProposals env handler_id raws

def outputFields (env : Env) (context : ReplayDispatchContext)
    (descriptor : ReplayDispatchHandlerDescriptor) (output_index : ℕ)
    (proposal : ReplayHandlerOutputProposal env) : ReplayOutputFields :=
  let payload_sha256 := sha256Text env proposal.canonical_payload
  { output_record_id := buildReplayEventOutputRecordId env context descriptor.handler_id
      descriptor.handler_version output_index proposal.output_kind payload_sha256
    dispatch_receipt_id := context.receiptId env
    context
    handler_id := descriptor.handler_id
    handler_version := descriptor.handler_version
    handler_output_index := output_index
    output_kind := proposal.output_kind
    canonical_payload := proposal.canonical_payload
    payload_sha256 }

def buildRecords (env : Env) (context : ReplayDispatchContext)
    (descriptor : ReplayDispatchHandlerDescriptor) :
    ℕ → List (ReplayHandlerOutputProposal env) →
      Except ReplayError (List (ReplayEventOutputRecord env))
  | _, [] => .ok []
  | output_index, proposal :: proposals =>
    match ReplayEventOutputRecord.of env
      (outputFields env context descriptor output_index proposal) with
    | .error e => .error e
    | .ok record =>
      match buildRecords env context descriptor (output_index + 1) proposals with
      | .error e => .error e
      | .ok records => .ok (record :: records)

/-- The output records of the handlers that take the event, one handler after the other. -/
def collectRecords (env : Env) (handlers : ReplayHandlers) (context : ReplayDispatchContext)
    (event : ReplayTimelineEvent) : List ReplayDispatchHandlerDescriptor →
      Except ReplayError (List (ReplayEventOutputRecord env))
  | [] => .ok []
  | descriptor :: descriptors =>
    match handlerProposals env handlers descriptor.handler_id context event with
    | .error e => .error e
    | .ok proposals =>
      match buildRecords env context descriptor 0 proposals with
      | .error e => .error e
      | .ok records =>
        match collectRecords env handlers context event descriptors with
        | .error e => .error e
        | .ok more => .ok (records ++ more)

/-- `plan_dispatch`. -/
def planDispatch (handlers : ReplayHandlers) (context : ReplayDispatchContext)
    (event : ReplayTimelineEvent) (dispatch_receipt_id : HexDigest) :
    Except ReplayError (ReplayEventDispatchPlan env) :=
  match checkAll (contextMatchesEvent context event ++
    [require (context.dispatcher_fingerprint = dispatcher.dispatcher_fingerprint)
        (.check "dispatch context dispatcher_fingerprint does not match dispatcher"),
      require (dispatch_receipt_id = context.receiptId env)
        (.check "dispatch_receipt_id must match deterministic replay dispatch ID")]) with
  | .error e => .error e
  | .ok () =>
    let selected := dispatcher.selectedDescriptorsFor context.event_kind
    match collectRecords env handlers context event selected with
    | .error e => .error e
    | .ok output_records =>
      ReplayEventDispatchPlan.of
        { context, handler_ids := selected.map (·.handler_id), output_records }

end LocalDeterministicReplayDispatcher

end FuturesBot.Replay
