import FuturesBot.EvidenceGates
import FuturesBot.Journal

/-! Whether a record of the event journal may be relied on: records, checkpoints of their streams,
the policy they are held against, and the decision. -/
namespace FuturesBot.EventJournal

open JsonText (Json)
open DateTimes Checks EvidenceGates

inductive EventJournalRecordKind where
  | MARKET_DATA_OBSERVATION
  | COLLATERAL_VALUATION_SNAPSHOT
  | ASSET_CONVERSION_RATE_SNAPSHOT
  | OBJECTIVE_ASSET_POLICY_SNAPSHOT
  | MARGIN_LIQUIDATION_RULE_SNAPSHOT
  | EXECUTION_COST_RULE_SNAPSHOT
  | VENUE_CAPABILITY_SNAPSHOT
  | INSTRUMENT_RULE_SNAPSHOT
  | RUNTIME_CONTROL_EVENT
  | RECONCILIATION_EVENT
  | TEST_FIXTURE
  | UNKNOWN
  deriving DecidableEq, Repr

def EventJournalRecordKind.value : EventJournalRecordKind → String
  | .MARKET_DATA_OBSERVATION => "MARKET_DATA_OBSERVATION"
  | .COLLATERAL_VALUATION_SNAPSHOT => "COLLATERAL_VALUATION_SNAPSHOT"
  | .ASSET_CONVERSION_RATE_SNAPSHOT => "ASSET_CONVERSION_RATE_SNAPSHOT"
  | .OBJECTIVE_ASSET_POLICY_SNAPSHOT => "OBJECTIVE_ASSET_POLICY_SNAPSHOT"
  | .MARGIN_LIQUIDATION_RULE_SNAPSHOT => "MARGIN_LIQUIDATION_RULE_SNAPSHOT"
  | .EXECUTION_COST_RULE_SNAPSHOT => "EXECUTION_COST_RULE_SNAPSHOT"
  | .VENUE_CAPABILITY_SNAPSHOT => "VENUE_CAPABILITY_SNAPSHOT"
  | .INSTRUMENT_RULE_SNAPSHOT => "INSTRUMENT_RULE_SNAPSHOT"
  | .RUNTIME_CONTROL_EVENT => "RUNTIME_CONTROL_EVENT"
  | .RECONCILIATION_EVENT => "RECONCILIATION_EVENT"
  | .TEST_FIXTURE => "TEST_FIXTURE"
  | .UNKNOWN => "UNKNOWN"

inductive EventJournalSourceKind where
  | LOCAL_IN_MEMORY_JOURNAL
  | LOCAL_WAL_CONTRACT
  | IMPORTED_REVIEW_BUNDLE
  | MANUAL_REVIEWED_IMPORT
  | SYSTEM_GENERATED_RECORD
  | TEST_FIXTURE
  | UNKNOWN
  deriving DecidableEq, Repr

def EventJournalSourceKind.value : EventJournalSourceKind → String
  | .LOCAL_IN_MEMORY_JOURNAL => "LOCAL_IN_MEMORY_JOURNAL"
  | .LOCAL_WAL_CONTRACT => "LOCAL_WAL_CONTRACT"
  | .IMPORTED_REVIEW_BUNDLE => "IMPORTED_REVIEW_BUNDLE"
  | .MANUAL_REVIEWED_IMPORT => "MANUAL_REVIEWED_IMPORT"
  | .SYSTEM_GENERATED_RECORD => "SYSTEM_GENERATED_RECORD"
  | .TEST_FIXTURE => "TEST_FIXTURE"
  | .UNKNOWN => "UNKNOWN"

inductive EventJournalSourceTrust where
  | OFFICIAL
  | MANUAL_REVIEWED_OFFICIAL
  | SYSTEM_GENERATED
  | TEST_ONLY
  | UNTRUSTED
  | UNKNOWN
  deriving DecidableEq, Repr

inductive EventJournalSourceHealth where
  | HEALTHY
  | DEGRADED
  | STALE
  | GAPPED
  | UNHEALTHY
  | UNKNOWN
  deriving DecidableEq, Repr

inductive EventJournalContinuityStatus where
  | CONTINUOUS
  | GAP_DECLARED
  | GAP_SUSPECTED
  | SNAPSHOT_ONLY
  | UNKNOWN
  deriving DecidableEq, Repr

def EventJournalContinuityStatus.value : EventJournalContinuityStatus → String
  | .CONTINUOUS => "CONTINUOUS"
  | .GAP_DECLARED => "GAP_DECLARED"
  | .GAP_SUSPECTED => "GAP_SUSPECTED"
  | .SNAPSHOT_ONLY => "SNAPSHOT_ONLY"
  | .UNKNOWN => "UNKNOWN"

inductive EventJournalReadinessCompatibility where
  | DIRECT_STREAM_MATCH
  | STREAM_MISMATCH
  | KIND_UNSUPPORTED
  | SOURCE_UNSUPPORTED
  | CONTINUITY_UNSUPPORTED
  | NOT_COMPATIBLE
  | UNKNOWN
  deriving DecidableEq, Repr

inductive EventJournalReadinessReason where
  | READY
  | POLICY_DISABLED
  | RECORD_MISSING
  | RECORD_STALE
  | RECORD_FUTURE_DATED
  | SOURCE_RECORD_REQUIRED
  | SOURCE_KIND_UNKNOWN
  | SOURCE_KIND_UNSUPPORTED
  | SOURCE_UNTRUSTED
  | SOURCE_UNHEALTHY
  | RECORD_KIND_UNKNOWN
  | RECORD_KIND_UNSUPPORTED
  | CONTINUITY_UNKNOWN
  | CONTINUITY_GAPPED
  | STREAM_ID_MISSING
  | STREAM_ID_MISMATCH
  | SEQUENCE_REQUIRED
  | SEQUENCE_MISSING
  | PREVIOUS_SEQUENCE_MISSING
  | SEQUENCE_REGRESSION
  | SEQUENCE_GAP_DECLARED
  | CHECKPOINT_MISSING
  | CHECKPOINT_STREAM_MISMATCH
  | CHECKPOINT_AHEAD_OF_RECORD
  | PAYLOAD_TYPE_MISSING
  | PAYLOAD_HASH_MISSING
  | PAYLOAD_HASH_MISMATCH
  | IDEMPOTENCY_KEY_MISSING
  | NOT_READY
  | UNKNOWN
  deriving DecidableEq, Repr

structure EventJournalRecord where
  stream_id : DomainId
  record_kind : EventJournalRecordKind
  sequence_number : ℕ
  previous_sequence_number : Option ℕ
  payload_type : TrimmedText
  payload_hash : TrimmedText
  occurred_at : DateTime
  recorded_at : DateTime
  source_kind : EventJournalSourceKind
  source_trust : EventJournalSourceTrust
  source_health : EventJournalSourceHealth
  continuity_status : EventJournalContinuityStatus
  source_record_id : Option TrimmedText
  idempotency_key : Option TrimmedText
  correlation_id : Option TrimmedText
  causation_id : Option TrimmedText
  metadata : List (String × Json)
  ordered : ∀ previous ∈ previous_sequence_number, previous ≤ sequence_number
  deriving DecidableEq

structure EventJournalCheckpoint where
  stream_id : DomainId
  last_sequence_number : ℕ
  checkpointed_at : DateTime
  source_kind : EventJournalSourceKind
  source_trust : EventJournalSourceTrust
  source_health : EventJournalSourceHealth
  source_record_id : Option TrimmedText
  metadata : List (String × Json)
  deriving DecidableEq

structure EventJournalReadinessPolicy where
  max_record_age : ℕ
  require_source_record : Bool
  allowed_source_kinds : List EventJournalSourceKind
  allowed_source_trust : List EventJournalSourceTrust
  allowed_source_health : List EventJournalSourceHealth
  allowed_record_kinds : List EventJournalRecordKind
  allowed_continuity_statuses : List EventJournalContinuityStatus
  require_sequence : Bool
  require_previous_sequence : Bool
  require_contiguous_sequence : Bool
  require_checkpoint : Bool
  require_payload_hash : Bool
  require_idempotency_key : Bool
  metadata : List (String × Json)
  max_age_positive : 0 < max_record_age
  has_kinds : allowed_source_kinds ≠ []
  has_trust : allowed_source_trust ≠ []
  has_health : allowed_source_health ≠ []
  has_record_kinds : allowed_record_kinds ≠ []
  has_statuses : allowed_continuity_statuses ≠ []
  known_kinds : .UNKNOWN ∉ allowed_source_kinds
  known_record_kinds : .UNKNOWN ∉ allowed_record_kinds

structure EventJournalReadinessDecision where
  policy_id : DomainId
  stream_id : Option DomainId
  record_kind : Option EventJournalRecordKind
  sequence_number : Option ℕ
  checkpoint_id : Option DomainId
  ready : Bool
  reason : EventJournalReadinessReason
  compatibility : EventJournalReadinessCompatibility
  record_id : Option DomainId
  checked_at : DateTime
  details : List (String × Json)
  ready_reason : ready = true ↔ reason = .READY
  compatible : ready = true → compatibility ≠ .UNKNOWN ∧ compatibility ≠ .NOT_COMPATIBLE
  deriving DecidableEq

/-- The digests that ids are made of. -/
structure EventJournalDigests where
  record : EventJournalRecord → HexDigest
  checkpoint : EventJournalCheckpoint → HexDigest
  policy : EventJournalReadinessPolicy → HexDigest

namespace EventJournalDigests

variable (digests : EventJournalDigests)

def recordId (r : EventJournalRecord) : DomainId :=
  .ofDigest ⟨"event-journal-record:", by decide⟩ (digests.record r)

def checkpointId (c : EventJournalCheckpoint) : DomainId :=
  .ofDigest ⟨"event-journal-checkpoint:", by decide⟩ (digests.checkpoint c)

def policyId (p : EventJournalReadinessPolicy) : DomainId :=
  .ofDigest ⟨"event-journal-policy:", by decide⟩ (digests.policy p)

end EventJournalDigests

/-! The checks, in their order. -/

/-- A refusal, and the checkpoint that its decision names. -/
structure EventJournalRefusal extends
    Refusal EventJournalReadinessReason.READY EventJournalReadinessCompatibility where
  checkpoint : Option EventJournalCheckpoint

def refusal (reason : EventJournalReadinessReason)
    (compatibility : EventJournalReadinessCompatibility := .NOT_COMPATIBLE)
    (details : List (String × Json) := []) (checkpoint : Option EventJournalCheckpoint := none)
    (refuses : reason ≠ .READY := by decide) : EventJournalRefusal :=
  ⟨⟨reason, compatibility, details, refuses⟩, checkpoint⟩

/-- `_policy_disabled`. -/
def policyDisabled (policy : EventJournalReadinessPolicy) : Bool :=
  decide (Dicts.find "policy_disabled" policy.metadata = some (.bool true))

/-- What a reader asks of a record. -/
structure EventJournalRequest where
  checkpoint : Option EventJournalCheckpoint
  stream_id : Option DomainId
  record_kind : Option EventJournalRecordKind
  expected_payload_hash : Option String

section Checks

variable (policy : EventJournalReadinessPolicy) (q : EventJournalRequest) (r : EventJournalRecord)

/-- `_source_reason`. -/
def sourceReason : List (Check EventJournalRefusal) :=
  [require (policy.require_source_record = true → r.source_record_id ≠ none)
      (refusal .SOURCE_RECORD_REQUIRED),
    require (r.source_kind ≠ .UNKNOWN) (refusal .SOURCE_KIND_UNKNOWN .SOURCE_UNSUPPORTED),
    require (r.source_kind ∈ policy.allowed_source_kinds)
      (refusal .SOURCE_KIND_UNSUPPORTED .SOURCE_UNSUPPORTED),
    require (r.source_trust ∈ policy.allowed_source_trust) (refusal .SOURCE_UNTRUSTED),
    require (r.source_health ∈ policy.allowed_source_health) (refusal .SOURCE_UNHEALTHY)]

/-- `_kind_reason`. -/
def kindReason : List (Check EventJournalRefusal) :=
  [require (r.record_kind ≠ .UNKNOWN) (refusal .RECORD_KIND_UNKNOWN .KIND_UNSUPPORTED),
    require (r.record_kind ∈ policy.allowed_record_kinds)
      (refusal .RECORD_KIND_UNSUPPORTED .KIND_UNSUPPORTED),
    require (∀ kind ∈ q.record_kind, r.record_kind = kind)
      (refusal .RECORD_KIND_UNSUPPORTED .KIND_UNSUPPORTED)]

def streamCheck : List (Check EventJournalRefusal) :=
  [require (∀ stream_id ∈ q.stream_id, r.stream_id = stream_id)
    (refusal .STREAM_ID_MISMATCH .STREAM_MISMATCH
      [("required_stream_id", textOrNull (q.stream_id.map (·.value)))])]

/-- `_continuity_reason`. -/
def continuityReason : List (Check EventJournalRefusal) :=
  -- the check that a sequence number is there is left out: a record always has one
  [require (r.continuity_status ≠ .UNKNOWN) (refusal .CONTINUITY_UNKNOWN .CONTINUITY_UNSUPPORTED),
    require (r.continuity_status ∈ policy.allowed_continuity_statuses)
      (refusal .CONTINUITY_GAPPED .CONTINUITY_UNSUPPORTED),
    require (policy.require_previous_sequence = true → r.previous_sequence_number ≠ none)
      (refusal .PREVIOUS_SEQUENCE_MISSING .CONTINUITY_UNSUPPORTED),
    require (∀ previous ∈ r.previous_sequence_number, previous ≤ r.sequence_number)
      (refusal .SEQUENCE_REGRESSION .CONTINUITY_UNSUPPORTED),
    require (policy.require_contiguous_sequence = true → r.previous_sequence_number ≠ none)
      (refusal .PREVIOUS_SEQUENCE_MISSING .CONTINUITY_UNSUPPORTED),
    require (policy.require_contiguous_sequence = true →
        ∀ previous ∈ r.previous_sequence_number, r.sequence_number = previous + 1)
      (refusal .SEQUENCE_GAP_DECLARED .CONTINUITY_UNSUPPORTED)]

/-- `_checkpoint_reason`: the time of the checkpoint is not looked at. -/
def checkpointReason : List (Check EventJournalRefusal) :=
  match q.checkpoint with
  | none => [require (policy.require_checkpoint = false) (refusal .CHECKPOINT_MISSING)]
  | some c =>
    [require (c.stream_id = r.stream_id)
        (refusal .CHECKPOINT_STREAM_MISMATCH .STREAM_MISMATCH [] (some c)),
      require (c.last_sequence_number ≤ r.sequence_number)
        (refusal .CHECKPOINT_AHEAD_OF_RECORD .NOT_COMPATIBLE [] (some c)),
      require (c.source_kind ≠ .UNKNOWN)
        (refusal .SOURCE_KIND_UNKNOWN .NOT_COMPATIBLE [] (some c)),
      require (c.source_kind ∈ policy.allowed_source_kinds)
        (refusal .SOURCE_KIND_UNSUPPORTED .NOT_COMPATIBLE [] (some c)),
      require (c.source_trust ∈ policy.allowed_source_trust)
        (refusal .SOURCE_UNTRUSTED .NOT_COMPATIBLE [] (some c)),
      require (c.source_health = .HEALTHY)
        (refusal .SOURCE_UNHEALTHY .NOT_COMPATIBLE [] (some c)),
      require (c.source_health ∈ policy.allowed_source_health)
        (refusal .SOURCE_UNHEALTHY .NOT_COMPATIBLE [] (some c)),
      require (policy.require_source_record = true → c.source_record_id ≠ none)
        (refusal .SOURCE_RECORD_REQUIRED .NOT_COMPATIBLE [] (some c))]

/-- `_payload_reason`. -/
def payloadReason : List (Check EventJournalRefusal) :=
  [require (r.payload_type.value ≠ "")
      (refusal .PAYLOAD_TYPE_MISSING .NOT_COMPATIBLE [] q.checkpoint),
    require (policy.require_payload_hash = true → r.payload_hash.value ≠ "")
      (refusal .PAYLOAD_HASH_MISSING .NOT_COMPATIBLE [] q.checkpoint),
    require (∀ payload_hash ∈ q.expected_payload_hash, r.payload_hash.value = payload_hash)
      (refusal .PAYLOAD_HASH_MISMATCH .NOT_COMPATIBLE [] q.checkpoint),
    require (policy.require_idempotency_key = true → r.idempotency_key ≠ none)
      (refusal .IDEMPOTENCY_KEY_MISSING .NOT_COMPATIBLE [] q.checkpoint)]

/-- The checks that do not look at the time. -/
def ruleChecks : List (Check EventJournalRefusal) :=
  sourceReason policy r ++ kindReason policy q r ++ streamCheck q r ++ continuityReason policy r ++
    checkpointReason policy q r ++ payloadReason policy q r

def recordChecks (checked_at : DateTime) : List (Check EventJournalRefusal) :=
  datedChecks [r.occurred_at, r.recorded_at] r.recorded_at policy.max_record_age checked_at
    (refusal .RECORD_FUTURE_DATED)
    (fun age_ms => refusal .RECORD_STALE .NOT_COMPATIBLE [("age_ms", .int age_ms)]) ++
    ruleChecks policy q r

end Checks

/-! The evaluation. -/

/-- `_common_decision_fields`. -/
def commonDecisionFields (r : EventJournalRecord) : List (String × Json) :=
  [("stream_id", .str r.stream_id.value), ("record_kind", .str r.record_kind.value),
    ("sequence_number", .int r.sequence_number), ("source_kind", .str r.source_kind.value),
    ("continuity_status", .str r.continuity_status.value)]

section Evaluation

variable (digests : EventJournalDigests) (policy : EventJournalReadinessPolicy)
  (checked_at : DateTime)

/-- `_decision` for a refusal, with what is read of the record when there is one. -/
def notReady (r : Option EventJournalRecord) (refused : EventJournalRefusal) :
    EventJournalReadinessDecision where
  policy_id := digests.policyId policy
  stream_id := r.map (·.stream_id)
  record_kind := r.map (·.record_kind)
  sequence_number := r.map (·.sequence_number)
  checkpoint_id := refused.checkpoint.map digests.checkpointId
  ready := false
  reason := refused.reason
  compatibility := refused.compatibility
  record_id := r.map digests.recordId
  checked_at
  details := (r.elim [] commonDecisionFields) ++ refused.details
  ready_reason := by simp [refused.refuses]
  compatible := by simp

/-- `_decision` for a record that passes all checks. -/
def readyDecision (checkpoint : Option EventJournalCheckpoint) (r : EventJournalRecord) :
    EventJournalReadinessDecision where
  policy_id := digests.policyId policy
  stream_id := some r.stream_id
  record_kind := some r.record_kind
  sequence_number := some r.sequence_number
  checkpoint_id := checkpoint.map digests.checkpointId
  ready := true
  reason := .READY
  compatibility := .DIRECT_STREAM_MATCH
  record_id := some (digests.recordId r)
  checked_at
  details := commonDecisionFields r
  ready_reason := by simp
  compatible := by simp

def evaluateEventJournalReadiness (record : Handed EventJournalRecord) (q : EventJournalRequest) :
    EventJournalReadinessDecision :=
  match outcome (policyDisabled policy) record fun r => recordChecks policy q r checked_at with
  | .disabled =>
    notReady digests policy checked_at none
      (refusal .POLICY_DISABLED .UNKNOWN [("policy_disabled", .bool true)])
  | .missing type_name =>
    notReady digests policy checked_at none
      (refusal .RECORD_MISSING .UNKNOWN [("record_type", textOrNull type_name)])
  | .refused r refused => notReady digests policy checked_at (some r) refused
  | .ready r => readyDecision digests policy checked_at q.checkpoint r

end Evaluation

theorem evaluate_ready_iff {digests : EventJournalDigests} {policy : EventJournalReadinessPolicy}
    {checked_at : DateTime} {record : Handed EventJournalRecord} {q : EventJournalRequest} :
    (evaluateEventJournalReadiness digests policy checked_at record q).ready = true ↔
      ∃ r, outcome (policyDisabled policy) record
        (fun r => recordChecks policy q r checked_at) = .ready r := by
  rw [evaluateEventJournalReadiness]
  cases outcome (policyDisabled policy) record fun r => recordChecks policy q r checked_at with
  | disabled => simp [notReady]
  | missing type_name => simp [notReady]
  | refused r refused => simp [notReady]
  | ready r => simp [readyDecision]

end FuturesBot.EventJournal
