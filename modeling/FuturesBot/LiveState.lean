import FuturesBot.Checks
import FuturesBot.Journal
import Mathlib.Data.List.Chain

/-! The state of a stream, live and historical: events with their positions, a slice of the
history, the tail that is still live with its freshness, and the state stitched from both. -/
namespace FuturesBot.LiveState

open JsonText (Json)
open DateTimes TextLines Checks

abbrev StreamId := DomainId
abbrev StreamPartitionId := DomainId
abbrev StreamEventId := DomainId

inductive DurabilityStatus where
  | LIVE_ACCEPTED
  | DURABLE_COMMITTED
  | PROJECTED_TO_LIVE_STATE
  | PERSISTED_TO_DB
  | RECONCILED
  deriving DecidableEq, Repr

def durabilityRank : DurabilityStatus → ℕ
  | .LIVE_ACCEPTED => 0
  | .DURABLE_COMMITTED => 1
  | .PROJECTED_TO_LIVE_STATE => 2
  | .PERSISTED_TO_DB => 3
  | .RECONCILED => 4

theorem committed_durable : durabilityRank .DURABLE_COMMITTED ≤ durabilityRank .DURABLE_COMMITTED :=
  le_refl _

inductive StitchFailureReason where
  | LIVE_HISTORY_GAP
  | INVALID_OVERLAP
  | STALE_LIVE_STATE
  | SPECULATIVE_NOT_ALLOWED
  | INCOMPLETE_HISTORY
  | STREAM_PARTITION_MISMATCH
  deriving DecidableEq, Repr

/-- Why a stitch is refused: for a reason of its own, or by a check of the model it returns. -/
inductive StitchError where
  | reason (r : StitchFailureReason)
  | check (message : String)
  deriving DecidableEq, Repr

structure StreamPosition where
  stream_id : StreamId
  partition_id : StreamPartitionId
  offset : ℕ
  event_sequence : ℕ
  event_time : DateTime
  deriving DecidableEq

namespace StreamPosition

/-- `require_same_stream_partition` raises unless this holds. -/
def SameStreamPartition (a b : StreamPosition) : Prop :=
  a.stream_id = b.stream_id ∧ a.partition_id = b.partition_id

instance (a b : StreamPosition) : Decidable (a.SameStreamPartition b) :=
  inferInstanceAs (Decidable (_ ∧ _))

/-- `is_after`, for positions of one stream and partition. -/
def IsAfter (a b : StreamPosition) : Prop :=
  b.offset < a.offset ∨ b.offset = a.offset ∧ b.event_sequence < a.event_sequence

instance (a b : StreamPosition) : Decidable (a.IsAfter b) := inferInstanceAs (Decidable (_ ∨ _))

/-- `is_contiguous_after`, for positions of one stream and partition. -/
def IsContiguousAfter (a b : StreamPosition) : Prop :=
  a.offset = b.offset + 1 ∧ a.event_sequence = b.event_sequence + 1

instance (a b : StreamPosition) : Decidable (a.IsContiguousAfter b) :=
  inferInstanceAs (Decidable (_ ∧ _))

end StreamPosition

structure StreamEventFields where
  schema_version : TrimmedText
  event_id : StreamEventId
  event_kind : TrimmedText
  stream_position : StreamPosition
  payload : Json
  payload_canonical_hash : HexDigest
  payload_size_bytes : ℕ
  durability_status : DurabilityStatus
  producer_id : TrimmedText
  created_at : DateTime
  deriving DecidableEq

def canonicalJsonBytes (payload : Json) : Bytes :=
  encodeUtf8 (JsonText.encode (JsonText.sortKeys payload))

def canonicalPayloadHash (env : Env) (payload : Json) : HexDigest :=
  env.sha256 (canonicalJsonBytes payload)

def deterministicStreamEventId (env : Env) (position : StreamPosition) (event_kind : TrimmedText)
    (payload_canonical_hash : HexDigest) : StreamEventId :=
  .ofDigest ⟨"stream-event:", by decide⟩ (env.sha256 (encodeUtf8 (String.intercalate "|"
    [position.stream_id.value, position.partition_id.value, toString position.offset,
      toString position.event_sequence, isoformat position.event_time, event_kind.value,
      payload_canonical_hash.value]).toList))

/-- `StreamEventEnvelope._validate_invariants`. -/
def StreamEventFields.Valid (env : Env) (e : StreamEventFields) : Prop :=
  e.payload_canonical_hash = canonicalPayloadHash env e.payload ∧
    e.payload_size_bytes = (canonicalJsonBytes e.payload).length ∧
    e.event_id = deterministicStreamEventId env e.stream_position e.event_kind
      e.payload_canonical_hash

structure StreamEventEnvelope (env : Env) extends StreamEventFields where
  valid : toStreamEventFields.Valid env
  deriving DecidableEq

structure FreshnessFields where
  latest_position : StreamPosition
  projected_at : DateTime
  staleness_ms : ℕ
  gap_free : Bool
  is_complete : Bool
  is_speculative : Bool
  durability_status : DurabilityStatus
  source_health_status : Option TrimmedText
  deriving DecidableEq

structure LiveStateFreshness extends FreshnessFields where
  durable : is_speculative = false →
    durabilityRank .DURABLE_COMMITTED ≤ durabilityRank durability_status
  deriving DecidableEq

structure LiveStateFreshnessPolicy where
  max_staleness_ms : ℕ
  allow_speculative : Bool
  require_gap_free : Bool
  require_complete : Bool
  minimum_durability_status : DurabilityStatus

/-- `is_tradable_for_policy`. -/
def LiveStateFreshnessPolicy.allows (policy : LiveStateFreshnessPolicy)
    (freshness : LiveStateFreshness) : Bool :=
  if policy.max_staleness_ms < freshness.staleness_ms then false
  else if policy.require_gap_free && !freshness.gap_free then false
  else if policy.require_complete && !freshness.is_complete then false
  else if freshness.is_speculative && !policy.allow_speculative then false
  else decide (durabilityRank policy.minimum_durability_status ≤
    durabilityRank freshness.durability_status)

/-! Checks of the events of a slice. -/

variable {env : Env}

abbrev Pair (env : Env) : Type := StreamEventEnvelope env × StreamEventEnvelope env

/-- `pairwise(events)`. -/
def pairwise (events : List (StreamEventEnvelope env)) : List (Pair env) := events.zip events.tail

def requireSameStreamPartition (p : Pair env) : Check StitchError :=
  require (p.2.stream_position.SameStreamPartition p.1.stream_position)
    (.check "stream positions must share stream_id and partition_id")

def validateOrderedEvents (events : List (StreamEventEnvelope env)) : List (Check StitchError) :=
  (pairwise events).flatMap fun p =>
    [requireSameStreamPartition p, require (p.2.stream_position.IsAfter p.1.stream_position)
      (.check "events must be ordered by stream position")]

def validateContiguousEvents (events : List (StreamEventEnvelope env)) :
    List (Check StitchError) :=
  (pairwise events).flatMap fun p =>
    [requireSameStreamPartition p,
      require (p.2.stream_position.IsContiguousAfter p.1.stream_position)
        (.check "events must be contiguous by stream position")]

def validateEventsMatchStreamPartition (stream_id : StreamId) (partition_id : StreamPartitionId)
    (events : List (StreamEventEnvelope env)) : List (Check StitchError) :=
  events.map fun e =>
    require (e.stream_position.stream_id = stream_id ∧
        e.stream_position.partition_id = partition_id)
      (.check "events must match stream_id and partition_id")

/-- The first and the last event stand at the ends of the slice. -/
def validateEnds (from_offset to_offset : ℕ) (first last : String)
    (events : List (StreamEventEnvelope env)) : List (Check StitchError) :=
  [require (∀ e ∈ events.head?, e.stream_position.offset = from_offset) (.check first),
    require (∀ e ∈ events.getLast?, e.stream_position.offset = to_offset) (.check last)]

/-! Slices. -/

structure HistoricalFields (env : Env) where
  slice_id : DomainId
  stream_id : StreamId
  partition_id : StreamPartitionId
  from_offset : ℕ
  to_offset : ℕ
  events : List (StreamEventEnvelope env)
  persisted_until_position : StreamPosition
  is_gap_free : Bool
  deriving DecidableEq

def HistoricalFields.validate (h : HistoricalFields env) : List (Check StitchError) :=
  [require (h.persisted_until_position.stream_id = h.stream_id ∧
      h.persisted_until_position.partition_id = h.partition_id)
      (.check "persisted_until_position stream/partition mismatch")] ++
    if h.events = [] then []
    else
      [require (h.from_offset ≤ h.to_offset)
        (.check "from_offset must be <= to_offset for non-empty slices")] ++
      validateOrderedEvents h.events ++
      validateEventsMatchStreamPartition h.stream_id h.partition_id h.events ++
      validateEnds h.from_offset h.to_offset "from_offset must match first event offset"
        "to_offset must match last event offset" h.events ++
      (if h.is_gap_free then validateContiguousEvents h.events else []) ++
      [require (h.to_offset ≤ h.persisted_until_position.offset)
        (.check "persisted_until_position must cover to_offset")]

structure HistoricalStateSlice (env : Env) extends HistoricalFields env where
  valid : checkAll toHistoricalFields.validate = .ok ()
  deriving DecidableEq

structure LiveTailFields (env : Env) where
  slice_id : DomainId
  stream_id : StreamId
  partition_id : StreamPartitionId
  from_offset : ℕ
  to_offset : ℕ
  events : List (StreamEventEnvelope env)
  latest_position : StreamPosition
  freshness : LiveStateFreshness
  deriving DecidableEq

def LiveTailFields.validate (t : LiveTailFields env) : List (Check StitchError) :=
  [require (t.latest_position.stream_id = t.stream_id ∧
      t.latest_position.partition_id = t.partition_id)
      (.check "latest_position stream/partition mismatch"),
    require (t.freshness.latest_position = t.latest_position)
      (.check "freshness.latest_position must equal latest_position")] ++
    if t.events = [] then []
    else
      [require (t.from_offset ≤ t.to_offset)
        (.check "from_offset must be <= to_offset for non-empty slices")] ++
      validateOrderedEvents t.events ++
      validateContiguousEvents t.events ++
      validateEventsMatchStreamPartition t.stream_id t.partition_id t.events ++
      validateEnds t.from_offset t.to_offset "from_offset must match first event offset"
        "to_offset must match last event offset" t.events ++
      [require (t.to_offset ≤ t.latest_position.offset)
        (.check "latest_position must cover to_offset")]

structure LiveTailSlice (env : Env) extends LiveTailFields env where
  valid : checkAll toLiveTailFields.validate = .ok ()
  deriving DecidableEq

structure StitchedFields (env : Env) where
  slice_id : DomainId
  stream_id : StreamId
  partition_id : StreamPartitionId
  historical : HistoricalStateSlice env
  live_tail : Option (LiveTailSlice env)
  events : List (StreamEventEnvelope env)
  from_offset : ℕ
  to_offset : ℕ
  is_complete : Bool
  is_gap_free : Bool
  tradable : Bool
  reason : Option StitchFailureReason
  deriving DecidableEq

def StitchedFields.validate (s : StitchedFields env) : List (Check StitchError) :=
  [require (s.historical.stream_id = s.stream_id ∧ s.historical.partition_id = s.partition_id)
      (.check "historical stream/partition mismatch"),
    require (∀ t ∈ s.live_tail, t.stream_id = s.stream_id ∧ t.partition_id = s.partition_id)
      (.check "live_tail stream/partition mismatch")] ++
    (if s.events = [] then []
    else
      validateOrderedEvents s.events ++
      validateEventsMatchStreamPartition s.stream_id s.partition_id s.events ++
      validateEnds s.from_offset s.to_offset "from_offset must match first stitched event offset"
        "to_offset must match last stitched event offset" s.events ++
      (if s.is_gap_free then validateContiguousEvents s.events else [])) ++
    [require (s.tradable = true → s.is_complete = true ∧ s.is_gap_free = true)
        (.check "tradable stitched state must be complete and gap-free"),
      require (s.tradable = true → s.reason = none)
        (.check "tradable stitched state must not have a reason"),
      require (s.tradable = false → s.reason ≠ none)
        (.check "non-tradable stitched state requires a reason")]

structure StitchedStateSlice (env : Env) extends StitchedFields env where
  valid : checkAll toStitchedFields.validate = .ok ()
  deriving DecidableEq

def StitchedStateSlice.of (s : StitchedFields env) : Except StitchError (StitchedStateSlice env) :=
  match h : checkAll s.validate with
  | .ok () => .ok ⟨s, h⟩
  | .error e => .error e

def eventIdentityMatches (left right : StreamEventEnvelope env) : Bool :=
  left.event_id = right.event_id && left.payload_canonical_hash = right.payload_canonical_hash

/-! What the checks say. -/

/-- Neighbours in a list, one after the other. -/
theorem forall_pairwise {R : StreamEventEnvelope env → StreamEventEnvelope env → Prop}
    {events : List (StreamEventEnvelope env)} :
    (∀ p ∈ pairwise events, R p.1 p.2) ↔ events.IsChain R := by
  rw [pairwise]
  induction events with
  | nil => simp
  | cons a events ih =>
    cases events with
    | nil => simp
    | cons b events =>
      rw [List.isChain_cons_cons, ← ih, List.tail_cons, List.zip_cons_cons, List.forall_mem_cons]
      exact Iff.rfl

/-- The second event comes later in the stream of the first. -/
def Follows (a b : StreamEventEnvelope env) : Prop :=
  b.stream_position.SameStreamPartition a.stream_position ∧
    b.stream_position.IsAfter a.stream_position

/-- The second event comes next in the stream of the first. -/
def FollowsNext (a b : StreamEventEnvelope env) : Prop :=
  b.stream_position.SameStreamPartition a.stream_position ∧
    b.stream_position.IsContiguousAfter a.stream_position

theorem FollowsNext.follows {a b : StreamEventEnvelope env} (h : FollowsNext a b) :
    Follows a b := by
  obtain ⟨hsame, hnext, -⟩ := h
  exact ⟨hsame, .inl (by omega)⟩

theorem validateOrderedEvents_ok {events : List (StreamEventEnvelope env)} :
    checkAll (validateOrderedEvents events) = .ok () ↔ events.IsChain Follows := by
  rw [validateOrderedEvents, checkAll_flatMap, ← forall_pairwise]
  simp only [requireSameStreamPartition, checkAll_require, checkAll_nil, and_true, Follows]

theorem validateContiguousEvents_ok {events : List (StreamEventEnvelope env)} :
    checkAll (validateContiguousEvents events) = .ok () ↔ events.IsChain FollowsNext := by
  rw [validateContiguousEvents, checkAll_flatMap, ← forall_pairwise]
  simp only [requireSameStreamPartition, checkAll_require, checkAll_nil, and_true, FollowsNext]

theorem validateMatch_ok {stream_id : StreamId} {partition_id : StreamPartitionId}
    {events : List (StreamEventEnvelope env)} :
    checkAll (validateEventsMatchStreamPartition stream_id partition_id events) = .ok () ↔
      ∀ e ∈ events, e.stream_position.stream_id = stream_id ∧
        e.stream_position.partition_id = partition_id := by
  rw [validateEventsMatchStreamPartition, List.map_eq_flatMap, checkAll_flatMap]
  simp only [checkAll_require, checkAll_nil, and_true]

theorem validateEnds_ok {from_offset to_offset : ℕ} {first last : String}
    {events : List (StreamEventEnvelope env)} :
    checkAll (validateEnds from_offset to_offset first last events) = .ok () ↔
      (∀ e ∈ events.head?, e.stream_position.offset = from_offset) ∧
        ∀ e ∈ events.getLast?, e.stream_position.offset = to_offset := by
  simp only [validateEnds, checkAll_require, checkAll_nil, and_true]

/-- What holds of a slice of history with events. -/
structure HistoricalFacts (h : HistoricalStateSlice env) : Prop where
  ordered : h.events.IsChain Follows
  stream : ∀ e ∈ h.events, e.stream_position.stream_id = h.stream_id ∧
    e.stream_position.partition_id = h.partition_id
  last : ∀ e ∈ h.events.getLast?, e.stream_position.offset = h.to_offset
  contiguous : h.is_gap_free = true → h.events.IsChain FollowsNext
  persisted : h.events ≠ [] → h.to_offset ≤ h.persisted_until_position.offset

theorem HistoricalStateSlice.facts (h : HistoricalStateSlice env) : HistoricalFacts h := by
  have hvalid := h.valid
  rw [HistoricalFields.validate, checkAll_append] at hvalid
  by_cases hevents : h.events = []
  · refine ⟨?_, ?_, ?_, fun _ => ?_, fun hne => absurd hevents hne⟩ <;> rw [hevents] <;> simp
  · rw [if_neg hevents] at hvalid
    simp only [checkAll_append, validateOrderedEvents_ok, validateMatch_ok, validateEnds_ok,
      checkAll_require, checkAll_nil, and_true] at hvalid
    obtain ⟨-, ⟨⟨⟨⟨-, hordered⟩, hstream⟩, -, hlast⟩, hgap⟩, hpersisted⟩ := hvalid
    refine ⟨hordered, hstream, hlast, fun hfree => ?_, fun _ => hpersisted⟩
    rw [if_pos hfree] at hgap
    exact validateContiguousEvents_ok.mp hgap

/-- What holds of a live tail with events. -/
structure LiveTailFacts (t : LiveTailSlice env) : Prop where
  contiguous : t.events.IsChain FollowsNext
  stream : ∀ e ∈ t.events, e.stream_position.stream_id = t.stream_id ∧
    e.stream_position.partition_id = t.partition_id
  first : ∀ e ∈ t.events.head?, e.stream_position.offset = t.from_offset
  last : ∀ e ∈ t.events.getLast?, e.stream_position.offset = t.to_offset
  latest : t.events ≠ [] → t.to_offset ≤ t.latest_position.offset

theorem LiveTailSlice.facts (t : LiveTailSlice env) : LiveTailFacts t := by
  have hvalid := t.valid
  rw [LiveTailFields.validate, checkAll_append] at hvalid
  by_cases hevents : t.events = []
  · refine ⟨?_, ?_, ?_, ?_, fun hne => absurd hevents hne⟩ <;> rw [hevents] <;> simp
  · rw [if_neg hevents] at hvalid
    simp only [checkAll_append, validateOrderedEvents_ok, validateContiguousEvents_ok,
      validateMatch_ok, validateEnds_ok, checkAll_require, checkAll_nil, and_true] at hvalid
    obtain ⟨-, ⟨⟨⟨⟨-, -⟩, hcontiguous⟩, hstream⟩, hfirst, hlast⟩, hlatest⟩ := hvalid
    exact ⟨hcontiguous, hstream, hfirst, hlast, fun _ => hlatest⟩

theorem StitchedStateSlice.of_eq_ok {fields : StitchedFields env} {s : StitchedStateSlice env} :
    StitchedStateSlice.of fields = .ok s ↔ s.toStitchedFields = fields := by
  unfold StitchedStateSlice.of
  constructor
  · intro h
    split at h
    · cases h
      rfl
    · cases h
  · rintro rfl
    split
    · rfl
    · rename_i e he
      exact absurd (s.valid.symm.trans he) (by simp)

theorem StitchedStateSlice.of_isOk {fields : StitchedFields env} :
    (∃ s, StitchedStateSlice.of fields = .ok s) ↔ checkAll fields.validate = .ok () := by
  constructor
  · rintro ⟨s, hs⟩
    rw [← StitchedStateSlice.of_eq_ok.mp hs]
    exact s.valid
  · intro h
    exact ⟨⟨fields, h⟩, StitchedStateSlice.of_eq_ok.mpr rfl⟩

end FuturesBot.LiveState
