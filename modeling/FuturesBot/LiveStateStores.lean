import FuturesBot.ForwardStores
import FuturesBot.JsonEquality
import FuturesBot.StitchSafety

/-! The live state gateway and the checkpoint store of the database writer: what a delivery in any
order, with duplicates and refused puts, leaves in them. -/
namespace FuturesBot.LiveState

open JsonText (Json)
open TextLines DateTimes Dicts StepRuns ForwardStores Checks

variable {env : Env}

/-- The order of the stream: by offset, then by event sequence. -/
instance : Preorder StreamPosition where
  le p q := ¬ p.IsAfter q
  le_refl p := by
    unfold StreamPosition.IsAfter
    omega
  le_trans p q r := by
    unfold StreamPosition.IsAfter
    omega

theorem position_le_iff {p q : StreamPosition} :
    p ≤ q ↔ p.offset < q.offset ∨ p.offset = q.offset ∧ p.event_sequence ≤ q.event_sequence := by
  change ¬ p.IsAfter q ↔ _
  unfold StreamPosition.IsAfter
  omega

structure SnapshotFields where
  snapshot_id : DomainId
  snapshot_kind : TrimmedText
  instrument_id : Option DomainId
  venue_id : Option TrimmedText
  latest_position : StreamPosition
  payload : Json
  payload_canonical_hash : HexDigest
  freshness : LiveStateFreshness
  updated_at : DateTime
  deriving DecidableEq

/-- `LiveStateSnapshot._validate_invariants`. -/
def SnapshotFields.Valid (env : Env) (s : SnapshotFields) : Prop :=
  s.payload_canonical_hash = canonicalPayloadHash env s.payload ∧
    s.freshness.latest_position = s.latest_position

structure LiveStateSnapshot (env : Env) extends SnapshotFields where
  valid : toSnapshotFields.Valid env

/-- Equal snapshots: their payloads are compared as values. -/
def SnapshotFields.Equals (s t : SnapshotFields) : Prop :=
  { s with payload := s.payload.plain } = { t with payload := t.payload.plain }

instance (s t : SnapshotFields) : Decidable (s.Equals t) := inferInstanceAs (Decidable (_ = _))

theorem SnapshotFields.Equals.latest_position {s t : SnapshotFields} (h : s.Equals t) :
    s.latest_position = t.latest_position := by
  have hfields := congrArg SnapshotFields.latest_position (show _ = _ from h)
  exact hfields

def LiveStateSnapshot.validateCanReplace (s : LiveStateSnapshot env) :
    Option (LiveStateSnapshot env) → Except String Unit
  | none => .ok ()
  | some previous => checkAll [
      require (s.snapshot_id = previous.snapshot_id) "snapshot_id mismatch",
      require (s.latest_position.SameStreamPartition previous.latest_position)
        "stream positions must share stream_id and partition_id",
      require (¬ s.latest_position.offset < previous.latest_position.offset)
        "older offset cannot overwrite newer live state",
      require (¬ (s.latest_position.offset = previous.latest_position.offset ∧
          s.payload_canonical_hash ≠ previous.payload_canonical_hash))
        "same offset with different payload hash is rejected"]

/-- How far the database writer has committed a partition. -/
structure DbWriterCheckpoint where
  checkpoint_id : DomainId
  stream_id : StreamId
  partition_id : StreamPartitionId
  persisted_until_offset : ℕ
  persisted_until_event_sequence : ℕ
  persisted_until_event_time : DateTime
  last_batch_event_count : ℕ
  last_batch_size_bytes : ℕ
  last_commit_started_at : DateTime
  last_commit_finished_at : DateTime
  lag_records : ℕ
  lag_ms : ℕ
  commit_window : last_commit_started_at ≤ last_commit_finished_at

namespace DbWriterCheckpoint

def persistedUntilPosition (c : DbWriterCheckpoint) : StreamPosition where
  stream_id := c.stream_id
  partition_id := c.partition_id
  offset := c.persisted_until_offset
  event_sequence := c.persisted_until_event_sequence
  event_time := c.persisted_until_event_time

/-- Here the code compares the pairs of offset and sequence itself. -/
def validateAdvancesFrom (c : DbWriterCheckpoint) : Option DbWriterCheckpoint → Except String Unit
  | none => .ok ()
  | some previous => checkAll [
      require (c.stream_id = previous.stream_id ∧ c.partition_id = previous.partition_id)
        "checkpoint stream/partition mismatch",
      require (¬ (c.persisted_until_offset < previous.persisted_until_offset ∨
          c.persisted_until_offset = previous.persisted_until_offset ∧
            c.persisted_until_event_sequence < previous.persisted_until_event_sequence))
        "checkpoint cannot move backwards"]

end DbWriterCheckpoint

abbrev Snapshots (env : Env) : Type :=
  KeyedDict fun s : LiveStateSnapshot env => s.snapshot_id

def putSnapshot (d : Snapshots env) (s : LiveStateSnapshot env) :
    Except String (Snapshots env) := do
  s.validateCanReplace (d.get? s.snapshot_id)
  return if ∃ e ∈ d.get? s.snapshot_id, s.Equals e.toSnapshotFields then d else d.put s

/-- One delivery to the gateway, a refused put being ignored. -/
def deliver (d : Snapshots env) (s : LiveStateSnapshot env) : Snapshots env :=
  match putSnapshot d s with
  | .ok d' => d'
  | .error _ => d

def storedPosition (id : DomainId) (d : Snapshots env) : Option StreamPosition :=
  (d.get? id).map (·.latest_position)

abbrev Checkpoints : Type :=
  KeyedDict fun c : DbWriterCheckpoint => (c.stream_id, c.partition_id)

def saveCheckpoint (d : Checkpoints) (c : DbWriterCheckpoint) : Except String Checkpoints := do
  c.validateAdvancesFrom (d.get? (c.stream_id, c.partition_id))
  return d.put c

def deliverCheckpoint (d : Checkpoints) (c : DbWriterCheckpoint) : Checkpoints :=
  match saveCheckpoint d c with
  | .ok d' => d'
  | .error _ => d

def storedCheckpoint (stream_id : StreamId) (partition_id : StreamPartitionId) (d : Checkpoints) :
    Option StreamPosition :=
  (d.get? (stream_id, partition_id)).map (·.persistedUntilPosition)

/-! The gateway. -/

/-- What the code compares before it replaces a snapshot of the same partition. -/
def Replaces (s cur : LiveStateSnapshot env) : Prop :=
  cur.latest_position.offset < s.latest_position.offset ∨
    s.latest_position.offset = cur.latest_position.offset ∧
      s.payload_canonical_hash = cur.payload_canonical_hash

instance (s cur : LiveStateSnapshot env) : Decidable (Replaces s cur) :=
  inferInstanceAs (Decidable (_ ∨ _))

theorem validateCanReplace_eq_ok {s cur : LiveStateSnapshot env}
    (hid : s.snapshot_id = cur.snapshot_id)
    (hsame : s.latest_position.SameStreamPartition cur.latest_position) :
    s.validateCanReplace (some cur) = .ok () ↔ Replaces s cur := by
  simp only [LiveStateSnapshot.validateCanReplace, checkAll_require, checkAll_nil, and_true, hid,
    hsame, true_and, Replaces, not_and, not_not, not_lt]
  constructor
  · rintro ⟨hle, hhash⟩
    rcases Nat.lt_or_eq_of_le hle with hlt | heq
    · exact .inl hlt
    · exact .inr ⟨heq.symm, hhash heq.symm⟩
  · rintro (hlt | ⟨heq, hhash⟩)
    · exact ⟨hlt.le, fun heq => absurd heq (by omega)⟩
    · exact ⟨heq.ge, fun _ => hhash⟩

theorem putSnapshot_position {d d' : Snapshots env} {s : LiveStateSnapshot env}
    (h : putSnapshot d s = .ok d') :
    storedPosition s.snapshot_id d' = some s.latest_position := by
  obtain ⟨_, _, hd'⟩ := Checks.bind_eq_ok.mp h
  obtain rfl := Except.ok.inj hd'
  split
  · rename_i hsame
    -- an equal snapshot is kept, and it stands at the same position
    obtain ⟨e, he, hequal⟩ := hsame
    rw [storedPosition, Option.mem_def.mp he, hequal.latest_position]
    rfl
  · rw [storedPosition, KeyedDict.get?_put_self]
    rfl

theorem deliver_selects (d : Snapshots env) (s : LiveStateSnapshot env) :
    Selects deliver (storedPosition s.snapshot_id) (·.latest_position) d s := by
  unfold Selects deliver
  cases h : putSnapshot d s with
  | ok d' => exact .inl (putSnapshot_position h)
  | error e =>
    refine .inr ⟨?_, rfl⟩
    rw [storedPosition, Option.isSome_map]
    cases hget : d.get? s.snapshot_id with
    | some cur => rfl
    | none =>
      -- the first snapshot of an id is never refused
      exfalso
      rw [putSnapshot, hget] at h
      cases h

/-- The snapshot stored under the id is of the partition. -/
def InPartition (id : DomainId) (stream_id : StreamId) (partition_id : StreamPartitionId)
    (d : Snapshots env) : Prop :=
  ∀ p ∈ storedPosition id d, p.stream_id = stream_id ∧ p.partition_id = partition_id

/-- A snapshot of the id and the partition. -/
def IsOf (id : DomainId) (stream_id : StreamId) (partition_id : StreamPartitionId)
    (s : LiveStateSnapshot env) : Prop :=
  s.snapshot_id = id ∧ s.latest_position.stream_id = stream_id ∧
    s.latest_position.partition_id = partition_id

section Partition

variable {id : DomainId} {stream_id : StreamId} {partition_id : StreamPartitionId}
variable {d : Snapshots env} {s : LiveStateSnapshot env}

theorem inPartition_deliver (hs : IsOf id stream_id partition_id s)
    (hd : InPartition id stream_id partition_id d) :
    InPartition id stream_id partition_id (deliver d s) := by
  obtain ⟨rfl, hpartition⟩ := hs
  intro p hp
  rcases deliver_selects d s with hnew | ⟨_, hold⟩
  · rw [hnew] at hp
    obtain rfl := Option.some.inj hp
    exact hpartition
  · rw [hold] at hp
    exact hd p hp

/-- What a delivery does to the stored position, by the code's own comparison. -/
theorem deliver_position (hs : IsOf id stream_id partition_id s)
    (hd : InPartition id stream_id partition_id d) :
    storedPosition id (deliver d s) = match d.get? id with
      | none => some s.latest_position
      | some cur =>
        if Replaces s cur then some s.latest_position else some cur.latest_position := by
  obtain ⟨rfl, hpartition⟩ := hs
  cases hget : d.get? s.snapshot_id with
  | none =>
    have hput : putSnapshot d s = .ok (d.put s) := by
      rw [putSnapshot, hget]
      rfl
    rw [deliver, hput]
    exact putSnapshot_position hput
  | some cur =>
    have hcur := hd cur.latest_position (by rw [storedPosition, hget]; rfl)
    have hsame : s.latest_position.SameStreamPartition cur.latest_position :=
      ⟨hpartition.1.trans hcur.1.symm, hpartition.2.trans hcur.2.symm⟩
    have hcheck := validateCanReplace_eq_ok (KeyedDict.key_of_get? hget).symm hsame
    have hold : storedPosition s.snapshot_id d = some cur.latest_position := by
      rw [storedPosition, hget]
      rfl
    cases hput : putSnapshot d s with
    | ok d' =>
      obtain ⟨_, hvalid, _⟩ := Checks.bind_eq_ok.mp hput
      rw [hget] at hvalid
      rw [deliver, hput]
      dsimp only
      rw [if_pos (hcheck.mp hvalid)]
      exact putSnapshot_position hput
    | error e =>
      have hrefused : ¬ Replaces s cur := by
        intro hreplaces
        rw [putSnapshot, hget, hcheck.mpr hreplaces] at hput
        cases hput
      rw [deliver, hput]
      dsimp only
      rw [if_neg hrefused]
      exact hold

/-- A put on a stored snapshot of the same offset: one with the same hash is not at an earlier
event, and one with another hash is not at a later event. -/
def KeepsOrder (d : Snapshots env) (s : LiveStateSnapshot env) : Prop :=
  ∀ cur ∈ d.get? s.snapshot_id, s.latest_position.offset = cur.latest_position.offset →
    if s.payload_canonical_hash = cur.payload_canonical_hash then
      cur.latest_position.event_sequence ≤ s.latest_position.event_sequence
    else s.latest_position.event_sequence ≤ cur.latest_position.event_sequence

theorem stepForward_iff (hs : IsOf id stream_id partition_id s)
    (hd : InPartition id stream_id partition_id d) :
    StepForward deliver (storedPosition id) (·.latest_position) d s ↔ KeepsOrder d s := by
  have hposition := deliver_position hs hd
  obtain ⟨rfl, _⟩ := hs
  unfold StepForward KeepsOrder
  rw [hposition]
  cases hget : d.get? s.snapshot_id with
  | none =>
    simp only [Option.mem_def, Option.some.injEq, storedPosition, hget, Option.map_none,
      reduceCtorEq, false_implies, implies_true, and_true, exists_eq_left', le_refl]
  | some cur =>
    have hstored : storedPosition s.snapshot_id d = some cur.latest_position := by
      rw [storedPosition, hget]
      rfl
    simp only [Option.mem_def, hstored, Option.some.injEq, forall_eq']
    by_cases hreplaces : Replaces s cur
    · -- the put is taken: its position must not be before the stored one
      simp only [hreplaces, ↓reduceIte, Option.some.injEq, exists_eq_left', le_refl, true_and]
      rw [position_le_iff]
      rcases hreplaces with hlt | ⟨heq, hhash⟩
      · constructor
        · intro _ heq
          omega
        · intro _
          exact .inl hlt
      · rw [if_pos hhash]
        constructor
        · rintro (hlt | ⟨_, hseq⟩) _
          · omega
          · exact hseq
        · intro h
          exact .inr ⟨heq.symm, h heq⟩
    · -- the put is refused: its position must not be after the stored one
      simp only [hreplaces, ↓reduceIte, Option.some.injEq, exists_eq_left', le_refl, and_true]
      rw [position_le_iff]
      obtain ⟨hle, hhash⟩ := not_or.mp hreplaces
      have hother : s.latest_position.offset = cur.latest_position.offset →
          s.payload_canonical_hash ≠ cur.payload_canonical_hash := fun heq h => hhash ⟨heq, h⟩
      constructor
      · rintro (hlt | ⟨_, hseq⟩) heq
        · omega
        · rw [if_neg (hother heq)]
          exact hseq
      · intro h
        rcases Nat.lt_or_eq_of_le (not_lt.mp hle) with hlt | heq
        · exact .inl hlt
        · have hseq := h heq
          rw [if_neg (hother heq)] at hseq
          exact .inr ⟨heq, hseq⟩

theorem inPartition_empty :
    InPartition id stream_id partition_id (KeyedDict.empty : Snapshots env) := by
  intro p hp
  cases hp

end Partition

/-! Offsets alone. -/

def storedOffset (id : DomainId) (d : Snapshots env) : Option ℕ :=
  (storedPosition id d).map (·.offset)

theorem deliver_selects_offset (d : Snapshots env) (s : LiveStateSnapshot env) :
    Selects deliver (storedOffset s.snapshot_id) (·.latest_position.offset) d s := by
  unfold Selects storedOffset
  rcases deliver_selects d s with hnew | ⟨hstored, hold⟩
  · rw [hnew]
    exact .inl rfl
  · rw [hold, Option.isSome_map]
    exact .inr ⟨hstored, rfl⟩

theorem stepForward_offset {id : DomainId} {stream_id : StreamId}
    {partition_id : StreamPartitionId} {d : Snapshots env} {s : LiveStateSnapshot env}
    (hs : IsOf id stream_id partition_id s) (hd : InPartition id stream_id partition_id d) :
    StepForward deliver (storedOffset id) (·.latest_position.offset) d s := by
  have hposition := deliver_position hs hd
  obtain ⟨rfl, _⟩ := hs
  unfold StepForward storedOffset
  rw [hposition]
  cases hget : d.get? s.snapshot_id with
  | none =>
    refine ⟨s.latest_position.offset, rfl, le_refl _, fun p hp => ?_⟩
    rw [storedPosition, hget] at hp
    cases hp
  | some cur =>
    have hold : ∀ p ∈ (storedPosition s.snapshot_id d).map (·.offset),
        p = cur.latest_position.offset := by
      intro p hp
      rw [storedPosition, hget] at hp
      exact (Option.some.inj hp).symm
    by_cases hreplaces : Replaces s cur
    · simp only [hreplaces, ↓reduceIte]
      refine ⟨s.latest_position.offset, rfl, le_refl _, fun p hp => ?_⟩
      rw [hold p hp]
      rcases hreplaces with hlt | ⟨heq, _⟩
      · exact hlt.le
      · exact heq.ge
    · simp only [hreplaces, ↓reduceIte]
      refine ⟨cur.latest_position.offset, rfl, ?_, fun p hp => (hold p hp).le⟩
      exact not_lt.mp (not_or.mp hreplaces).1

/-! The checkpoint store. -/

section Checkpoints

variable {stream_id : StreamId} {partition_id : StreamPartitionId} {c : DbWriterCheckpoint}

theorem validateAdvancesFrom_eq_ok {previous : DbWriterCheckpoint}
    (hsame : c.stream_id = previous.stream_id ∧ c.partition_id = previous.partition_id) :
    c.validateAdvancesFrom (some previous) = .ok () ↔
      previous.persistedUntilPosition ≤ c.persistedUntilPosition := by
  simp only [DbWriterCheckpoint.validateAdvancesFrom, checkAll_require, checkAll_nil, hsame,
    and_self, true_and, and_true, position_le_iff, DbWriterCheckpoint.persistedUntilPosition]
  omega

theorem deliverCheckpoint_position (hc : c.stream_id = stream_id ∧ c.partition_id = partition_id)
    (d : Checkpoints) :
    storedCheckpoint stream_id partition_id (deliverCheckpoint d c) = some c.persistedUntilPosition ∧
        (∀ p ∈ storedCheckpoint stream_id partition_id d, p ≤ c.persistedUntilPosition) ∨
      storedCheckpoint stream_id partition_id (deliverCheckpoint d c) =
        storedCheckpoint stream_id partition_id d ∧
        ∃ p ∈ storedCheckpoint stream_id partition_id d, c.persistedUntilPosition ≤ p := by
  obtain ⟨rfl, rfl⟩ := hc
  have hput : storedCheckpoint c.stream_id c.partition_id (d.put c) =
      some c.persistedUntilPosition := by
    rw [storedCheckpoint]
    exact congrArg (Option.map _) (d.get?_put_self c)
  unfold deliverCheckpoint saveCheckpoint
  cases hget : d.get? (c.stream_id, c.partition_id) with
  | none =>
    refine .inl ⟨hput, fun p hp => ?_⟩
    rw [storedCheckpoint, hget] at hp
    cases hp
  | some previous =>
    have hkey : (previous.stream_id, previous.partition_id) = (c.stream_id, c.partition_id) :=
      KeyedDict.key_of_get? (d := d) hget
    have hcheck : c.validateAdvancesFrom (some previous) = .ok () ↔
        previous.persistedUntilPosition ≤ c.persistedUntilPosition := validateAdvancesFrom_eq_ok
      ⟨(congrArg Prod.fst hkey).symm, (congrArg Prod.snd hkey).symm⟩
    have hstored : storedCheckpoint c.stream_id c.partition_id d =
        some previous.persistedUntilPosition := by
      rw [storedCheckpoint, hget]
      rfl
    cases hvalid : c.validateAdvancesFrom (some previous) with
    | ok u =>
      refine .inl ⟨hput, fun p hp => ?_⟩
      rw [hstored] at hp
      obtain rfl := Option.some.inj hp
      exact hcheck.mp hvalid
    | error e =>
      refine .inr ⟨rfl, previous.persistedUntilPosition, hstored, ?_⟩
      have hrefused := mt hcheck.mpr (by rw [hvalid]; simp)
      rw [position_le_iff] at hrefused ⊢
      omega

theorem stepForward_checkpoint (hc : c.stream_id = stream_id ∧ c.partition_id = partition_id)
    (d : Checkpoints) :
    StepForward deliverCheckpoint (storedCheckpoint stream_id partition_id)
      (·.persistedUntilPosition) d c := by
  rcases deliverCheckpoint_position hc d with ⟨hnew, hle⟩ | ⟨hold, p, hp, hle⟩
  · exact ⟨c.persistedUntilPosition, hnew, le_refl _, hle⟩
  · refine ⟨p, by rw [hold]; exact hp, hle, fun q hq => ?_⟩
    rw [Option.mem_unique hq hp]

theorem deliverCheckpoint_selects (hc : c.stream_id = stream_id ∧ c.partition_id = partition_id)
    (d : Checkpoints) :
    Selects deliverCheckpoint (storedCheckpoint stream_id partition_id)
      (·.persistedUntilPosition) d c := by
  rcases deliverCheckpoint_position hc d with ⟨hnew, _⟩ | ⟨hold, p, hp, _⟩
  · exact .inl hnew
  · refine .inr ⟨?_, hold⟩
    rw [Option.mem_def.mp hp]
    rfl

theorem checkpoints_forward {cs : List DbWriterCheckpoint}
    (hcs : ∀ c ∈ cs, c.stream_id = stream_id ∧ c.partition_id = partition_id) :
    ForwardOnly deliverCheckpoint (storedCheckpoint stream_id partition_id)
      (·.persistedUntilPosition) KeyedDict.empty cs :=
  forwardOnly_of_meets (fun d c hc => deliverCheckpoint_selects (hcs c hc) d) rfl
    (meets_prefix_iff.mpr fun bs c hprefix =>
      have hmem : c ∈ cs := hprefix.subset (List.mem_append_right bs List.mem_cons_self)
      stepForward_checkpoint (hcs c hmem) _)

end Checkpoints

/-! Deliveries. -/

section Deliveries

variable {id : DomainId} {stream_id : StreamId} {partition_id : StreamPartitionId}
variable {as : List (LiveStateSnapshot env)}

theorem snapshots_forward_offset (has : ∀ s ∈ as, IsOf id stream_id partition_id s) :
    ForwardOnly deliver (storedOffset id) (·.latest_position.offset) KeyedDict.empty as := by
  refine forwardOnly_of_meets (fun d s hs => ?_) rfl ?_
  · obtain ⟨rfl, _⟩ := has s hs
    exact deliver_selects_offset d s
  · have hany : Meets deliver (fun _ _ => True) (KeyedDict.empty : Snapshots env) as :=
      meets_of_mem (fun _ _ => trivial) _
    have hkept : ∀ d, ∀ s ∈ as, InPartition id stream_id partition_id d →
        InPartition id stream_id partition_id (deliver d s) :=
      fun d s hs hd => inPartition_deliver (has s hs) hd
    refine (meets_congr hkept (fun d s hs hd => ?_) inPartition_empty).mp hany
    exact iff_of_true trivial (stepForward_offset (has s hs) hd)

theorem snapshots_forward_iff (has : ∀ s ∈ as, IsOf id stream_id partition_id s) :
    (∀ bs, bs <+: as →
        ForwardOnly deliver (storedPosition id) (·.latest_position) KeyedDict.empty bs) ↔
      Meets deliver KeepsOrder (KeyedDict.empty : Snapshots env) as := by
  have hselects : ∀ d, ∀ s ∈ as, Selects deliver (storedPosition id) (·.latest_position) d s := by
    intro d s hs
    obtain ⟨rfl, _⟩ := has s hs
    exact deliver_selects d s
  rw [forwardOnly_iff hselects rfl]
  have hkept : ∀ d, ∀ s ∈ as, InPartition id stream_id partition_id d →
      InPartition id stream_id partition_id (deliver d s) :=
    fun d s hs hd => inPartition_deliver (has s hs) hd
  exact meets_congr hkept (fun d s hs hd => stepForward_iff (has s hs) hd) inPartition_empty

/-- Another payload at the stored offset is refused, and nothing changes. -/
theorem deliver_other_payload {d : Snapshots env} {s cur : LiveStateSnapshot env}
    (hcur : d.get? s.snapshot_id = some cur)
    (hoffset : s.latest_position.offset = cur.latest_position.offset)
    (hhash : s.payload_canonical_hash ≠ cur.payload_canonical_hash) : deliver d s = d := by
  have hrefused : ¬ s.validateCanReplace (some cur) = .ok () := by
    simp only [LiveStateSnapshot.validateCanReplace, checkAll_require, checkAll_nil, and_true]
    rintro ⟨_, _, _, hsame⟩
    exact hsame ⟨hoffset, hhash⟩
  rw [deliver, putSnapshot, hcur]
  cases hvalid : s.validateCanReplace (some cur) with
  | ok u => exact absurd hvalid hrefused
  | error e => rfl

/-- The gateway keeps a snapshot of the greatest offset delivered and its offset never goes back,
another payload at the stored offset being refused; the order by offset and sequence is kept on
every way through the delivery exactly when no put breaks it at an equal offset. The checkpoints
keep the order by offset and sequence always. -/
theorem live_state_forward (has : ∀ s ∈ as, IsOf id stream_id partition_id s) :
    ForwardOnly deliver (storedOffset id) (·.latest_position.offset) KeyedDict.empty as ∧
      (∀ (d : Snapshots env), ∀ s ∈ as, ∀ cur ∈ d.get? s.snapshot_id,
        s.latest_position.offset = cur.latest_position.offset →
          s.payload_canonical_hash ≠ cur.payload_canonical_hash → deliver d s = d) ∧
      ((∀ bs, bs <+: as →
          ForwardOnly deliver (storedPosition id) (·.latest_position) KeyedDict.empty bs) ↔
        Meets deliver KeepsOrder (KeyedDict.empty : Snapshots env) as) ∧
      ∀ cs : List DbWriterCheckpoint,
        (∀ c ∈ cs, c.stream_id = stream_id ∧ c.partition_id = partition_id) →
          ForwardOnly deliverCheckpoint (storedCheckpoint stream_id partition_id)
            (·.persistedUntilPosition) KeyedDict.empty cs := by
  refine ⟨snapshots_forward_offset has, fun d s _ cur hcur hoffset hhash => ?_,
    snapshots_forward_iff has, fun cs hcs => checkpoints_forward hcs⟩
  exact deliver_other_payload hcur hoffset hhash

end Deliveries

/-! Two snapshots of one payload at one offset. -/

def snapshotAt (offset event_sequence : ℕ) : LiveStateSnapshot sampleEnv where
  snapshot_id := ⟨"snapshot-1", by decide⟩
  snapshot_kind := ⟨"ORDER_BOOK", by decide⟩
  instrument_id := none
  venue_id := none
  latest_position := { positionAt offset with event_sequence }
  payload := .null
  payload_canonical_hash := canonicalPayloadHash sampleEnv .null
  freshness := {
    latest_position := { positionAt offset with event_sequence }
    projected_at := ⟨2024, 1, 1, 0, 0, 0, 0, newYear_date, midnight_clock⟩
    staleness_ms := 10
    gap_free := true
    is_complete := true
    is_speculative := false
    durability_status := .DURABLE_COMMITTED
    source_health_status := none
    durable := fun _ => committed_durable }
  updated_at := ⟨2024, 1, 1, 0, 0, 0, 0, newYear_date, midnight_clock⟩
  valid := ⟨rfl, rfl⟩

theorem snapshotAt_isOf (offset event_sequence : ℕ) :
    IsOf ⟨"snapshot-1", by decide⟩ ⟨"stream-1", by decide⟩ ⟨"partition-1", by decide⟩
      (snapshotAt offset event_sequence) := ⟨rfl, rfl, rfl⟩

theorem live_state_forward_two :
    ForwardOnly deliver (storedOffset ⟨"snapshot-1", by decide⟩) (·.latest_position.offset)
      KeyedDict.empty [snapshotAt 1 1, snapshotAt 2 2] :=
  (live_state_forward fun s hs => by
    rcases List.mem_pair.mp hs with rfl | rfl
    · exact snapshotAt_isOf 1 1
    · exact snapshotAt_isOf 2 2).1

/-- The second of two snapshots at offset 1 is of an earlier event and replaces the first. -/
theorem earlier_event_replaces :
    ¬ ForwardOnly deliver (storedPosition ⟨"snapshot-1", by decide⟩) (·.latest_position)
      KeyedDict.empty [snapshotAt 1 2, snapshotAt 1 1] := by
  intro h
  obtain ⟨q, hq, hle⟩ := h.latest (snapshotAt 1 2) List.mem_cons_self
  have hstored : (storedPosition ⟨"snapshot-1", by decide⟩
      (run deliver KeyedDict.empty [snapshotAt 1 2, snapshotAt 1 1])).map
        (fun p => (p.offset, p.event_sequence)) = some (1, 1) := by decide +kernel
  rw [Option.mem_def.mp hq] at hstored
  obtain ⟨hoffset, hsequence⟩ := Prod.mk.inj (Option.some.inj hstored)
  rw [position_le_iff, hoffset, hsequence] at hle
  exact absurd hle (by decide)

end FuturesBot.LiveState
