import FuturesBot.ConsecutiveNumbers
import FuturesBot.KeySorting
import FuturesBot.StitchRanges
import Mathlib.Data.Prod.Lex
import Mathlib.Data.String.Basic

/-! The reader of the history: which slice it returns for a range of the stored events. -/
namespace FuturesBot.LiveState

open TextLines Checks KeySorting ConsecutiveNumbers

variable {env : Env}

/-- What the stored events are sorted by. -/
def readerKey (e : StreamEventEnvelope env) : String ×ₗ String ×ₗ ℕ ×ₗ ℕ :=
  toLex (e.stream_position.stream_id.value, toLex (e.stream_position.partition_id.value,
    toLex (e.stream_position.offset, e.stream_position.event_sequence)))

structure HistoricalStateReader (env : Env) where
  slice_id : DomainId
  events : List (StreamEventEnvelope env)
  empty_slice_position : Option StreamPosition

/-- `InMemoryHistoricalStateReader.__init__`. -/
def HistoricalStateReader.init (slice_id : DomainId) (events : List (StreamEventEnvelope env))
    (empty_slice_position : Option StreamPosition) : HistoricalStateReader env where
  slice_id
  events := sortBy readerKey events
  empty_slice_position

def inSlice (stream_id : StreamId) (partition_id : StreamPartitionId) (from_offset to_offset : ℕ)
    (e : StreamEventEnvelope env) : Bool :=
  e.stream_position.stream_id = stream_id && e.stream_position.partition_id = partition_id &&
    from_offset ≤ e.stream_position.offset && e.stream_position.offset ≤ to_offset

/-- `_is_gap_free`, for events of one partition. -/
def isGapFree (events : List (StreamEventEnvelope env)) : Bool :=
  (pairwise events).all fun p => p.2.stream_position.IsContiguousAfter p.1.stream_position

/-- Where the slice is persisted until: its last event, or the position given for empty slices. -/
def persistedUntil (empty_slice_position : Option StreamPosition) (stream_id : StreamId)
    (partition_id : StreamPartitionId) (events : List (StreamEventEnvelope env)) :
    Except StitchError StreamPosition :=
  match events.getLast? with
  | some last => .ok last.stream_position
  | none =>
    match empty_slice_position with
    | none => .error (.check "empty historical slice requires explicit empty_slice_position")
    | some position =>
      if position.stream_id ≠ stream_id ∨ position.partition_id ≠ partition_id then
        .error (.check "empty_slice_position stream/partition mismatch")
      else .ok position

def HistoricalStateSlice.of (h : HistoricalFields env) :
    Except StitchError (HistoricalStateSlice env) :=
  validated (checkAll h.validate) fun valid => ⟨h, valid⟩

/-- `read_slice`: offsets are never negative here. -/
def HistoricalStateReader.readSlice (reader : HistoricalStateReader env) (stream_id : StreamId)
    (partition_id : StreamPartitionId) (from_offset to_offset : ℕ) :
    Except StitchError (HistoricalStateSlice env) :=
  if to_offset < from_offset then .error (.check "from_offset must be <= to_offset")
  else do
    let events := reader.events.filter (inSlice stream_id partition_id from_offset to_offset)
    let persisted_until_position ←
      persistedUntil reader.empty_slice_position stream_id partition_id events
    HistoricalStateSlice.of {
      slice_id := reader.slice_id
      stream_id
      partition_id
      from_offset
      to_offset := (events.getLast?.map (·.stream_position.offset)).getD to_offset
      events
      persisted_until_position
      is_gap_free := isGapFree events }

/-! Sorted events. -/

/-- Two events at one offset with one sequence. -/
def SamePlace (x y : StreamEventEnvelope env) : Prop :=
  x.stream_position.offset = y.stream_position.offset ∧
    x.stream_position.event_sequence = y.stream_position.event_sequence

theorem readerKey_le {x y : StreamEventEnvelope env}
    (hsame : y.stream_position.SameStreamPartition x.stream_position) :
    readerKey x ≤ readerKey y ↔ ¬ x.stream_position.IsAfter y.stream_position := by
  simp only [readerKey, hsame.1, hsame.2, Prod.Lex.toLex_le_toLex, lt_irrefl, true_and, false_or,
    StreamPosition.IsAfter]
  omega

theorem follows_iff {x y : StreamEventEnvelope env}
    (hsame : y.stream_position.SameStreamPartition x.stream_position)
    (hle : readerKey x ≤ readerKey y) : Follows x y ↔ ¬ SamePlace x y := by
  have hafter := (readerKey_le hsame).mp hle
  simp only [Follows, hsame, true_and, SamePlace, StreamPosition.IsAfter] at hafter ⊢
  omega

theorem follows_pairwise {events : List (StreamEventEnvelope env)} :
    events.IsChain Follows ↔ events.Pairwise Follows := by
  have htrans : Trans (@Follows env) (@Follows env) (@Follows env) := by
    refine ⟨fun {a b c} hab hbc => ⟨⟨hbc.1.1.trans hab.1.1, hbc.1.2.trans hab.1.2⟩, ?_⟩⟩
    have h1 := hab.2
    have h2 := hbc.2
    unfold StreamPosition.IsAfter at h1 h2 ⊢
    omega
  exact List.isChain_iff_pairwise

/-- Sorted events of one partition are in order exactly when no two stand at one place. -/
theorem sorted_chain_iff {events : List (StreamEventEnvelope env)}
    (hsorted : SortedBy readerKey events)
    (hsame : ∀ x ∈ events, ∀ y ∈ events,
      y.stream_position.SameStreamPartition x.stream_position) :
    events.IsChain Follows ↔ events.Pairwise fun x y => ¬ SamePlace x y := by
  rw [follows_pairwise]
  constructor
  · intro h
    refine h.imp fun {x y} hfollows hplace => ?_
    have hafter := hfollows.2
    unfold StreamPosition.IsAfter at hafter
    obtain ⟨hoffset, hsequence⟩ := hplace
    omega
  · intro h
    have hboth := hsorted.and h
    refine hboth.imp_of_mem fun {x y} hx hy hxy => ?_
    exact (follows_iff (hsame x hx y hy) hxy.1).mpr hxy.2

theorem isGapFree_iff {events : List (StreamEventEnvelope env)}
    (hsame : ∀ x ∈ events, ∀ y ∈ events,
      y.stream_position.SameStreamPartition x.stream_position) :
    isGapFree events = true ↔ events.IsChain FollowsNext := by
  simp only [isGapFree, List.all_eq_true, decide_eq_true_eq]
  rw [forall_pairwise (R := fun x y => y.stream_position.IsContiguousAfter x.stream_position)]
  constructor
  · intro h
    refine h.imp_of_mem_imp fun x y hx hy hnext => ?_
    exact ⟨hsame x hx y hy, hnext⟩
  · exact fun h => h.imp fun x y hnext => hnext.2

/-- A contiguous list of events leaves out no offset between its ends. -/
theorem contiguous_covers {events : List (StreamEventEnvelope env)}
    (h : events.IsChain FollowsNext) {first last : StreamEventEnvelope env}
    (hfirst : first ∈ events.head?) (hlast : last ∈ events.getLast?) {o : ℕ}
    (hlow : first.stream_position.offset ≤ o) (hhigh : o ≤ last.stream_position.offset) :
    ∃ e ∈ events, e.stream_position.offset = o := by
  have hconsecutive : Consecutive (events.map (·.stream_position.offset)) := by
    rw [Consecutive, List.isChain_map]
    exact h.imp fun x y hnext => hnext.2.1
  have hmem := (hconsecutive.mem_iff (n := o)
    (by rw [List.head?_map, Option.mem_def.mp hfirst]; rfl)
    (by rw [List.getLast?_map, Option.mem_def.mp hlast]; rfl)).mpr ⟨hlow, hhigh⟩
  exact List.mem_map.mp hmem

/-! What is read. -/

section Reading

variable {slice_id : DomainId} {stored : List (StreamEventEnvelope env)} {position : StreamPosition}
variable {stream_id : StreamId} {partition_id : StreamPartitionId} {from_offset to_offset : ℕ}

/-- The slice holds the stored events of the range, in order, and is marked gap-free only where
every offset up to the last that it covers is stored. -/
def ReadsRange (stored : List (StreamEventEnvelope env)) (stream_id : StreamId)
    (partition_id : StreamPartitionId) (from_offset to_offset : ℕ)
    (result : Except StitchError (HistoricalStateSlice env)) : Prop :=
  ∃ s, result = .ok s ∧
    s.events.Perm (stored.filter (inSlice stream_id partition_id from_offset to_offset)) ∧
    s.events.IsChain Follows ∧
    (s.is_gap_free = true → ∀ o, from_offset ≤ o → o ≤ s.persisted_until_position.offset →
      ∃ e ∈ stored, e.stream_position.stream_id = stream_id ∧
        e.stream_position.partition_id = partition_id ∧ e.stream_position.offset = o)

/-- Without stored events in the range, the position for empty slices lies before it; with some,
one stands at the start of the range and no two at one place. -/
def Readable (stored : List (StreamEventEnvelope env)) (position : StreamPosition)
    (stream_id : StreamId) (partition_id : StreamPartitionId) (from_offset to_offset : ℕ) : Prop :=
  let events := stored.filter (inSlice stream_id partition_id from_offset to_offset)
  if events = [] then position.offset < from_offset
  else (∃ e ∈ events, e.stream_position.offset = from_offset) ∧
    events.Pairwise fun x y => ¬ SamePlace x y

theorem mem_inSlice {e : StreamEventEnvelope env} :
    inSlice stream_id partition_id from_offset to_offset e = true ↔
      e.stream_position.stream_id = stream_id ∧ e.stream_position.partition_id = partition_id ∧
        from_offset ≤ e.stream_position.offset ∧ e.stream_position.offset ≤ to_offset := by
  simp only [inSlice, Bool.and_eq_true, decide_eq_true_eq, and_assoc]

/-- The events read, in the order of the store. -/
def found (stored : List (StreamEventEnvelope env)) (stream_id : StreamId)
    (partition_id : StreamPartitionId) (from_offset to_offset : ℕ) :
    List (StreamEventEnvelope env) :=
  (sortBy readerKey stored).filter (inSlice stream_id partition_id from_offset to_offset)

theorem found_perm : (found stored stream_id partition_id from_offset to_offset).Perm
    (stored.filter (inSlice stream_id partition_id from_offset to_offset)) :=
  (sortBy_perm readerKey stored).filter _

theorem mem_found {e : StreamEventEnvelope env} :
    e ∈ found stored stream_id partition_id from_offset to_offset ↔
      e ∈ stored ∧ e.stream_position.stream_id = stream_id ∧
        e.stream_position.partition_id = partition_id ∧
        from_offset ≤ e.stream_position.offset ∧ e.stream_position.offset ≤ to_offset := by
  rw [found_perm.mem_iff, List.mem_filter, mem_inSlice]

theorem found_same {x y : StreamEventEnvelope env}
    (hx : x ∈ found stored stream_id partition_id from_offset to_offset)
    (hy : y ∈ found stored stream_id partition_id from_offset to_offset) :
    y.stream_position.SameStreamPartition x.stream_position := by
  obtain ⟨_, hxs, hxp, _⟩ := mem_found.mp hx
  obtain ⟨_, hys, hyp, _⟩ := mem_found.mp hy
  exact ⟨hys.trans hxs.symm, hyp.trans hxp.symm⟩

theorem found_chain_iff :
    (found stored stream_id partition_id from_offset to_offset).IsChain Follows ↔
      (stored.filter (inSlice stream_id partition_id from_offset to_offset)).Pairwise
        fun x y => ¬ SamePlace x y := by
  have hsorted : SortedBy readerKey
      (found stored stream_id partition_id from_offset to_offset) :=
    List.Pairwise.filter _ (sortBy_sorted readerKey stored)
  rw [sorted_chain_iff hsorted fun x hx y hy => found_same hx hy]
  exact found_perm.pairwise_iff fun {x y} hxy hyx => hxy ⟨hyx.1.symm, hyx.2.symm⟩

/-- The first of the sorted events has the least offset. -/
theorem found_first {first e : StreamEventEnvelope env}
    (hchain : (found stored stream_id partition_id from_offset to_offset).IsChain Follows)
    (hfirst : first ∈ (found stored stream_id partition_id from_offset to_offset).head?)
    (he : e ∈ found stored stream_id partition_id from_offset to_offset) :
    first.stream_position.offset ≤ e.stream_position.offset := by
  have hpairs := follows_pairwise.mp hchain
  cases hfound : found stored stream_id partition_id from_offset to_offset with
  | nil =>
    rw [hfound] at he
    exact absurd he List.not_mem_nil
  | cons x rest =>
    rw [hfound] at hfirst he hpairs
    obtain rfl : x = first := Option.some.inj hfirst
    rcases List.mem_cons.mp he with rfl | he
    · exact le_refl _
    · have hafter := ((List.pairwise_cons.mp hpairs).1 e he).2
      unfold StreamPosition.IsAfter at hafter
      omega

/-- The members of the slice for events that end at the given one. -/
def sliceFields (slice_id : DomainId) (stream_id : StreamId) (partition_id : StreamPartitionId)
    (from_offset : ℕ) (events : List (StreamEventEnvelope env)) (last : StreamEventEnvelope env) :
    HistoricalFields env where
  slice_id
  stream_id
  partition_id
  from_offset
  to_offset := last.stream_position.offset
  events
  persisted_until_position := last.stream_position
  is_gap_free := isGapFree events

theorem readSlice_some {last : StreamEventEnvelope env} (hle : from_offset ≤ to_offset)
    (hlast : last ∈ (found stored stream_id partition_id from_offset to_offset).getLast?) :
    (HistoricalStateReader.init slice_id stored (some position)).readSlice stream_id partition_id
        from_offset to_offset =
      HistoricalStateSlice.of (sliceFields slice_id stream_id partition_id from_offset
        (found stored stream_id partition_id from_offset to_offset) last) := by
  have hget : ((sortBy readerKey stored).filter
      (inSlice stream_id partition_id from_offset to_offset)).getLast? = some last := hlast
  rw [HistoricalStateReader.readSlice, if_neg (by omega)]
  simp only [HistoricalStateReader.init, persistedUntil, hget, Option.map_some, Option.getD_some]
  rfl

/-- With events in the range, the slice passes its checks exactly when they are in order and start
at the offset asked for. -/
theorem sliceFields_valid (slice_id : DomainId) {last : StreamEventEnvelope env}
    (hlast : last ∈ (found stored stream_id partition_id from_offset to_offset).getLast?) :
    checkAll (sliceFields slice_id stream_id partition_id from_offset
        (found stored stream_id partition_id from_offset to_offset) last).validate = .ok () ↔
      (found stored stream_id partition_id from_offset to_offset).IsChain Follows ∧
        ∀ first ∈ (found stored stream_id partition_id from_offset to_offset).head?,
          first.stream_position.offset = from_offset := by
  have hmem := List.mem_of_mem_getLast? hlast
  obtain ⟨_, hstream, hpartition, hlow, _⟩ := mem_found.mp hmem
  have hne : (sliceFields slice_id stream_id partition_id from_offset
      (found stored stream_id partition_id from_offset to_offset) last).events ≠ [] :=
    List.ne_nil_of_mem hmem
  have hgap : checkAll (if isGapFree
      (found stored stream_id partition_id from_offset to_offset) = true then
        validateContiguousEvents (found stored stream_id partition_id from_offset to_offset)
      else []) = .ok () := by
    split
    · rename_i hfree
      exact validateContiguousEvents_ok.mpr
        ((isGapFree_iff fun x hx y hy => found_same hx hy).mp hfree)
    · rfl
  have hends : ∀ e ∈ (found stored stream_id partition_id from_offset to_offset).getLast?,
      e.stream_position.offset = last.stream_position.offset := by
    intro e he
    rw [Option.mem_unique he hlast]
  have hmatch : ∀ e ∈ found stored stream_id partition_id from_offset to_offset,
      e.stream_position.stream_id = stream_id ∧ e.stream_position.partition_id = partition_id :=
    fun e he => ⟨(mem_found.mp he).2.1, (mem_found.mp he).2.2.1⟩
  rw [HistoricalFields.validate, checkAll_append, if_neg hne]
  simp only [checkAll_append, checkAll_require, checkAll_nil, and_true, validateOrderedEvents_ok,
    validateMatch_ok, validateEnds_ok]
  constructor
  · rintro ⟨_, ⟨⟨⟨⟨_, hchain⟩, _⟩, hfirst, _⟩, _⟩, _⟩
    exact ⟨hchain, hfirst⟩
  · rintro ⟨hchain, hfirst⟩
    exact ⟨⟨hstream, hpartition⟩, ⟨⟨⟨⟨hlow, hchain⟩, hmatch⟩, hfirst, hends⟩, hgap⟩,
      le_refl last.stream_position.offset⟩

theorem readSlice_none (hposition : position.stream_id = stream_id ∧
      position.partition_id = partition_id) (hle : from_offset ≤ to_offset)
    (hnone : found stored stream_id partition_id from_offset to_offset = []) :
    ∃ s : HistoricalStateSlice env, (HistoricalStateReader.init slice_id stored
        (some position)).readSlice stream_id partition_id from_offset to_offset = .ok s ∧
      s.events = [] ∧ s.is_gap_free = true ∧ s.persisted_until_position = position := by
  have hevents : (sortBy readerKey stored).filter
      (inSlice stream_id partition_id from_offset to_offset) = [] := hnone
  have hsame : ¬ (position.stream_id ≠ stream_id ∨ position.partition_id ≠ partition_id) := by
    simp only [hposition, ne_eq, not_true_eq_false, or_self, not_false_eq_true]
  let fields : HistoricalFields env :=
    { slice_id, stream_id, partition_id, from_offset, to_offset, events := [],
      persisted_until_position := position, is_gap_free := true }
  have hvalid : checkAll fields.validate = .ok () := by
    simp only [HistoricalFields.validate, fields, ↓reduceIte, List.append_nil, checkAll_require,
      checkAll_nil, and_true]
    exact hposition
  refine ⟨⟨fields, hvalid⟩, ?_, rfl, rfl, rfl⟩
  rw [HistoricalStateReader.readSlice, if_neg (by omega)]
  simp only [HistoricalStateReader.init, hevents, persistedUntil, List.getLast?_nil, hsame,
    ↓reduceIte, Option.map_none, Option.getD_none]
  exact validated_eq_ok.mpr ⟨hvalid, rfl⟩

/-- A range is read as it is stored exactly when it is readable. -/
theorem read_slice_iff (slice_id : DomainId) (stored : List (StreamEventEnvelope env))
    (hposition : position.stream_id = stream_id ∧ position.partition_id = partition_id)
    (hle : from_offset ≤ to_offset) :
    ReadsRange stored stream_id partition_id from_offset to_offset
        ((HistoricalStateReader.init slice_id stored (some position)).readSlice stream_id
          partition_id from_offset to_offset) ↔
      Readable stored position stream_id partition_id from_offset to_offset := by
  unfold Readable
  by_cases hnone : stored.filter (inSlice stream_id partition_id from_offset to_offset) = []
  · -- the empty slice says that nothing is missing up to the position it is given
    have hfound : found stored stream_id partition_id from_offset to_offset = [] :=
      List.perm_nil.mp (hnone ▸ found_perm)
    obtain ⟨s, hread, hevents, hfree, hpersisted⟩ :=
      readSlice_none hposition hle hfound
    rw [hread, if_pos hnone]
    constructor
    · rintro ⟨s', hs', _, _, hcovers⟩
      obtain rfl := Except.ok.inj hs'
      by_contra hlate
      rw [hpersisted] at hcovers
      obtain ⟨e, he, hstream, hpartition, hoffset⟩ :=
        hcovers hfree from_offset (le_refl _) (not_lt.mp hlate)
      have hmem : e ∈ found stored stream_id partition_id from_offset to_offset :=
        mem_found.mpr ⟨he, hstream, hpartition, by omega, by omega⟩
      rw [hfound] at hmem
      exact List.not_mem_nil hmem
    · intro hearly
      refine ⟨s, rfl, ?_, ?_, fun _ o hlow hhigh => ?_⟩
      · rw [hevents, hnone]
      · rw [hevents]
        exact List.isChain_nil
      · rw [hpersisted] at hhigh
        omega
  · have hfound : found stored stream_id partition_id from_offset to_offset ≠ [] :=
      fun h => hnone (List.perm_nil.mp (h ▸ found_perm.symm))
    obtain ⟨last, hlast⟩ := Option.ne_none_iff_exists'.mp (mt List.getLast?_eq_none_iff.mp hfound)
    obtain ⟨first, hfirst⟩ := Option.ne_none_iff_exists'.mp (mt List.head?_eq_none_iff.mp hfound)
    have hvalid := sliceFields_valid slice_id hlast
    rw [readSlice_some hle hlast, if_neg hnone]
    constructor
    · rintro ⟨s, hs, _⟩
      obtain ⟨hchecks, _⟩ := validated_eq_ok.mp hs
      obtain ⟨hchain, hstart⟩ := hvalid.mp hchecks
      refine ⟨⟨first, ?_, hstart first hfirst⟩, found_chain_iff.mp hchain⟩
      exact found_perm.mem_iff.mp (List.mem_of_mem_head? hfirst)
    · rintro ⟨⟨e, he, hoffset⟩, hplaces⟩
      have hchain := found_chain_iff.mpr hplaces
      have hstart : first.stream_position.offset = from_offset := by
        have hleast := found_first hchain hfirst (found_perm.mem_iff.mpr he)
        have hlow := (mem_found.mp (List.mem_of_mem_head? hfirst)).2.2.2.1
        omega
      have hchecks := hvalid.mpr ⟨hchain, fun x hx => by rw [Option.mem_unique hx hfirst, hstart]⟩
      refine ⟨⟨_, hchecks⟩, validated_eq_ok.mpr ⟨hchecks, rfl⟩, found_perm, hchain, ?_⟩
      intro hfree o hlow hhigh
      have hcontiguous := (isGapFree_iff fun x hx y hy => found_same hx hy).mp hfree
      obtain ⟨x, hx, hxo⟩ := contiguous_covers hcontiguous hfirst hlast
        (by rw [hstart]; exact hlow) hhigh
      obtain ⟨hstored, hstream, hpartition, _⟩ := mem_found.mp hx
      exact ⟨x, hstored, hstream, hpartition, hxo⟩

end Reading

/-! Events at offsets 2 and 3, and a range that starts at offset 1. -/

/-- The range from offset 2 on is read as it is stored. -/
theorem two_events_read :
    ReadsRange [eventAt 3, eventAt 2] ⟨"stream-1", by decide⟩ ⟨"partition-1", by decide⟩ 2 5
      ((HistoricalStateReader.init ⟨"history-1", by decide⟩ [eventAt 3, eventAt 2]
        (some (positionAt 1))).readSlice ⟨"stream-1", by decide⟩ ⟨"partition-1", by decide⟩ 2 5) :=
  (read_slice_iff ⟨"history-1", by decide⟩ [eventAt 3, eventAt 2] ⟨rfl, rfl⟩ (by decide)).mpr (by
    have hall : [eventAt 3, eventAt 2].filter
        (inSlice (positionAt 1).stream_id (positionAt 1).partition_id 2 5) =
          [eventAt 3, eventAt 2] := rfl
    unfold Readable
    rw [hall]
    dsimp only
    rw [if_neg (List.cons_ne_nil _ _)]
    refine ⟨⟨eventAt 2, List.mem_cons_of_mem _ List.mem_cons_self, rfl⟩, ?_⟩
    rw [List.pairwise_pair]
    rintro ⟨hoffset, _⟩
    exact absurd hoffset (by decide))

/-- A range whose first offset is missing raises. -/
theorem missing_start_raises :
    ¬ ReadsRange [eventAt 3, eventAt 2] ⟨"stream-1", by decide⟩ ⟨"partition-1", by decide⟩ 1 3
      ((HistoricalStateReader.init ⟨"history-1", by decide⟩ [eventAt 3, eventAt 2]
        (some (positionAt 0))).readSlice ⟨"stream-1", by decide⟩ ⟨"partition-1", by decide⟩ 1 3) := by
  have herror : ((HistoricalStateReader.init ⟨"history-1", by decide⟩ [eventAt 3, eventAt 2]
      (some (positionAt 0))).readSlice ⟨"stream-1", by decide⟩ ⟨"partition-1", by decide⟩ 1 3) =
        .error (.check "from_offset must match first event offset") := by
    decide +kernel
  rw [herror]
  rintro ⟨s, hs, _⟩
  cases hs

end FuturesBot.LiveState
