import FuturesBot.StateStitching

/-! What a stitched state promises: when the stitch raises, and that a tradable state hides no
gap. -/
namespace FuturesBot.LiveState

open TextLines Checks

variable {env : Env} {historical : HistoricalStateSlice env}
  {live_tail : Option (LiveTailSlice env)} {policy : LiveStateFreshnessPolicy}

/-! When the stitch raises. -/

/-- Some event of the tail at or below the boundary has no identical event of the history at its
offset. -/
def Conflicts (historical : HistoricalStateSlice env) (live_tail : Option (LiveTailSlice env)) :
    Prop :=
  ∃ t ∈ live_tail, ∃ e ∈ t.events, e.stream_position.offset ≤ continuityBoundary historical ∧
    ¬ ∃ h ∈ historical.events, h.stream_position.offset = e.stream_position.offset ∧
      eventIdentityMatches h e = true

/-- The stitch refuses another stream, then a conflict, and returns a state else. -/
structure RaisesAsClaimed (historical : HistoricalStateSlice env)
    (live_tail : Option (LiveTailSlice env)) (policy : LiveStateFreshnessPolicy) : Prop where
  reasons : ∀ e, stitch historical live_tail policy = .error e →
    e = .reason .STREAM_PARTITION_MISMATCH ∨ e = .reason .INVALID_OVERLAP
  mismatch : stitch historical live_tail policy = .error (.reason .STREAM_PARTITION_MISMATCH) ↔
    ¬ SameStream historical live_tail
  overlap : stitch historical live_tail policy = .error (.reason .INVALID_OVERLAP) ↔
    SameStream historical live_tail ∧ Conflicts historical live_tail

/-- The checks of the returned state pass: gap-free events carry on their sequence, and the policy
lets no state with a gap through. -/
def ChecksPass (historical : HistoricalStateSlice env) (live_tail : Option (LiveTailSlice env))
    (policy : LiveStateFreshnessPolicy) : Prop :=
  (StitchesGapFree historical live_tail → SequenceContinues historical live_tail) ∧
    (Unobjected historical live_tail policy → StitchesGapFree historical live_tail)

theorem historicalAt_spec {offset : ℕ} {h : StreamEventEnvelope env}
    (hfound : historicalAt historical offset = some h) :
    h ∈ historical.events ∧ h.stream_position.offset = offset := by
  rw [historicalAt] at hfound
  refine ⟨List.mem_reverse.mp (List.mem_of_find?_eq_some hfound), ?_⟩
  simpa using List.find?_some hfound

/-- A matched event has an identical event in the history. -/
theorem Matched.identical {e : StreamEventEnvelope env} (h : Matched historical e) :
    ∃ x ∈ historical.events, x.stream_position.offset = e.stream_position.offset ∧
      eventIdentityMatches x e = true := by
  obtain ⟨x, hfound, hmatches⟩ := (Option.any_eq_true _ _).mp h
  obtain ⟨hmem, hoffset⟩ := historicalAt_spec hfound
  exact ⟨x, hmem, hoffset, hmatches⟩

theorem Overlaps.not_conflicts (h : Overlaps historical live_tail) :
    ¬ Conflicts historical live_tail := by
  rintro ⟨t, ht, e, he, hbelow, hnone⟩
  exact hnone (h t ht e he hbelow).identical

/-- The stitch raises as it is said to exactly when, for one stream, either some event of the tail
conflicts or every event that overlaps is matched and the checks of the returned state pass. -/
theorem stitch_raises_iff (historical : HistoricalStateSlice env)
    (live_tail : Option (LiveTailSlice env)) (policy : LiveStateFreshnessPolicy) :
    RaisesAsClaimed historical live_tail policy ↔
      (SameStream historical live_tail → Conflicts historical live_tail ∨
        Overlaps historical live_tail ∧ ChecksPass historical live_tail policy) := by
  rcases stitch_cases historical live_tail policy with
    ⟨hsame, herror⟩ | ⟨hsame, hoverlaps, herror⟩ | ⟨hsame, hoverlaps, hof⟩
  · refine ⟨fun _ h => absurd h hsame, fun _ => ⟨?_, ?_, ?_⟩⟩
    · intro e he
      exact .inl (Except.error.inj (he.symm.trans herror))
    · exact iff_of_true herror hsame
    · refine iff_of_false (fun h => ?_) fun h => hsame h.1
      have hreasons := Except.error.inj (herror.symm.trans h)
      exact absurd hreasons (by decide)
  · constructor
    · intro hclaimed _
      exact .inl (hclaimed.overlap.mp herror).2
    · intro hcondition
      have hconflicts : Conflicts historical live_tail := by
        rcases hcondition hsame with hconflicts | ⟨h, -⟩
        · exact hconflicts
        · exact absurd h hoverlaps
      refine ⟨?_, ?_, iff_of_true herror ⟨hsame, hconflicts⟩⟩
      · intro e he
        exact .inr (Except.error.inj (he.symm.trans herror))
      · refine iff_of_false (fun h => ?_) fun h => h hsame
        have hreasons := Except.error.inj (herror.symm.trans h)
        exact absurd hreasons (by decide)
  · have hvalid : (∃ s, stitch historical live_tail policy = .ok s) ↔
        ChecksPass historical live_tail policy := by
      rw [hof, StitchedStateSlice.of_isOk, stitched_valid hsame, ChecksPass]
    constructor
    · intro hclaimed _
      refine .inr ⟨hoverlaps, hvalid.mp ?_⟩
      cases hresult : stitch historical live_tail policy with
      | ok s => exact ⟨s, rfl⟩
      | error e =>
        -- neither of the two reasons applies
        rcases hclaimed.reasons e hresult with rfl | rfl
        · exact absurd hsame (hclaimed.mismatch.mp hresult)
        · exact absurd (hclaimed.overlap.mp hresult).2 hoverlaps.not_conflicts
    · intro hcondition
      have hpass : ChecksPass historical live_tail policy := by
        rcases hcondition hsame with hconflicts | ⟨-, hpass⟩
        · exact absurd hconflicts hoverlaps.not_conflicts
        · exact hpass
      obtain ⟨s, hs⟩ := hvalid.mpr hpass
      have hok : ∀ e, stitch historical live_tail policy ≠ .error e := by
        intro e he
        rw [hs] at he
        cases he
      refine ⟨fun e he => absurd he (hok e), ?_, ?_⟩
      · exact iff_of_false (hok _) fun h => h hsame
      · exact iff_of_false (hok _) fun h => hoverlaps.not_conflicts h.2

/-! Tradable states. -/

/-- How many of the events are the given one: at its offset, with its id and payload. -/
def copies (events : List (StreamEventEnvelope env)) (e : StreamEventEnvelope env) : ℕ :=
  events.countP fun x => x.stream_position.offset = e.stream_position.offset &&
    eventIdentityMatches x e

/-- The last offset of the stitched events, or the persisted one where there are none. -/
def lastOffset (historical : HistoricalStateSlice env)
    (events : List (StreamEventEnvelope env)) : ℕ :=
  match events.getLast? with
  | some e => e.stream_position.offset
  | none => historical.persisted_until_position.offset

/-- The events follow each other without a gap, every event of the history and of the tail is there
once, the policy allows the freshness of the tail, and the tail knows of no later offset. -/
structure NoHiddenGap (historical : HistoricalStateSlice env)
    (live_tail : Option (LiveTailSlice env)) (policy : LiveStateFreshnessPolicy)
    (events : List (StreamEventEnvelope env)) : Prop where
  contiguous : events.IsChain FollowsNext
  history_once : ∀ e ∈ historical.events, copies events e = 1
  tail_once : ∀ t ∈ live_tail, ∀ e ∈ t.events, copies events e = 1
  allowed : ∀ t ∈ live_tail, policy.allows t.freshness = true
  latest : ∀ t ∈ live_tail, t.latest_position.offset ≤ lastOffset historical events

/-- The slices stitch to a tradable state. -/
structure StitchesTradable (historical : HistoricalStateSlice env)
    (live_tail : Option (LiveTailSlice env)) (policy : LiveStateFreshnessPolicy) : Prop where
  same : SameStream historical live_tail
  overlaps : Overlaps historical live_tail
  unobjected : Unobjected historical live_tail policy
  gap_free : StitchesGapFree historical live_tail
  sequence : SequenceContinues historical live_tail

/-- The latest position of the tail lies above the boundary and above the events of the tail. -/
def TailAhead (historical : HistoricalStateSlice env) (t : LiveTailSlice env) : Prop :=
  continuityBoundary historical < t.latest_position.offset ∧
    (t.events ≠ [] → t.to_offset < t.latest_position.offset)

/-- A tradable state is returned exactly for slices that stitch to one. -/
theorem stitch_tradable {s : StitchedStateSlice env} :
    stitch historical live_tail policy = .ok s ∧ s.tradable = true ↔
      s.toStitchedFields = stitched historical live_tail policy ∧
        StitchesTradable historical live_tail policy := by
  rcases stitch_cases historical live_tail policy with
    ⟨hsame, herror⟩ | ⟨-, hoverlaps, herror⟩ | ⟨hsame, hoverlaps, hof⟩
  · refine iff_of_false (fun h => ?_) fun h => hsame h.2.same
    exact absurd (herror.symm.trans h.1) (by simp)
  · refine iff_of_false (fun h => ?_) fun h => hoverlaps h.2.overlaps
    exact absurd (herror.symm.trans h.1) (by simp)
  · rw [hof, StitchedStateSlice.of_eq_ok]
    refine and_congr_right fun hs => ?_
    rw [hs, stitched_tradable]
    constructor
    · intro hunobjected
      have hvalid := s.valid
      rw [hs] at hvalid
      obtain ⟨hsequence, hgapfree⟩ := (stitched_valid hsame).mp hvalid
      exact ⟨hsame, hoverlaps, hunobjected, hgapfree hunobjected,
        hsequence (hgapfree hunobjected)⟩
    · exact fun h => h.unobjected

theorem StitchesTradable.exists_state (h : StitchesTradable historical live_tail policy) :
    ∃ s, stitch historical live_tail policy = .ok s ∧ s.tradable = true := by
  have hvalid : checkAll (stitched historical live_tail policy).validate = .ok () :=
    (stitched_valid h.same).mpr ⟨fun _ => h.sequence, fun _ => h.gap_free⟩
  exact ⟨⟨stitched historical live_tail policy, hvalid⟩, stitch_tradable.mpr ⟨rfl, h⟩⟩

/-- The offsets of contiguous events grow. -/
theorem offsets_grow {events : List (StreamEventEnvelope env)} (h : events.IsChain FollowsNext) :
    events.Pairwise fun a b => a.stream_position.offset < b.stream_position.offset := by
  let before (a b : StreamEventEnvelope env) : Prop :=
    a.stream_position.offset < b.stream_position.offset
  have htrans : Trans before before before := ⟨fun hab hbc => Nat.lt_trans hab hbc⟩
  have hchain : events.IsChain before := by
    refine h.imp fun a b hnext => ?_
    have hoffset := hnext.2.1
    change a.stream_position.offset < b.stream_position.offset
    omega
  exact List.isChain_iff_pairwise.mp hchain

/-- No event is twice among contiguous events. -/
theorem copies_le_one {events : List (StreamEventEnvelope env)} (h : events.IsChain FollowsNext)
    (e : StreamEventEnvelope env) : copies events e ≤ 1 := by
  have hnodup : (events.map (·.stream_position.offset)).Nodup :=
    List.pairwise_map.mpr ((offsets_grow h).imp fun hlt => Nat.ne_of_lt hlt)
  calc copies events e
      ≤ events.countP (·.stream_position.offset = e.stream_position.offset) := by
        refine List.countP_mono_left fun x _ hx => ?_
        rw [Bool.and_eq_true] at hx
        exact hx.1
    _ = (events.map (·.stream_position.offset)).count e.stream_position.offset := by
        rw [List.count, List.countP_map]
        exact List.countP_congr fun x _ => by simp
    _ ≤ 1 := List.nodup_iff_count_le_one.mp hnodup _

theorem copies_eq_one {events : List (StreamEventEnvelope env)} (h : events.IsChain FollowsNext)
    {x e : StreamEventEnvelope env} (hx : x ∈ events)
    (hoffset : x.stream_position.offset = e.stream_position.offset)
    (hmatches : eventIdentityMatches x e = true) : copies events e = 1 := by
  have hpos : 0 < copies events e := by
    rw [copies, List.countP_pos_iff]
    exact ⟨x, hx, by simp [hoffset, hmatches]⟩
  have hle := copies_le_one h e
  omega

theorem eventIdentityMatches_refl (e : StreamEventEnvelope env) :
    eventIdentityMatches e e = true := by
  simp [eventIdentityMatches]

/-- The last event of a tail is the last that lies above the boundary, if any does. -/
theorem above_getLast {boundary : ℕ} {events : List (StreamEventEnvelope env)}
    (h : events.IsChain FollowsNext) (habove : above boundary events ≠ []) :
    (above boundary events).getLast? = events.getLast? := by
  rcases List.eq_nil_or_concat' events with rfl | ⟨init, last, rfl⟩
  · rfl
  · obtain ⟨e, he⟩ := List.exists_mem_of_ne_nil _ habove
    obtain ⟨hmem, hlt⟩ := mem_above.mp he
    have hlast : boundary < last.stream_position.offset := by
      rcases List.mem_append.mp hmem with hmem | hmem
      · have hgrow := (List.pairwise_append.mp (offsets_grow h)).2.2 e hmem last
          List.mem_cons_self
        omega
      · rw [List.mem_singleton.mp hmem] at hlt
        exact hlt
    rw [above, List.filter_append, List.filter_cons_of_pos (by simpa using hlast),
      List.filter_nil, List.getLast?_concat, List.getLast?_concat]

/-- The last stitched offset is that of the tail where the tail adds events, and else the
boundary. -/
theorem lastOffset_stitched {t : LiveTailSlice env} :
    lastOffset historical (historical.events ++ tailAfter historical (some t)) =
      if t.events ≠ [] then max (continuityBoundary historical) t.to_offset
      else continuityBoundary historical := by
  have hboundary : lastOffset historical historical.events = continuityBoundary historical := by
    rw [lastOffset]
    cases hlast : historical.events.getLast? with
    | none =>
      rw [continuityBoundary, if_pos (List.getLast?_eq_none_iff.mp hlast)]
    | some last => exact history_last hlast
  by_cases hafter : tailAfter historical (some t) = []
  · rw [hafter, List.append_nil, hboundary]
    split_ifs with hevents
    · -- no event of the tail lies above the boundary, nor does its last
      obtain ⟨last, hlast⟩ := Option.ne_none_iff_exists'.mp
        (mt List.getLast?_eq_none_iff.mp hevents)
      have hoffset := t.facts.last last hlast
      have hbelow : ¬ continuityBoundary historical < last.stream_position.offset := by
        intro hlt
        have hmem : last ∈ tailAfter historical (some t) :=
          mem_above.mpr ⟨List.mem_of_mem_getLast? hlast, hlt⟩
        rw [hafter] at hmem
        exact absurd hmem List.not_mem_nil
      omega
    · rfl
  · have hlast : (tailAfter historical (some t)).getLast? = t.events.getLast? :=
      above_getLast t.facts.contiguous hafter
    obtain ⟨last, hget⟩ := Option.ne_none_iff_exists'.mp (mt List.getLast?_eq_none_iff.mp hafter)
    have hmem := mem_above.mp (List.mem_of_mem_getLast? hget)
    have hoffset := t.facts.last last (hlast ▸ hget)
    rw [if_pos (List.ne_nil_of_mem hmem.1), lastOffset, List.getLast?_append, hget]
    change last.stream_position.offset = _
    omega

theorem tailAhead_iff {t : LiveTailSlice env} : TailAhead historical t ↔
    lastOffset historical (historical.events ++ tailAfter historical (some t)) <
      t.latest_position.offset := by
  rw [lastOffset_stitched, TailAhead]
  split_ifs with hevents
  · rw [Nat.max_lt]
    exact and_congr_right fun _ => ⟨fun h => h hevents, fun h _ => h⟩
  · exact ⟨fun h => h.1, fun h => ⟨h, fun hne => absurd hne hevents⟩⟩

/-- Apart from its latest position, a tail that stitches to a tradable state hides no gap. -/
theorem StitchesTradable.noHiddenGap (h : StitchesTradable historical live_tail policy)
    (hlatest : ∀ t ∈ live_tail, ¬ TailAhead historical t) :
    NoHiddenGap historical live_tail policy
      (historical.events ++ tailAfter historical live_tail) := by
  have hchain := (merged_contiguous h.same h.gap_free.1 h.gap_free.2.1).mpr h.sequence
  refine ⟨hchain, fun e he => ?_, fun t ht e he => ?_, h.unobjected.allowed, fun t ht => ?_⟩
  · exact copies_eq_one hchain (List.mem_append_left _ he) rfl (eventIdentityMatches_refl e)
  · by_cases hbelow : e.stream_position.offset ≤ continuityBoundary historical
    · obtain ⟨x, hx, hoffset, hmatches⟩ := (h.overlaps t ht e he hbelow).identical
      exact copies_eq_one hchain (List.mem_append_left _ hx) hoffset hmatches
    · have hmem : e ∈ tailAfter historical live_tail :=
        mem_tailAfter.mpr ⟨t, ht, he, Nat.lt_of_not_le hbelow⟩
      exact copies_eq_one hchain (List.mem_append_right _ hmem) rfl (eventIdentityMatches_refl e)
  · have hnot := hlatest t ht
    obtain rfl : live_tail = some t := ht
    rw [tailAhead_iff] at hnot
    exact Nat.le_of_not_lt hnot

/-- A tradable state hides no gap exactly when the slices do not stitch to a tradable state, or the
latest position of the tail lies no higher than the events that are stitched. -/
theorem tradable_no_gap_iff (historical : HistoricalStateSlice env)
    (live_tail : Option (LiveTailSlice env)) (policy : LiveStateFreshnessPolicy) :
    (∀ s, stitch historical live_tail policy = .ok s → s.tradable = true →
      NoHiddenGap historical live_tail policy s.events) ↔
      (StitchesTradable historical live_tail policy →
        ∀ t ∈ live_tail, ¬ TailAhead historical t) := by
  constructor
  · intro hclaim htradable t ht hahead
    obtain ⟨s, hs⟩ := htradable.exists_state
    have hlatest := (hclaim s hs.1 hs.2).latest t ht
    rw [(stitch_tradable.mp hs).1] at hlatest
    obtain rfl : live_tail = some t := ht
    have hlater := tailAhead_iff.mp hahead
    exact absurd hlatest (Nat.not_le_of_lt hlater)
  · intro hcondition s hs htradable
    obtain ⟨hfields, hstitches⟩ := stitch_tradable.mp ⟨hs, htradable⟩
    rw [hfields]
    exact hstitches.noHiddenGap (hcondition hstitches)

/-! A history without events that is persisted up to offset 100, and a tail without events. -/

def sampleEnv : Env where
  sha256 _ := .ofText (String.ofList (List.replicate 64 '0')) zeros_hex
  jsonDepth := 8
  depth_min := le_refl 8
  creatable _ := true

def positionAt (offset : ℕ) : StreamPosition where
  stream_id := ⟨"stream-1", by decide⟩
  partition_id := ⟨"partition-1", by decide⟩
  offset
  event_sequence := offset
  event_time := ⟨2024, 1, 1, 0, 0, 0, 0, newYear_date, midnight_clock⟩

def emptyHistory : HistoricalStateSlice sampleEnv where
  slice_id := ⟨"history-1", by decide⟩
  stream_id := ⟨"stream-1", by decide⟩
  partition_id := ⟨"partition-1", by decide⟩
  from_offset := 101
  to_offset := 100
  events := []
  persisted_until_position := positionAt 100
  is_gap_free := true
  valid := by decide

def emptyTail (latest_offset : ℕ) (gap_free : Bool) : LiveTailSlice sampleEnv where
  slice_id := ⟨"tail-1", by decide⟩
  stream_id := ⟨"stream-1", by decide⟩
  partition_id := ⟨"partition-1", by decide⟩
  from_offset := 0
  to_offset := 0
  events := []
  latest_position := positionAt latest_offset
  freshness := {
    latest_position := positionAt latest_offset
    projected_at := ⟨2024, 1, 1, 0, 0, 0, 0, newYear_date, midnight_clock⟩
    staleness_ms := 10
    gap_free
    is_complete := true
    is_speculative := false
    durability_status := .DURABLE_COMMITTED
    source_health_status := none
    durable := fun _ => committed_durable }
  valid := by simp [LiveTailFields.validate, positionAt]

def strictPolicy (require_gap_free : Bool) : LiveStateFreshnessPolicy where
  max_staleness_ms := 100
  allow_speculative := false
  require_gap_free
  require_complete := true
  minimum_durability_status := .DURABLE_COMMITTED

/-- The tail knows of offset 999, and the state is tradable without any event. -/
theorem latest_position_hides_gap :
    ¬ ∀ s, stitch emptyHistory (some (emptyTail 999 true)) (strictPolicy true) = .ok s →
      s.tradable = true →
        NoHiddenGap emptyHistory (some (emptyTail 999 true)) (strictPolicy true) s.events := by
  have htradable : StitchesTradable emptyHistory (some (emptyTail 999 true))
      (strictPolicy true) := by
    refine ⟨fun t ht => ?_, fun t ht e he => ?_, ⟨rfl, rfl, .inr (by simp), fun t ht => ?_⟩,
      ⟨rfl, rfl, fun t ht => ?_⟩, fun last hlast => ?_⟩
    · rw [← Option.some.inj ht]
      exact ⟨rfl, rfl⟩
    · rw [← Option.some.inj ht] at he
      exact absurd he List.not_mem_nil
    · rw [← Option.some.inj ht]
      rfl
    · rw [← Option.some.inj ht]
      rfl
    · exact absurd hlast (by simp [emptyHistory])
  intro hclaim
  obtain ⟨s, hs⟩ := htradable.exists_state
  have hlatest := (hclaim s hs.1 hs.2).latest _ rfl
  rw [(stitch_tradable.mp hs).1] at hlatest
  exact absurd hlatest (by decide)

/-- The policy lets the gap of the tail through, and the checks of the state do not. -/
theorem unrequired_gap_raises :
    ¬ RaisesAsClaimed emptyHistory (some (emptyTail 100 false)) (strictPolicy false) := by
  have herror : stitch emptyHistory (some (emptyTail 100 false)) (strictPolicy false) =
      .error (.check "tradable stitched state must be complete and gap-free") := by
    decide +kernel
  intro hclaim
  rcases hclaim.reasons _ herror with h | h
  · exact absurd h (by decide)
  · exact absurd h (by decide)

end FuturesBot.LiveState
