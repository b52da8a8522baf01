import FuturesBot.LiveState

/-! Stitching the history and the live tail of a stream to one state. -/
namespace FuturesBot.LiveState

open TextLines Checks

variable {env : Env}

/-- `_historical_continuity_boundary`. -/
def continuityBoundary (historical : HistoricalStateSlice env) : ℕ :=
  if historical.events = [] then historical.persisted_until_position.offset
  else historical.to_offset

/-- The entry of `historical_by_offset`: the last event of the history at the offset. -/
def historicalAt (historical : HistoricalStateSlice env) (offset : ℕ) :
    Option (StreamEventEnvelope env) :=
  historical.events.reverse.find? fun e => e.stream_position.offset = offset

/-- The loop of `_merge_events` over the tail: the events that go after the history. -/
def mergeTail (historical : HistoricalStateSlice env) :
    List (StreamEventEnvelope env) → Except StitchError (List (StreamEventEnvelope env))
  | [] => .ok []
  | tail_event :: rest =>
    if tail_event.stream_position.offset ≤ continuityBoundary historical then
      if (historicalAt historical tail_event.stream_position.offset).any
          fun historical_event => eventIdentityMatches historical_event tail_event then
        mergeTail historical rest
      else .error (.reason .INVALID_OVERLAP)
    else (mergeTail historical rest).map (tail_event :: ·)

/-- `_merge_events`: the events, and whether the tail starts behind a gap. -/
def mergeEvents (historical : HistoricalStateSlice env) (live_tail : Option (LiveTailSlice env)) :
    Except StitchError (List (StreamEventEnvelope env) × Bool) :=
  match live_tail with
  | none => .ok (historical.events, false)
  | some t =>
    if t.events = [] then .ok (historical.events, false)
    else (mergeTail historical t.events).map fun after =>
      (historical.events ++ after, decide (continuityBoundary historical + 1 < t.from_offset))

/-- `_reason`. -/
def stitchReason (historical : HistoricalStateSlice env) (live_tail : Option (LiveTailSlice env))
    (policy : LiveStateFreshnessPolicy) (has_gap : Bool) : Option StitchFailureReason :=
  if !historical.is_gap_free then some .INCOMPLETE_HISTORY
  else if has_gap then some .LIVE_HISTORY_GAP
  else if historical.events = [] ∧ live_tail = none then some .INCOMPLETE_HISTORY
  else
    match live_tail with
    | none => none
    | some t =>
      if policy.max_staleness_ms < t.freshness.staleness_ms then some .STALE_LIVE_STATE
      else if t.freshness.is_speculative && !policy.allow_speculative then
        some .SPECULATIVE_NOT_ALLOWED
      else if !policy.allows t.freshness then some .INCOMPLETE_HISTORY
      else none

/-- `_stitched_slice_id`. -/
def stitchedSliceId (historical : HistoricalStateSlice env)
    (live_tail : Option (LiveTailSlice env)) (events : List (StreamEventEnvelope env)) : DomainId :=
  .ofDigest ⟨"stitched-state:", by decide⟩ (env.sha256 (encodeUtf8 (String.intercalate "|"
    ([historical.slice_id.value,
      match live_tail with
      | some t => t.slice_id.value
      | none => "no-live-tail"] ++ events.map (·.event_id.value))).toList))

/-- `_from_offset`. -/
def stitchedFrom (historical : HistoricalStateSlice env) (live_tail : Option (LiveTailSlice env))
    (events : List (StreamEventEnvelope env)) : ℕ :=
  match events.head?, live_tail with
  | some e, _ => e.stream_position.offset
  | none, some t => if t.events ≠ [] then t.from_offset else historical.from_offset
  | none, none => historical.from_offset

/-- `_to_offset`. -/
def stitchedTo (historical : HistoricalStateSlice env) (live_tail : Option (LiveTailSlice env))
    (events : List (StreamEventEnvelope env)) : ℕ :=
  match events.getLast?, live_tail with
  | some e, _ => e.stream_position.offset
  | none, some t => if t.events ≠ [] then t.to_offset else historical.to_offset
  | none, none => historical.to_offset

/-- The members of the stitched state, from the merged events. -/
def stitchedFields (historical : HistoricalStateSlice env) (live_tail : Option (LiveTailSlice env))
    (policy : LiveStateFreshnessPolicy) (events : List (StreamEventEnvelope env))
    (has_gap : Bool) : StitchedFields env :=
  let reason := stitchReason historical live_tail policy has_gap
  let is_complete := decide (reason ∉ [some .LIVE_HISTORY_GAP, some .INCOMPLETE_HISTORY])
  let is_gap_free := historical.is_gap_free && !has_gap && live_tail.all (·.freshness.gap_free)
  { slice_id := stitchedSliceId historical live_tail events
    stream_id := historical.stream_id
    partition_id := historical.partition_id
    historical
    live_tail
    events
    from_offset := stitchedFrom historical live_tail events
    to_offset := stitchedTo historical live_tail events
    is_complete := is_complete && is_gap_free
    is_gap_free
    tradable := decide (reason = none)
    reason }

/-- `DeterministicStateStitcher.stitch`. -/
def stitch (historical : HistoricalStateSlice env) (live_tail : Option (LiveTailSlice env))
    (policy : LiveStateFreshnessPolicy) : Except StitchError (StitchedStateSlice env) :=
  if live_tail.any fun t =>
      t.stream_id ≠ historical.stream_id || t.partition_id ≠ historical.partition_id then
    .error (.reason .STREAM_PARTITION_MISMATCH)
  else
    match mergeEvents historical live_tail with
    | .error e => .error e
    | .ok (events, has_gap) =>
      StitchedStateSlice.of (stitchedFields historical live_tail policy events has_gap)

/-! The merge of the events. -/

/-- The merge finds an identical event of the history at the offset of the event. -/
def Matched (historical : HistoricalStateSlice env) (tail_event : StreamEventEnvelope env) : Prop :=
  (historicalAt historical tail_event.stream_position.offset).any
    (eventIdentityMatches · tail_event) = true

/-- Every event of the tail at or below the boundary is matched. -/
def Overlaps (historical : HistoricalStateSlice env) (live_tail : Option (LiveTailSlice env)) :
    Prop :=
  ∀ t ∈ live_tail, ∀ e ∈ t.events,
    e.stream_position.offset ≤ continuityBoundary historical → Matched historical e

/-- Events above the boundary. -/
def above (boundary : ℕ) (events : List (StreamEventEnvelope env)) :
    List (StreamEventEnvelope env) :=
  events.filter fun e => boundary < e.stream_position.offset

/-- The events that the tail adds to the history. -/
def tailAfter (historical : HistoricalStateSlice env) (live_tail : Option (LiveTailSlice env)) :
    List (StreamEventEnvelope env) :=
  match live_tail with
  | none => []
  | some t => above (continuityBoundary historical) t.events

/-- The tail starts behind a gap. -/
def hasGap (historical : HistoricalStateSlice env) (live_tail : Option (LiveTailSlice env)) :
    Bool :=
  live_tail.any fun t =>
    decide (t.events ≠ []) && decide (continuityBoundary historical + 1 < t.from_offset)

theorem mergeTail_cases (historical : HistoricalStateSlice env)
    (events : List (StreamEventEnvelope env)) :
    ((∀ e ∈ events, e.stream_position.offset ≤ continuityBoundary historical →
        Matched historical e) ∧
      mergeTail historical events = .ok (above (continuityBoundary historical) events)) ∨
    ((∃ e ∈ events, e.stream_position.offset ≤ continuityBoundary historical ∧
        ¬ Matched historical e) ∧
      mergeTail historical events = .error (.reason .INVALID_OVERLAP)) := by
  induction events with
  | nil => exact .inl ⟨by simp, rfl⟩
  | cons e events ih =>
    rw [mergeTail]
    by_cases hbelow : e.stream_position.offset ≤ continuityBoundary historical
    · have hskip : above (continuityBoundary historical) (e :: events) =
          above (continuityBoundary historical) events := by
        rw [above, List.filter_cons_of_neg (by simpa using hbelow), above]
      rw [if_pos hbelow, hskip]
      by_cases hmatched : Matched historical e
      · rw [if_pos (show _ = true from hmatched)]
        rcases ih with ⟨hall, hok⟩ | ⟨⟨x, hx, hxbelow, hxnot⟩, herror⟩
        · refine .inl ⟨fun x hx hxbelow => ?_, hok⟩
          rcases List.mem_cons.mp hx with rfl | hx
          · exact hmatched
          · exact hall x hx hxbelow
        · exact .inr ⟨⟨x, List.mem_cons_of_mem _ hx, hxbelow, hxnot⟩, herror⟩
      · rw [if_neg (show ¬ _ = true from hmatched)]
        exact .inr ⟨⟨e, List.mem_cons_self, hbelow, hmatched⟩, rfl⟩
    · have hkeep : above (continuityBoundary historical) (e :: events) =
          e :: above (continuityBoundary historical) events := by
        rw [above, List.filter_cons_of_pos (by simpa using hbelow), above]
      rw [if_neg hbelow, hkeep]
      rcases ih with ⟨hall, hok⟩ | ⟨⟨x, hx, hxbelow, hxnot⟩, herror⟩
      · refine .inl ⟨fun x hx hxbelow => ?_, by rw [hok]; rfl⟩
        rcases List.mem_cons.mp hx with rfl | hx
        · exact absurd hxbelow hbelow
        · exact hall x hx hxbelow
      · exact .inr ⟨⟨x, List.mem_cons_of_mem _ hx, hxbelow, hxnot⟩, by rw [herror]; rfl⟩

theorem mergeEvents_cases (historical : HistoricalStateSlice env)
    (live_tail : Option (LiveTailSlice env)) :
    (Overlaps historical live_tail ∧ mergeEvents historical live_tail =
      .ok (historical.events ++ tailAfter historical live_tail, hasGap historical live_tail)) ∨
    (¬ Overlaps historical live_tail ∧
      mergeEvents historical live_tail = .error (.reason .INVALID_OVERLAP)) := by
  cases live_tail with
  | none =>
    refine .inl ⟨fun t ht => absurd ht (by simp), ?_⟩
    rw [mergeEvents, tailAfter, List.append_nil]
    rfl
  | some t =>
    by_cases hevents : t.events = []
    · refine .inl ⟨fun t' ht' e he => ?_, ?_⟩
      · rw [← Option.some.inj ht', hevents] at he
        exact absurd he List.not_mem_nil
      · rw [mergeEvents, if_pos hevents, tailAfter, hevents, hasGap, Option.any_some, hevents]
        simp [above]
    · rw [mergeEvents, if_neg hevents]
      rcases mergeTail_cases historical t.events with ⟨hall, hok⟩ | ⟨⟨e, he, hbelow, hnot⟩, herror⟩
      · refine .inl ⟨fun t' ht' => ?_, ?_⟩
        · rw [← Option.some.inj ht']
          exact hall
        · rw [hok, hasGap, Option.any_some]
          simp [Except.map, hevents, tailAfter]
      · refine .inr ⟨fun h => hnot (h t rfl e he hbelow), ?_⟩
        rw [herror]
        rfl

/-! The stitch. -/

/-- The tail is of the stream and the partition of the history. -/
def SameStream (historical : HistoricalStateSlice env) (live_tail : Option (LiveTailSlice env)) :
    Prop :=
  ∀ t ∈ live_tail, t.stream_id = historical.stream_id ∧ t.partition_id = historical.partition_id

/-- The members of the state that is returned, if it is. -/
def stitched (historical : HistoricalStateSlice env) (live_tail : Option (LiveTailSlice env))
    (policy : LiveStateFreshnessPolicy) : StitchedFields env :=
  stitchedFields historical live_tail policy
    (historical.events ++ tailAfter historical live_tail) (hasGap historical live_tail)

/-- A stitch is refused for the stream, then for the overlap, and else is what the checks of the
returned model make of it. -/
theorem stitch_cases (historical : HistoricalStateSlice env)
    (live_tail : Option (LiveTailSlice env)) (policy : LiveStateFreshnessPolicy) :
    (¬ SameStream historical live_tail ∧
      stitch historical live_tail policy = .error (.reason .STREAM_PARTITION_MISMATCH)) ∨
    (SameStream historical live_tail ∧ ¬ Overlaps historical live_tail ∧
      stitch historical live_tail policy = .error (.reason .INVALID_OVERLAP)) ∨
    (SameStream historical live_tail ∧ Overlaps historical live_tail ∧
      stitch historical live_tail policy =
        StitchedStateSlice.of (stitched historical live_tail policy)) := by
  have hdiffer : (live_tail.any fun t => decide (t.stream_id ≠ historical.stream_id) ||
      decide (t.partition_id ≠ historical.partition_id)) = true ↔
        ¬ SameStream historical live_tail := by
    cases live_tail with
    | none => simp [SameStream]
    | some t =>
      simp only [SameStream, Option.any_some, Bool.or_eq_true, decide_eq_true_eq, Option.mem_def,
        Option.some.injEq, forall_eq', Decidable.not_and_iff_not_or_not, ne_eq]
  by_cases hsame : SameStream historical live_tail
  · rw [stitch, if_neg (fun h => hdiffer.mp h hsame)]
    rcases mergeEvents_cases historical live_tail with ⟨hoverlaps, hok⟩ | ⟨hnot, herror⟩
    · rw [hok]
      exact .inr (.inr ⟨hsame, hoverlaps, rfl⟩)
    · rw [herror]
      exact .inr (.inl ⟨hsame, hnot, rfl⟩)
  · rw [stitch, if_pos (hdiffer.mpr hsame)]
    exact .inl ⟨hsame, rfl⟩

/-! What the checks of the returned model come to. -/

/-- Nothing is missing: in the history, between it and the tail, and before the tail. -/
def StitchesGapFree (historical : HistoricalStateSlice env)
    (live_tail : Option (LiveTailSlice env)) : Prop :=
  historical.is_gap_free = true ∧ hasGap historical live_tail = false ∧
    ∀ t ∈ live_tail, t.freshness.gap_free = true

/-- The first event that the tail adds carries on the sequence of the history. -/
def SequenceContinues (historical : HistoricalStateSlice env)
    (live_tail : Option (LiveTailSlice env)) : Prop :=
  ∀ last ∈ historical.events.getLast?, ∀ first ∈ (tailAfter historical live_tail).head?,
    first.stream_position.event_sequence = last.stream_position.event_sequence + 1

/-- No reason is found against the state: the history is gap-free and joined to the tail, there is
some state at all, and the policy allows the freshness of the tail. -/
structure Unobjected (historical : HistoricalStateSlice env)
    (live_tail : Option (LiveTailSlice env)) (policy : LiveStateFreshnessPolicy) : Prop where
  history : historical.is_gap_free = true
  joined : hasGap historical live_tail = false
  present : historical.events ≠ [] ∨ live_tail ≠ none
  allowed : ∀ t ∈ live_tail, policy.allows t.freshness = true

variable {historical : HistoricalStateSlice env} {live_tail : Option (LiveTailSlice env)}
  {policy : LiveStateFreshnessPolicy}

/-- What a policy allows is neither too stale nor speculative against its will. -/
theorem allows_checks {freshness : LiveStateFreshness} (h : policy.allows freshness = true) :
    ¬ policy.max_staleness_ms < freshness.staleness_ms ∧
      (freshness.is_speculative && !policy.allow_speculative) = false := by
  rw [LiveStateFreshnessPolicy.allows] at h
  split_ifs at h with h1 h2 h3 h4
  exact ⟨h1, by simpa using h4⟩

theorem stitchReason_eq_none :
    stitchReason historical live_tail policy (hasGap historical live_tail) = none ↔
      Unobjected historical live_tail policy := by
  rw [stitchReason.eq_def]
  constructor
  · intro h
    split at h
    · exact absurd h (by simp)
    rename_i hhistory
    split at h
    · exact absurd h (by simp)
    rename_i hgap
    split at h
    · exact absurd h (by simp)
    rename_i hpresent
    refine ⟨by simpa using hhistory, by simpa using hgap, ?_, ?_⟩
    · exact (not_and_or.mp hpresent)
    · rintro t ht
      rw [Option.mem_def] at ht
      subst ht
      dsimp only at h
      split_ifs at h with h1 h2 h3
      simpa using h3
  · rintro ⟨hhistory, hgap, hpresent, hallowed⟩
    rw [hhistory, hgap, if_neg (by simp), if_neg (by simp), if_neg (not_and_or.mpr hpresent)]
    cases live_tail with
    | none => rfl
    | some t =>
      have hallows := hallowed t rfl
      obtain ⟨hfresh, hspeculative⟩ := allows_checks hallows
      simp only [hfresh, hspeculative, hallows, if_false, Bool.false_eq_true, Bool.not_true]

theorem mem_above {boundary : ℕ} {events : List (StreamEventEnvelope env)}
    {e : StreamEventEnvelope env} :
    e ∈ above boundary events ↔ e ∈ events ∧ boundary < e.stream_position.offset := by
  rw [above, List.mem_filter, decide_eq_true_eq]

/-- Above a boundary, contiguous events are contiguous: all of them, or those from right behind
the boundary. -/
theorem above_contiguous {boundary : ℕ} {events : List (StreamEventEnvelope env)}
    (h : events.IsChain FollowsNext) :
    (above boundary events).IsChain FollowsNext ∧ (above boundary events = events ∨
      ∀ first ∈ (above boundary events).head?, first.stream_position.offset = boundary + 1) := by
  induction events with
  | nil => exact ⟨List.isChain_nil, .inl rfl⟩
  | cons e events ih =>
    obtain ⟨hchain, hfirst⟩ := ih h.tail
    by_cases habove : boundary < e.stream_position.offset
    · -- the rest lies higher still
      have hrest : above boundary events = events := by
        rcases hfirst with hall | hfirst
        · exact hall
        · cases events with
          | nil => rfl
          | cons e' events =>
            have hnext := (List.isChain_cons_cons.mp h).1.2.1
            have hkeep : boundary < e'.stream_position.offset := by omega
            rw [above, List.filter_cons_of_pos (by simpa using hkeep)] at hfirst ⊢
            have hoffset := hfirst e' rfl
            omega
      have hall : above boundary (e :: events) = e :: events := by
        rw [above, List.filter_cons_of_pos (by simpa using habove)]
        exact congrArg (e :: ·) hrest
      rw [hall]
      exact ⟨h, .inl rfl⟩
    · have hskip : above boundary (e :: events) = above boundary events := by
        rw [above, List.filter_cons_of_neg (by simpa using habove), above]
      rw [hskip]
      refine ⟨hchain, .inr ?_⟩
      rcases hfirst with hall | hfirst
      · rw [hall]
        cases events with
        | nil => simp
        | cons e' events =>
          intro first hhead
          obtain rfl : e' = first := Option.some.inj hhead
          have hnext := (List.isChain_cons_cons.mp h).1.2.1
          have hkept : e' ∈ above boundary (e' :: events) := by
            rw [hall]
            exact List.mem_cons_self
          have habove' := (mem_above.mp hkept).2
          omega
      · exact hfirst

theorem tailAfter_chain : (tailAfter historical live_tail).IsChain FollowsNext := by
  cases live_tail with
  | none => exact List.isChain_nil
  | some t => exact (above_contiguous t.facts.contiguous).1

theorem mem_tailAfter {e : StreamEventEnvelope env} :
    e ∈ tailAfter historical live_tail ↔ ∃ t ∈ live_tail, e ∈ t.events ∧
      continuityBoundary historical < e.stream_position.offset := by
  cases live_tail with
  | none => simp [tailAfter]
  | some t => simp only [tailAfter, mem_above, Option.mem_def, Option.some.injEq, exists_eq_left']

/-- Without a gap, the tail adds events from right behind the boundary. -/
theorem tailAfter_first (hgap : hasGap historical live_tail = false)
    {first : StreamEventEnvelope env} (hfirst : first ∈ (tailAfter historical live_tail).head?) :
    first.stream_position.offset = continuityBoundary historical + 1 := by
  cases live_tail with
  | none => exact absurd hfirst (by simp [tailAfter])
  | some t =>
    have hmem : first ∈ above (continuityBoundary historical) t.events :=
      List.mem_of_mem_head? hfirst
    have habove_first := (@above_contiguous env (continuityBoundary historical) _
      t.facts.contiguous).2
    rcases habove_first with hall | hnext
    · -- the tail starts above the boundary, and not behind a gap
      rw [tailAfter, hall] at hfirst
      have hoffset := t.facts.first first hfirst
      have habove := (mem_above.mp hmem).2
      have hevents : t.events ≠ [] := List.ne_nil_of_mem (mem_above.mp hmem).1
      have hnear : ¬ continuityBoundary historical + 1 < t.from_offset := by
        simpa [hasGap, hevents] using hgap
      omega
    · exact hnext first hfirst

/-- The last event of the history stands at the boundary. -/
theorem history_last {last : StreamEventEnvelope env} (h : last ∈ historical.events.getLast?) :
    last.stream_position.offset = continuityBoundary historical := by
  have hevents : historical.events ≠ [] := List.ne_nil_of_mem (List.mem_of_mem_getLast? h)
  rw [continuityBoundary, if_neg hevents]
  exact historical.facts.last last h

theorem merged_stream (hsame : SameStream historical live_tail) {e : StreamEventEnvelope env}
    (h : e ∈ historical.events ++ tailAfter historical live_tail) :
    e.stream_position.stream_id = historical.stream_id ∧
      e.stream_position.partition_id = historical.partition_id := by
  rcases List.mem_append.mp h with h | h
  · exact historical.facts.stream e h
  · obtain ⟨t, ht, he, -⟩ := mem_tailAfter.mp h
    obtain ⟨hstream, hpartition⟩ := hsame t ht
    rw [← hstream, ← hpartition]
    exact t.facts.stream e he

/-- The merged events are in order. -/
theorem merged_ordered (hsame : SameStream historical live_tail) :
    (historical.events ++ tailAfter historical live_tail).IsChain Follows := by
  rw [List.isChain_append]
  refine ⟨historical.facts.ordered, tailAfter_chain.imp fun _ _ => FollowsNext.follows, ?_⟩
  intro last hlast first hfirst
  have hlast' := merged_stream hsame (List.mem_append_left _ (List.mem_of_mem_getLast? hlast))
  have hmem := List.mem_of_mem_head? hfirst
  have hfirst' := merged_stream hsame (List.mem_append_right _ hmem)
  obtain ⟨t, -, -, habove⟩ := mem_tailAfter.mp hmem
  refine ⟨⟨hfirst'.1.trans hlast'.1.symm, hfirst'.2.trans hlast'.2.symm⟩, .inl ?_⟩
  rw [history_last hlast]
  exact habove

/-- Without a gap the merged events are contiguous exactly when the sequence carries on. -/
theorem merged_contiguous (hsame : SameStream historical live_tail)
    (hhistory : historical.is_gap_free = true) (hgap : hasGap historical live_tail = false) :
    (historical.events ++ tailAfter historical live_tail).IsChain FollowsNext ↔
      SequenceContinues historical live_tail := by
  rw [List.isChain_append]
  constructor
  · rintro ⟨-, -, hjoin⟩ last hlast first hfirst
    exact (hjoin last hlast first hfirst).2.2
  · intro hsequence
    refine ⟨historical.facts.contiguous hhistory, tailAfter_chain, ?_⟩
    intro last hlast first hfirst
    have hlast' := merged_stream hsame (List.mem_append_left _ (List.mem_of_mem_getLast? hlast))
    have hfirst' := merged_stream hsame
      (List.mem_append_right _ (List.mem_of_mem_head? hfirst))
    refine ⟨⟨hfirst'.1.trans hlast'.1.symm, hfirst'.2.trans hlast'.2.symm⟩, ?_,
      hsequence last hlast first hfirst⟩
    rw [tailAfter_first hgap hfirst, history_last hlast]

theorem stitched_gap_free : (stitched historical live_tail policy).is_gap_free = true ↔
    StitchesGapFree historical live_tail := by
  change (historical.is_gap_free && !hasGap historical live_tail &&
    live_tail.all (·.freshness.gap_free)) = true ↔ _
  rw [Bool.and_eq_true, Bool.and_eq_true, Bool.not_eq_true', and_assoc, StitchesGapFree,
    Option.all_eq_true]
  exact Iff.rfl

theorem stitched_tradable : (stitched historical live_tail policy).tradable = true ↔
    Unobjected historical live_tail policy := by
  change decide (stitchReason historical live_tail policy (hasGap historical live_tail) = none) =
    true ↔ _
  rw [decide_eq_true_eq, stitchReason_eq_none]

theorem stitched_reason : (stitched historical live_tail policy).reason = none ↔
    Unobjected historical live_tail policy := stitchReason_eq_none

/-- A state that nothing is said against is complete exactly when it is gap-free. -/
theorem stitched_complete (h : Unobjected historical live_tail policy) :
    (stitched historical live_tail policy).is_complete =
      (stitched historical live_tail policy).is_gap_free := by
  have hreason : stitchReason historical live_tail policy (hasGap historical live_tail) = none :=
    stitchReason_eq_none.mpr h
  change (decide (stitchReason historical live_tail policy (hasGap historical live_tail) ∉
    [some .LIVE_HISTORY_GAP, some .INCOMPLETE_HISTORY]) &&
      (stitched historical live_tail policy).is_gap_free) = _
  rw [hreason]
  exact Bool.true_and _

/-- The returned model passes its checks exactly when gap-free events carry on their sequence, and
a state that nothing is said against is gap-free. -/
theorem stitched_valid (hsame : SameStream historical live_tail) :
    checkAll (stitched historical live_tail policy).validate = .ok () ↔
      (StitchesGapFree historical live_tail → SequenceContinues historical live_tail) ∧
        (Unobjected historical live_tail policy → StitchesGapFree historical live_tail) := by
  let events := historical.events ++ tailAfter historical live_tail
  have hordered : checkAll (validateOrderedEvents events) = .ok () :=
    validateOrderedEvents_ok.mpr (merged_ordered hsame)
  have hmatch : checkAll (validateEventsMatchStreamPartition historical.stream_id
      historical.partition_id events) = .ok () :=
    validateMatch_ok.mpr fun e he => merged_stream hsame he
  -- the offsets of the stitched state are read off the ends of the events
  have hends : checkAll (validateEnds (stitchedFrom historical live_tail events)
      (stitchedTo historical live_tail events) "from_offset must match first stitched event offset"
      "to_offset must match last stitched event offset" events) = .ok () := by
    refine validateEnds_ok.mpr ⟨fun e he => ?_, fun e he => ?_⟩
    · simp only [stitchedFrom, Option.mem_def.mp he]
    · simp only [stitchedTo, Option.mem_def.mp he]
  have hcontiguous : (StitchesGapFree historical live_tail →
      checkAll (validateContiguousEvents events) = .ok ()) ↔
        (StitchesGapFree historical live_tail → SequenceContinues historical live_tail) :=
    forall_congr' fun hfree =>
      validateContiguousEvents_ok.trans (merged_contiguous hsame hfree.1 hfree.2.1)
  have htradable : ((stitched historical live_tail policy).tradable = true →
      (stitched historical live_tail policy).is_complete = true ∧
        (stitched historical live_tail policy).is_gap_free = true) ↔
      (Unobjected historical live_tail policy → StitchesGapFree historical live_tail) := by
    rw [stitched_tradable]
    refine forall_congr' fun hunobjected => ?_
    rw [stitched_complete hunobjected, and_self, stitched_gap_free]
  have hnone : (stitched historical live_tail policy).tradable = true →
      (stitched historical live_tail policy).reason = none := by
    rw [stitched_tradable, stitched_reason]
    exact id
  have hsome : (stitched historical live_tail policy).tradable = false →
      (stitched historical live_tail policy).reason ≠ none := by
    rw [← Bool.not_eq_true, stitched_tradable, Ne, stitched_reason]
    exact id
  have hevents : (stitched historical live_tail policy).events = events := rfl
  have hchain : checkAll (if (stitched historical live_tail policy).is_gap_free = true then
      validateContiguousEvents events else []) = .ok () ↔
        (StitchesGapFree historical live_tail →
          checkAll (validateContiguousEvents events) = .ok ()) := by
    by_cases hfree : (stitched historical live_tail policy).is_gap_free = true
    · rw [if_pos hfree]
      exact ⟨fun h _ => h, fun h => h (stitched_gap_free.mp hfree)⟩
    · rw [if_neg hfree]
      exact ⟨fun _ h => absurd (stitched_gap_free.mpr h) hfree, fun _ => rfl⟩
  rw [StitchedFields.validate, checkAll_append, checkAll_append, hevents, ← htradable]
  by_cases hempty : events = []
  · -- without events there is nothing to carry on
    have hcarry : StitchesGapFree historical live_tail → SequenceContinues historical live_tail := by
      refine hcontiguous.mp fun _ => ?_
      rw [hempty]
      exact validateContiguousEvents_ok.mpr List.isChain_nil
    rw [if_pos hempty]
    simp only [checkAll_require, checkAll_nil, and_true]
    constructor
    · intro h
      exact ⟨hcarry, h.2.1⟩
    · intro h
      exact ⟨⟨⟨rfl, rfl⟩, hsame⟩, h.2, hnone, hsome⟩
  · rw [if_neg hempty, checkAll_append, checkAll_append, checkAll_append, hchain, hcontiguous]
    simp only [checkAll_require, checkAll_nil, and_true]
    constructor
    · intro h
      exact ⟨h.1.2.2, h.2.1⟩
    · intro h
      exact ⟨⟨⟨⟨rfl, rfl⟩, hsame⟩, ⟨⟨hordered, hmatch⟩, hends⟩, h.1⟩, h.2, hnone, hsome⟩

end FuturesBot.LiveState
