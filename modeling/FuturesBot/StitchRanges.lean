import FuturesBot.StitchSafety

/-! Stitching slices of one contiguous log: the log's events from the start of the history to the
later end, wherever the history ends. -/
namespace FuturesBot.LiveState

open TextLines Checks

/-- In a list that never goes from the second kind back to the first, one kind after the other. -/
theorem filter_append_filter {α : Type} {p q : α → Bool} {l : List α}
    (hdisjoint : ∀ x ∈ l, ¬ (p x = true ∧ q x = true))
    (hordered : l.Pairwise fun x y => ¬ (q x = true ∧ p y = true)) :
    l.filter p ++ l.filter q = l.filter fun x => p x || q x := by
  induction l with
  | nil => rfl
  | cons x l ih =>
    obtain ⟨hx, hrest⟩ := List.pairwise_cons.mp hordered
    have htail := ih (fun y hy => hdisjoint y (List.mem_cons_of_mem x hy)) hrest
    by_cases hp : p x = true
    · have hq : ¬ q x = true := fun hq => hdisjoint x List.mem_cons_self ⟨hp, hq⟩
      rw [List.filter_cons_of_pos hp, List.filter_cons_of_neg hq, List.cons_append, htail,
        List.filter_cons_of_pos (by simp [hp])]
    · by_cases hq : q x = true
      · -- nothing of the first kind is left
        have hnone : l.filter p = [] := by
          rw [List.filter_eq_nil_iff]
          exact fun y hy hpy => hx y hy ⟨hq, hpy⟩
        rw [hnone, List.nil_append] at htail
        rw [List.filter_cons_of_neg hp, hnone, List.nil_append, List.filter_cons_of_pos hq, htail,
          List.filter_cons_of_pos (by simp [hq])]
      · rw [List.filter_cons_of_neg hp, List.filter_cons_of_neg hq, htail,
          List.filter_cons_of_neg (by simp [hp, hq])]

variable {env : Env} {log : List (StreamEventEnvelope env)}

/-- The events of the log at the offsets of a range. -/
def between (log : List (StreamEventEnvelope env)) (first last : ℕ) :
    List (StreamEventEnvelope env) :=
  log.filter fun e => first ≤ e.stream_position.offset && e.stream_position.offset ≤ last

theorem mem_between {first last : ℕ} {e : StreamEventEnvelope env} :
    e ∈ between log first last ↔
      e ∈ log ∧ first ≤ e.stream_position.offset ∧ e.stream_position.offset ≤ last := by
  simp only [between, List.mem_filter, Bool.and_eq_true, decide_eq_true_eq]

/-- Two events of one stream whose sequences differ as their offsets do. -/
def Aligned (x y : StreamEventEnvelope env) : Prop :=
  y.stream_position.SameStreamPartition x.stream_position ∧
    y.stream_position.event_sequence + x.stream_position.offset =
      x.stream_position.event_sequence + y.stream_position.offset

theorem aligned_of_mem (hlog : log.IsChain FollowsNext) {x y : StreamEventEnvelope env}
    (hx : x ∈ log) (hy : y ∈ log) : Aligned x y := by
  have htrans : Trans (@Aligned env) (@Aligned env) (@Aligned env) := by
    refine ⟨fun {a b c} hab hbc => ⟨⟨?_, ?_⟩, ?_⟩⟩
    · exact hbc.1.1.trans hab.1.1
    · exact hbc.1.2.trans hab.1.2
    · have h1 := hab.2
      have h2 := hbc.2
      omega
  have hchain : log.IsChain Aligned := by
    refine hlog.imp fun a b hnext => ⟨hnext.1, ?_⟩
    obtain ⟨hoffset, hsequence⟩ := hnext.2
    omega
  have hsymm : Std.Symm (@Aligned env) :=
    ⟨fun a b hab => ⟨⟨hab.1.1.symm, hab.1.2.symm⟩, hab.2.symm⟩⟩
  have hself : ∀ a ∈ log, Aligned a a := fun a _ => ⟨⟨rfl, rfl⟩, rfl⟩
  exact List.Pairwise.forall_of_forall hself (List.isChain_iff_pairwise.mp hchain) hx hy

theorem eq_of_offset (hlog : log.IsChain FollowsNext) {x y : StreamEventEnvelope env}
    (hx : x ∈ log) (hy : y ∈ log)
    (hoffset : x.stream_position.offset = y.stream_position.offset) : x = y := by
  have hnodup : (log.map (·.stream_position.offset)).Nodup :=
    List.pairwise_map.mpr ((offsets_grow hlog).imp fun hlt => Nat.ne_of_lt hlt)
  exact List.inj_on_of_nodup_map hnodup hx hy hoffset

theorem upTo_contiguous {last : ℕ} {events : List (StreamEventEnvelope env)}
    (h : events.IsChain FollowsNext) :
    (events.filter fun e => e.stream_position.offset ≤ last).IsChain FollowsNext := by
  induction events with
  | nil => exact List.isChain_nil
  | cons e events ih =>
    have hrest := ih h.tail
    by_cases hbelow : e.stream_position.offset ≤ last
    · rw [List.filter_cons_of_pos (by simpa using hbelow)]
      cases events with
      | nil => exact List.isChain_singleton e
      | cons e' events =>
        have hnext := (List.isChain_cons_cons.mp h).1
        by_cases hbelow' : e'.stream_position.offset ≤ last
        · rw [List.filter_cons_of_pos (by simpa using hbelow')] at hrest ⊢
          exact List.isChain_cons_cons.mpr ⟨hnext, hrest⟩
        · -- the events behind the next one lie above the end as well
          have hnone : (e' :: events).filter (fun x => x.stream_position.offset ≤ last) = [] := by
            rw [List.filter_eq_nil_iff]
            intro x hx
            have hgrow := offsets_grow h.tail
            rcases List.mem_cons.mp hx with rfl | hx
            · simpa using hbelow'
            · have hlt := (List.pairwise_cons.mp hgrow).1 x hx
              simp only [decide_eq_true_eq]
              omega
          rw [hnone]
          exact List.isChain_singleton e
    · rw [List.filter_cons_of_neg (by simpa using hbelow)]
      exact hrest

theorem between_contiguous (hlog : log.IsChain FollowsNext) (first last : ℕ) :
    (between log first last).IsChain FollowsNext := by
  have hfrom : (log.filter fun e => first ≤ e.stream_position.offset).IsChain FollowsNext := by
    cases first with
    | zero =>
      rw [List.filter_eq_self.mpr (by simp)]
      exact hlog
    | succ boundary => exact (above_contiguous hlog).1
  have hboth := @upTo_contiguous env last _ hfrom
  rw [List.filter_filter] at hboth
  rw [between]
  convert hboth using 2
  funext e
  exact Bool.and_comm _ _

/-- A range of the log and the events of a later one behind its end. -/
theorem between_append (hlog : log.IsChain FollowsNext) {a b c d : ℕ} (hab : a ≤ b + 1)
    (hcb : c ≤ b + 1) :
    between log a b ++ above b (between log c d) = between log a (max b d) := by
  have hlater : above b (between log c d) =
      log.filter fun e => b < e.stream_position.offset && e.stream_position.offset ≤ d := by
    rw [above, between, List.filter_filter]
    refine List.filter_congr fun e _ => ?_
    rw [Bool.eq_iff_iff]
    simp only [Bool.and_eq_true, decide_eq_true_eq]
    omega
  have hjoin := filter_append_filter (l := log)
    (p := fun e => a ≤ e.stream_position.offset && e.stream_position.offset ≤ b)
    (q := fun e => b < e.stream_position.offset && e.stream_position.offset ≤ d) ?_ ?_
  · rw [hlater, between, hjoin, between]
    refine List.filter_congr fun e _ => ?_
    rw [Bool.eq_iff_iff]
    simp only [Bool.and_eq_true, Bool.or_eq_true, decide_eq_true_eq]
    omega
  · intro e _
    simp only [Bool.and_eq_true, decide_eq_true_eq]
    omega
  · refine (offsets_grow hlog).imp fun {x y} hlt => ?_
    simp only [Bool.and_eq_true, decide_eq_true_eq]
    omega

theorem history_first {h : HistoricalStateSlice env} {x : StreamEventEnvelope env}
    (hx : x ∈ h.events.head?) : x.stream_position.offset = h.from_offset := by
  have hevents : h.events ≠ [] := List.ne_nil_of_mem (List.mem_of_mem_head? hx)
  have hvalid := h.valid
  rw [HistoricalFields.validate, checkAll_append, if_neg hevents] at hvalid
  simp only [checkAll_append, validateEnds_ok] at hvalid
  exact hvalid.2.1.1.2.1 x hx

/-! Slices of the log. -/

/-- The history slice of a range of the log. -/
structure IsHistoryOf (log : List (StreamEventEnvelope env)) (a b : ℕ)
    (h : HistoricalStateSlice env) : Prop where
  events : h.events = between log a b
  from_offset : h.from_offset = a
  to_offset : h.to_offset = b
  covered : h.events ≠ []

/-- The live tail of a range of the log. -/
structure IsTailOf (log : List (StreamEventEnvelope env)) (c d : ℕ) (t : LiveTailSlice env) :
    Prop where
  events : t.events = between log c d
  from_offset : t.from_offset = c
  to_offset : t.to_offset = d
  covered : t.events ≠ []

/-- The stitch returns the events of a range of the log, once each and in order. -/
def StitchesRange (log : List (StreamEventEnvelope env)) (first last : ℕ)
    (result : Except StitchError (StitchedStateSlice env)) : Prop :=
  ∃ s, result = .ok s ∧ s.events = between log first last ∧ s.from_offset = first ∧
    s.to_offset = last ∧ s.events.IsChain FollowsNext ∧
    ∀ e ∈ log, first ≤ e.stream_position.offset → e.stream_position.offset ≤ last →
      copies s.events e = 1

section Split

variable {a b c d : ℕ} {h : HistoricalStateSlice env} {t : LiveTailSlice env}

theorem IsHistoryOf.boundary (hh : IsHistoryOf log a b h) : continuityBoundary h = b := by
  rw [continuityBoundary, if_neg hh.covered, hh.to_offset]

theorem IsHistoryOf.mem_log (hh : IsHistoryOf log a b h) {e : StreamEventEnvelope env}
    (he : e ∈ h.events) : e ∈ log := by
  rw [hh.events] at he
  exact (mem_between.mp he).1

theorem IsTailOf.mem_log (ht : IsTailOf log c d t) {e : StreamEventEnvelope env}
    (he : e ∈ t.events) : e ∈ log := by
  rw [ht.events] at he
  exact (mem_between.mp he).1

/-- The history finds the event of the log at an offset that it covers. -/
theorem IsHistoryOf.historicalAt_eq (hh : IsHistoryOf log a b h) (hlog : log.IsChain FollowsNext)
    {e : StreamEventEnvelope env} (he : e ∈ log) (hfirst : a ≤ e.stream_position.offset)
    (hlast : e.stream_position.offset ≤ b) :
    historicalAt h e.stream_position.offset = some e := by
  have hmem : e ∈ h.events := by
    rw [hh.events]
    exact mem_between.mpr ⟨he, hfirst, hlast⟩
  have hsome : (historicalAt h e.stream_position.offset).isSome = true := by
    rw [historicalAt, List.find?_isSome]
    exact ⟨e, List.mem_reverse.mpr hmem, by simp⟩
  obtain ⟨x, hx⟩ := Option.isSome_iff_exists.mp hsome
  obtain ⟨hxmem, hoffset⟩ := historicalAt_spec hx
  rw [hx, eq_of_offset hlog (hh.mem_log hxmem) he hoffset]

theorem split_stream (hlog : log.IsChain FollowsNext) (hh : IsHistoryOf log a b h)
    (ht : IsTailOf log c d t) : SameStream h (some t) := by
  obtain ⟨x, hx⟩ := List.exists_mem_of_ne_nil _ hh.covered
  obtain ⟨y, hy⟩ := List.exists_mem_of_ne_nil _ ht.covered
  have haligned := aligned_of_mem hlog (hh.mem_log hx) (ht.mem_log hy)
  intro t' ht'
  rw [← Option.some.inj ht']
  constructor
  · rw [← (t.facts.stream y hy).1, haligned.1.1, (h.facts.stream x hx).1]
  · rw [← (t.facts.stream y hy).2, haligned.1.2, (h.facts.stream x hx).2]

theorem split_overlaps (hlog : log.IsChain FollowsNext) (hh : IsHistoryOf log a b h)
    (ht : IsTailOf log c d t) (hac : a ≤ c) : Overlaps h (some t) := by
  intro t' ht' e he hbelow
  rw [← Option.some.inj ht'] at he
  rw [hh.boundary] at hbelow
  have hrange := he
  rw [ht.events] at hrange
  obtain ⟨hmem, hfirst, _⟩ := mem_between.mp hrange
  rw [Matched, hh.historicalAt_eq hlog hmem (hac.trans hfirst) hbelow]
  exact eventIdentityMatches_refl e

theorem split_no_gap (hh : IsHistoryOf log a b h) (ht : IsTailOf log c d t) (hcb : c ≤ b + 1) :
    hasGap h (some t) = false := by
  rw [hasGap, Option.any_some, hh.boundary, ht.from_offset]
  have hnear : ¬ b + 1 < c := by omega
  simp [hnear]

theorem split_sequence (hlog : log.IsChain FollowsNext) (hh : IsHistoryOf log a b h)
    (ht : IsTailOf log c d t) (hcb : c ≤ b + 1) : SequenceContinues h (some t) := by
  intro last hlast first hfirst
  have hnext := tailAfter_first (split_no_gap hh ht hcb) hfirst
  have hend := history_last hlast
  obtain ⟨t', ht', hmem, _⟩ := mem_tailAfter.mp (List.mem_of_mem_head? hfirst)
  rw [← Option.some.inj ht'] at hmem
  -- both are of the log, at neighbouring offsets
  have haligned := aligned_of_mem hlog (hh.mem_log (List.mem_of_mem_getLast? hlast))
    (ht.mem_log hmem)
  have hsequence := haligned.2
  omega

theorem split_events (hlog : log.IsChain FollowsNext) (hh : IsHistoryOf log a b h)
    (ht : IsTailOf log c d t) (hac : a ≤ c) (hcb : c ≤ b + 1) :
    h.events ++ tailAfter h (some t) = between log a (max b d) := by
  rw [tailAfter, hh.boundary, hh.events, ht.events]
  exact between_append hlog (hac.trans hcb) hcb

theorem stitched_range (hlog : log.IsChain FollowsNext) (hh : IsHistoryOf log a b h)
    (ht : IsTailOf log c d t) (hac : a ≤ c) (hcb : c ≤ b + 1) {policy : LiveStateFreshnessPolicy}
    {s : StitchedStateSlice env} (hs : s.toStitchedFields = stitched h (some t) policy) :
    StitchesRange log a (max b d) (.ok s) := by
  have hevents : s.events = between log a (max b d) := by
    rw [hs]
    exact split_events hlog hh ht hac hcb
  have hne : h.events ++ tailAfter h (some t) ≠ [] := by
    simp only [ne_eq, List.append_eq_nil_iff, hh.covered, false_and, not_false_eq_true]
  refine ⟨s, rfl, hevents, ?_, ?_, ?_, fun e he hfirst hlast => ?_⟩
  · rw [hs]
    change stitchedFrom h (some t) (h.events ++ tailAfter h (some t)) = a
    obtain ⟨x, hx⟩ := Option.ne_none_iff_exists'.mp (mt List.head?_eq_none_iff.mp hh.covered)
    have hhead : (h.events ++ tailAfter h (some t)).head? = some x := by
      rw [List.head?_append, hx]
      rfl
    simp only [stitchedFrom, hhead]
    exact (history_first hx).trans hh.from_offset
  · have hlast := @lastOffset_stitched env h t
    rw [if_pos ht.covered, hh.boundary, ht.to_offset] at hlast
    rw [hs]
    change stitchedTo h (some t) (h.events ++ tailAfter h (some t)) = max b d
    obtain ⟨x, hx⟩ := Option.ne_none_iff_exists'.mp (mt List.getLast?_eq_none_iff.mp hne)
    rw [lastOffset, hx] at hlast
    simp only [stitchedTo, hx]
    exact hlast
  · rw [hevents]
    exact between_contiguous hlog a (max b d)
  · rw [hevents]
    exact copies_eq_one (between_contiguous hlog a (max b d))
      (mem_between.mpr ⟨he, hfirst, hlast⟩) rfl (eventIdentityMatches_refl e)

/-- Replacing an event of the overlap is noticed. -/
theorem replaced_overlap (hlog : log.IsChain FollowsNext) (hh : IsHistoryOf log a b h)
    (ht : IsTailOf log c d t) (hac : a ≤ c) {t' : LiveTailSlice env}
    (hstream : t'.stream_id = t.stream_id ∧ t'.partition_id = t.partition_id)
    {e e' : StreamEventEnvelope env} (he : e ∈ t.events) (he' : e' ∈ t'.events)
    (hoffset : e'.stream_position.offset = e.stream_position.offset)
    (hbelow : e.stream_position.offset ≤ b) (hother : eventIdentityMatches e e' = false)
    (policy : LiveStateFreshnessPolicy) :
    stitch h (some t') policy = .error (.reason .INVALID_OVERLAP) := by
  have hsame : SameStream h (some t') := by
    intro t'' ht''
    rw [← Option.some.inj ht'', hstream.1, hstream.2]
    exact split_stream hlog hh ht t rfl
  have hrange := he
  rw [ht.events] at hrange
  obtain ⟨hmem, hfirst, _⟩ := mem_between.mp hrange
  -- the history holds the event of the log there, which is not the replacing one
  have hconflict : ¬ Overlaps h (some t') := by
    intro hoverlaps
    have hmatched := hoverlaps t' rfl e' he' (by rw [hoffset, hh.boundary]; exact hbelow)
    rw [Matched, hoffset, hh.historicalAt_eq hlog hmem (hac.trans hfirst) hbelow,
      Option.any_some, hother] at hmatched
    cases hmatched
  rcases stitch_cases h (some t') policy with ⟨hno, _⟩ | ⟨_, _, herror⟩ | ⟨_, hoverlaps, _⟩
  · exact absurd hsame hno
  · exact herror
  · exact absurd hoverlaps hconflict

/-- The gap that a tail admits and the policy lets through, behind a gap-free history. -/
def LetsGapThrough (h : HistoricalStateSlice env) (t : LiveTailSlice env)
    (policy : LiveStateFreshnessPolicy) : Prop :=
  h.is_gap_free = true ∧ policy.allows t.freshness = true ∧ t.freshness.gap_free = false

instance (h : HistoricalStateSlice env) (t : LiveTailSlice env)
    (policy : LiveStateFreshnessPolicy) : Decidable (LetsGapThrough h t policy) :=
  inferInstanceAs (Decidable (_ ∧ _))

theorem split_checks (hlog : log.IsChain FollowsNext) (hh : IsHistoryOf log a b h)
    (ht : IsTailOf log c d t) (hcb : c ≤ b + 1) (policy : LiveStateFreshnessPolicy) :
    checkAll (stitched h (some t) policy).validate = .ok () ↔ ¬ LetsGapThrough h t policy := by
  have hgap := split_no_gap hh ht hcb
  have hfree : StitchesGapFree h (some t) ↔ h.is_gap_free = true ∧ t.freshness.gap_free = true := by
    simp only [StitchesGapFree, hgap, true_and, Option.mem_def, Option.some.injEq, forall_eq']
  have hallowed : Unobjected h (some t) policy ↔
      h.is_gap_free = true ∧ policy.allows t.freshness = true := by
    constructor
    · intro hun
      exact ⟨hun.history, hun.allowed t rfl⟩
    · rintro ⟨hhistory, hpolicy⟩
      refine ⟨hhistory, hgap, .inl hh.covered, fun t' ht' => ?_⟩
      rw [← Option.some.inj ht']
      exact hpolicy
  rw [stitched_valid (split_stream hlog hh ht), hfree, hallowed, LetsGapThrough]
  constructor
  · rintro ⟨_, himp⟩ ⟨hhistory, hpolicy, hopen⟩
    rw [(himp ⟨hhistory, hpolicy⟩).2] at hopen
    cases hopen
  · intro hnot
    refine ⟨fun _ => split_sequence hlog hh ht hcb, fun hboth => ⟨hboth.1, ?_⟩⟩
    by_contra hopen
    exact hnot ⟨hboth.1, hboth.2, by simpa using hopen⟩

/-- What is stitched from slices of a log, if anything, is the range of the log that they cover. -/
theorem stitch_eq_ok (hlog : log.IsChain FollowsNext) (hh : IsHistoryOf log a b h)
    (ht : IsTailOf log c d t) (hac : a ≤ c) (hcb : c ≤ b + 1) {policy : LiveStateFreshnessPolicy}
    {s : StitchedStateSlice env} (hs : stitch h (some t) policy = .ok s) :
    StitchesRange log a (max b d) (.ok s) := by
  rcases stitch_cases h (some t) policy with ⟨_, herror⟩ | ⟨_, _, herror⟩ | ⟨_, _, hof⟩
  · rw [herror] at hs
    cases hs
  · rw [herror] at hs
    cases hs
  · rw [hof] at hs
    exact stitched_range hlog hh ht hac hcb (StitchedStateSlice.of_eq_ok.mp hs)

/-- Slices of a log stitch to the range of the log that they cover, wherever the history ends,
unless a tail that is not gap-free is let through; two splits of one range never differ, and an
event of the overlap cannot be replaced. -/
theorem stitch_split_iff (hlog : log.IsChain FollowsNext) (hh : IsHistoryOf log a b h)
    (ht : IsTailOf log c d t) (hac : a ≤ c) (hcb : c ≤ b + 1)
    (policy : LiveStateFreshnessPolicy) :
    (StitchesRange log a (max b d) (stitch h (some t) policy) ↔ ¬ LetsGapThrough h t policy) ∧
      (∀ b' c' d' h' t' policy' s s', IsHistoryOf log a b' h' → IsTailOf log c' d' t' → a ≤ c' →
        c' ≤ b' + 1 → max b' d' = max b d → stitch h (some t) policy = .ok s →
          stitch h' (some t') policy' = .ok s' → s'.events = s.events) ∧
      ∀ t' before e e' after, t.events = before ++ e :: after →
        t'.events = before ++ e' :: after →
        t'.stream_id = t.stream_id ∧ t'.partition_id = t.partition_id →
        e'.stream_position.offset = e.stream_position.offset → e.stream_position.offset ≤ b →
        eventIdentityMatches e e' = false →
          stitch h (some t') policy = .error (.reason .INVALID_OVERLAP) := by
  refine ⟨?_, ?_, ?_⟩
  · rw [← split_checks hlog hh ht hcb policy]
    rcases stitch_cases h (some t) policy with ⟨hno, _⟩ | ⟨_, hno, _⟩ | ⟨_, _, hof⟩
    · exact absurd (split_stream hlog hh ht) hno
    · exact absurd (split_overlaps hlog hh ht hac) hno
    · rw [hof, ← StitchedStateSlice.of_isOk]
      constructor
      · rintro ⟨s, hs, _⟩
        exact ⟨s, hs⟩
      · rintro ⟨s, hs⟩
        rw [hs]
        exact stitched_range hlog hh ht hac hcb (StitchedStateSlice.of_eq_ok.mp hs)
  · intro b' c' d' h' t' policy' s s' hh' ht' hac' hcb' hmax hs hs'
    obtain ⟨r, hr, hevents, _⟩ := stitch_eq_ok hlog hh ht hac hcb hs
    obtain ⟨r', hr', hevents', _⟩ := stitch_eq_ok hlog hh' ht' hac' hcb' hs'
    obtain rfl := Except.ok.inj hr
    obtain rfl := Except.ok.inj hr'
    rw [hevents, hevents', hmax]
  · intro t' before e e' after hevents hevents' hstream hoffset hbelow hother
    have he : e ∈ t.events := by
      rw [hevents]
      exact List.mem_append_right before List.mem_cons_self
    have he' : e' ∈ t'.events := by
      rw [hevents']
      exact List.mem_append_right before List.mem_cons_self
    exact replaced_overlap hlog hh ht hac hstream he he' hoffset hbelow hother policy

end Split

/-! A log of two events, the first in the history and the second in the tail. -/

def eventAt (offset : ℕ) : StreamEventEnvelope sampleEnv where
  schema_version := ⟨"1", .checked evaluates⟩
  event_id := deterministicStreamEventId sampleEnv (positionAt offset) ⟨"MARKET_TICK", by decide⟩
    (canonicalPayloadHash sampleEnv .null)
  event_kind := ⟨"MARKET_TICK", by decide⟩
  stream_position := positionAt offset
  payload := .null
  payload_canonical_hash := canonicalPayloadHash sampleEnv .null
  payload_size_bytes := (canonicalJsonBytes .null).length
  durability_status := .DURABLE_COMMITTED
  producer_id := ⟨"producer-1", by decide⟩
  created_at := ⟨2024, 1, 1, 0, 0, 0, 0, newYear_date, midnight_clock⟩
  valid := ⟨rfl, rfl, rfl⟩

def firstHistory : HistoricalStateSlice sampleEnv where
  slice_id := ⟨"history-1", DomainId.checked evaluates⟩
  stream_id := ⟨"stream-1", DomainId.checked evaluates⟩
  partition_id := ⟨"partition-1", DomainId.checked evaluates⟩
  from_offset := 1
  to_offset := 1
  events := [eventAt 1]
  persisted_until_position := positionAt 1
  is_gap_free := true
  valid := by decide +kernel

def secondTail (gap_free : Bool) : LiveTailSlice sampleEnv where
  slice_id := ⟨"tail-1", DomainId.checked evaluates⟩
  stream_id := ⟨"stream-1", DomainId.checked evaluates⟩
  partition_id := ⟨"partition-1", DomainId.checked evaluates⟩
  from_offset := 2
  to_offset := 2
  events := [eventAt 2]
  latest_position := positionAt 2
  freshness := {
    latest_position := positionAt 2
    projected_at := ⟨2024, 1, 1, 0, 0, 0, 0, newYear_date, midnight_clock⟩
    staleness_ms := 10
    gap_free
    is_complete := true
    is_speculative := false
    durability_status := .DURABLE_COMMITTED
    source_health_status := none
    durable := fun _ => committed_durable }
  valid := by cases gap_free <;> decide +kernel

theorem twoEvents_contiguous : [eventAt 1, eventAt 2].IsChain FollowsNext := by
  rw [List.isChain_pair]
  exact ⟨⟨rfl, rfl⟩, rfl, rfl⟩

theorem firstHistory_isHistoryOf : IsHistoryOf [eventAt 1, eventAt 2] 1 1 firstHistory :=
  ⟨rfl, rfl, rfl, List.cons_ne_nil _ _⟩

theorem secondTail_isTailOf (gap_free : Bool) :
    IsTailOf [eventAt 1, eventAt 2] 2 2 (secondTail gap_free) :=
  ⟨rfl, rfl, rfl, List.cons_ne_nil _ _⟩

theorem two_events_stitch :
    StitchesRange [eventAt 1, eventAt 2] 1 2
      (stitch firstHistory (some (secondTail true)) (strictPolicy true)) :=
  (stitch_split_iff twoEvents_contiguous firstHistory_isHistoryOf (secondTail_isTailOf true)
    (by decide) (by decide) (strictPolicy true)).1.mpr (by decide)

/-- The tail says that it has a gap, and the policy does not mind. -/
theorem open_tail_not_stitched :
    ¬ StitchesRange [eventAt 1, eventAt 2] 1 2
      (stitch firstHistory (some (secondTail false)) (strictPolicy false)) := by
  have herror : stitch firstHistory (some (secondTail false)) (strictPolicy false) =
      .error (.check "tradable stitched state must be complete and gap-free") := by
    decide +kernel
  rw [herror]
  rintro ⟨s, hs, _⟩
  cases hs

end FuturesBot.LiveState
