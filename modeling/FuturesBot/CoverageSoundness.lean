import FuturesBot.CoverageAudit
import FuturesBot.FixedPointText
import FuturesBot.ReplayRecords
import FuturesBot.JoinedTexts

/-! What a coverage report says of its timeline: its gaps are those between events next to each
other in time, and its counts are the numbers of events. -/
namespace FuturesBot.Replay

open TextLines DateTimes Dicts KeySorting Checks BinaryFloats LocalReplayTimelineCoverageAuditor

/-! Built issues. -/

theorem requiredText_ok {value message : String} {t : TrimmedText}
    (h : requiredText value message = .ok t) : t.value = value := by
  rw [requiredText, TrimmedText.of] at h
  by_cases hvalue : Trimmed value.toList
  · rw [dif_pos hvalue] at h
    rw [← Except.ok.inj h]
  · rw [dif_neg hvalue] at h
    exact absurd h (by simp)

theorem requiredText_of {value : String} (message : String) (h : Trimmed value.toList) :
    requiredText value message = .ok ⟨value, h⟩ := by
  rw [requiredText, TrimmedText.of, dif_pos h]

/-- A built issue has the id, the kind, the severity and the event of its raw issue. -/
structure Built (raw : RawIssue) (issue : ReplayTimelineCoverageIssue) : Prop where
  issue_id : issue.issue_id.value = raw.issue_id
  kind : issue.kind = raw.kind
  event_id : issue.event_id = raw.event_id

theorem RawIssue.build_ok {raw : RawIssue} {issue : ReplayTimelineCoverageIssue}
    (h : raw.build = .ok issue) : Built raw issue := by
  rw [RawIssue.build, bind_eq_ok] at h
  obtain ⟨issue_id, hid, h⟩ := h
  rw [bind_eq_ok] at h
  obtain ⟨instrument_key, -, h⟩ := h
  rw [← Except.ok.inj h]
  exact ⟨requiredText_ok hid, rfl, rfl⟩

theorem buildIssues_ok {raws : List RawIssue} {issues : List ReplayTimelineCoverageIssue}
    (h : buildIssues raws = .ok issues) : List.Forall₂ Built raws issues := by
  induction raws generalizing issues with
  | nil =>
    rw [buildIssues] at h
    rw [← Except.ok.inj h]
    exact List.Forall₂.nil
  | cons raw raws ih =>
    rw [buildIssues, bind_eq_ok] at h
    obtain ⟨issue, hissue, h⟩ := h
    rw [bind_eq_ok] at h
    obtain ⟨rest, hrest, h⟩ := h
    rw [← Except.ok.inj h]
    exact List.Forall₂.cons (RawIssue.build_ok hissue) (ih hrest)

/-- The events before which gaps are reported. -/
def gapEvents (issues : List ReplayTimelineCoverageIssue) : List TrimmedText :=
  issues.filterMap fun issue => if issue.kind = .EVENT_TIME_GAP then issue.event_id else none

/-- An issue of a kind is reported. -/
def Reports (issues : List ReplayTimelineCoverageIssue) (kind : ReplayTimelineCoverageIssueKind) :
    Prop :=
  ∃ issue ∈ issues, issue.kind = kind

def rawGapEvents (raws : List RawIssue) : List TrimmedText :=
  raws.filterMap fun raw => if raw.kind = .EVENT_TIME_GAP then raw.event_id else none

theorem gapEvents_eq {raws : List RawIssue} {issues : List ReplayTimelineCoverageIssue}
    (h : List.Forall₂ Built raws issues) : gapEvents issues = rawGapEvents raws := by
  induction h with
  | nil => rfl
  | cons hbuilt _ ih =>
    rw [gapEvents, rawGapEvents] at ih ⊢
    rw [List.filterMap_cons, List.filterMap_cons, ih, hbuilt.kind, hbuilt.event_id]

theorem reports_iff {raws : List RawIssue} {issues : List ReplayTimelineCoverageIssue}
    (h : List.Forall₂ Built raws issues) (kind : ReplayTimelineCoverageIssueKind) :
    Reports issues kind ↔ kind ∈ raws.map (·.kind) := by
  have hkinds : issues.map (·.kind) = raws.map (·.kind) := by
    induction h with
    | nil => rfl
    | cons hbuilt _ ih => rw [List.map_cons, List.map_cons, ih, hbuilt.kind]
  rw [← hkinds, List.mem_map]
  rfl

/-! The parts of a report. -/

theorem rawGapEvents_append (raws raws' : List RawIssue) :
    rawGapEvents (raws ++ raws') = rawGapEvents raws ++ rawGapEvents raws' :=
  List.filterMap_append

theorem rawGapEvents_of_kind {raws : List RawIssue}
    (h : ∀ raw ∈ raws, raw.kind ≠ .EVENT_TIME_GAP) : rawGapEvents raws = [] := by
  apply List.filterMap_eq_nil_iff.mpr
  intro raw hraw
  rw [if_neg (h raw hraw)]

theorem emptyIssues_kind {report_id : String} {events : List ReplayTimelineEvent} {raw : RawIssue}
    (h : raw ∈ emptyIssues report_id events) : raw.kind = .EMPTY_TIMELINE := by
  rw [emptyIssues] at h
  split_ifs at h
  · rw [List.mem_singleton.mp h]
  · exact absurd h List.not_mem_nil

theorem missingKindIssues_kind {report_id : String} {expected present : List ReplayInputKind}
    {raw : RawIssue} (h : raw ∈ missingKindIssues report_id expected present) :
    raw.kind = .MISSING_EXPECTED_KIND := by
  obtain ⟨kind, -, rfl⟩ := List.mem_map.mp h
  rfl

theorem missingInstrumentIssues_kind {report_id : String} {expected present : List String}
    {raw : RawIssue} (h : raw ∈ missingInstrumentIssues report_id expected present) :
    raw.kind = .MISSING_EXPECTED_INSTRUMENT := by
  obtain ⟨ikey, -, rfl⟩ := List.mem_map.mp h
  rfl

theorem gapIssues_kind {report_id : String} {events : List ReplayTimelineEvent} {seconds : ℕ}
    {raw : RawIssue} (h : raw ∈ gapIssues report_id events seconds) :
    raw.kind = .EVENT_TIME_GAP := by
  obtain ⟨i, hi, rfl⟩ := List.mem_mapIdx.mp h
  rfl

theorem boundedGapIssues_kind {report_id : String} {events : List ReplayTimelineEvent}
    {seconds : Option ℤ} {raw : RawIssue} (h : raw ∈ boundedGapIssues report_id events seconds) :
    raw.kind = .EVENT_TIME_GAP := by
  cases seconds with
  | none => exact absurd h List.not_mem_nil
  | some seconds => exact gapIssues_kind h

theorem coverageGapIssues_kind {report_id : String} {events : List ReplayTimelineEvent}
    {window : TemporalWindow} {raw : RawIssue}
    (h : raw ∈ coverageGapIssues report_id events window) :
    raw.kind = .START_COVERAGE_GAP ∨ raw.kind = .END_COVERAGE_GAP := by
  rw [coverageGapIssues] at h
  split at h
  · rcases List.mem_append.mp h with h | h
    · split_ifs at h
      · rw [List.mem_singleton.mp h]
        exact .inl rfl
      · exact absurd h List.not_mem_nil
    · split_ifs at h
      · rw [List.mem_singleton.mp h]
        exact .inr rfl
      · exact absurd h List.not_mem_nil
  · exact absurd h List.not_mem_nil

theorem rawGapEvents_gapIssues (report_id : String) (events : List ReplayTimelineEvent)
    (seconds : ℕ) : rawGapEvents (gapIssues report_id events seconds) =
      ((adjacent events).filter (gapExceeds seconds)).map (·.2.event_id) := by
  have hevents : ∀ pairs : List (ReplayTimelineEvent × ReplayTimelineEvent),
      ∀ f : ℕ → ReplayTimelineEvent × ReplayTimelineEvent → RawIssue,
        (∀ i pair, (f i pair).kind = .EVENT_TIME_GAP ∧
          (f i pair).event_id = some pair.2.event_id) →
        rawGapEvents (pairs.mapIdx f) = pairs.map (·.2.event_id) := by
    intro pairs
    induction pairs with
    | nil => intros; rfl
    | cons pair pairs ih =>
      intro f hf
      obtain ⟨hkind, hid⟩ := hf 0 pair
      rw [List.mapIdx_cons, rawGapEvents, List.filterMap_cons, if_pos hkind, hid]
      exact congrArg (pair.2.event_id :: ·) (ih _ fun i pair => hf (i + 1) pair)
  exact hevents _ _ fun i pair => ⟨rfl, rfl⟩

/-! The ends of the events. -/

section Extremes

variable {α : Type} {le : α → α → Prop} {pick : α → α → α}

theorem foldl_pick_le (htrans : ∀ a b c, le a b → le b c → le a c) (hrefl : ∀ a, le a a)
    (hpick : ∀ m t, le (pick m t) m ∧ le (pick m t) t) (ts : List α) (t : α) :
    ∀ x ∈ t :: ts, le (ts.foldl pick t) x := by
  induction ts generalizing t with
  | nil =>
    intro x hx
    rw [List.mem_singleton.mp hx]
    exact hrefl t
  | cons u ts ih =>
    have hfirst := ih (pick t u) (pick t u) List.mem_cons_self
    intro x hx
    rw [List.foldl_cons]
    rcases List.mem_cons.mp hx with rfl | hx
    · exact htrans _ _ _ hfirst (hpick x u).1
    · rcases List.mem_cons.mp hx with rfl | hx
      · exact htrans _ _ _ hfirst (hpick t x).2
      · exact ih (pick t u) x (List.mem_cons_of_mem _ hx)

theorem foldl_pick_mem (hpick : ∀ m t, pick m t = m ∨ pick m t = t) (ts : List α) (t : α) :
    ts.foldl pick t ∈ t :: ts := by
  induction ts generalizing t with
  | nil => exact List.mem_cons_self
  | cons u ts ih =>
    rw [List.foldl_cons]
    rcases List.mem_cons.mp (ih (pick t u)) with heq | hmem
    · rw [heq]
      rcases hpick t u with hpicked | hpicked
      · rw [hpicked]
        exact List.mem_cons_self
      · rw [hpicked]
        exact List.mem_cons_of_mem t List.mem_cons_self
    · exact List.mem_cons_of_mem t (List.mem_cons_of_mem u hmem)

end Extremes

/-- The bounds are the times of two events, and every event lies between them. -/
structure Bounds (events : List ReplayTimelineEvent) (first last : DateTime) : Prop where
  first_mem : ∃ e ∈ events, e.event_time = first
  last_mem : ∃ e ∈ events, e.event_time = last
  first_le : ∀ e ∈ events, first ≤ e.event_time
  le_last : ∀ e ∈ events, e.event_time ≤ last

theorem eventTimeBounds_some {events : List ReplayTimelineEvent} (h : events ≠ []) :
    ∃ first last, eventTimeBounds events = (some first, some last) ∧ Bounds events first last := by
  obtain ⟨e, es, rfl⟩ := List.exists_cons_of_ne_nil h
  have hmem : ∀ t, t ∈ e.event_time :: es.map (·.event_time) → ∃ x ∈ e :: es, x.event_time = t :=
    fun t ht => List.mem_map.mp (by rwa [List.map_cons])
  have htime : ∀ x ∈ e :: es, x.event_time ∈ e.event_time :: es.map (·.event_time) := by
    intro x hx
    rw [← List.map_cons (f := fun x : ReplayTimelineEvent => x.event_time)]
    exact List.mem_map_of_mem hx
  refine ⟨_, _, rfl, hmem _ (foldl_pick_mem (fun m t => ?_) _ _),
    hmem _ (foldl_pick_mem (fun m t => ?_) _ _), fun x hx => ?_, fun x hx => ?_⟩
  · split_ifs
    · exact .inr rfl
    · exact .inl rfl
  · split_ifs
    · exact .inr rfl
    · exact .inl rfl
  · refine @foldl_pick_le DateTime (fun a b => a ≤ b) _ (fun _ _ _ => le_trans) le_refl
      (fun m t => ?_) _ _ _ (htime x hx)
    split_ifs with hlt
    · exact ⟨hlt.le, le_refl t⟩
    · exact ⟨le_refl m, Nat.not_lt.mp hlt⟩
  · refine @foldl_pick_le DateTime (fun a b => b ≤ a) _ (fun _ _ _ hab hbc => le_trans hbc hab)
      le_refl (fun m t => ?_) _ _ _ (htime x hx)
    split_ifs with hlt
    · exact ⟨hlt.le, le_refl t⟩
    · exact ⟨le_refl m, Nat.not_lt.mp hlt⟩

theorem coverageGapIssues_start (report_id : String) (events : List ReplayTimelineEvent)
    (window : TemporalWindow) :
    .START_COVERAGE_GAP ∈ (coverageGapIssues report_id events window).map (·.kind) ↔
      events ≠ [] ∧ ∀ e ∈ events, window.start_at < e.event_time := by
  by_cases hnil : events = []
  · subst hnil
    simp [coverageGapIssues, eventTimeBounds]
  · obtain ⟨first, last, hbounds, hfirst⟩ := eventTimeBounds_some hnil
    have hiff : (∀ e ∈ events, window.start_at < e.event_time) ↔ window.start_at < first := by
      constructor
      · intro h
        obtain ⟨e, he, heq⟩ := hfirst.first_mem
        rw [← heq]
        exact h e he
      · exact fun h e he => lt_of_lt_of_le h (hfirst.first_le e he)
    rw [hiff, coverageGapIssues, hbounds]
    dsimp only
    by_cases hstart : window.start_at < first <;> by_cases hend : last < window.end_at <;>
      simp [hnil, hstart, hend]

theorem coverageGapIssues_end (report_id : String) (events : List ReplayTimelineEvent)
    (window : TemporalWindow) :
    .END_COVERAGE_GAP ∈ (coverageGapIssues report_id events window).map (·.kind) ↔
      events ≠ [] ∧ ∀ e ∈ events, e.event_time < window.end_at := by
  by_cases hnil : events = []
  · subst hnil
    simp [coverageGapIssues, eventTimeBounds]
  · obtain ⟨first, last, hbounds, hlast⟩ := eventTimeBounds_some hnil
    have hiff : (∀ e ∈ events, e.event_time < window.end_at) ↔ last < window.end_at := by
      constructor
      · intro h
        obtain ⟨e, he, heq⟩ := hlast.last_mem
        rw [← heq]
        exact h e he
      · exact fun h e he => lt_of_le_of_lt (hlast.le_last e he) h
    rw [hiff, coverageGapIssues, hbounds]
    dsimp only
    by_cases hstart : window.start_at < first <;> by_cases hend : last < window.end_at <;>
      simp [hnil, hstart, hend]

/-! The report. -/

/-- The events in the order of their times, and as listed where the times are equal. -/
def timeOrder (events : List ReplayTimelineEvent) : List ReplayTimelineEvent :=
  sortBy (·.event_time.micros) events

def InTimeOrder (events : List ReplayTimelineEvent) : Prop := SortedBy (·.event_time.micros) events

/-- A dictionary has the keys of the events, each with the number of its events. -/
def Counts {κ : Type} [DecidableEq κ] (d : Dict κ ℕ) (key : ReplayTimelineEvent → κ)
    (events : List ReplayTimelineEvent) : Prop :=
  ∀ k, d.get? k = if ∃ e ∈ events, key e = k then some (events.countP fun e => key e = k) else none

theorem countKeys_counts {κ : Type} [DecidableEq κ] (key : ReplayTimelineEvent → κ)
    (events : List ReplayTimelineEvent) : Counts (countKeys (events.map key)) key events := by
  intro k
  have hcount : (events.map key).count k = events.countP fun e => key e = k := by
    rw [List.count_eq_countP, List.countP_map]
    apply List.countP_congr
    intro e _
    simp
  rw [get?_countKeys, hcount]
  simp only [List.mem_map]

/-- What a report says of the timeline that it is about. -/
structure ReportCovers (request : CoverageRequest) (timeline : ReplayTimeline)
    (report : ReplayTimelineCoverageReport) : Prop where
  no_gaps : request.max_event_gap_seconds = none → gapEvents report.issues = []
  gaps_distinct : (gapEvents report.issues).Nodup
  gaps_sound : ∀ seconds ∈ request.max_event_gap_seconds, InTimeOrder timeline.events →
    ∀ event_id ∈ gapEvents report.issues, ∃ pair ∈ adjacent (timeOrder timeline.events),
      pair.2.event_id = event_id ∧ seconds * 1000000 < eventGap pair
  gaps_complete : ∀ seconds ∈ request.max_event_gap_seconds, InTimeOrder timeline.events →
    ∀ pair ∈ adjacent (timeOrder timeline.events), seconds * 1000000 < eventGap pair →
      eventGap pair ≤ 2 ^ 33 * 1000000 → pair.2.event_id ∈ gapEvents report.issues
  start_gap : Reports report.issues .START_COVERAGE_GAP ↔ timeline.events ≠ [] ∧
    ∀ e ∈ timeline.events, timeline.temporal_window.start_at < e.event_time
  end_gap : Reports report.issues .END_COVERAGE_GAP ↔ timeline.events ≠ [] ∧
    ∀ e ∈ timeline.events, e.event_time < timeline.temporal_window.end_at
  kinds : Counts report.summary.event_count_by_kind (·.kind) timeline.events
  instruments : Counts report.summary.event_count_by_instrument (instrumentKeyOf ·.instrument)
    timeline.events
  datasets : Counts report.summary.event_count_by_dataset (·.input_dataset_id.value)
    timeline.events

theorem rawGapEvents_rawIssues (request : CoverageRequest) (timeline : ReplayTimeline) :
    rawGapEvents (rawIssues request timeline) =
      match request.max_event_gap_seconds with
      | none => []
      | some seconds =>
        ((adjacent timeline.events).filter (gapExceeds seconds.toNat)).map (·.2.event_id) := by
  rw [rawIssues]
  simp only [rawGapEvents_append]
  rw [rawGapEvents_of_kind fun raw hraw => by rw [emptyIssues_kind hraw]; decide,
    rawGapEvents_of_kind fun raw hraw => by rw [missingKindIssues_kind hraw]; decide,
    rawGapEvents_of_kind fun raw hraw => by rw [missingInstrumentIssues_kind hraw]; decide,
    @rawGapEvents_of_kind (coverageGapIssues _ _ _) fun raw hraw => by
      rcases coverageGapIssues_kind hraw with h | h <;> rw [h] <;> decide]
  cases request.max_event_gap_seconds with
  | none => rfl
  | some seconds => exact (List.append_nil _).trans (rawGapEvents_gapIssues _ _ _)

/-- An issue about an end of the window comes from the comparison with the window. -/
theorem rawIssues_end {request : CoverageRequest} {timeline : ReplayTimeline}
    {kind : ReplayTimelineCoverageIssueKind}
    (hkind : kind = .START_COVERAGE_GAP ∨ kind = .END_COVERAGE_GAP) :
    kind ∈ (rawIssues request timeline).map (·.kind) ↔
      kind ∈ (coverageGapIssues request.report_id timeline.events
        timeline.temporal_window).map (·.kind) := by
  rw [rawIssues, List.map_append, List.mem_append]
  refine or_iff_right fun h => ?_
  obtain ⟨raw, hraw, rfl⟩ := List.mem_map.mp h
  have hother : raw.kind ≠ .START_COVERAGE_GAP ∧ raw.kind ≠ .END_COVERAGE_GAP := by
    rcases List.mem_append.mp hraw with hraw | hraw
    · rcases List.mem_append.mp hraw with hraw | hraw
      · rcases List.mem_append.mp hraw with hraw | hraw
        · rw [emptyIssues_kind hraw]
          decide
        · rw [missingKindIssues_kind hraw]
          decide
      · rw [missingInstrumentIssues_kind hraw]
        decide
    · rw [boundedGapIssues_kind hraw]
      decide
  rcases hkind with h | h
  · exact hother.1 h
  · exact hother.2 h

theorem adjacent_snd {α : Type} (l : List α) : (adjacent l).map (·.2) = l.tail := by
  apply List.map_snd_zip
  rw [List.length_tail]
  omega

/-- The later events of some pairs of adjacent events are some of the events after the first. -/
theorem adjacent_distinct (timeline : ReplayTimeline)
    (p : ReplayTimelineEvent × ReplayTimelineEvent → Bool) :
    (((adjacent timeline.events).filter p).map (·.2.event_id)).Nodup := by
  have hsub : (((adjacent timeline.events).filter p).map (·.2.event_id)).Sublist
      (timeline.events.tail.map (·.event_id)) := by
    rw [← adjacent_snd, List.map_map]
    exact List.filter_sublist.map _
  exact hsub.nodup (((List.tail_sublist _).map _).nodup timeline.distinct)

theorem eventGap_lt (pair : ReplayTimelineEvent × ReplayTimelineEvent) :
    eventGap pair < 2 ^ 59 := by
  have h : pair.2.event_time.micros < 2 ^ 59 := pair.2.event_time.micros_lt
  rw [eventGap]
  omega

theorem reportOn_ok {request : CoverageRequest} {timeline : ReplayTimeline}
    {report : ReplayTimelineCoverageReport} (h : reportOn request timeline = .ok report) :
    buildIssues (rawIssues request timeline) = .ok report.issues ∧
      report.summary.toCoverageSummaryFields = summaryFields timeline report.issues := by
  rw [reportOn, bind_eq_ok] at h
  obtain ⟨issues, hissues, h⟩ := h
  rw [bind_eq_ok] at h
  obtain ⟨summary, hsummary, h⟩ := h
  simp only [bind_eq_ok] at h
  obtain ⟨report_id, -, timeline_id, -, notes, -, h⟩ := h
  split at h
  · exact absurd h (by simp)
  · obtain ⟨-, rfl⟩ := validated_eq_ok.mp h
    obtain ⟨-, rfl⟩ := validated_eq_ok.mp hsummary
    exact ⟨hissues, rfl⟩

/-- A report on a timeline covers it. -/
theorem reportOn_covers {request : CoverageRequest} {timeline : ReplayTimeline}
    {report : ReplayTimelineCoverageReport} (h : reportOn request timeline = .ok report)
    (hpositive : ∀ seconds ∈ request.max_event_gap_seconds, 0 < seconds) :
    ReportCovers request timeline report := by
  obtain ⟨hissues, hsummary⟩ := reportOn_ok h
  have hbuilt := buildIssues_ok hissues
  have hgaps : gapEvents report.issues = _ :=
    (gapEvents_eq hbuilt).trans (rawGapEvents_rawIssues request timeline)
  refine {
    no_gaps := fun hnone => ?_
    gaps_distinct := ?_
    gaps_sound := fun seconds hseconds horder event_id hid => ?_
    gaps_complete := fun seconds hseconds horder pair hpair hgap hsmall => ?_
    start_gap := ?_
    end_gap := ?_
    kinds := ?_
    instruments := ?_
    datasets := ?_ }
  · rw [hgaps, hnone]
  · rw [hgaps]
    split
    · exact List.nodup_nil
    · exact adjacent_distinct timeline _
  · rw [timeOrder, (sortBy_eq_self _).mpr horder]
    rw [hgaps, hseconds] at hid
    obtain ⟨pair, hpair, rfl⟩ := List.mem_map.mp hid
    obtain ⟨hadjacent, hexceeds⟩ := List.mem_filter.mp hpair
    refine ⟨pair, hadjacent, rfl, ?_⟩
    have hlt := lt_of_secondsExceed hexceeds (eventGap_lt pair)
    rwa [Int.toNat_of_nonneg (hpositive seconds hseconds).le] at hlt
  · rw [timeOrder, (sortBy_eq_self _).mpr horder] at hpair
    rw [hgaps, hseconds]
    refine List.mem_map.mpr ⟨pair, List.mem_filter.mpr ⟨hpair, ?_⟩, rfl⟩
    refine secondsExceed_of_lt ?_ hsmall
    rwa [Int.toNat_of_nonneg (hpositive seconds hseconds).le]
  · rw [reports_iff hbuilt, rawIssues_end (.inl rfl), coverageGapIssues_start]
  · rw [reports_iff hbuilt, rawIssues_end (.inr rfl), coverageGapIssues_end]
  · rw [hsummary]
    exact countKeys_counts _ _
  · rw [hsummary]
    exact countKeys_counts _ _
  · rw [hsummary]
    exact countKeys_counts _ _

/-- A timeline of a policy that orders by time is in the order of time. -/
theorem ReplayTimeline.inTimeOrder (timeline : ReplayTimeline)
    (h : timeline.ordering_policy.timeBased = true) : InTimeOrder timeline.events := by
  by_cases hnil : timeline.events = []
  · rw [hnil]
    exact List.Pairwise.nil
  have hvalid := timeline.valid
  simp only [ReplayTimelineFields.validateTimeline, checkAll_append] at hvalid
  rw [if_neg hnil] at hvalid
  simp only [checkAll_append, ReplayTimelineFields.validateEventOrdering] at hvalid
  have hordering := hvalid.2.2
  cases hpolicy : timeline.ordering_policy with
  | EVENT_TIME_THEN_SEQUENCE =>
    rw [hpolicy] at hordering
    simp only [checkAll_require, checkAll_nil, and_true] at hordering
    refine ((sortBy_eq_self _).mp hordering).imp fun {a b} hab => ?_
    rcases Prod.Lex.toLex_le_toLex.mp hab with hlt | ⟨heq, -⟩
    · exact hlt.le
    · exact heq.le
  | EVENT_TIME_THEN_KIND_THEN_SEQUENCE =>
    rw [hpolicy] at hordering
    simp only [checkAll_require, checkAll_nil, and_true] at hordering
    refine ((sortBy_eq_self _).mp hordering).imp fun {a b} hab => ?_
    rcases Prod.Lex.toLex_le_toLex.mp hab with hlt | ⟨heq, -⟩
    · exact hlt.le
    · exact heq.le
  | SOURCE_ORDER =>
    rw [hpolicy] at h
    cases h
  | OTHER =>
    rw [hpolicy] at h
    cases h

/-- Instruments whose venues and symbols have no colon share a key exactly when venue, symbol and
settlement asset are the same. -/
theorem instrumentKeyOf_eq {a b : ReplayInstrumentRef} (hav : ':' ∉ a.venue.value.toList)
    (has : ':' ∉ a.symbol.value.toList) (hbv : ':' ∉ b.venue.value.toList)
    (hbs : ':' ∉ b.symbol.value.toList) : instrumentKeyOf a = instrumentKeyOf b ↔
      a.venue = b.venue ∧ a.symbol = b.symbol ∧ a.settlement_asset = b.settlement_asset := by
  constructor
  · intro h
    have hchars := congrArg String.toList h
    simp only [instrumentKeyOf, String.toList_append, List.append_assoc] at hchars
    obtain ⟨hvenue, hrest⟩ := TaggedTexts.separator_inj hav hbv hchars
    obtain ⟨hsymbol, hasset⟩ := TaggedTexts.separator_inj has hbs hrest
    refine ⟨TrimmedText.ext (String.ext hvenue), TrimmedText.ext (String.ext hsymbol), ?_⟩
    have hvalue : a.settlement_asset.value = b.settlement_asset.value := String.ext hasset
    cases ha : a.settlement_asset
    cases hb : b.settlement_asset
    rw [ha, hb] at hvalue
    cases hvalue
    rfl
  · rintro ⟨hvenue, hsymbol, hasset⟩
    rw [instrumentKeyOf, instrumentKeyOf, hvenue, hsymbol, hasset]

end FuturesBot.Replay
