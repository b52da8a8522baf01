import FuturesBot.CoverageSoundness
import FuturesBot.TimelineBuilding

/-! The auditor makes a report of every timeline: its issues have ids of their own, and its summary
passes its own check. -/
namespace FuturesBot.Replay

open TextLines DateTimes Dicts KeySorting Checks TaggedTexts LocalReplayTimelineCoverageAuditor

/-! Issues that can be built. -/

/-- The texts of an issue pass their checks. -/
def RawIssue.Buildable (raw : RawIssue) : Prop :=
  Trimmed raw.issue_id.toList ∧ ∀ key ∈ raw.instrument_key, Trimmed key.toList

theorem buildIssues_of {raws : List RawIssue} (h : ∀ raw ∈ raws, raw.Buildable) :
    ∃ issues, buildIssues raws = .ok issues := by
  induction raws with
  | nil => exact ⟨[], rfl⟩
  | cons raw raws ih =>
    obtain ⟨hid, hkey⟩ := h raw List.mem_cons_self
    obtain ⟨issues, hissues⟩ := ih fun r hr => h r (List.mem_cons_of_mem _ hr)
    have hbuild : ∃ issue, raw.build = .ok issue := by
      rw [RawIssue.build, requiredText_of _ hid]
      cases hkeys : raw.instrument_key with
      | none => exact ⟨_, rfl⟩
      | some key =>
        rw [optionalText, requiredText_of _ (hkey key hkeys)]
        exact ⟨_, rfl⟩
    obtain ⟨issue, hissue⟩ := hbuild
    exact ⟨issue :: issues, by rw [buildIssues, hissue, hissues]; rfl⟩

theorem trimmed_append_trimmed {a b : String} (ha : Trimmed a.toList) (hb : Trimmed b.toList) :
    Trimmed (a ++ b).toList := by
  obtain ⟨c, hc, hc'⟩ := ha.head
  obtain ⟨d, hd, hd'⟩ := hb.last
  exact trimmed_append hc hd hc' hd'

theorem ReplayInputKind.value_trimmed (kind : ReplayInputKind) : Trimmed kind.value.toList := by
  cases kind <;> decide

theorem natText_trimmed (n : ℕ) : Trimmed (String.ofList (JsonText.natText n)).toList := by
  have hne := JsonText.natText_ne_nil n
  have hspace : ∀ c ∈ JsonText.natText n, isSpace c = false :=
    fun c hc => isDigit_not_space (JsonText.natText_isDigit n c hc)
  rw [String.toList_ofList]
  refine trimmed_of_ends (List.head?_eq_some_head hne) (List.getLast?_eq_some_getLast hne)
    (hspace _ (List.head_mem hne)) (hspace _ (List.getLast_mem hne))

theorem rawIssues_buildable {request : CoverageRequest} {timeline : ReplayTimeline}
    (hid : Trimmed request.report_id.toList)
    (hkeys : ∀ key ∈ request.expected_instrument_keys, Trimmed key.toList) :
    ∀ raw ∈ rawIssues request timeline, raw.Buildable := by
  intro raw hraw
  rw [rawIssues] at hraw
  rcases List.mem_append.mp hraw with hraw | hraw
  · rcases List.mem_append.mp hraw with hraw | hraw
    · rcases List.mem_append.mp hraw with hraw | hraw
      · rcases List.mem_append.mp hraw with hraw | hraw
        · rw [emptyIssues] at hraw
          split_ifs at hraw
          · rw [List.mem_singleton.mp hraw]
            exact ⟨trimmed_append_trimmed hid (by decide), by simp⟩
          · exact absurd hraw List.not_mem_nil
        · obtain ⟨kind, -, rfl⟩ := List.mem_map.mp hraw
          exact ⟨trimmed_append_trimmed (trimmed_append_trimmed hid (by decide))
            kind.value_trimmed, by simp⟩
      · obtain ⟨ikey, hikey, rfl⟩ := List.mem_map.mp hraw
        have hkey := hkeys ikey (List.mem_filter.mp hikey).1
        refine ⟨trimmed_append_trimmed (trimmed_append_trimmed hid (by decide)) hkey, ?_⟩
        intro key hmem
        rw [← Option.some.inj hmem]
        exact hkey
    · cases hseconds : request.max_event_gap_seconds with
      | none =>
        rw [hseconds] at hraw
        exact absurd hraw List.not_mem_nil
      | some seconds =>
        rw [hseconds] at hraw
        obtain ⟨i, hi, rfl⟩ := List.mem_mapIdx.mp hraw
        exact ⟨trimmed_append_trimmed (trimmed_append_trimmed hid (by decide))
          (natText_trimmed i), by simp⟩
  · rw [coverageGapIssues] at hraw
    split at hraw
    · rcases List.mem_append.mp hraw with hraw | hraw
      · split_ifs at hraw
        · rw [List.mem_singleton.mp hraw]
          exact ⟨trimmed_append_trimmed hid (by decide), by simp⟩
        · exact absurd hraw List.not_mem_nil
      · split_ifs at hraw
        · rw [List.mem_singleton.mp hraw]
          exact ⟨trimmed_append_trimmed hid (by decide), by simp⟩
        · exact absurd hraw List.not_mem_nil
    · exact absurd hraw List.not_mem_nil

/-! The ids of the issues. -/

/-- The numbers of the gaps, as texts. -/
def gapNumbers (events : List ReplayTimelineEvent) : Option ℤ → List String
  | none => []
  | some seconds => ((adjacent events).filter (gapExceeds seconds.toNat)).mapIdx
      fun gap_index _ => String.ofList (JsonText.natText gap_index)

/-- The gaps at the ends of the window are reported by their kinds. -/
def Reported (kind : ReplayTimelineCoverageIssueKind) (timeline : ReplayTimeline) : Prop :=
  kind ∈ (coverageGapIssues "" timeline.events timeline.temporal_window).map (·.kind)

instance (kind : ReplayTimelineCoverageIssueKind) (timeline : ReplayTimeline) :
    Decidable (Reported kind timeline) := inferInstanceAs (Decidable (_ ∈ _))

/-- The issues by their tags, with what tells them apart under each tag. -/
def issueGroups (request : CoverageRequest) (timeline : ReplayTimeline) :
    List (String × List String) :=
  [(":empty", if timeline.events = [] then [""] else []),
    (":missing-kind:", (request.expected_input_kinds.filter fun kind =>
      kind ∉ (countKeys (timeline.events.map (·.kind))).keys).map (·.value)),
    (":missing-instrument:", request.expected_instrument_keys.filter fun ikey =>
      ikey ∉ (countKeys (timeline.events.map (instrumentKeyOf ·.instrument))).keys),
    (":gap:", gapNumbers timeline.events request.max_event_gap_seconds),
    (":start-gap", if Reported .START_COVERAGE_GAP timeline then [""] else []),
    (":end-gap", if Reported .END_COVERAGE_GAP timeline then [""] else [])]

theorem rawIssues_ids (request : CoverageRequest) (timeline : ReplayTimeline) :
    (rawIssues request timeline).map (·.issue_id) =
      groupIds request.report_id (issueGroups request timeline) := by
  have hempty : (emptyIssues request.report_id timeline.events).map (·.issue_id) =
      (if timeline.events = [] then [""] else []).map (request.report_id ++ ":empty" ++ ·) := by
    rw [emptyIssues]
    split_ifs <;> simp
  have hgaps : (boundedGapIssues request.report_id timeline.events
        request.max_event_gap_seconds).map (·.issue_id) =
      (gapNumbers timeline.events request.max_event_gap_seconds).map
        (request.report_id ++ ":gap:" ++ ·) := by
    cases request.max_event_gap_seconds with
    | none => rfl
    | some seconds =>
      rw [boundedGapIssues, gapNumbers, gapIssues, List.mapIdx_eq_zipIdx_map,
        List.mapIdx_eq_zipIdx_map, List.map_map, List.map_map]
      rfl
  have hends : (coverageGapIssues request.report_id timeline.events
        timeline.temporal_window).map (·.issue_id) =
      ((if Reported .START_COVERAGE_GAP timeline then [""] else []).map
          (request.report_id ++ ":start-gap" ++ ·)) ++
        ((if Reported .END_COVERAGE_GAP timeline then [""] else []).map
          (request.report_id ++ ":end-gap" ++ ·)) := by
    rcases hbounds : eventTimeBounds timeline.events with ⟨_ | first, _ | last⟩
    · simp [Reported, coverageGapIssues, hbounds]
    · simp [Reported, coverageGapIssues, hbounds]
    · simp [Reported, coverageGapIssues, hbounds]
    · by_cases hstart : timeline.temporal_window.start_at < first <;>
        by_cases hend : last < timeline.temporal_window.end_at <;>
          simp [Reported, coverageGapIssues, hbounds, hstart, hend]
  rw [rawIssues]
  simp only [List.map_append]
  rw [hempty, hgaps, hends]
  simp only [groupIds, issueGroups, List.flatMap_cons, List.flatMap_nil, List.append_nil,
    List.append_assoc, missingKindIssues, missingInstrumentIssues, List.map_map]
  rfl

theorem gapNumbers_distinct (events : List ReplayTimelineEvent) (seconds : Option ℤ) :
    (gapNumbers events seconds).Nodup := by
  cases seconds with
  | none => exact List.nodup_nil
  | some seconds =>
    rw [gapNumbers, List.nodup_iff_pairwise_ne, List.pairwise_iff_getElem]
    intro i j hi hj hij heq
    simp only [List.getElem_mapIdx] at heq
    have htext := congrArg String.toList heq
    rw [String.toList_ofList, String.toList_ofList] at htext
    exact absurd (DecimalNumbers.Decimal.natText_inj htext) hij.ne

theorem ReplayInputKind.value_injective : Function.Injective ReplayInputKind.value := by
  intro a b h
  cases a <;> cases b <;> first | rfl | exact absurd h (by decide)

theorem issueGroups_distinct {request : CoverageRequest} {timeline : ReplayTimeline}
    (hkinds : request.expected_input_kinds.Nodup)
    (hkeys : request.expected_instrument_keys.Nodup) :
    ∀ group ∈ issueGroups request timeline, group.2.Nodup := by
  intro group hgroup
  simp only [issueGroups, List.mem_cons, List.not_mem_nil, or_false] at hgroup
  rcases hgroup with rfl | rfl | rfl | rfl | rfl | rfl
  · dsimp only
    split_ifs <;> simp
  · exact (hkinds.filter _).map ReplayInputKind.value_injective
  · exact hkeys.filter _
  · exact gapNumbers_distinct _ _
  · dsimp only
    split_ifs <;> simp
  · dsimp only
    split_ifs <;> simp

theorem issue_ids_distinct {request : CoverageRequest} {timeline : ReplayTimeline}
    {issues : List ReplayTimelineCoverageIssue}
    (h : buildIssues (rawIssues request timeline) = .ok issues)
    (hkinds : request.expected_input_kinds.Nodup)
    (hkeys : request.expected_instrument_keys.Nodup) :
    (issues.map (·.issue_id)).Nodup := by
  have hids : ∀ {raws : List RawIssue} {issues : List ReplayTimelineCoverageIssue},
      List.Forall₂ Built raws issues →
        (issues.map (·.issue_id)).map (·.value) = raws.map (·.issue_id) := by
    intro raws issues hbuilt
    induction hbuilt with
    | nil => rfl
    | cons hissue _ ih =>
      rw [List.map_cons, List.map_cons, List.map_cons, ih, hissue.issue_id]
  apply List.Nodup.of_map (·.value)
  rw [hids (buildIssues_ok h), rawIssues_ids]
  have htags : (issueGroups request timeline).map (·.1) = [":empty", ":missing-kind:",
      ":missing-instrument:", ":gap:", ":start-gap", ":end-gap"] := rfl
  refine groupIds_nodup _ ?_ ?_ (issueGroups_distinct hkinds hkeys)
  · rw [htags]
    decide
  · rw [htags]
    decide

/-! The summary. -/

theorem instrumentKeyOf_ne_empty (instrument : ReplayInstrumentRef) :
    instrumentKeyOf instrument ≠ "" := by
  intro h
  have hchars := congrArg String.toList h
  simp [instrumentKeyOf, String.toList_append] at hchars

theorem keys_of_empty {κ : Type} [DecidableEq κ] : (countKeys ([] : List κ)).keys = [] := rfl

/-- The summary of a timeline passes its own check. -/
theorem summaryFields_valid (timeline : ReplayTimeline)
    (issues : List ReplayTimelineCoverageIssue) :
    checkAll (summaryFields timeline issues).validateSummary = .ok () := by
  simp only [CoverageSummaryFields.validateSummary, CoverageSummaryFields.validateKeys,
    checkAll_append, checkAll_require, checkAll_nil, and_true]
  have hnil : (summaryFields timeline issues).total_events = 0 ↔ timeline.events = [] :=
    List.length_eq_zero_iff
  refine ⟨⟨?_, ?_⟩, fun hzero => ?_, fun hzero => ?_, fun hpos => ?_, ?_, fun _ => ?_, fun _ => ?_,
    fun _ => ?_⟩
  · intro h
    obtain ⟨e, -, he⟩ := List.mem_map.mp (mem_keys_countKeys.mp h)
    exact instrumentKeyOf_ne_empty _ he
  · intro h
    obtain ⟨e, -, he⟩ := List.mem_map.mp (mem_keys_countKeys.mp h)
    have hne := e.input_dataset_id.trimmed.1
    rw [he] at hne
    exact hne rfl
  · rw [hnil] at hzero
    rw [summaryFields, hzero]
    exact ⟨rfl, rfl⟩
  · rw [hnil] at hzero
    rw [summaryFields, hzero]
    exact ⟨rfl, rfl, rfl⟩
  · obtain ⟨first, last, hbounds, -⟩ := eventTimeBounds_some (mt hnil.mpr hpos)
    rw [summaryFields, hbounds]
    exact ⟨by simp, by simp⟩
  · intro first hfirst last hlast
    by_cases hevents : timeline.events = []
    · rw [summaryFields, hevents] at hfirst
      cases hfirst
    · obtain ⟨first', last', hbounds, hbetween⟩ := eventTimeBounds_some hevents
      rw [summaryFields, hbounds] at hfirst hlast
      obtain rfl := Option.some.inj hfirst
      obtain rfl := Option.some.inj hlast
      obtain ⟨e, he, rfl⟩ := hbetween.first_mem
      exact not_lt_of_ge (hbetween.le_last e he)
  · exact (total_countKeys _).trans (List.length_map _)
  · exact (total_countKeys _).trans (List.length_map _)
  · exact (total_countKeys _).trans (List.length_map _)

/-! Reports. -/

/-- What a request is checked for besides the timeline. -/
structure ReadyAudit (auditor : LocalReplayTimelineCoverageAuditor) (request : CoverageRequest) :
    Prop where
  positive : ∀ seconds ∈ request.max_event_gap_seconds, 0 < seconds
  report_id : Trimmed request.report_id.toList
  kinds_distinct : request.expected_input_kinds.Nodup
  keys_distinct : request.expected_instrument_keys.Nodup
  keys_trimmed : ∀ key ∈ request.expected_instrument_keys, Trimmed key.toList
  notes : ∀ notes ∈ request.notes, Trimmed notes.toList
  aware : request.now ≠ none
  unused : auditor.report_store.get? request.report_id = none

theorem optionalText_of (message : String) {value : Option String}
    (h : ∀ v ∈ value, Trimmed v.toList) : ∃ t, optionalText message value = .ok t := by
  cases value with
  | none => exact ⟨none, rfl⟩
  | some value =>
    refine ⟨some ⟨value, h value rfl⟩, ?_⟩
    rw [optionalText, requiredText_of _ (h value rfl)]
    rfl

theorem reportOn_of {auditor : LocalReplayTimelineCoverageAuditor} {request : CoverageRequest}
    {timeline : ReplayTimeline} (ready : ReadyAudit auditor request)
    (hstored : auditor.timeline_store.get? request.timeline_id = some timeline) :
    ∃ report, reportOn request timeline = .ok report ∧
      report.report_id.value = request.report_id := by
  obtain ⟨issues, hissues⟩ :=
    buildIssues_of (@rawIssues_buildable request timeline ready.report_id ready.keys_trimmed)
  obtain ⟨notes, hnotes⟩ :=
    optionalText_of "notes must be a non-empty trimmed string" ready.notes
  obtain ⟨generated_at, hnow⟩ := Option.ne_none_iff_exists'.mp ready.aware
  have htimeline : Trimmed request.timeline_id.toList := by
    rw [← KeyedDict.key_of_get? hstored]
    exact timeline.timeline_id.trimmed
  let summary : ReplayTimelineCoverageSummary :=
    ⟨summaryFields timeline issues, summaryFields_valid timeline issues⟩
  let fields : CoverageReportFields := {
    report_id := ⟨request.report_id, ready.report_id⟩
    timeline_id := ⟨request.timeline_id, htimeline⟩
    replay_plan_id := timeline.replay_plan_id
    temporal_window := timeline.temporal_window
    generated_at
    status := .GENERATED
    summary
    issues
    expected_input_kinds := request.expected_input_kinds
    expected_instrument_keys := request.expected_instrument_keys
    notes }
  have hvalid : checkAll fields.validateReport = .ok () := by
    simp only [CoverageReportFields.validateReport, checkAll_require, checkAll_nil, and_true]
    exact ⟨issue_ids_distinct hissues ready.kinds_distinct ready.keys_distinct,
      ready.kinds_distinct, ready.keys_distinct, ready.keys_trimmed,
      Dict.same_iff.mpr fun _ => rfl⟩
  refine ⟨⟨fields, hvalid⟩, ?_, rfl⟩
  have hsummary : ReplayTimelineCoverageSummary.of (summaryFields timeline issues) =
      .ok summary := validated_eq_ok.mpr ⟨summaryFields_valid timeline issues, rfl⟩
  have hreport : ReplayTimelineCoverageReport.of fields = .ok ⟨fields, hvalid⟩ :=
    validated_eq_ok.mpr ⟨hvalid, rfl⟩
  rw [reportOn, hissues]
  change (ReplayTimelineCoverageSummary.of (summaryFields timeline issues) >>= _) = _
  rw [hsummary]
  change (requiredText request.report_id _ >>= _) = _
  rw [requiredText_of _ ready.report_id]
  change (requiredText request.timeline_id _ >>= _) = _
  rw [requiredText_of _ htimeline]
  change (optionalText _ request.notes >>= _) = _
  rw [hnotes, hnow]
  exact hreport

theorem generateReport_ok {auditor auditor' : LocalReplayTimelineCoverageAuditor}
    {request : CoverageRequest} {timeline : ReplayTimeline} {report : ReplayTimelineCoverageReport}
    (hstored : auditor.timeline_store.get? request.timeline_id = some timeline)
    (h : auditor.generateReport request = .ok (auditor', report)) :
    reportOn request timeline = .ok report ∧
      ∀ seconds ∈ request.max_event_gap_seconds, 0 < seconds := by
  rw [generateReport] at h
  split at h
  · exact absurd h (by simp)
  · rename_i hchecks
    simp only [checkAll_require, checkAll_nil, and_true] at hchecks
    rw [hstored] at h
    dsimp only at h
    simp only [bind_eq_ok] at h
    obtain ⟨made, hmade, report_store, -, h⟩ := h
    obtain ⟨-, rfl⟩ := Prod.mk.inj (Except.ok.inj h)
    exact ⟨hmade, hchecks⟩

def minuteTime (minute : ℕ) (h : minute < 60) : DateTime :=
  { sampleTime with minute, time_ok := ⟨by decide, h, by decide, by decide⟩ }

def minuteEvent (event_id : TrimmedText) (order_index minute : ℕ) (h : minute < 60) :
    ReplayTimelineEvent where
  event_id
  batch_id := ⟨"a", .checked evaluates⟩
  input_dataset_id := ⟨"dataset-1", .checked evaluates⟩
  record_id := event_id
  kind := .TRADE
  instrument := sampleInstrument
  event_time := minuteTime minute h
  source_sequence := order_index
  order_index
  content_hash := none

def sourceTimeline (events : List ReplayTimelineEvent)
    (ordering_policy : ReplayOrderingPolicy) : ReplayTimelineFields where
  timeline_id := ⟨"timeline-1", .checked evaluates⟩
  replay_plan_id := ⟨"plan-1", .checked evaluates⟩
  temporal_window := sampleWindow
  ordering_policy
  input_batch_ids := ["a"]
  input_dataset_ids := ["dataset-1"]
  events
  created_at := sampleTime
  status := .BUILT
  notes := none

def timedEvents : ReplayTimeline where
  toReplayTimelineFields := sourceTimeline
    [minuteEvent ⟨"a:1", .checked evaluates⟩ 0 4 (by decide),
      minuteEvent ⟨"a:2", by decide⟩ 1 24 (by decide),
      minuteEvent ⟨"a:3", by decide⟩ 2 44 (by decide)] .EVENT_TIME_THEN_SEQUENCE
  valid := by decide +kernel

def shuffledEvents : ReplayTimeline where
  toReplayTimelineFields := sourceTimeline
    [minuteEvent ⟨"a:1", .checked evaluates⟩ 0 4 (by decide),
      minuteEvent ⟨"a:3", by decide⟩ 1 44 (by decide),
      minuteEvent ⟨"a:2", by decide⟩ 2 24 (by decide)] .SOURCE_ORDER
  valid := by decide +kernel

def auditorOf (timeline : ReplayTimeline) : LocalReplayTimelineCoverageAuditor where
  timeline_store := KeyedDict.empty.put timeline
  report_store := .empty

def gapRequest (seconds : ℤ) : CoverageRequest where
  report_id := "report-1"
  timeline_id := "timeline-1"
  expected_input_kinds := [.TRADE]
  expected_instrument_keys := []
  max_event_gap_seconds := some seconds
  notes := none
  now := some sampleTime

end FuturesBot.Replay
