import FuturesBot.CoverageReports
import FuturesBot.FloatOrder

/-! The coverage auditor: it counts the events of a timeline and reports what is missing from it,
the gaps between its events, and the gaps at the ends of its window. -/
namespace FuturesBot.Replay

open TextLines DateTimes Dicts Checks BinaryFloats

/-- `_instrument_key`. -/
def instrumentKeyOf (instrument : ReplayInstrumentRef) : String :=
  instrument.venue.value ++ ":" ++ instrument.symbol.value ++ ":" ++
    instrument.settlement_asset.value

structure CoverageRequest where
  report_id : String
  timeline_id : String
  expected_input_kinds : List ReplayInputKind
  expected_instrument_keys : List String
  max_event_gap_seconds : Option ℤ
  notes : Option String
  now : Option DateTime

/-! Issues, before their texts are checked. -/

structure RawIssue where
  issue_id : String
  kind : ReplayTimelineCoverageIssueKind
  severity : ReplayTimelineCoverageIssueSeverity
  event_id : Option TrimmedText := none
  instrument_key : Option String := none
  input_kind : Option ReplayInputKind := none

def requiredText (value message : String) : Except CoverageError TrimmedText :=
  match TrimmedText.of value with
  | none => .error (.check message)
  | some value => .ok value

def optionalText (message : String) : Option String → Except CoverageError (Option TrimmedText)
  | none => .ok none
  | some value => (requiredText value message).map some

def RawIssue.build (raw : RawIssue) : Except CoverageError ReplayTimelineCoverageIssue := do
  let issue_id ← requiredText raw.issue_id "field must be a non-empty trimmed string"
  let instrument_key ←
    optionalText "field must be a non-empty trimmed string" raw.instrument_key
  .ok {
    issue_id
    kind := raw.kind
    severity := raw.severity
    event_id := raw.event_id
    instrument_key
    input_kind := raw.input_kind
    observed_count := none
    expected_count := none }

def buildIssues : List RawIssue → Except CoverageError (List ReplayTimelineCoverageIssue)
  | [] => .ok []
  | raw :: raws => do
    let issue ← raw.build
    let issues ← buildIssues raws
    .ok (issue :: issues)

def emptyIssues (report_id : String) (events : List ReplayTimelineEvent) : List RawIssue :=
  if events = [] then
    [{ issue_id := report_id ++ ":empty", kind := .EMPTY_TIMELINE, severity := .ERROR }]
  else []

def missingKindIssues (report_id : String) (expected_input_kinds present : List ReplayInputKind) :
    List RawIssue :=
  (expected_input_kinds.filter fun kind => kind ∉ present).map fun kind => {
    issue_id := report_id ++ ":missing-kind:" ++ kind.value
    kind := .MISSING_EXPECTED_KIND
    severity := .WARNING
    input_kind := some kind }

def missingInstrumentIssues (report_id : String)
    (expected_instrument_keys present : List String) : List RawIssue :=
  (expected_instrument_keys.filter fun ikey => ikey ∉ present).map fun ikey => {
    issue_id := report_id ++ ":missing-instrument:" ++ ikey
    kind := .MISSING_EXPECTED_INSTRUMENT
    severity := .WARNING
    instrument_key := some ikey }

/-- Each element of a list with the next one. -/
def adjacent {α : Type} (l : List α) : List (α × α) := l.zip l.tail

/-- The microseconds from one event to another. -/
def eventGap (pair : ReplayTimelineEvent × ReplayTimelineEvent) : ℤ :=
  (pair.2.event_time.micros : ℤ) - pair.1.event_time.micros

def gapExceeds (max_event_gap_seconds : ℕ) (pair : ReplayTimelineEvent × ReplayTimelineEvent) :
    Bool :=
  secondsExceed (eventGap pair) max_event_gap_seconds

def gapIssues (report_id : String) (events : List ReplayTimelineEvent)
    (max_event_gap_seconds : ℕ) : List RawIssue :=
  ((adjacent events).filter (gapExceeds max_event_gap_seconds)).mapIdx fun gap_index pair => {
    issue_id := report_id ++ ":gap:" ++ String.ofList (JsonText.natText gap_index)
    kind := .EVENT_TIME_GAP
    severity := .WARNING
    event_id := some pair.2.event_id }

/-- The gaps are looked for when a bound is given. -/
def boundedGapIssues (report_id : String) (events : List ReplayTimelineEvent) :
    Option ℤ → List RawIssue
  | none => []
  | some max_event_gap_seconds => gapIssues report_id events max_event_gap_seconds.toNat

/-- `min` and `max` of a list of times. -/
def eventTimeBounds (events : List ReplayTimelineEvent) : Option DateTime × Option DateTime :=
  match events.map (·.event_time) with
  | [] => (none, none)
  | t :: ts => (some (ts.foldl (fun m t => if t < m then t else m) t),
      some (ts.foldl (fun m t => if m < t then t else m) t))

def coverageGapIssues (report_id : String) (events : List ReplayTimelineEvent)
    (temporal_window : TemporalWindow) : List RawIssue :=
  match eventTimeBounds events with
  | (some first_event_at, some last_event_at) =>
    (if temporal_window.start_at < first_event_at then
      [{ issue_id := report_id ++ ":start-gap", kind := .START_COVERAGE_GAP,
         severity := .WARNING }]
    else []) ++
    (if last_event_at < temporal_window.end_at then
      [{ issue_id := report_id ++ ":end-gap", kind := .END_COVERAGE_GAP, severity := .WARNING }]
    else [])
  | _ => []

/-! The report. -/

structure LocalReplayTimelineCoverageAuditor where
  timeline_store : InMemoryReplayTimelineStore
  report_store : InMemoryReplayTimelineCoverageReportStore

namespace LocalReplayTimelineCoverageAuditor

/-- The issues in the order in which they are found. -/
def rawIssues (request : CoverageRequest) (timeline : ReplayTimeline) : List RawIssue :=
  emptyIssues request.report_id timeline.events ++
    missingKindIssues request.report_id request.expected_input_kinds
      (countKeys (timeline.events.map (·.kind))).keys ++
    missingInstrumentIssues request.report_id request.expected_instrument_keys
      (countKeys (timeline.events.map (instrumentKeyOf ·.instrument))).keys ++
    boundedGapIssues request.report_id timeline.events request.max_event_gap_seconds ++
    coverageGapIssues request.report_id timeline.events timeline.temporal_window

def summaryFields (timeline : ReplayTimeline) (issues : List ReplayTimelineCoverageIssue) :
    CoverageSummaryFields where
  total_events := timeline.events.length
  first_event_at := (eventTimeBounds timeline.events).1
  last_event_at := (eventTimeBounds timeline.events).2
  event_count_by_kind := countKeys (timeline.events.map (·.kind))
  event_count_by_instrument := countKeys (timeline.events.map (instrumentKeyOf ·.instrument))
  event_count_by_dataset := countKeys (timeline.events.map (·.input_dataset_id.value))
  issue_count_by_severity := countKeys (issues.map (·.severity))

/-- The report on a timeline that was found. -/
def reportOn (request : CoverageRequest) (timeline : ReplayTimeline) :
    Except CoverageError ReplayTimelineCoverageReport := do
  let issues ← buildIssues (rawIssues request timeline)
  let summary ← ReplayTimelineCoverageSummary.of (summaryFields timeline issues)
  let report_id ← requiredText request.report_id "field must be a non-empty trimmed string"
  let timeline_id ← requiredText request.timeline_id "field must be a non-empty trimmed string"
  let notes ← optionalText "notes must be a non-empty trimmed string" request.notes
  match request.now with
  | none => .error (.check "timestamp must be timezone-aware")
  | some generated_at =>
    ReplayTimelineCoverageReport.of {
      report_id
      timeline_id
      replay_plan_id := timeline.replay_plan_id
      temporal_window := timeline.temporal_window
      generated_at
      status := .GENERATED
      summary
      issues
      expected_input_kinds := request.expected_input_kinds
      expected_instrument_keys := request.expected_instrument_keys
      notes }

/-- `generate_report`. -/
def generateReport (auditor : LocalReplayTimelineCoverageAuditor) (request : CoverageRequest) :
    Except CoverageError (LocalReplayTimelineCoverageAuditor × ReplayTimelineCoverageReport) :=
  match checkAll [require (∀ seconds ∈ request.max_event_gap_seconds, 0 < seconds)
    (CoverageError.check "max_event_gap_seconds must be > 0")] with
  | .error e => .error e
  | .ok () =>
    match auditor.timeline_store.get? request.timeline_id with
    | none => .error (.timelineNotFound request.timeline_id)
    | some timeline => do
      let report ← reportOn request timeline
      let report_store ←
        InMemoryReplayTimelineCoverageReportStore.save auditor.report_store report
      .ok ({ auditor with report_store }, report)

end LocalReplayTimelineCoverageAuditor

end FuturesBot.Replay
