import FuturesBot.DictsOfLists
import FuturesBot.ReplayTimelines

/-! Coverage reports over replay timelines: their issues, the summary of counts, and the store that
keeps them. Messages, which start and end with fixed text, are left out of issues. -/
namespace FuturesBot.Replay

open TextLines DateTimes Dicts Checks

inductive ReplayTimelineCoverageStatus where
  | PLANNED
  | GENERATED
  | INVALIDATED
  deriving DecidableEq, Repr

def ReplayTimelineCoverageStatus.value : ReplayTimelineCoverageStatus → String
  | .PLANNED => "PLANNED"
  | .GENERATED => "GENERATED"
  | .INVALIDATED => "INVALIDATED"

inductive ReplayTimelineCoverageIssueSeverity where
  | INFO
  | WARNING
  | ERROR
  deriving DecidableEq, Repr

def ReplayTimelineCoverageIssueSeverity.value : ReplayTimelineCoverageIssueSeverity → String
  | .INFO => "INFO"
  | .WARNING => "WARNING"
  | .ERROR => "ERROR"

inductive ReplayTimelineCoverageIssueKind where
  | EMPTY_TIMELINE
  | MISSING_EXPECTED_KIND
  | MISSING_EXPECTED_INSTRUMENT
  | EVENT_TIME_GAP
  | START_COVERAGE_GAP
  | END_COVERAGE_GAP
  | DUPLICATE_EVENT_REF
  | ORDERING_ANOMALY
  | OTHER
  deriving DecidableEq, Repr

/-- Why a coverage report or diff is refused. A failed check of a model carries its message. -/
inductive CoverageError where
  | check (message : String)
  | timelineNotFound (timeline_id : String)
  | baselineNotFound (report_id : String)
  | candidateNotFound (report_id : String)
  | reportConflict (report_id : String)
  | diffConflict (diff_id : String)
  deriving DecidableEq

structure ReplayTimelineCoverageIssue where
  issue_id : TrimmedText
  kind : ReplayTimelineCoverageIssueKind
  severity : ReplayTimelineCoverageIssueSeverity
  event_id : Option TrimmedText
  instrument_key : Option TrimmedText
  input_kind : Option ReplayInputKind
  observed_count : Option ℕ
  expected_count : Option ℕ
  deriving DecidableEq

/-! Summaries. -/

/-- A summary before its own check. -/
structure CoverageSummaryFields where
  total_events : ℕ
  first_event_at : Option DateTime
  last_event_at : Option DateTime
  event_count_by_kind : Dict ReplayInputKind ℕ
  event_count_by_instrument : Dict String ℕ
  event_count_by_dataset : Dict String ℕ
  issue_count_by_severity : Dict ReplayTimelineCoverageIssueSeverity ℕ

namespace CoverageSummaryFields

variable (s : CoverageSummaryFields)

def validateKeys : List (Check CoverageError) :=
  [require ("" ∉ s.event_count_by_instrument.keys)
      (.check "mapping keys must be non-empty strings"),
    require ("" ∉ s.event_count_by_dataset.keys)
      (.check "mapping keys must be non-empty strings")]

/-- `_validate_summary`. -/
def validateSummary : List (Check CoverageError) :=
  s.validateKeys ++
    [require (s.total_events = 0 → s.first_event_at = none ∧ s.last_event_at = none)
        (.check "first_event_at and last_event_at must be None when total_events is 0"),
      require (s.total_events = 0 → s.event_count_by_kind.keys = [] ∧
          s.event_count_by_instrument.keys = [] ∧ s.event_count_by_dataset.keys = [])
        (.check "event count mappings must be empty when total_events is 0"),
      require (s.total_events ≠ 0 → s.first_event_at ≠ none ∧ s.last_event_at ≠ none)
        (.check "first_event_at and last_event_at are required when total_events > 0"),
      require (∀ first ∈ s.first_event_at, ∀ last ∈ s.last_event_at, ¬ last < first)
        (.check "first_event_at must be <= last_event_at"),
      require (0 < s.total_events → s.event_count_by_kind.total = s.total_events)
        (.check "sum of event_count_by_kind must equal total_events"),
      require (0 < s.total_events → s.event_count_by_instrument.total = s.total_events)
        (.check "sum of event_count_by_instrument must equal total_events"),
      require (0 < s.total_events → s.event_count_by_dataset.total = s.total_events)
        (.check "sum of event_count_by_dataset must equal total_events")]

/-- `==`: dictionaries are compared whatever the order of their keys. -/
def Equals (t : CoverageSummaryFields) : Prop :=
  s.total_events = t.total_events ∧ s.first_event_at = t.first_event_at ∧
    s.last_event_at = t.last_event_at ∧ s.event_count_by_kind.Same t.event_count_by_kind ∧
    s.event_count_by_instrument.Same t.event_count_by_instrument ∧
    s.event_count_by_dataset.Same t.event_count_by_dataset ∧
    s.issue_count_by_severity.Same t.issue_count_by_severity

instance (t : CoverageSummaryFields) : Decidable (s.Equals t) :=
  inferInstanceAs (Decidable (_ ∧ _))

end CoverageSummaryFields

structure ReplayTimelineCoverageSummary extends CoverageSummaryFields where
  valid : checkAll toCoverageSummaryFields.validateSummary = .ok ()

def ReplayTimelineCoverageSummary.of (s : CoverageSummaryFields) :
    Except CoverageError ReplayTimelineCoverageSummary :=
  validated (checkAll s.validateSummary) fun h => ⟨s, h⟩

/-! Reports. -/

/-- A report before its own check. -/
structure CoverageReportFields where
  report_id : TrimmedText
  timeline_id : TrimmedText
  replay_plan_id : TrimmedText
  temporal_window : TemporalWindow
  generated_at : DateTime
  status : ReplayTimelineCoverageStatus
  summary : ReplayTimelineCoverageSummary
  issues : List ReplayTimelineCoverageIssue
  expected_input_kinds : List ReplayInputKind
  expected_instrument_keys : List String
  notes : Option TrimmedText

namespace CoverageReportFields

variable (r : CoverageReportFields)

/-- `_validate_report`. -/
def validateReport : List (Check CoverageError) :=
  [require (r.issues.map (·.issue_id)).Nodup
      (.check "duplicate issue_id values are not allowed"),
    require r.expected_input_kinds.Nodup
      (.check "duplicate expected_input_kinds are not allowed"),
    require r.expected_instrument_keys.Nodup
      (.check "duplicate expected_instrument_keys are not allowed"),
    require (∀ key ∈ r.expected_instrument_keys, Trimmed key.toList)
      (.check "expected_instrument_keys element must be a non-empty trimmed string"),
    require (r.summary.issue_count_by_severity.Same (countKeys (r.issues.map (·.severity))))
      (.check "summary.issue_count_by_severity must match the actual issue severity counts")]

/-- `==` on reports. -/
def Equals (s : CoverageReportFields) : Prop :=
  r.report_id = s.report_id ∧ r.timeline_id = s.timeline_id ∧
    r.replay_plan_id = s.replay_plan_id ∧ r.temporal_window = s.temporal_window ∧
    r.generated_at = s.generated_at ∧ r.status = s.status ∧
    r.summary.Equals s.summary.toCoverageSummaryFields ∧ r.issues = s.issues ∧
    r.expected_input_kinds = s.expected_input_kinds ∧
    r.expected_instrument_keys = s.expected_instrument_keys ∧ r.notes = s.notes

instance (s : CoverageReportFields) : Decidable (r.Equals s) :=
  inferInstanceAs (Decidable (_ ∧ _))

end CoverageReportFields

structure ReplayTimelineCoverageReport extends CoverageReportFields where
  valid : checkAll toCoverageReportFields.validateReport = .ok ()

def ReplayTimelineCoverageReport.of (r : CoverageReportFields) :
    Except CoverageError ReplayTimelineCoverageReport :=
  validated (checkAll r.validateReport) fun h => ⟨r, h⟩

abbrev InMemoryReplayTimelineCoverageReportStore :=
  KeyedDict fun report : ReplayTimelineCoverageReport => report.report_id.value

def InMemoryReplayTimelineCoverageReportStore.save
    (store : InMemoryReplayTimelineCoverageReportStore) (report : ReplayTimelineCoverageReport) :
    Except CoverageError InMemoryReplayTimelineCoverageReportStore :=
  match store.get? report.report_id.value with
  | none => .ok (store.put report)
  | some existing =>
    if existing.Equals report.toCoverageReportFields then .ok store
    else .error (.reportConflict report.report_id.value)

end FuturesBot.Replay
