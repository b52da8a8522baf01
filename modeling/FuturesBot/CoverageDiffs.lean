import FuturesBot.CoverageAudit
import Mathlib.Data.List.Dedup

/-! Diffs between two coverage reports: what each comparison finds, the diff with its own checks, the
store that keeps diffs, and the differ. Messages, which start and end with fixed text, are left out
of items. -/
namespace FuturesBot.Replay

open TextLines DateTimes Dicts KeySorting Checks

inductive ReplayTimelineCoverageDiffStatus where
  | PLANNED
  | GENERATED
  | INVALIDATED
  deriving DecidableEq, Repr

inductive ReplayTimelineCoverageDiffDirection where
  | BASELINE_TO_CANDIDATE
  deriving DecidableEq, Repr

inductive ReplayTimelineCoverageDiffSeverity where
  | INFO
  | WARNING
  | ERROR
  deriving DecidableEq, Repr

inductive ReplayTimelineCoverageDiffKind where
  | TOTAL_EVENT_COUNT_CHANGED
  | KIND_COUNT_CHANGED
  | INSTRUMENT_COUNT_CHANGED
  | DATASET_COUNT_CHANGED
  | ISSUE_SEVERITY_COUNT_CHANGED
  | EXPECTED_KIND_SET_CHANGED
  | EXPECTED_INSTRUMENT_SET_CHANGED
  | FIRST_EVENT_TIME_CHANGED
  | LAST_EVENT_TIME_CHANGED
  | REPORT_STATUS_CHANGED
  | OTHER
  deriving DecidableEq, Repr

structure ReplayTimelineCoverageDiffItem where
  item_id : TrimmedText
  kind : ReplayTimelineCoverageDiffKind
  severity : ReplayTimelineCoverageDiffSeverity
  key : Option TrimmedText
  baseline_value : Option TrimmedText
  candidate_value : Option TrimmedText
  numeric_delta : Option ℤ
  deriving DecidableEq

/-! Items, before their texts are checked. -/

/-- One side of an item: nothing, a text, or a count still to be written. -/
inductive DiffValue where
  | absent
  | text (value : String)
  | count (n : ℕ)
  deriving DecidableEq

/-- An integer of more than 4300 digits is not written by `str`. -/
def Writable (n : ℕ) : Prop := (JsonText.natText n).length ≤ 4300

instance (n : ℕ) : Decidable (Writable n) := inferInstanceAs (Decidable (_ ≤ _))

def DiffValue.written : DiffValue → Except CoverageError (Option String)
  | .absent => .ok none
  | .text value => .ok (some value)
  | .count n =>
    if Writable n then .ok (some (String.ofList (JsonText.natText n)))
    else .error (.check "Exceeds the limit (4300 digits) for integer string conversion")

structure RawDiffItem where
  item_id : String
  kind : ReplayTimelineCoverageDiffKind
  severity : ReplayTimelineCoverageDiffSeverity
  key : Option String := none
  baseline_value : DiffValue
  candidate_value : DiffValue
  numeric_delta : Option ℤ := none

def RawDiffItem.build (raw : RawDiffItem) : Except CoverageError ReplayTimelineCoverageDiffItem := do
  let baseline_text ← raw.baseline_value.written
  let candidate_text ← raw.candidate_value.written
  let item_id ← requiredText raw.item_id "field must be a non-empty trimmed string"
  let key ← optionalText "field must be a non-empty trimmed string" raw.key
  let baseline_value ← optionalText "field must be a non-empty trimmed string" baseline_text
  let candidate_value ← optionalText "field must be a non-empty trimmed string" candidate_text
  .ok {
    item_id
    kind := raw.kind
    severity := raw.severity
    key
    baseline_value
    candidate_value
    numeric_delta := raw.numeric_delta }

/-! The comparisons. -/

def diffStatus (diff_id : String) (baseline candidate : ReplayTimelineCoverageReport) :
    List RawDiffItem :=
  if baseline.status = candidate.status then []
  else [{
    item_id := diff_id ++ ":status"
    kind := .REPORT_STATUS_CHANGED
    severity := .INFO
    baseline_value := .text baseline.status.value
    candidate_value := .text candidate.status.value }]

/-- `candidate - baseline`. -/
def countDelta (baseline candidate : ℕ) : ℤ := candidate - baseline

def diffTotalEvents (diff_id : String) (baseline candidate : ReplayTimelineCoverageReport) :
    List RawDiffItem :=
  let b_total := baseline.summary.total_events
  let c_total := candidate.summary.total_events
  if b_total = c_total then []
  else [{
    item_id := diff_id ++ ":total-events"
    kind := .TOTAL_EVENT_COUNT_CHANGED
    severity :=
      if c_total = 0 ∧ b_total > 0 then .ERROR
      else if countDelta b_total c_total < 0 then .WARNING
      else .INFO
    baseline_value := .count b_total
    candidate_value := .count c_total
    numeric_delta := some (countDelta b_total c_total) }]

section Keyed
variable {κ : Type} [DecidableEq κ]

/-- The keys of two dictionaries of counts whose counts differ, in the order of their texts. -/
def changedKeys (text : κ → String) (b_map c_map : Dict κ ℕ) : List κ :=
  (sortBy text (b_map.keys ++ c_map.keys).dedup).filter fun k => b_map.count k ≠ c_map.count k

/-- The comparison of two dictionaries of counts, a missing key counting zero. -/
def diffCounts (text : κ → String) (tag : String) (kind : ReplayTimelineCoverageDiffKind)
    (severity : κ → ℤ → ReplayTimelineCoverageDiffSeverity) (diff_id : String)
    (b_map c_map : Dict κ ℕ) : List RawDiffItem :=
  (changedKeys text b_map c_map).map fun k => {
    item_id := diff_id ++ tag ++ text k
    kind
    severity := severity k (countDelta (b_map.count k) (c_map.count k))
    key := some (text k)
    baseline_value := .count (b_map.count k)
    candidate_value := .count (c_map.count k)
    numeric_delta := some (countDelta (b_map.count k) (c_map.count k)) }

/-- The members of one of two sets that are not in the other, in the order of their texts. -/
def changedMembers (text : κ → String) (b_set c_set : List κ) : List κ :=
  sortBy text ((b_set ++ c_set).dedup.filter fun k => ¬(k ∈ b_set ∧ k ∈ c_set))

/-- The comparison of two sets: equal sets have no changed member. -/
def diffMembers (text : κ → String) (tag : String) (kind : ReplayTimelineCoverageDiffKind)
    (diff_id : String) (b_set c_set : List κ) : List RawDiffItem :=
  (changedMembers text b_set c_set).map fun k => {
    item_id := diff_id ++ tag ++ text k
    kind
    severity := .INFO
    baseline_value := if k ∈ b_set then .text (text k) else .absent
    candidate_value := if k ∈ b_set then .absent else .text (text k) }

end Keyed

def lossSeverity {κ : Type} (_ : κ) (delta : ℤ) : ReplayTimelineCoverageDiffSeverity :=
  if delta < 0 then .WARNING else .INFO

def issueSeverity (issue_sev : ReplayTimelineCoverageIssueSeverity) (delta : ℤ) :
    ReplayTimelineCoverageDiffSeverity :=
  if issue_sev = .ERROR ∧ delta > 0 then .ERROR
  else if (issue_sev = .ERROR ∨ issue_sev = .WARNING) ∧ delta > 0 then .WARNING
  else .INFO

def diffKindCounts (diff_id : String) (baseline candidate : ReplayTimelineCoverageReport) :
    List RawDiffItem :=
  diffCounts ReplayInputKind.value ":kind:" .KIND_COUNT_CHANGED lossSeverity diff_id
    baseline.summary.event_count_by_kind candidate.summary.event_count_by_kind

def diffInstrumentCounts (diff_id : String) (baseline candidate : ReplayTimelineCoverageReport) :
    List RawDiffItem :=
  diffCounts id ":instrument:" .INSTRUMENT_COUNT_CHANGED lossSeverity diff_id
    baseline.summary.event_count_by_instrument candidate.summary.event_count_by_instrument

def diffDatasetCounts (diff_id : String) (baseline candidate : ReplayTimelineCoverageReport) :
    List RawDiffItem :=
  diffCounts id ":dataset:" .DATASET_COUNT_CHANGED lossSeverity diff_id
    baseline.summary.event_count_by_dataset candidate.summary.event_count_by_dataset

def diffIssueSeverityCounts (diff_id : String)
    (baseline candidate : ReplayTimelineCoverageReport) : List RawDiffItem :=
  diffCounts ReplayTimelineCoverageIssueSeverity.value ":issue-severity:"
    .ISSUE_SEVERITY_COUNT_CHANGED issueSeverity diff_id
    baseline.summary.issue_count_by_severity candidate.summary.issue_count_by_severity

def diffExpectedKinds (diff_id : String) (baseline candidate : ReplayTimelineCoverageReport) :
    List RawDiffItem :=
  diffMembers ReplayInputKind.value ":expected-kind:" .EXPECTED_KIND_SET_CHANGED diff_id
    baseline.expected_input_kinds candidate.expected_input_kinds

def diffExpectedInstruments (diff_id : String)
    (baseline candidate : ReplayTimelineCoverageReport) : List RawDiffItem :=
  diffMembers id ":expected-instrument:" .EXPECTED_INSTRUMENT_SET_CHANGED diff_id
    baseline.expected_instrument_keys candidate.expected_instrument_keys

def timeValue : Option DateTime → DiffValue
  | none => .absent
  | some t => .text (isoformat t)

/-- The comparison of two times, either of which may be missing. -/
def diffTime (tag : String) (kind : ReplayTimelineCoverageDiffKind) (diff_id : String)
    (b_val c_val : Option DateTime) : List RawDiffItem :=
  if b_val = c_val then []
  else [{
    item_id := diff_id ++ tag
    kind
    severity := .INFO
    baseline_value := timeValue b_val
    candidate_value := timeValue c_val }]

def diffEventTimes (diff_id : String) (baseline candidate : ReplayTimelineCoverageReport) :
    List RawDiffItem :=
  diffTime ":first-event-at" .FIRST_EVENT_TIME_CHANGED diff_id
      baseline.summary.first_event_at candidate.summary.first_event_at ++
    diffTime ":last-event-at" .LAST_EVENT_TIME_CHANGED diff_id
      baseline.summary.last_event_at candidate.summary.last_event_at

/-! Diffs. -/

/-- A summary of items before its own check. -/
structure DiffSummaryFields where
  total_items : ℕ
  item_count_by_kind : Dict ReplayTimelineCoverageDiffKind ℕ
  item_count_by_severity : Dict ReplayTimelineCoverageDiffSeverity ℕ
  has_errors : Bool
  has_warnings : Bool

namespace DiffSummaryFields

variable (s : DiffSummaryFields)

/-- `_validate_diff_summary`. -/
def validateDiffSummary : List (Check CoverageError) :=
  [require (s.total_items = 0 →
        s.item_count_by_kind.keys = [] ∧ s.item_count_by_severity.keys = [])
      (.check "count mappings must be empty when total_items is 0"),
    require (s.total_items = 0 → s.has_errors = false ∧ s.has_warnings = false)
      (.check "has_errors and has_warnings must be False when total_items is 0"),
    require (s.total_items ≠ 0 → s.item_count_by_kind.total = s.total_items)
      (.check "sum of item_count_by_kind must equal total_items"),
    require (s.total_items ≠ 0 → s.item_count_by_severity.total = s.total_items)
      (.check "sum of item_count_by_severity must equal total_items"),
    require (s.has_errors = decide (s.item_count_by_severity.count .ERROR > 0))
      (.check "has_errors must match whether ERROR count > 0"),
    require (s.has_warnings = decide (s.item_count_by_severity.count .WARNING > 0))
      (.check "has_warnings must match whether WARNING count > 0")]

/-- `==`: dictionaries are compared whatever the order of their keys. -/
def Equals (t : DiffSummaryFields) : Prop :=
  s.total_items = t.total_items ∧ s.item_count_by_kind.Same t.item_count_by_kind ∧
    s.item_count_by_severity.Same t.item_count_by_severity ∧ s.has_errors = t.has_errors ∧
    s.has_warnings = t.has_warnings

instance (t : DiffSummaryFields) : Decidable (s.Equals t) := inferInstanceAs (Decidable (_ ∧ _))

end DiffSummaryFields

structure ReplayTimelineCoverageDiffSummary extends DiffSummaryFields where
  valid : checkAll toDiffSummaryFields.validateDiffSummary = .ok ()

def ReplayTimelineCoverageDiffSummary.of (s : DiffSummaryFields) :
    Except CoverageError ReplayTimelineCoverageDiffSummary :=
  validated (checkAll s.validateDiffSummary) fun h => ⟨s, h⟩

/-- `_build_diff_summary`, before the check of the summary. -/
def buildDiffSummary (items : List ReplayTimelineCoverageDiffItem) : DiffSummaryFields :=
  let by_kind := countKeys (items.map (·.kind))
  let by_severity := countKeys (items.map (·.severity))
  { total_items := items.length
    item_count_by_kind := by_kind
    item_count_by_severity := by_severity
    has_errors := decide (by_severity.count .ERROR > 0)
    has_warnings := decide (by_severity.count .WARNING > 0) }

/-- A diff before its own check. -/
structure CoverageDiffFields where
  diff_id : TrimmedText
  baseline_report_id : TrimmedText
  candidate_report_id : TrimmedText
  baseline_timeline_id : TrimmedText
  candidate_timeline_id : TrimmedText
  baseline_replay_plan_id : TrimmedText
  candidate_replay_plan_id : TrimmedText
  generated_at : DateTime
  status : ReplayTimelineCoverageDiffStatus
  direction : ReplayTimelineCoverageDiffDirection
  summary : ReplayTimelineCoverageDiffSummary
  items : List ReplayTimelineCoverageDiffItem
  notes : Option TrimmedText

namespace CoverageDiffFields

variable (d : CoverageDiffFields)

/-- `_validate_diff`. -/
def validateDiff : List (Check CoverageError) :=
  [require (d.baseline_report_id ≠ d.candidate_report_id)
      (.check "baseline_report_id and candidate_report_id must differ"),
    require (d.items.map (·.item_id)).Nodup
      (.check "duplicate item_id values are not allowed"),
    require (d.summary.total_items = d.items.length)
      (.check "summary.total_items must equal len(items)"),
    require (d.summary.item_count_by_kind.Same (countKeys (d.items.map (·.kind))))
      (.check "summary.item_count_by_kind must match actual item kind counts"),
    require (d.summary.item_count_by_severity.Same (countKeys (d.items.map (·.severity))))
      (.check "summary.item_count_by_severity must match actual item severity counts")]

/-- `==` on diffs. -/
def Equals (e : CoverageDiffFields) : Prop :=
  d.diff_id = e.diff_id ∧ d.baseline_report_id = e.baseline_report_id ∧
    d.candidate_report_id = e.candidate_report_id ∧
    d.baseline_timeline_id = e.baseline_timeline_id ∧
    d.candidate_timeline_id = e.candidate_timeline_id ∧
    d.baseline_replay_plan_id = e.baseline_replay_plan_id ∧
    d.candidate_replay_plan_id = e.candidate_replay_plan_id ∧ d.generated_at = e.generated_at ∧
    d.status = e.status ∧ d.direction = e.direction ∧
    d.summary.Equals e.summary.toDiffSummaryFields ∧ d.items = e.items ∧ d.notes = e.notes

instance (e : CoverageDiffFields) : Decidable (d.Equals e) := inferInstanceAs (Decidable (_ ∧ _))

end CoverageDiffFields

structure ReplayTimelineCoverageDiff extends CoverageDiffFields where
  valid : checkAll toCoverageDiffFields.validateDiff = .ok ()

def ReplayTimelineCoverageDiff.of (d : CoverageDiffFields) :
    Except CoverageError ReplayTimelineCoverageDiff :=
  validated (checkAll d.validateDiff) fun h => ⟨d, h⟩

abbrev InMemoryReplayTimelineCoverageDiffStore :=
  KeyedDict fun diff : ReplayTimelineCoverageDiff => diff.diff_id.value

def InMemoryReplayTimelineCoverageDiffStore.save
    (store : InMemoryReplayTimelineCoverageDiffStore) (diff : ReplayTimelineCoverageDiff) :
    Except CoverageError InMemoryReplayTimelineCoverageDiffStore :=
  match store.get? diff.diff_id.value with
  | none => .ok (store.put diff)
  | some existing =>
    if existing.Equals diff.toCoverageDiffFields then .ok store
    else .error (.diffConflict diff.diff_id.value)

/-! The differ. -/

structure DiffRequest where
  diff_id : String
  baseline_report_id : String
  candidate_report_id : String
  notes : Option String
  now : Option DateTime

structure LocalReplayTimelineCoverageDiffer where
  report_store : InMemoryReplayTimelineCoverageReportStore
  diff_store : InMemoryReplayTimelineCoverageDiffStore

namespace LocalReplayTimelineCoverageDiffer

/-- The items in the order in which they are found. -/
def rawItems (diff_id : String) (baseline candidate : ReplayTimelineCoverageReport) :
    List RawDiffItem :=
  diffStatus diff_id baseline candidate ++ diffTotalEvents diff_id baseline candidate ++
    diffKindCounts diff_id baseline candidate ++ diffInstrumentCounts diff_id baseline candidate ++
    diffDatasetCounts diff_id baseline candidate ++
    diffIssueSeverityCounts diff_id baseline candidate ++
    diffExpectedKinds diff_id baseline candidate ++
    diffExpectedInstruments diff_id baseline candidate ++ diffEventTimes diff_id baseline candidate

/-- The diff of two reports that were found. -/
def diffOf (request : DiffRequest) (baseline candidate : ReplayTimelineCoverageReport) :
    Except CoverageError ReplayTimelineCoverageDiff := do
  let items ← buildAll RawDiffItem.build (rawItems request.diff_id baseline candidate)
  let summary ← ReplayTimelineCoverageDiffSummary.of (buildDiffSummary items)
  let diff_id ← requiredText request.diff_id "field must be a non-empty trimmed string"
  let baseline_report_id ←
    requiredText request.baseline_report_id "field must be a non-empty trimmed string"
  let candidate_report_id ←
    requiredText request.candidate_report_id "field must be a non-empty trimmed string"
  let notes ← optionalText "notes must be a non-empty trimmed string" request.notes
  match request.now with
  | none => .error (.check "timestamp must be timezone-aware")
  | some generated_at =>
    ReplayTimelineCoverageDiff.of {
      diff_id
      baseline_report_id
      candidate_report_id
      baseline_timeline_id := baseline.timeline_id
      candidate_timeline_id := candidate.timeline_id
      baseline_replay_plan_id := baseline.replay_plan_id
      candidate_replay_plan_id := candidate.replay_plan_id
      generated_at
      status := .GENERATED
      direction := .BASELINE_TO_CANDIDATE
      summary
      items
      notes }

/-- `generate_diff`. -/
def generateDiff (differ : LocalReplayTimelineCoverageDiffer) (request : DiffRequest) :
    Except CoverageError (LocalReplayTimelineCoverageDiffer × ReplayTimelineCoverageDiff) :=
  if request.baseline_report_id = request.candidate_report_id then
    .error (.check "baseline_report_id and candidate_report_id must differ")
  else
    match differ.report_store.get? request.baseline_report_id with
    | none => .error (.baselineNotFound request.baseline_report_id)
    | some baseline =>
      match differ.report_store.get? request.candidate_report_id with
      | none => .error (.candidateNotFound request.candidate_report_id)
      | some candidate => do
        let diff ← diffOf request baseline candidate
        let diff_store ← InMemoryReplayTimelineCoverageDiffStore.save differ.diff_store diff
        .ok ({ differ with diff_store }, diff)

end LocalReplayTimelineCoverageDiffer

end FuturesBot.Replay
