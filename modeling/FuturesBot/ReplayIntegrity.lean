import FuturesBot.AppendOnly
import FuturesBot.ReplayRuntime
import FuturesBot.StoreActions
import Mathlib.Algebra.BigOperators.Group.Finset.Defs
import Mathlib.Data.Fintype.Pi

/-! Fingerprints of replay artifacts, the batches that verify them, the readiness of a plan, and
the manifests that are planned from it. -/
namespace FuturesBot.Integrity

open JsonText (Json Text)
open TextLines DateTimes Dicts KeySorting Checks StoreActions
open Replay (ReplayArtifactKind ReplayRunManifestStatus)

/-- Why a call is refused. A failed check of a model carries its message. -/
inductive IntegrityError where
  | check (message : String)
  | artifactNotFound (kind : ReplayArtifactKind) (artifact_id : String)
  | readinessNotFound (report_id : String)
  | batchMissing (report_id : String)
  | readyCountMismatch (latest_batch_total_fingerprints total_fingerprints : ℕ)
  | noFingerprints (replay_plan_id : String)
  | staleCount (stored reported : ℕ)
  | fingerprintAfterBatch (fingerprint_id : String)
  | conflict (field id : String)
  deriving DecidableEq

/-! The artifacts, as far as they are fingerprinted: what a model dumps as JSON. -/

structure TimelineArtifact where
  timeline_id : TrimmedText
  replay_plan_id : TrimmedText
  dumped : Json

structure CoverageReport where
  report_id : TrimmedText
  replay_plan_id : TrimmedText
  generated_at : DateTime
  error_issue_count : ℕ
  dumped : Json

structure CoverageDiff where
  diff_id : TrimmedText
  baseline_replay_plan_id : TrimmedText
  candidate_replay_plan_id : TrimmedText
  dumped : Json

/-! Fingerprints. -/

def artifactKindValue : ReplayArtifactKind → String
  | .TIMELINE => "TIMELINE"
  | .COVERAGE_REPORT => "COVERAGE_REPORT"
  | .COVERAGE_DIFF => "COVERAGE_DIFF"

/-- `_make_canonical_payload`. -/
def makeCanonicalPayload (artifact_kind : ReplayArtifactKind) (data : Json) : Text :=
  Replay.canonicalJson
    (.obj [("artifact_kind", .str (artifactKindValue artifact_kind)), ("artifact", data)])

structure ReplayArtifactFingerprint extends Replay.ReplayArtifactFingerprint where
  canonical_payload : Text
  notes : Option TrimmedText
  deriving DecidableEq

inductive VerificationStatus where
  | VALID
  | MISMATCH
  | MISSING_FINGERPRINT
  | MISSING_ARTIFACT
  | INVALIDATED
  deriving DecidableEq, Repr

instance : Fintype VerificationStatus where
  elems := {.VALID, .MISMATCH, .MISSING_FINGERPRINT, .MISSING_ARTIFACT, .INVALIDATED}
  complete status := by cases status <;> decide

inductive VerificationIssueKind where
  | FINGERPRINT_NOT_FOUND
  | ARTIFACT_NOT_FOUND
  | HASH_MISMATCH
  | CANONICAL_PAYLOAD_MISMATCH
  deriving DecidableEq, Repr

structure ReplayArtifactFingerprintVerification where
  verification_id : TrimmedText
  fingerprint_id : TrimmedText
  artifact_kind : Option ReplayArtifactKind
  artifact_id : Option TrimmedText
  replay_plan_id : Option TrimmedText
  verified_at : DateTime
  status : VerificationStatus
  stored_canonical_payload : Option Text
  recomputed_canonical_payload : Option Text
  issues : List VerificationIssueKind
  notes : Option TrimmedText
  deriving DecidableEq

/-! Batches. -/

inductive BatchStatus where
  | GENERATED
  | INVALIDATED
  deriving DecidableEq, Repr

inductive BatchScopeKind where
  | EXPLICIT_FINGERPRINT_SET
  | REPLAY_PLAN
  | ARTIFACT_SET
  | OTHER
  deriving DecidableEq, Repr

structure BatchItem where
  item_id : String
  fingerprint_id : String
  verification_id : String
  verification_status : VerificationStatus
  artifact_kind : Option ReplayArtifactKind
  artifact_id : Option String
  replay_plan_id : Option String
  issue_count : ℕ
  deriving DecidableEq

structure BatchSummary where
  total_fingerprints : ℕ
  count_by_status : VerificationStatus → Option ℕ
  total_issues : ℕ
  all_valid : Bool
  has_mismatches : Bool
  has_missing : Bool
  deriving DecidableEq

structure BatchReport where
  report_id : String
  scope_kind : BatchScopeKind
  replay_plan_id : Option String
  generated_at : DateTime
  status : BatchStatus
  summary : BatchSummary
  items : List BatchItem
  requested_fingerprint_ids : List String
  notes : Option TrimmedText
  deriving DecidableEq

def statusCount (items : List BatchItem) (status : VerificationStatus) : ℕ :=
  items.countP fun i => i.verification_status = status

/-- `_build_batch_summary`. -/
def buildBatchSummary (items : List BatchItem) : BatchSummary where
  total_fingerprints := items.length
  count_by_status status := if 0 < statusCount items status then statusCount items status else none
  total_issues := (items.map fun i => i.issue_count).sum
  all_valid := 0 < items.length ∧ statusCount items .VALID = items.length
  has_mismatches := 0 < statusCount items .MISMATCH
  has_missing := 0 < statusCount items .MISSING_FINGERPRINT + statusCount items .MISSING_ARTIFACT

/-- `_infer_replay_plan_id_from_items`. -/
def inferReplayPlanId (items : List BatchItem) : Option String :=
  match (items.map fun i => i.replay_plan_id).dedup with
  | [plan_id] => plan_id
  | _ => none

/-- `_validate_ids`. -/
def BatchItem.validate (i : BatchItem) : List (Check IntegrityError) :=
  [require (i.item_id ≠ "") (.check "item_id must be non-empty"),
    require (i.fingerprint_id ≠ "") (.check "fingerprint_id must be non-empty"),
    require (i.verification_id ≠ "") (.check "verification_id must be non-empty"),
    require (i.artifact_id ≠ some "") (.check "artifact_id must be non-empty if provided"),
    require (i.replay_plan_id ≠ some "") (.check "replay_plan_id must be non-empty if provided"),
    require (i.verification_status = .VALID → i.issue_count = 0)
      (.check "VALID batch item requires issue_count == 0"),
    require (i.verification_status = .MISMATCH ∨ i.verification_status = .MISSING_FINGERPRINT ∨
        i.verification_status = .MISSING_ARTIFACT → i.issue_count ≠ 0)
      (.check "non-VALID failed batch item requires issue_count > 0")]

def BatchSummary.countOf (s : BatchSummary) (status : VerificationStatus) : ℕ :=
  (s.count_by_status status).getD 0

/-- `_validate_counts`. -/
def BatchSummary.validate (s : BatchSummary) : List (Check IntegrityError) :=
  [require (s.total_fingerprints = 0 → ∀ status, s.count_by_status status = none)
      (.check "count_by_status must be empty when total_fingerprints == 0"),
    require (∑ status, s.countOf status = s.total_fingerprints)
      (.check "sum of count_by_status values must equal total_fingerprints"),
    require (s.all_valid = decide (0 < s.total_fingerprints ∧
        s.countOf .VALID = s.total_fingerprints))
      (.check "all_valid is inconsistent with count_by_status"),
    require (s.all_valid = true → s.total_issues = 0)
      (.check "all_valid summary requires total_issues == 0"),
    require (s.has_mismatches = decide (0 < s.countOf .MISMATCH))
      (.check "has_mismatches is inconsistent with count_by_status"),
    require (s.has_missing = decide (0 < s.countOf .MISSING_FINGERPRINT +
        s.countOf .MISSING_ARTIFACT))
      (.check "has_missing is inconsistent with count_by_status")]

/-- `_validate_batch_summary_matches_items`. -/
def BatchReport.validateSummary (r : BatchReport) : List (Check IntegrityError) :=
  [require (r.items.length = r.summary.total_fingerprints)
      (.check "summary.total_fingerprints does not match len(items)"),
    require (∀ status, r.summary.countOf status = statusCount r.items status)
      (.check "summary.count_by_status does not match items"),
    require ((r.items.map fun i => i.issue_count).sum = r.summary.total_issues)
      (.check "summary.total_issues does not match sum of item.issue_count")]

/-- `_validate_report`, after what its items and its summary check. -/
def BatchReport.validate (r : BatchReport) : List (Check IntegrityError) :=
  r.items.flatMap BatchItem.validate ++ r.summary.validate ++
  [require (r.report_id ≠ "") (.check "report_id must be non-empty"),
    require (r.replay_plan_id ≠ some "") (.check "replay_plan_id must be non-empty if provided"),
    require ("" ∉ r.requested_fingerprint_ids)
      (.check "requested_fingerprint_ids must not contain empty strings"),
    require r.requested_fingerprint_ids.Nodup
      (.check "duplicate fingerprint_id in requested_fingerprint_ids"),
    require (r.items.map fun i => i.item_id).Nodup (.check "duplicate item_id in items"),
    require (r.items.map fun i => i.verification_id).Nodup
      (.check "duplicate verification_id in items"),
    require (r.items.map fun i => i.fingerprint_id).Nodup
      (.check "duplicate fingerprint_id in items"),
    require (r.scope_kind = .REPLAY_PLAN → r.replay_plan_id ≠ none)
      (.check "REPLAY_PLAN scope requires replay_plan_id"),
    require (r.requested_fingerprint_ids ≠ [] →
        r.items.map (fun i => i.fingerprint_id) = r.requested_fingerprint_ids)
      (.check "items fingerprint_ids must exactly match requested_fingerprint_ids")] ++
  r.validateSummary

/-! Readiness. -/

inductive ReadinessStatus where
  | READY
  | WARNING
  | BLOCKED
  | INVALIDATED
  deriving DecidableEq, Repr

inductive ReadinessIssueSeverity where
  | INFO
  | WARNING
  | ERROR
  deriving DecidableEq, Repr

inductive ReadinessIssueKind where
  | NO_FINGERPRINTS
  | NO_VERIFICATION_BATCH_REPORT
  | LATEST_BATCH_REPORT_INVALIDATED
  | BATCH_HAS_MISMATCHES
  | BATCH_HAS_MISSING
  | BATCH_NOT_ALL_VALID
  | FINGERPRINT_COUNT_MISMATCH
  | COVERAGE_REPORT_HAS_ERRORS
  | COVERAGE_REPORT_MISSING
  | OTHER
  deriving DecidableEq, Repr

/-- An issue of a readiness check. Its id and its message are those of its kind. -/
structure ReadinessIssue where
  kind : ReadinessIssueKind
  severity : ReadinessIssueSeverity
  batch_report_id : Option TrimmedText
  deriving DecidableEq

structure ReadinessSummary where
  total_fingerprints : ℕ
  latest_batch_report_id : Option TrimmedText
  latest_batch_total_fingerprints : Option ℕ
  latest_batch_total_issues : Option ℕ
  latest_batch_all_valid : Option Bool
  blocking_issue_count : ℕ
  warning_issue_count : ℕ
  info_issue_count : ℕ
  deriving DecidableEq

structure ReadinessReport where
  report_id : TrimmedText
  replay_plan_id : TrimmedText
  checked_at : DateTime
  status : ReadinessStatus
  summary : ReadinessSummary
  issues : List ReadinessIssue
  notes : Option TrimmedText
  deriving DecidableEq

def severityCount (issues : List ReadinessIssue) (severity : ReadinessIssueSeverity) : ℕ :=
  issues.countP fun i => i.severity = severity

/-- `_validate_ready_readiness_status`. -/
def ReadinessReport.validateReady (r : ReadinessReport) : List (Check IntegrityError) :=
  [require (r.issues = []) (.check "READY status requires no issues"),
    require (r.summary.total_fingerprints ≠ 0)
      (.check "READY status requires total_fingerprints > 0"),
    require (r.summary.latest_batch_report_id ≠ none)
      (.check "READY status requires latest_batch_report_id"),
    require (r.summary.latest_batch_total_fingerprints ≠ none)
      (.check "READY status requires latest_batch_total_fingerprints"),
    require (r.summary.latest_batch_total_fingerprints = some r.summary.total_fingerprints)
      (.check ("READY status requires latest_batch_total_fingerprints to match " ++
        "total_fingerprints")),
    require (r.summary.latest_batch_all_valid = some true)
      (.check "READY status requires latest_batch_all_valid is True"),
    require (r.summary.latest_batch_total_issues = some 0)
      (.check "READY status requires latest_batch_total_issues == 0")]

/-- `_validate_readiness_status`. -/
def ReadinessReport.validateStatus (r : ReadinessReport) : List (Check IntegrityError) :=
  let error_count := severityCount r.issues .ERROR
  let warn_count := severityCount r.issues .WARNING
  match r.status with
  | .READY => r.validateReady
  | .WARNING =>
    [require (warn_count ≠ 0) (.check "WARNING status requires at least one WARNING issue"),
      require (error_count = 0) (.check "WARNING status requires no ERROR issues")]
  | .BLOCKED =>
    [require (error_count ≠ 0) (.check "BLOCKED status requires at least one ERROR issue")]
  | .INVALIDATED => []

/-- `_validate_report`. -/
def ReadinessReport.validate (r : ReadinessReport) : List (Check IntegrityError) :=
  [require (r.issues.map fun i => i.kind).Nodup (.check "duplicate issue_id in issues"),
    require (r.summary.blocking_issue_count = severityCount r.issues .ERROR)
      (.check "summary.blocking_issue_count does not match ERROR issue count"),
    require (r.summary.warning_issue_count = severityCount r.issues .WARNING)
      (.check "summary.warning_issue_count does not match WARNING issue count"),
    require (r.summary.info_issue_count = severityCount r.issues .INFO)
      (.check "summary.info_issue_count does not match INFO issue count")] ++ r.validateStatus

/-! Manifests. -/

inductive ReplayRunIntentKind where
  | REPLAY_ONLY
  | BACKTEST
  | PAPER_SIMULATION
  | OTHER
  deriving DecidableEq, Repr

structure ReplayRunReadinessBinding where
  readiness_report_id : TrimmedText
  readiness_replay_plan_id : TrimmedText
  readiness_status : ReadinessStatus
  readiness_checked_at : DateTime
  readiness_total_fingerprints : ℕ
  readiness_latest_batch_report_id : Option TrimmedText
  verified_fingerprint_ids : List TrimmedText
  deriving DecidableEq

structure ReplayRunManifest extends Replay.ReplayRunManifest where
  intent_kind : ReplayRunIntentKind
  readiness : ReplayRunReadinessBinding
  verification_batch_report_id : Option TrimmedText
  notes : Option TrimmedText
  deriving DecidableEq

/-- `_validate_planned_manifest`. -/
def ReplayRunManifest.validatePlanned (m : ReplayRunManifest) : List (Check IntegrityError) :=
  [require (m.readiness.readiness_status = .READY)
      (.check "PLANNED status requires readiness_status READY"),
    require (m.readiness.readiness_total_fingerprints ≠ 0)
      (.check "PLANNED status requires readiness_total_fingerprints > 0"),
    require (m.fingerprint_ids ≠ [])
      (.check "PLANNED status requires non-empty fingerprint_ids"),
    require (m.replay_plan_id = m.readiness.readiness_replay_plan_id)
      (.check ("PLANNED status requires replay_plan_id to match " ++
        "readiness.readiness_replay_plan_id")),
    require (m.verification_batch_report_id ≠ none)
      (.check "PLANNED status requires verification_batch_report_id"),
    require (m.readiness.readiness_latest_batch_report_id = m.verification_batch_report_id)
      (.check ("PLANNED status requires verification_batch_report_id to match " ++
        "readiness.readiness_latest_batch_report_id")),
    require (m.fingerprint_ids.length = m.readiness.readiness_total_fingerprints)
      (.check ("PLANNED status requires fingerprint_ids count to match " ++
        "readiness_total_fingerprints")),
    require (m.readiness.verified_fingerprint_ids.length =
        m.readiness.readiness_total_fingerprints)
      (.check ("PLANNED status requires verified_fingerprint_ids count to match " ++
        "readiness_total_fingerprints")),
    require (m.fingerprint_ids = m.readiness.verified_fingerprint_ids)
      (.check ("PLANNED status requires fingerprint_ids to exactly match " ++
        "readiness.verified_fingerprint_ids")),
    require (m.readiness.readiness_checked_at ≤ m.created_at)
      (.check "PLANNED status requires created_at >= readiness.readiness_checked_at")]

/-- `_validate_manifest`, after the check of the ids. -/
def ReplayRunManifest.validate (m : ReplayRunManifest) : List (Check IntegrityError) :=
  require m.fingerprint_ids.Nodup (.check "duplicate fingerprint_id in fingerprint_ids") ::
    match m.status with
    | .PLANNED => m.validatePlanned
    | .BLOCKED => [require (m.readiness.readiness_status ≠ .READY)
        (.check "BLOCKED status requires non-READY readiness_status")]
    | .INVALIDATED => []

/-! The stores. -/

abbrev TimeId := ℕ ×ₗ String

structure IntegrityStores where
  /-- The readings of the clock so far. -/
  readings : ℕ
  timelines : KeyedDict fun t : TimelineArtifact => t.timeline_id.value
  coverage_reports : KeyedDict fun r : CoverageReport => r.report_id.value
  coverage_diffs : KeyedDict fun d : CoverageDiff => d.diff_id.value
  fingerprints : KeyedDict fun f : ReplayArtifactFingerprint => f.fingerprint_id.value
  verifications :
    KeyedDict fun v : ReplayArtifactFingerprintVerification => v.verification_id.value
  batch_reports : KeyedDict fun b : BatchReport => b.report_id
  readiness_reports : KeyedDict fun r : ReadinessReport => r.report_id.value
  manifests : KeyedDict fun m : ReplayRunManifest => m.manifest_id.value

namespace IntegrityStores

def empty : IntegrityStores := ⟨0, .empty, .empty, .empty, .empty, .empty, .empty, .empty, .empty⟩

variable (s : IntegrityStores)

def fingerprintOrder (f : ReplayArtifactFingerprint) : TimeId :=
  toLex (f.generated_at.micros, f.fingerprint_id.value)

def batchOrder (b : BatchReport) : TimeId := toLex (b.generated_at.micros, b.report_id)

def ofPlan (plan_id : String) (f : ReplayArtifactFingerprint) : Bool :=
  f.replay_plan_id.map (fun t => t.value) = some plan_id

/-- The fingerprints of a plan in their order. -/
def planFingerprints (plan_id : String) : List ReplayArtifactFingerprint :=
  sortBy fingerprintOrder (s.fingerprints.values.filter (ofPlan plan_id))

def planBatches (plan_id : String) : List BatchReport :=
  sortBy batchOrder (s.batch_reports.values.filter fun b => b.replay_plan_id = some plan_id)

end IntegrityStores

abbrev IntegrityAction := Action IntegrityStores IntegrityError

def saved {κ ν : Type} [DecidableEq κ] [DecidableEq ν] {key : ν → κ} (d : KeyedDict key) (v : ν)
    (e : IntegrityError) : Except IntegrityError (KeyedDict key) :=
  match d.saveOnce v with
  | none => .error e
  | some d => .ok d

def saveFingerprint (f : ReplayArtifactFingerprint) : IntegrityAction Unit :=
  .writing fun s =>
    (saved s.fingerprints f (.conflict "fingerprint_id" f.fingerprint_id.value)).map fun d =>
      { s with fingerprints := d }

def saveVerification (v : ReplayArtifactFingerprintVerification) : IntegrityAction Unit :=
  .writing fun s =>
    (saved s.verifications v (.conflict "verification_id" v.verification_id.value)).map fun d =>
      { s with verifications := d }

def saveBatch (b : BatchReport) : IntegrityAction Unit :=
  .writing fun s =>
    (saved s.batch_reports b (.conflict "report_id" b.report_id)).map fun d =>
      { s with batch_reports := d }

def saveReadiness (r : ReadinessReport) : IntegrityAction Unit :=
  .writing fun s =>
    (saved s.readiness_reports r (.conflict "report_id" r.report_id.value)).map fun d =>
      { s with readiness_reports := d }

def saveManifest (m : ReplayRunManifest) : IntegrityAction Unit :=
  .writing fun s =>
    (saved s.manifests m (.conflict "manifest_id" m.manifest_id.value)).map fun d =>
      { s with manifests := d }

/-! The text fields of the models. -/

def requiredText (value field_name : String) : Except IntegrityError TrimmedText :=
  match TrimmedText.of value with
  | some t => .ok t
  | none => .error (.check (field_name ++ " must be a non-empty trimmed string"))

def optionalText (value : Option String) (field_name : String) :
    Except IntegrityError (Option TrimmedText) :=
  match value with
  | none => .ok none
  | some value => (requiredText value field_name).map some

section Operations

variable (now : ℕ → DateTime) (sha256 : Text → HexDigest)

/-- The time, at its next reading. -/
def tick : IntegrityAction DateTime := fun s =>
  ({ s with readings := s.readings + 1 }, .ok (now s.readings))

/-- What is loaded of an artifact: the plans that it names, and what it is dumped as. -/
structure ArtifactData where
  artifact_id : TrimmedText
  plan_ids : List TrimmedText
  dumped : Json

/-- `_load_artifact_data`. -/
def loadArtifactData (s : IntegrityStores) (kind : ReplayArtifactKind) (artifact_id : String) :
    Option ArtifactData :=
  match kind with
  | .TIMELINE => (s.timelines.get? artifact_id).map fun t =>
    ⟨t.timeline_id, [t.replay_plan_id], t.dumped⟩
  | .COVERAGE_REPORT => (s.coverage_reports.get? artifact_id).map fun r =>
    ⟨r.report_id, [r.replay_plan_id], r.dumped⟩
  | .COVERAGE_DIFF => (s.coverage_diffs.get? artifact_id).map fun d =>
    ⟨d.diff_id, [d.baseline_replay_plan_id, d.candidate_replay_plan_id], d.dumped⟩

/-- The plan of an artifact: a diff between two plans has none. -/
def ArtifactData.replay_plan_id (data : ArtifactData) : Option TrimmedText :=
  match data.plan_ids with
  | [plan_id] => some plan_id
  | [baseline, candidate] => if baseline = candidate then some baseline else none
  | _ => none

/-- `fingerprint_timeline`, `fingerprint_coverage_report` and `fingerprint_coverage_diff`. -/
def fingerprintArtifact (artifact_kind : ReplayArtifactKind) (fingerprint_id artifact_id : String)
    (notes : Option String) : IntegrityAction ReplayArtifactFingerprint := do
  let data ← Action.reading fun s =>
    match loadArtifactData s artifact_kind artifact_id with
    | none => .error (.artifactNotFound artifact_kind artifact_id)
    | some data => .ok data
  let generated_at ← tick now
  let fingerprint_id ← Action.reading fun _ => requiredText fingerprint_id "field"
  let notes ← Action.reading fun _ => optionalText notes "notes"
  let fingerprint : ReplayArtifactFingerprint := {
    fingerprint_id
    artifact_kind
    artifact_id := data.artifact_id
    replay_plan_id := data.replay_plan_id
    generated_at
    status := .GENERATED
    canonical_payload := makeCanonicalPayload artifact_kind data.dumped
    notes }
  saveFingerprint fingerprint
  pure fingerprint

/-- `_build_mismatch_issues`. -/
def mismatchIssues (recomputed stored : Text) : List VerificationIssueKind :=
  (if sha256 recomputed ≠ sha256 stored then [.HASH_MISMATCH] else []) ++
    if recomputed ≠ stored then [.CANONICAL_PAYLOAD_MISMATCH] else []

/-- What a fingerprint is found to be. -/
def verified (s : IntegrityStores) (verification_id fingerprint_id : TrimmedText)
    (verified_at : DateTime) (notes : Option TrimmedText) :
    Except IntegrityError ReplayArtifactFingerprintVerification :=
  match s.fingerprints.get? fingerprint_id.value with
  | none => .ok {
      verification_id
      fingerprint_id
      artifact_kind := none
      artifact_id := none
      replay_plan_id := none
      verified_at
      status := .MISSING_FINGERPRINT
      stored_canonical_payload := none
      recomputed_canonical_payload := none
      issues := [.FINGERPRINT_NOT_FOUND]
      notes }
  | some fingerprint =>
    let verification (status : VerificationStatus) (recomputed : Option Text)
        (issues : List VerificationIssueKind) : ReplayArtifactFingerprintVerification := {
      verification_id
      fingerprint_id
      artifact_kind := some fingerprint.artifact_kind
      artifact_id := some fingerprint.artifact_id
      replay_plan_id := fingerprint.replay_plan_id
      verified_at
      status
      stored_canonical_payload := some fingerprint.canonical_payload
      recomputed_canonical_payload := recomputed
      issues
      notes }
    match loadArtifactData s fingerprint.artifact_kind fingerprint.artifact_id.value with
    | none => .ok (verification .MISSING_ARTIFACT none [.ARTIFACT_NOT_FOUND])
    | some data =>
      let recomputed := makeCanonicalPayload fingerprint.artifact_kind data.dumped
      -- the payload that is recomputed names the plan that is verified
      if ∃ plan_id ∈ fingerprint.replay_plan_id, ∃ named ∈ data.plan_ids, named ≠ plan_id then
        .error (.check "canonical_payload replay_plan_id does not match self.replay_plan_id")
      else if sha256 recomputed = sha256 fingerprint.canonical_payload ∧
          recomputed = fingerprint.canonical_payload then
        .ok (verification .VALID (some recomputed) [])
      else .ok (verification .MISMATCH (some recomputed)
        (mismatchIssues sha256 recomputed fingerprint.canonical_payload))

def verifyFingerprint (verification_id fingerprint_id : String) (notes : Option String) :
    IntegrityAction ReplayArtifactFingerprintVerification := do
  let verified_at ← tick now
  let verification_id ← Action.reading fun _ => requiredText verification_id "field"
  let fingerprint_id ← Action.reading fun _ => requiredText fingerprint_id "field"
  let notes ← Action.reading fun _ => optionalText notes "notes"
  let verification ← Action.reading fun s =>
    verified sha256 s verification_id fingerprint_id verified_at notes
  saveVerification verification
  pure verification

def verificationId (report_id fingerprint_id : String) : String :=
  report_id ++ ":" ++ fingerprint_id ++ ":verification"

def itemId (report_id fingerprint_id : String) : String :=
  report_id ++ ":" ++ fingerprint_id ++ ":item"

def itemOf (report_id : String) (v : ReplayArtifactFingerprintVerification) : BatchItem where
  item_id := itemId report_id v.fingerprint_id.value
  fingerprint_id := v.fingerprint_id.value
  verification_id := v.verification_id.value
  verification_status := v.status
  artifact_kind := v.artifact_kind
  artifact_id := v.artifact_id.map fun t => t.value
  replay_plan_id := v.replay_plan_id.map fun t => t.value
  issue_count := v.issues.length

def verifyEach (report_id : String) : List String → IntegrityAction (List BatchItem)
  | [] => pure []
  | fp_id :: fp_ids => do
    let verification ← verifyFingerprint now sha256 (verificationId report_id fp_id) fp_id none
    let items ← verifyEach report_id fp_ids
    pure (itemOf report_id verification :: items)

/-- `_build_report`. -/
def buildReport (report_id : String) (fingerprint_ids : List String) (scope_kind : BatchScopeKind)
    (replay_plan_id notes : Option String) : IntegrityAction BatchReport := do
  let generated_at ← tick now
  let _ ← Action.reading fun _ => checkAll [require fingerprint_ids.Nodup
    (.check "duplicate fingerprint_ids in input")]
  let items ← verifyEach now sha256 report_id fingerprint_ids
  let notes ← Action.reading fun _ => optionalText notes "notes"
  let report : BatchReport := {
    report_id
    scope_kind
    replay_plan_id := replay_plan_id.or (inferReplayPlanId items)
    generated_at
    status := .GENERATED
    summary := buildBatchSummary items
    items
    requested_fingerprint_ids := fingerprint_ids
    notes }
  let _ ← Action.reading fun _ => checkAll report.validate
  saveBatch report
  pure report

def verifyFingerprints (report_id : String) (fingerprint_ids : List String)
    (notes : Option String) : IntegrityAction BatchReport :=
  buildReport now sha256 report_id fingerprint_ids .EXPLICIT_FINGERPRINT_SET none notes

def verifyReplayPlan (report_id replay_plan_id : String) (notes : Option String) :
    IntegrityAction BatchReport := do
  let fp_ids ← Action.reading fun s =>
    .ok ((s.planFingerprints replay_plan_id).map fun f => f.fingerprint_id.value)
  buildReport now sha256 report_id fp_ids .REPLAY_PLAN (some replay_plan_id) notes

/-! The readiness checker. -/

/-- `max(l, key=key)`. -/
def maxBy {α κ : Type} [LinearOrder κ] (key : α → κ) : List α → Option α
  | [] => none
  | a :: as => some (as.foldl (fun m x => if key m < key x then x else m) a)

/-- `_latest_batch_report`. -/
def latestBatchReport (reports : List BatchReport) : Option BatchReport :=
  maxBy IntegrityStores.batchOrder reports

def coverageOrder (r : CoverageReport) : TimeId := toLex (r.generated_at.micros, r.report_id.value)

def issueWhen (p : Prop) [Decidable p] (issue : ReadinessIssue) : List ReadinessIssue :=
  if p then [issue] else []

def coverageIssues : Option (List CoverageReport) → List ReadinessIssue
  | none => []
  | some reports =>
    match maxBy coverageOrder reports with
    | none => [⟨.COVERAGE_REPORT_MISSING, .WARNING, none⟩]
    | some latest =>
      issueWhen (0 < latest.error_issue_count) ⟨.COVERAGE_REPORT_HAS_ERRORS, .ERROR, none⟩

/-- `_collect_readiness_issues`. -/
def collectReadinessIssues (fingerprint_count : ℕ)
    (latest : Option (BatchReport × TrimmedText))
    (coverage_reports : Option (List CoverageReport)) : List ReadinessIssue :=
  if fingerprint_count = 0 then [⟨.NO_FINGERPRINTS, .ERROR, none⟩]
  else match latest with
    | none => [⟨.NO_VERIFICATION_BATCH_REPORT, .ERROR, none⟩]
    | some (latest, batch_id) =>
      issueWhen (latest.status = .INVALIDATED)
          ⟨.LATEST_BATCH_REPORT_INVALIDATED, .ERROR, some batch_id⟩ ++
        issueWhen (latest.summary.has_mismatches = true)
          ⟨.BATCH_HAS_MISMATCHES, .ERROR, some batch_id⟩ ++
        issueWhen (latest.summary.has_missing = true)
          ⟨.BATCH_HAS_MISSING, .ERROR, some batch_id⟩ ++
        issueWhen (latest.summary.all_valid = false ∧ 0 < latest.summary.total_fingerprints)
          ⟨.BATCH_NOT_ALL_VALID, .ERROR, some batch_id⟩ ++
        issueWhen (latest.summary.total_fingerprints ≠ fingerprint_count)
          ⟨.FINGERPRINT_COUNT_MISMATCH, .ERROR, some batch_id⟩ ++
        coverageIssues coverage_reports

/-- `_determine_readiness_status`. -/
def determineReadinessStatus (issues : List ReadinessIssue) (fingerprint_count : ℕ)
    (latest : Option BatchReport) : ReadinessStatus :=
  if 0 < severityCount issues .ERROR then .BLOCKED
  else if 0 < severityCount issues .WARNING then .WARNING
  else if 0 < fingerprint_count ∧ ∃ b ∈ latest, b.summary.all_valid = true then .READY
  else .BLOCKED

/-- `_build_readiness_summary`. -/
def buildReadinessSummary (fingerprint_count : ℕ) (latest : Option (BatchReport × TrimmedText))
    (issues : List ReadinessIssue) : ReadinessSummary where
  total_fingerprints := fingerprint_count
  latest_batch_report_id := latest.map fun b => b.2
  latest_batch_total_fingerprints := latest.map fun b => b.1.summary.total_fingerprints
  latest_batch_total_issues := latest.map fun b => b.1.summary.total_issues
  latest_batch_all_valid := latest.map fun b => b.1.summary.all_valid
  blocking_issue_count := severityCount issues .ERROR
  warning_issue_count := severityCount issues .WARNING
  info_issue_count := severityCount issues .INFO

/-- The latest batch with its id, which the models of a report take as a trimmed text. -/
def namedBatch : Option BatchReport → Except IntegrityError (Option (BatchReport × TrimmedText))
  | none => .ok none
  | some b => (requiredText b.report_id "latest_batch_report_id").map fun t => some (b, t)

/-- `check_replay_plan`: the coverage reports are read when the checker has a store of them. -/
def checkReplayPlan (reads_coverage : Bool) (report_id replay_plan_id : String)
    (notes : Option String) : IntegrityAction ReadinessReport := do
  let (count, latest, coverage_reports) ← Action.reading fun s =>
    (namedBatch (latestBatchReport (s.planBatches replay_plan_id))).map fun latest =>
      ((s.planFingerprints replay_plan_id).length, latest,
        if reads_coverage then
          some (s.coverage_reports.values.filter fun r => r.replay_plan_id.value = replay_plan_id)
        else none)
  let issues := collectReadinessIssues count latest coverage_reports
  let checked_at ← tick now
  let report_id ← Action.reading fun _ => requiredText report_id "field"
  let replay_plan_id ← Action.reading fun _ => requiredText replay_plan_id "field"
  let notes ← Action.reading fun _ => optionalText notes "notes"
  let report : ReadinessReport := {
    report_id
    replay_plan_id
    checked_at
    status := determineReadinessStatus issues count (latest.map fun b => b.1)
    summary := buildReadinessSummary count latest issues
    issues
    notes }
  let _ ← Action.reading fun _ => checkAll report.validate
  saveReadiness report
  pure report

/-! The planner. -/

/-- `_validate_ready_batch_identity`, `_validate_ready_batch_summary` and
`_validate_ready_batch_temporal`. -/
def validateReadyBatch (batch : BatchReport) (batch_report_id : String)
    (readiness : ReadinessReport) : List (Check IntegrityError) :=
  [require (batch.report_id = batch_report_id)
      (.check "referenced verification batch report id does not match readiness"),
    require (batch.replay_plan_id = some readiness.replay_plan_id.value)
      (.check "referenced verification batch report belongs to another replay plan"),
    require (batch.status = .GENERATED)
      (.check "referenced verification batch report is not GENERATED"),
    require (batch.summary.all_valid = true)
      (.check "referenced verification batch report is not all valid"),
    require (batch.summary.has_mismatches = false)
      (.check "referenced verification batch report has mismatches"),
    require (batch.summary.has_missing = false)
      (.check "referenced verification batch report has missing artifacts"),
    require (batch.summary.total_issues = 0)
      (.check "referenced verification batch report must have zero issues"),
    require (batch.summary.total_fingerprints = readiness.summary.total_fingerprints)
      (.check "referenced verification batch fingerprint count does not match readiness"),
    require (readiness.summary.latest_batch_total_issues = some batch.summary.total_issues)
      (.check ("readiness latest batch issue count does not match referenced " ++
        "verification batch")),
    require (some batch.summary.total_fingerprints =
        readiness.summary.latest_batch_total_fingerprints)
      (.check ("referenced verification batch fingerprint count does not match " ++
        "readiness latest batch count")),
    require (batch.generated_at ≤ readiness.checked_at)
      (.check ("temporal inconsistency: verification batch generated after " ++
        "readiness was checked"))]

/-- `_require_ready_batch`. -/
def requireReadyBatch (s : IntegrityStores) (readiness : ReadinessReport) :
    Except IntegrityError BatchReport :=
  match readiness.summary.latest_batch_report_id with
  | none => .error (.check "READY readiness requires latest_batch_report_id")
  | some batch_report_id =>
    match s.batch_reports.get? batch_report_id.value with
    | none => .error (.batchMissing batch_report_id.value)
    | some batch => do
      checkAll (validateReadyBatch batch batch_report_id.value readiness)
      if batch.requested_fingerprint_ids = [] then
        .error (.check "READY readiness requires non-empty verified fingerprint ids")
      else .ok batch

/-- `_verified_ids_for_blocked`. -/
def verifiedIdsForBlocked (s : IntegrityStores) (readiness : ReadinessReport) : List String :=
  match readiness.summary.latest_batch_report_id.bind fun t => s.batch_reports.get? t.value with
  | none => []
  | some batch =>
    if batch.replay_plan_id ≠ some readiness.replay_plan_id.value then []
    else batch.requested_fingerprint_ids

/-- The ids of a binding or of a manifest: each a trimmed text. -/
def requiredTexts (field_name : String) : List String → Except IntegrityError (List TrimmedText)
  | [] => .ok []
  | value :: values => do
    let t ← requiredText value field_name
    let ts ← requiredTexts field_name values
    .ok (t :: ts)

/-- `_make_readiness_binding`. -/
def makeReadinessBinding (readiness : ReadinessReport) (verified_fingerprint_ids : List String) :
    Except IntegrityError ReplayRunReadinessBinding := do
  let ids ← requiredTexts "verified_fingerprint_id" verified_fingerprint_ids
  checkAll [require ids.Nodup (.check "duplicate fingerprint_id in verified_fingerprint_ids")]
  .ok {
    readiness_report_id := readiness.report_id
    readiness_replay_plan_id := readiness.replay_plan_id
    readiness_status := readiness.status
    readiness_checked_at := readiness.checked_at
    readiness_total_fingerprints := readiness.summary.total_fingerprints
    readiness_latest_batch_report_id := readiness.summary.latest_batch_report_id
    verified_fingerprint_ids := ids }

/-- The checks of `_plan_ready_manifest` before the clock is read. -/
def validateReadyPlan (s : IntegrityStores) (readiness : ReadinessReport) (batch : BatchReport) :
    Except IntegrityError Unit :=
  let fingerprints := s.planFingerprints readiness.replay_plan_id.value
  let current_fingerprint_ids := fingerprints.map fun f => f.fingerprint_id.value
  match readiness.summary.latest_batch_total_fingerprints with
  | none => .error (.check ("readiness report is READY but latest_batch_total_fingerprints is " ++
      "None; cannot create a consistent PLANNED manifest"))
  | some total =>
    if total ≠ readiness.summary.total_fingerprints then
      .error (.readyCountMismatch total readiness.summary.total_fingerprints)
    else if current_fingerprint_ids = [] then
      .error (.noFingerprints readiness.replay_plan_id.value)
    else if current_fingerprint_ids.length ≠ readiness.summary.total_fingerprints then
      .error (.staleCount current_fingerprint_ids.length readiness.summary.total_fingerprints)
    else if current_fingerprint_ids ≠ batch.requested_fingerprint_ids then
      .error (.check ("readiness is stale or fingerprint identity changed: current " ++
        "fingerprint store snapshot does not exactly match the referenced " ++
        "verification batch"))
    else checkAll (fingerprints.map fun f => require (f.generated_at ≤ batch.generated_at)
      (.fingerprintAfterBatch f.fingerprint_id.value))

/-- The manifest of a plan, with the checks of its model. -/
def makeManifest (manifest_id : String) (readiness : ReadinessReport)
    (binding : ReplayRunReadinessBinding) (intent_kind : ReplayRunIntentKind)
    (notes : Option String) (status : ReplayRunManifestStatus) (created_at : DateTime)
    (fingerprint_ids : List String) : Except IntegrityError ReplayRunManifest := do
  let manifest_id ← requiredText manifest_id "field"
  let fingerprint_ids ← requiredTexts "fingerprint_id" fingerprint_ids
  let notes ← optionalText notes "notes"
  let manifest : ReplayRunManifest := {
    manifest_id
    replay_plan_id := readiness.replay_plan_id
    created_at
    status
    fingerprint_ids
    intent_kind
    readiness := binding
    verification_batch_report_id := readiness.summary.latest_batch_report_id
    notes }
  checkAll manifest.validate
  .ok manifest

/-- `_plan_ready_manifest`. -/
def planReadyManifest (manifest_id : String) (readiness : ReadinessReport)
    (binding : ReplayRunReadinessBinding) (batch : BatchReport)
    (intent_kind : ReplayRunIntentKind) (notes : Option String) :
    IntegrityAction ReplayRunManifest := do
  let _ ← Action.reading fun s => validateReadyPlan s readiness batch
  let created_at ← tick now
  let _ ← Action.reading fun _ => checkAll [require (readiness.checked_at ≤ created_at)
    (.check "temporal inconsistency: manifest would be created before readiness was checked")]
  Action.reading fun _ => makeManifest manifest_id readiness binding intent_kind notes .PLANNED
    created_at batch.requested_fingerprint_ids

/-- `_plan_blocked_manifest`. -/
def planBlockedManifest (manifest_id : String) (readiness : ReadinessReport)
    (binding : ReplayRunReadinessBinding) (intent_kind : ReplayRunIntentKind)
    (notes : Option String) : IntegrityAction ReplayRunManifest := do
  let ids ← Action.reading fun s => .ok
    ((s.planFingerprints readiness.replay_plan_id.value).map fun f => f.fingerprint_id.value)
  let created_at ← tick now
  Action.reading fun _ =>
    makeManifest manifest_id readiness binding intent_kind notes .BLOCKED created_at ids

/-- The manifest that a readiness report leads to. -/
def planManifest (manifest_id : String) (readiness : ReadinessReport)
    (intent_kind : ReplayRunIntentKind) (notes : Option String) :
    IntegrityAction ReplayRunManifest :=
  match readiness.status with
  | .READY => do
    let batch ← Action.reading fun s => requireReadyBatch s readiness
    let binding ← Action.reading fun _ =>
      makeReadinessBinding readiness batch.requested_fingerprint_ids
    planReadyManifest now manifest_id readiness binding batch intent_kind notes
  | _ => do
    let ids ← Action.reading fun s => .ok (verifiedIdsForBlocked s readiness)
    let binding ← Action.reading fun _ => makeReadinessBinding readiness ids
    planBlockedManifest now manifest_id readiness binding intent_kind notes

/-- `plan_replay_run`. -/
def planReplayRun (manifest_id readiness_report_id : String) (intent_kind : ReplayRunIntentKind)
    (notes : Option String) : IntegrityAction ReplayRunManifest := do
  let readiness ← Action.reading fun s =>
    match s.readiness_reports.get? readiness_report_id with
    | none => .error (.readinessNotFound readiness_report_id)
    | some readiness => .ok readiness
  let manifest ← planManifest now manifest_id readiness intent_kind notes
  saveManifest manifest
  pure manifest

/-! A history of calls. -/

inductive IntegrityCall where
  | saveTimeline (timeline : TimelineArtifact)
  | saveCoverageReport (report : CoverageReport)
  | saveCoverageDiff (diff : CoverageDiff)
  | fingerprint (artifact_kind : ReplayArtifactKind) (fingerprint_id artifact_id : String)
      (notes : Option String)
  | verify (verification_id fingerprint_id : String) (notes : Option String)
  | verifyFingerprints (report_id : String) (fingerprint_ids : List String)
      (notes : Option String)
  | verifyReplayPlan (report_id replay_plan_id : String) (notes : Option String)
  | checkReplayPlan (reads_coverage : Bool) (report_id replay_plan_id : String)
      (notes : Option String)
  | planReplayRun (manifest_id readiness_report_id : String) (intent_kind : ReplayRunIntentKind)
      (notes : Option String)

/-- The stores after a call, whether it is refused or not. -/
def IntegrityStores.after (s : IntegrityStores) : IntegrityCall → IntegrityStores
  | .saveTimeline t => if s.timelines.get? t.timeline_id.value = none then
      { s with timelines := s.timelines.put t } else s
  | .saveCoverageReport r => if s.coverage_reports.get? r.report_id.value = none then
      { s with coverage_reports := s.coverage_reports.put r } else s
  | .saveCoverageDiff d => if s.coverage_diffs.get? d.diff_id.value = none then
      { s with coverage_diffs := s.coverage_diffs.put d } else s
  | .fingerprint kind fingerprint_id artifact_id notes =>
    (fingerprintArtifact now kind fingerprint_id artifact_id notes s).1
  | .verify verification_id fingerprint_id notes =>
    (verifyFingerprint now sha256 verification_id fingerprint_id notes s).1
  | .verifyFingerprints report_id fingerprint_ids notes =>
    (Integrity.verifyFingerprints now sha256 report_id fingerprint_ids notes s).1
  | .verifyReplayPlan report_id replay_plan_id notes =>
    (Integrity.verifyReplayPlan now sha256 report_id replay_plan_id notes s).1
  | .checkReplayPlan reads_coverage report_id replay_plan_id notes =>
    (Integrity.checkReplayPlan now reads_coverage report_id replay_plan_id notes s).1
  | .planReplayRun manifest_id readiness_report_id intent_kind notes =>
    (Integrity.planReplayRun now manifest_id readiness_report_id intent_kind notes s).1

end Operations

end FuturesBot.Integrity
