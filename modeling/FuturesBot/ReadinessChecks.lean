import FuturesBot.ReadinessPlanning

/-! Whatever was saved, the readiness check of a plan ends in a report, unless the latest batch of
the plan has an id that a readiness report cannot name. -/
namespace FuturesBot.Integrity

open TextLines DateTimes Dicts KeySorting Checks StoreActions StepRuns
open Action

variable {now : ℕ → DateTime} {s t : IntegrityStores}

/-! What the stores hold: whatever was saved into them. -/

inductive ContentSave where
  | fingerprint (f : ReplayArtifactFingerprint)
  | batchReport (b : BatchReport)
  | coverageReport (r : CoverageReport)
  | readinessReport (r : ReadinessReport)

/-- The stores after a save, which is refused when its model is not valid or its id stands for
something else. -/
def IntegrityStores.save (s : IntegrityStores) : ContentSave → IntegrityStores
  | .fingerprint f => (saveFingerprint f s).1
  | .batchReport b =>
    match checkAll b.validate with
    | .error _ => s
    | .ok () => (saveBatch b s).1
  | .coverageReport r => if s.coverage_reports.get? r.report_id.value = none then
      { s with coverage_reports := s.coverage_reports.put r } else s
  | .readinessReport r =>
    match checkAll r.validate with
    | .error _ => s
    | .ok () => (saveReadiness r s).1

/-- Every stored batch passes the checks of its model. -/
def BatchesValid (s : IntegrityStores) : Prop :=
  ∀ b ∈ s.batch_reports.values, checkAll b.validate = .ok ()

theorem BatchesValid.empty : BatchesValid IntegrityStores.empty :=
  fun _ hb => absurd hb List.not_mem_nil

theorem BatchesValid.batchReport (hs : BatchesValid s) {b : BatchReport}
    (hb : checkAll b.validate = .ok ()) : BatchesValid (saveBatch b s).1 := by
  have hends : Ends (saveBatch b) s fun t _ => BatchesValid t := by
    refine ends_writing (fun t ht => ?_) fun _ _ => hs
    obtain ⟨d, hd, rfl⟩ := map_eq_ok.mp ht
    obtain ⟨haccepts, rfl⟩ := saved_eq_ok.mp hd
    intro c hc
    rcases (KeyedDict.mem_values_put_accepted haccepts).mp hc with rfl | hold
    · exact hb
    · exact hs c hold
  exact hends

theorem batchesKept_frame : IsFrame fun s t : IntegrityStores => BatchesValid s → BatchesValid t :=
  ⟨fun _ => id, fun h h' => h' ∘ h⟩

theorem BatchesValid.fingerprint (hs : BatchesValid s) (f : ReplayArtifactFingerprint) :
    BatchesValid (saveFingerprint f s).1 := by
  have hkeeps : Keeps (fun s t => BatchesValid s → BatchesValid t) (saveFingerprint f) :=
    keeps_writing_part batchesKept_frame fun _ _ _ => id
  exact hkeeps s hs

theorem BatchesValid.readinessReport (hs : BatchesValid s) (r : ReadinessReport) :
    BatchesValid (saveReadiness r s).1 := by
  have hkeeps : Keeps (fun s t => BatchesValid s → BatchesValid t) (saveReadiness r) :=
    keeps_writing_part batchesKept_frame fun _ _ _ => id
  exact hkeeps s hs

theorem save_batches_valid (hs : BatchesValid s) (a : ContentSave) : BatchesValid (s.save a) := by
  cases a with
  | fingerprint f => exact hs.fingerprint f
  | batchReport b =>
    rw [IntegrityStores.save]
    cases hvalid : checkAll b.validate with
    | error e => exact hs
    | ok u => exact hs.batchReport hvalid
  | coverageReport r =>
    rw [IntegrityStores.save]
    split
    · exact hs
    · exact hs
  | readinessReport r =>
    rw [IntegrityStores.save]
    cases hvalid : checkAll r.validate with
    | error e => exact hs
    | ok u => exact hs.readinessReport r

/-! The checks of a batch say what its summary tells a readiness check. -/

theorem summary_of_valid {b : BatchReport} (h : checkAll b.validate = .ok ()) :
    b.summary.all_valid = true → b.summary.total_issues = 0 := by
  rw [BatchReport.validate] at h
  simp only [BatchSummary.validate, checkAll_append, checkAll_require] at h
  exact h.1.1.2.2.2.2.1

/-! The issues of a check are of different kinds, and each is an error or a warning. -/

section Collected

variable {count : ℕ} {coverage_reports : Option (List CoverageReport)}

theorem collect_no_fingerprints (latest : Option (BatchReport × TrimmedText)) :
    collectReadinessIssues 0 latest coverage_reports = [⟨.NO_FINGERPRINTS, .ERROR, none⟩] := by
  cases latest <;> rfl

theorem collect_no_batch (hcount : count ≠ 0) :
    collectReadinessIssues count none coverage_reports =
      [⟨.NO_VERIFICATION_BATCH_REPORT, .ERROR, none⟩] := by
  rw [collectReadinessIssues, if_neg hcount]

theorem collect_batch (hcount : count ≠ 0) (b : BatchReport) (batch_id : TrimmedText) :
    collectReadinessIssues count (some (b, batch_id)) coverage_reports =
      issueWhen (b.status = .INVALIDATED)
          ⟨.LATEST_BATCH_REPORT_INVALIDATED, .ERROR, some batch_id⟩ ++
        issueWhen (b.summary.has_mismatches = true)
          ⟨.BATCH_HAS_MISMATCHES, .ERROR, some batch_id⟩ ++
        issueWhen (b.summary.has_missing = true)
          ⟨.BATCH_HAS_MISSING, .ERROR, some batch_id⟩ ++
        issueWhen (b.summary.all_valid = false ∧ 0 < b.summary.total_fingerprints)
          ⟨.BATCH_NOT_ALL_VALID, .ERROR, some batch_id⟩ ++
        issueWhen (b.summary.total_fingerprints ≠ count)
          ⟨.FINGERPRINT_COUNT_MISMATCH, .ERROR, some batch_id⟩ ++
        coverageIssues coverage_reports := by
  rw [collectReadinessIssues, if_neg hcount]

end Collected

theorem issueWhen_kinds (p : Prop) [Decidable p] (i : ReadinessIssue) :
    ((issueWhen p i).map fun i => i.kind).Sublist [i.kind] := by
  by_cases hp : p
  · rw [issueWhen, if_pos hp]
    exact List.Sublist.refl _
  · rw [issueWhen, if_neg hp]
    exact List.nil_sublist _

theorem mem_issueWhen {p : Prop} [Decidable p] {i j : ReadinessIssue} :
    j ∈ issueWhen p i ↔ p ∧ j = i := by
  by_cases hp : p
  · rw [issueWhen, if_pos hp, List.mem_singleton, and_iff_right hp]
  · rw [issueWhen, if_neg hp]
    exact ⟨fun h => absurd h List.not_mem_nil, fun h => absurd h.1 hp⟩

theorem coverageIssues_kinds (coverage_reports : Option (List CoverageReport)) :
    ((coverageIssues coverage_reports).map fun i => i.kind).Sublist
      [.COVERAGE_REPORT_MISSING, .COVERAGE_REPORT_HAS_ERRORS] := by
  cases coverage_reports with
  | none => exact List.nil_sublist _
  | some reports =>
    rw [coverageIssues]
    cases maxBy coverageOrder reports with
    | none => exact List.sublist_append_left [ReadinessIssueKind.COVERAGE_REPORT_MISSING] _
    | some latest => exact (issueWhen_kinds _ _).cons _

theorem collect_kinds_nodup (count : ℕ) (latest : Option (BatchReport × TrimmedText))
    (coverage_reports : Option (List CoverageReport)) :
    ((collectReadinessIssues count latest coverage_reports).map fun i => i.kind).Nodup := by
  by_cases hcount : count = 0
  · rw [hcount, collect_no_fingerprints]
    exact List.nodup_singleton _
  · cases latest with
    | none =>
      rw [collect_no_batch hcount]
      exact List.nodup_singleton _
    | some named =>
      obtain ⟨b, batch_id⟩ := named
      rw [collect_batch hcount]
      simp only [List.map_append]
      -- each part adds at most its own kinds, in one order
      have hparts := ((((issueWhen_kinds (b.status = .INVALIDATED)
          ⟨.LATEST_BATCH_REPORT_INVALIDATED, .ERROR, some batch_id⟩).append
        (issueWhen_kinds (b.summary.has_mismatches = true)
          ⟨.BATCH_HAS_MISMATCHES, .ERROR, some batch_id⟩)).append
        (issueWhen_kinds (b.summary.has_missing = true)
          ⟨.BATCH_HAS_MISSING, .ERROR, some batch_id⟩)).append
        (issueWhen_kinds (b.summary.all_valid = false ∧ 0 < b.summary.total_fingerprints)
          ⟨.BATCH_NOT_ALL_VALID, .ERROR, some batch_id⟩)).append
        (issueWhen_kinds (b.summary.total_fingerprints ≠ count)
          ⟨.FINGERPRINT_COUNT_MISMATCH, .ERROR, some batch_id⟩)
      have hkinds : [ReadinessIssueKind.LATEST_BATCH_REPORT_INVALIDATED, .BATCH_HAS_MISMATCHES,
          .BATCH_HAS_MISSING, .BATCH_NOT_ALL_VALID, .FINGERPRINT_COUNT_MISMATCH,
          .COVERAGE_REPORT_MISSING, .COVERAGE_REPORT_HAS_ERRORS].Nodup := by decide
      exact hkinds.sublist (hparts.append (coverageIssues_kinds coverage_reports))

theorem severity_of_collect {count : ℕ} {latest : Option (BatchReport × TrimmedText)}
    {coverage_reports : Option (List CoverageReport)} {i : ReadinessIssue}
    (hi : i ∈ collectReadinessIssues count latest coverage_reports) :
    i.severity = .ERROR ∨ i.severity = .WARNING := by
  by_cases hcount : count = 0
  · rw [hcount, collect_no_fingerprints, List.mem_singleton] at hi
    exact .inl (hi ▸ rfl)
  · cases latest with
    | none =>
      rw [collect_no_batch hcount, List.mem_singleton] at hi
      exact .inl (hi ▸ rfl)
    | some named =>
      obtain ⟨b, batch_id⟩ := named
      rw [collect_batch hcount] at hi
      simp only [List.mem_append, mem_issueWhen] at hi
      rcases hi with ((((h | h) | h) | h) | h) | h
      · exact .inl (h.2 ▸ rfl)
      · exact .inl (h.2 ▸ rfl)
      · exact .inl (h.2 ▸ rfl)
      · exact .inl (h.2 ▸ rfl)
      · exact .inl (h.2 ▸ rfl)
      · cases coverage_reports with
        | none => exact absurd h List.not_mem_nil
        | some reports =>
          rw [coverageIssues] at h
          cases hmax : maxBy coverageOrder reports with
          | none =>
            rw [hmax, List.mem_singleton] at h
            exact .inr (h ▸ rfl)
          | some latest =>
            rw [hmax] at h
            exact .inl ((mem_issueWhen.mp h).2 ▸ rfl)

/-- A check that finds no error has a batch over as many fingerprints, all of them valid. -/
theorem batch_of_no_error {count : ℕ} {latest : Option (BatchReport × TrimmedText)}
    {coverage_reports : Option (List CoverageReport)}
    (h : ∀ i ∈ collectReadinessIssues count latest coverage_reports, i.severity ≠ .ERROR) :
    0 < count ∧ ∃ b batch_id, latest = some (b, batch_id) ∧ b.summary.all_valid = true ∧
      b.summary.total_fingerprints = count := by
  by_cases hcount : count = 0
  · rw [hcount, collect_no_fingerprints] at h
    exact absurd rfl (h _ (List.mem_singleton_self _))
  · cases latest with
    | none =>
      rw [collect_no_batch hcount] at h
      exact absurd rfl (h _ (List.mem_singleton_self _))
    | some named =>
      obtain ⟨b, batch_id⟩ := named
      rw [collect_batch hcount] at h
      simp only [List.forall_mem_append] at h
      obtain ⟨⟨⟨-, hvalid⟩, htotal⟩, -⟩ := h
      have hsame := not_not.mp (issueWhen_absent htotal rfl)
      have hpos : 0 < b.summary.total_fingerprints := hsame ▸ Nat.pos_of_ne_zero hcount
      refine ⟨Nat.pos_of_ne_zero hcount, b, batch_id, rfl, ?_, hsame⟩
      by_contra hnot
      exact issueWhen_absent hvalid rfl ⟨Bool.eq_false_iff.mpr hnot, hpos⟩

/-! The status that is determined passes the checks that a report makes of it. -/

theorem issues_eq_nil {count : ℕ} {latest : Option (BatchReport × TrimmedText)}
    {coverage_reports : Option (List CoverageReport)}
    (herror : ∀ i ∈ collectReadinessIssues count latest coverage_reports, i.severity ≠ .ERROR)
    (hwarning : ∀ i ∈ collectReadinessIssues count latest coverage_reports,
      i.severity ≠ .WARNING) : collectReadinessIssues count latest coverage_reports = [] := by
  refine List.eq_nil_iff_forall_not_mem.mpr fun i hi => ?_
  rcases severity_of_collect hi with h | h
  · exact herror i hi h
  · exact hwarning i hi h

theorem severityCount_eq_zero {issues : List ReadinessIssue} {severity : ReadinessIssueSeverity} :
    severityCount issues severity = 0 ↔ ∀ i ∈ issues, i.severity ≠ severity := by
  simp only [severityCount, List.countP_eq_zero, decide_eq_true_eq, ne_eq]

theorem collected_valid {count : ℕ} {latest : Option (BatchReport × TrimmedText)}
    {coverage_reports : Option (List CoverageReport)}
    (hvalid : ∀ named ∈ latest, checkAll named.1.validate = .ok ()) {r : ReadinessReport}
    (hissues : r.issues = collectReadinessIssues count latest coverage_reports)
    (hstatus : r.status = determineReadinessStatus r.issues count (latest.map fun b => b.1))
    (hsummary : r.summary = buildReadinessSummary count latest r.issues) :
    checkAll r.validate = .ok () := by
  rw [ReadinessReport.validate, checkAll_append]
  constructor
  · simp only [checkAll_require, checkAll_nil, and_true]
    rw [hsummary]
    refine ⟨?_, rfl, rfl, rfl⟩
    rw [hissues]
    exact collect_kinds_nodup _ _ _
  · have hnone := @batch_of_no_error count latest coverage_reports
    rw [← hissues] at hnone
    rw [determineReadinessStatus] at hstatus
    split_ifs at hstatus with herror hwarning hready
    · rw [ReadinessReport.validateStatus, hstatus]
      simp only [checkAll_require, checkAll_nil, and_true]
      exact Nat.ne_of_gt herror
    · rw [ReadinessReport.validateStatus, hstatus]
      simp only [checkAll_require, checkAll_nil, and_true]
      exact ⟨Nat.ne_of_gt hwarning, Nat.eq_zero_of_not_pos herror⟩
    · -- nothing is found, so there is a batch over all fingerprints
      have hno := severityCount_eq_zero.mp (Nat.eq_zero_of_not_pos herror)
      have hwarn := severityCount_eq_zero.mp (Nat.eq_zero_of_not_pos hwarning)
      obtain ⟨hpos, b, batch_id, hlatest, hallvalid, htotal⟩ := hnone hno
      have hnil : r.issues = [] := by
        rw [hissues] at hno hwarn ⊢
        exact issues_eq_nil hno hwarn
      have hzero := summary_of_valid (hvalid (b, batch_id) hlatest) hallvalid
      rw [ReadinessReport.validateStatus, hstatus]
      simp only [ReadinessReport.validateReady, checkAll_require, checkAll_nil, and_true]
      rw [hsummary, hlatest]
      refine ⟨hnil, Nat.ne_of_gt hpos, ?_, ?_, congrArg some htotal, congrArg some hallvalid,
        congrArg some hzero⟩
      · exact Option.some_ne_none batch_id
      · exact Option.some_ne_none b.summary.total_fingerprints
    · have hno := severityCount_eq_zero.mp (Nat.eq_zero_of_not_pos herror)
      obtain ⟨hpos, b, batch_id, hlatest, hallvalid, -⟩ := hnone hno
      refine absurd ⟨hpos, b, ?_, hallvalid⟩ hready
      rw [hlatest]
      rfl

/-! The check ends in a report. -/

theorem optionalText_eq_ok {value : Option String} {field_name : String}
    {t : Option TrimmedText} :
    optionalText value field_name = .ok t ↔ t.map (fun t => t.value) = value := by
  cases value with
  | none =>
    rw [optionalText, Except.ok.injEq, Option.map_eq_none_iff]
    exact eq_comm
  | some text =>
    rw [optionalText, map_eq_ok, Option.map_eq_some_iff]
    constructor
    · rintro ⟨a, ha, rfl⟩
      exact ⟨a, rfl, requiredText_eq_ok.mp ha⟩
    · rintro ⟨a, rfl, ha⟩
      exact ⟨a, requiredText_eq_ok.mpr ha, rfl⟩

/-- What the status of a report says of its issues. -/
structure StatusTold (r : ReadinessReport) : Prop where
  blocked : (∃ i ∈ r.issues, i.severity = .ERROR) → r.status = .BLOCKED
  warning : r.status = .WARNING → ∀ i ∈ r.issues, i.severity ≠ .ERROR
  ready : r.status = .READY → ∀ i ∈ r.issues, i.severity ≠ .ERROR ∧ i.severity ≠ .WARNING

theorem determined_told {count : ℕ} {latest : Option BatchReport} {r : ReadinessReport}
    (h : r.status = determineReadinessStatus r.issues count latest) : StatusTold r := by
  rw [determineReadinessStatus] at h
  split_ifs at h with herror hwarning hready
  · refine ⟨fun _ => h, fun hw => ?_, fun hr => ?_⟩
    · rw [h] at hw
      cases hw
    · rw [h] at hr
      cases hr
  all_goals
    have hno := severityCount_eq_zero.mp (Nat.eq_zero_of_not_pos herror)
    refine ⟨fun hw => absurd hw (by simpa using hno), fun _ => hno, fun hr => ?_⟩
  · rw [h] at hr
    cases hr
  · have hwarn := severityCount_eq_zero.mp (Nat.eq_zero_of_not_pos hwarning)
    exact fun i hi => ⟨hno i hi, hwarn i hi⟩
  · rw [h] at hr
    cases hr

/-- What a check is given, and what the latest batch is called. -/
structure CheckRequest (s : IntegrityStores) (report_id replay_plan_id : String)
    (notes : Option String) : Prop where
  id_trimmed : Trimmed report_id.toList
  plan_trimmed : Trimmed replay_plan_id.toList
  notes_trimmed : ∀ text ∈ notes, Trimmed text.toList
  batch_trimmed : ∀ b, latestBatchReport (s.planBatches replay_plan_id) = some b →
    Trimmed b.report_id.toList

theorem checkReplayPlan_iff (hs : BatchesValid s) {reads_coverage : Bool}
    {report_id replay_plan_id : String} {notes : Option String}
    (hfresh : s.readiness_reports.get? report_id = none) :
    (∃ t r, checkReplayPlan now reads_coverage report_id replay_plan_id notes s = (t, .ok r) ∧
        StatusTold r) ↔ CheckRequest s report_id replay_plan_id notes := by
  constructor
  · rintro ⟨t, r, h, -⟩
    obtain ⟨latest, coverage, hnamed, hid, hplan, -, -, -, -, -, -, -, hnotes⟩ :=
      checkReplayPlan_eq_ok h
    refine ⟨hid ▸ r.report_id.trimmed, hplan ▸ r.replay_plan_id.trimmed, fun text htext => ?_,
      fun b hb => ?_⟩
    · obtain ⟨t, -, rfl⟩ := Option.map_eq_some_iff.mp ((optionalText_eq_ok.mp hnotes).trans htext)
      exact t.trimmed
    · rw [hb] at hnamed
      obtain ⟨t, ht, -⟩ := map_eq_ok.mp hnamed
      exact requiredText_eq_ok.mp ht ▸ t.trimmed
  · rintro ⟨hid, hplan, hnotes, hbatch⟩
    obtain ⟨latest, hnamed, hvalid⟩ : ∃ latest,
        namedBatch (latestBatchReport (s.planBatches replay_plan_id)) = .ok latest ∧
          ∀ named ∈ latest, checkAll named.1.validate = .ok () := by
      cases hlatest : latestBatchReport (s.planBatches replay_plan_id) with
      | none => exact ⟨none, rfl, fun _ h => absurd h (Option.not_mem_none _)⟩
      | some b =>
        have htext : requiredText b.report_id "latest_batch_report_id" =
            .ok ⟨b.report_id, hbatch b hlatest⟩ := requiredText_eq_ok.mpr rfl
        refine ⟨some (b, ⟨b.report_id, hbatch b hlatest⟩), map_eq_ok.mpr ⟨_, htext, rfl⟩, ?_⟩
        rintro named ⟨⟩
        exact hs b (mem_planBatches.mp (maxBy_some hlatest).1).1
    obtain ⟨notes', hnotes'⟩ := @optionalText_of_trimmed notes "notes" hnotes
    let coverage_reports : Option (List CoverageReport) := if reads_coverage then
      some (s.coverage_reports.values.filter fun r => r.replay_plan_id.value = replay_plan_id)
      else none
    let issues := collectReadinessIssues (s.planFingerprints replay_plan_id).length latest
      coverage_reports
    let r : ReadinessReport := {
      report_id := ⟨report_id, hid⟩
      replay_plan_id := ⟨replay_plan_id, hplan⟩
      checked_at := now s.readings
      status := determineReadinessStatus issues (s.planFingerprints replay_plan_id).length
        (latest.map fun b => b.1)
      summary := buildReadinessSummary (s.planFingerprints replay_plan_id).length latest issues
      issues
      notes := notes' }
    have haccepts : s.readiness_reports.Accepts r := fun w hw => by
      rw [hfresh] at hw
      cases hw
    have hread : (namedBatch (latestBatchReport (s.planBatches replay_plan_id))).map
        (fun latest => ((s.planFingerprints replay_plan_id).length, latest, coverage_reports)) =
          .ok ((s.planFingerprints replay_plan_id).length, latest, coverage_reports) := by
      rw [hnamed]
      rfl
    refine ⟨{ s with
        readings := s.readings + 1
        readiness_reports := s.readiness_reports.put r }, r, ?_, determined_told rfl⟩
    unfold checkReplayPlan
    refine bind_eq_ok.mpr ⟨s, _, reading_eq_ok.mpr ⟨rfl, hread⟩, ?_⟩
    refine bind_eq_ok.mpr ⟨_, _, rfl, bind_eq_ok.mpr ⟨_, _, reading_eq_ok.mpr
      ⟨rfl, requiredText_eq_ok.mpr rfl⟩, bind_eq_ok.mpr ⟨_, _, reading_eq_ok.mpr
        ⟨rfl, requiredText_eq_ok.mpr rfl⟩, bind_eq_ok.mpr ⟨_, _, reading_eq_ok.mpr
          ⟨rfl, hnotes'⟩, bind_eq_ok.mpr ⟨_, (), reading_eq_ok.mpr
            ⟨rfl, collected_valid (r := r) hvalid rfl rfl rfl⟩, bind_eq_ok.mpr ⟨_, (),
              writing_part_eq_ok.mpr ⟨_, saved_eq_ok.mpr ⟨haccepts, rfl⟩, rfl⟩,
              pure_eq_ok.mpr ⟨rfl, rfl⟩⟩⟩⟩⟩⟩⟩

/-- After any saves, the check of a plan under a new report id ends in a report whose status is
that of its issues exactly when the texts of the call are trimmed and the latest batch of the plan
has a trimmed id. -/
theorem readiness_check_total (now : ℕ → DateTime) (saves : List ContentSave)
    (reads_coverage : Bool) (report_id replay_plan_id : String) (notes : Option String)
    (hfresh : (run IntegrityStores.save IntegrityStores.empty saves).readiness_reports.get?
      report_id = none) :
    (∃ t r, checkReplayPlan now reads_coverage report_id replay_plan_id notes
        (run IntegrityStores.save IntegrityStores.empty saves) = (t, .ok r) ∧ StatusTold r) ↔
      CheckRequest (run IntegrityStores.save IntegrityStores.empty saves) report_id
        replay_plan_id notes := by
  have hvalid : BatchesValid (run IntegrityStores.save IntegrityStores.empty saves) :=
    @run_keeps _ _ IntegrityStores.save BatchesValid (fun _ a hs => save_batches_valid hs a) _
      BatchesValid.empty saves
  exact checkReplayPlan_iff hvalid hfresh

/-- A batch over no fingerprints, which names its plan. -/
def emptyBatch (report_id : String) : BatchReport where
  report_id
  scope_kind := .EXPLICIT_FINGERPRINT_SET
  replay_plan_id := some "plan-1"
  generated_at := sampleClock 0
  status := .GENERATED
  summary := buildBatchSummary []
  items := []
  requested_fingerprint_ids := []
  notes := none

/-- A batch with a trimmed id is reported on. -/
theorem trimmed_batch_checked : ∃ t r, checkReplayPlan sampleClock false "readiness-1" "plan-1"
    none (run IntegrityStores.save IntegrityStores.empty [.batchReport (emptyBatch "batch-1")]) =
      (t, .ok r) ∧ StatusTold r := by
  refine (readiness_check_total sampleClock _ false "readiness-1" "plan-1" none
    (by decide +kernel)).mpr ⟨by decide, by decide, fun _ h => absurd h (Option.not_mem_none _), ?_⟩
  have hlatest : (latestBatchReport (IntegrityStores.planBatches (run IntegrityStores.save
      IntegrityStores.empty [.batchReport (emptyBatch "batch-1")]) "plan-1")).map
        (fun b => b.report_id) = some "batch-1" := by decide +kernel
  intro b hb
  rw [hb, Option.map_some, Option.some.injEq] at hlatest
  rw [hlatest]
  decide

/-- A batch whose id has a leading space is stored, and makes the check fail. -/
theorem untrimmed_batch_refused :
    ¬ ∀ saves : List ContentSave, (run IntegrityStores.save IntegrityStores.empty
      saves).readiness_reports.get? "readiness-1" = none →
        ∃ t r, checkReplayPlan sampleClock false "readiness-1" "plan-1" none
          (run IntegrityStores.save IntegrityStores.empty saves) = (t, .ok r) := by
  intro h
  obtain ⟨t, r, hok⟩ := h [.batchReport (emptyBatch " batch-1")] (by decide +kernel)
  have hrefused : (checkReplayPlan sampleClock false "readiness-1" "plan-1" none
      (run IntegrityStores.save IntegrityStores.empty
        [.batchReport (emptyBatch " batch-1")])).2.isOk = false := by decide +kernel
  rw [hok] at hrefused
  cases hrefused

end FuturesBot.Integrity
