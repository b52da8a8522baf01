import FuturesBot.ReplayReadiness
import FuturesBot.StepRuns
import FuturesBot.TimelineBuilding

/-! A plan that is found ready has had all its fingerprints verified, and is planned unless they
were verified in another order. -/
namespace FuturesBot.Integrity

open JsonText (Json Text)
open TextLines DateTimes Dicts KeySorting Checks StoreActions StepRuns
open Replay (ReplayArtifactKind ReplayRunManifestStatus)
open Action

variable {now : ℕ → DateTime} {sha256 : Text → HexDigest} {s t : IntegrityStores}

/-! Why a plan is found ready. -/

theorem issueWhen_absent {p : Prop} [Decidable p] {issue : ReadinessIssue}
    (h : ∀ i ∈ issueWhen p issue, i.severity ≠ .ERROR) (herror : issue.severity = .ERROR) :
    ¬ p := by
  intro hp
  rw [issueWhen, if_pos hp] at h
  exact h issue (List.mem_singleton_self issue) herror

theorem ready_of_status {issues : List ReadinessIssue} {count : ℕ} {latest : Option BatchReport}
    (h : determineReadinessStatus issues count latest = .READY) :
    (∀ i ∈ issues, i.severity ≠ .ERROR) ∧ 0 < count ∧
      ∃ b, latest = some b ∧ b.summary.all_valid = true := by
  rw [determineReadinessStatus] at h
  split_ifs at h with herror hwarning hready
  obtain ⟨hcount, b, hb, hvalid⟩ := hready
  refine ⟨fun i hi hseverity => herror ?_, hcount, b, hb, hvalid⟩
  exact List.countP_pos_iff.mpr ⟨i, hi, decide_eq_true hseverity⟩

/-- What a readiness report says that finds its plan ready. -/
structure ReadyFacts (s : IntegrityStores) (plan_id : String) (r : ReadinessReport)
    (b : BatchReport) (batch_id : TrimmedText) : Prop where
  latest : latestBatchReport (s.planBatches plan_id) = some b
  named : batch_id.value = b.report_id
  summary : r.summary = buildReadinessSummary (s.planFingerprints plan_id).length
    (some (b, batch_id)) r.issues
  some_fingerprint : 0 < (s.planFingerprints plan_id).length
  all_valid : b.summary.all_valid = true
  no_mismatches : b.summary.has_mismatches = false
  none_missing : b.summary.has_missing = false
  count : b.summary.total_fingerprints = (s.planFingerprints plan_id).length
  no_issues : b.summary.total_issues = 0

theorem ready_facts {reads_coverage : Bool} {report_id replay_plan_id : String}
    {notes : Option String} {r : ReadinessReport}
    (h : checkReplayPlan now reads_coverage report_id replay_plan_id notes s = (t, .ok r))
    (hready : r.status = .READY) :
    ∃ b batch_id, ReadyFacts s replay_plan_id r b batch_id := by
  obtain ⟨latest, coverage, hnamed, -, -, -, hissues, hstatus, hsummary, hvalid, -, -⟩ :=
    checkReplayPlan_eq_ok h
  rw [hready] at hstatus
  obtain ⟨hnone, hcount, b, hb, hallvalid⟩ := ready_of_status hstatus.symm
  obtain ⟨⟨c, batch_id⟩, rfl, rfl⟩ := Option.map_eq_some_iff.mp hb
  obtain ⟨hlatest, hbid⟩ := namedBatch_some hnamed
  have hissues' := hissues
  rw [collectReadinessIssues, if_neg (Nat.ne_of_gt hcount)] at hissues'
  rw [hissues'] at hnone
  simp only [List.forall_mem_append] at hnone
  obtain ⟨⟨⟨⟨⟨-, hmismatch⟩, hmissing⟩, -⟩, htotal⟩, -⟩ := hnone
  have hchecks := (checkAll_append.mp hvalid).2
  rw [ReadinessReport.validateStatus, hready] at hchecks
  simp only [ReadinessReport.validateReady, checkAll_require] at hchecks
  obtain ⟨-, -, -, -, -, -, hzero, -⟩ := hchecks
  rw [hsummary] at hzero
  refine ⟨c, batch_id, hlatest, hbid, hsummary, hcount, hallvalid, ?_, ?_, ?_,
    Option.some.inj hzero⟩
  · exact Bool.eq_false_iff.mpr (issueWhen_absent hmismatch rfl)
  · exact Bool.eq_false_iff.mpr (issueWhen_absent hmissing rfl)
  · exact not_not.mp (issueWhen_absent htotal rfl)

/-! What readiness says of the fingerprints. -/

/-- The latest batch has verified exactly the fingerprints that the plan has, and has found each
of them valid. -/
structure ReadySound (s : IntegrityStores) (plan_id : String) (r : ReadinessReport)
    (b : BatchReport) : Prop where
  known : b ∈ s.batch_reports.values ∧ b.replay_plan_id = some plan_id
  latest : ∀ c ∈ s.batch_reports.values, c.replay_plan_id = some plan_id →
    IntegrityStores.batchOrder c ≤ IntegrityStores.batchOrder b
  named : r.summary.latest_batch_report_id.map (fun t => t.value) = some b.report_id
  exactly : b.requested_fingerprint_ids.Perm
    ((s.planFingerprints plan_id).map fun f => f.fingerprint_id.value)
  valid : ∀ i ∈ b.items, i.verification_status = .VALID
  verified : ∀ f ∈ s.planFingerprints plan_id, ∃ v ∈ s.verifications.values,
    itemOf b.report_id v ∈ b.items ∧ v.fingerprint_id = f.fingerprint_id ∧ v.status = .VALID ∧
      v.recomputed_canonical_payload = some f.canonical_payload
  whole_plan : b.scope_kind = .REPLAY_PLAN → b.requested_fingerprint_ids =
    (s.planFingerprints plan_id).map fun f => f.fingerprint_id.value

theorem ReadyFacts.batch {plan_id : String} {r : ReadinessReport} {b : BatchReport}
    {batch_id : TrimmedText} (h : ReadyFacts s plan_id r b batch_id) :
    b ∈ s.batch_reports.values ∧ b.replay_plan_id = some plan_id :=
  mem_planBatches.mp (maxBy_some h.latest).1

/-- All fingerprints of the plan are verified, for as many were as it has. -/
theorem ReadyFacts.perm {plan_id : String} {r : ReadinessReport} {b : BatchReport}
    {batch_id : TrimmedText} (hs : StoresSound now s) (h : ReadyFacts s plan_id r b batch_id) :
    b.requested_fingerprint_ids.Perm
      ((s.planFingerprints plan_id).map fun f => f.fingerprint_id.value) := by
  obtain ⟨hb, hplan⟩ := h.batch
  have hsound := hs.batch_reports b hb
  have hsubset : b.requested_fingerprint_ids ⊆
      (s.planFingerprints plan_id).map fun f => f.fingerprint_id.value := by
    intro id hid
    rw [← hsound.requested] at hid
    obtain ⟨i, hi, rfl⟩ := List.mem_map.mp hid
    obtain ⟨f, hf, hfid, -⟩ := verified_of_plan hsound hplan h.all_valid hi
    rw [← hfid]
    exact List.mem_map_of_mem hf
  have hlength : ((s.planFingerprints plan_id).map fun f => f.fingerprint_id.value).length ≤
      b.requested_fingerprint_ids.length := by
    have htotal := h.count
    rw [hsound.summary] at htotal
    have hitems : b.items.length = (s.planFingerprints plan_id).length := htotal
    rw [List.length_map, ← hitems, ← hsound.requested, List.length_map]
  exact (List.subperm_of_subset hsound.distinct hsubset).perm_of_length_le hlength

/-- A batch over the whole plan has verified it in its order. -/
theorem ReadyFacts.whole_plan {plan_id : String} {r : ReadinessReport} {b : BatchReport}
    {batch_id : TrimmedText} (hs : StoresSound now s) (h : ReadyFacts s plan_id r b batch_id)
    (hscope : b.scope_kind = .REPLAY_PLAN) : b.requested_fingerprint_ids =
      (s.planFingerprints plan_id).map fun f => f.fingerprint_id.value := by
  obtain ⟨hb, hplan⟩ := h.batch
  have hsound := hs.batch_reports b hb
  rcases hsound.scope with ⟨hexplicit, -⟩ | ⟨-, asked, before, hasked, ⟨later, hlater⟩, hrequested⟩
  · rw [hscope] at hexplicit
    cases hexplicit
  · rw [hasked, Option.some.injEq] at hplan
    subst hplan
    -- the plan has as many fingerprints as it had, so no later one
    have hlength := (h.perm hs).length_eq
    rw [hrequested, List.length_map, List.length_map, IntegrityStores.planFingerprints, ← hlater,
      (sortBy_perm _ _).length_eq, (sortBy_perm _ _).length_eq, List.filter_append,
      List.length_append] at hlength
    have hnone : later.filter (IntegrityStores.ofPlan asked) = [] :=
      List.eq_nil_of_length_eq_zero (by omega)
    rw [hrequested, IntegrityStores.planFingerprints, ← hlater, List.filter_append, hnone,
      List.append_nil]

theorem ready_sound {plan_id : String} {r : ReadinessReport} {b : BatchReport}
    {batch_id : TrimmedText} (hs : StoresSound now s) (h : ReadyFacts s plan_id r b batch_id) :
    ReadySound s plan_id r b := by
  obtain ⟨hb, hplan⟩ := h.batch
  have hsound := hs.batch_reports b hb
  refine ⟨⟨hb, hplan⟩, fun c hc hcplan => ?_, ?_, h.perm hs,
    all_valid_items hsound h.all_valid, fun f hf => ?_, h.whole_plan hs⟩
  · exact (maxBy_some h.latest).2 c (mem_planBatches.mpr ⟨hc, hcplan⟩)
  · rw [h.summary]
    exact congrArg some h.named
  · have hmem : f.fingerprint_id.value ∈ b.items.map fun i => i.fingerprint_id := by
      rw [hsound.requested]
      exact (h.perm hs).mem_iff.mpr (List.mem_map_of_mem hf)
    obtain ⟨i, hi, hid⟩ := List.mem_map.mp hmem
    have hstatus := all_valid_items hsound h.all_valid i hi
    obtain ⟨v, hv, rfl, -⟩ := (hsound.items i hi).verified
    obtain ⟨-, g, hg, hgid, -, -, hpayload⟩ := (hs.verifications v hv).valid hstatus
    have hsame : g = f := by
      apply KeyedDict.eq_of_key hg (mem_planFingerprints.mp hf).1
      exact (congrArg TrimmedText.value hgid).trans hid
    subst hsame
    exact ⟨v, hv, hi, TrimmedText.ext hid, hstatus, hpayload⟩

/-! When a ready plan is planned. -/

/-- A manifest that is planned, from what it is planned from. -/
theorem planManifest_ready {readiness : ReadinessReport} (hready : readiness.status = .READY)
    {manifest_id : String} {intent_kind : ReplayRunIntentKind} {notes : Option String}
    {m : ReplayRunManifest} :
    planManifest now manifest_id readiness intent_kind notes s = (t, .ok m) ↔
      ∃ batch binding, requireReadyBatch s readiness = .ok batch ∧
        makeReadinessBinding readiness batch.requested_fingerprint_ids = .ok binding ∧
        ReadyPlan s readiness batch ∧ readiness.checked_at ≤ now s.readings ∧
        makeManifest manifest_id readiness binding intent_kind notes .PLANNED (now s.readings)
          batch.requested_fingerprint_ids = .ok m ∧
        t = { s with readings := s.readings + 1 } := by
  unfold planManifest
  rw [hready]
  simp only
  constructor
  · intro h
    obtain ⟨u1, batch, h1, h⟩ := bind_eq_ok.mp h
    obtain ⟨rfl, hbatch⟩ := reading_eq_ok.mp h1
    obtain ⟨u2, binding, h2, h⟩ := bind_eq_ok.mp h
    obtain ⟨rfl, hbinding⟩ := reading_eq_ok.mp h2
    unfold planReadyManifest at h
    obtain ⟨u3, ⟨⟩, h3, h⟩ := bind_eq_ok.mp h
    obtain ⟨rfl, hplan⟩ := reading_eq_ok.mp h3
    obtain ⟨u4, created_at, htick, h⟩ := bind_eq_ok.mp h
    cases htick
    obtain ⟨u5, ⟨⟩, h5, h⟩ := bind_eq_ok.mp h
    obtain ⟨rfl, hcreated⟩ := reading_eq_ok.mp h5
    obtain ⟨rfl, hmanifest⟩ := reading_eq_ok.mp h
    rw [checkAll_require] at hcreated
    exact ⟨batch, binding, hbatch, hbinding, validateReadyPlan_eq_ok.mp hplan, hcreated.1,
      hmanifest, rfl⟩
  · rintro ⟨batch, binding, hbatch, hbinding, hplan, hcreated, hmanifest, rfl⟩
    refine bind_eq_ok.mpr ⟨_, batch, reading_eq_ok.mpr ⟨rfl, hbatch⟩, ?_⟩
    refine bind_eq_ok.mpr ⟨_, binding, reading_eq_ok.mpr ⟨rfl, hbinding⟩, ?_⟩
    unfold planReadyManifest
    refine bind_eq_ok.mpr ⟨_, (), reading_eq_ok.mpr ⟨rfl, validateReadyPlan_eq_ok.mpr hplan⟩, ?_⟩
    refine bind_eq_ok.mpr ⟨_, now s.readings, rfl, ?_⟩
    refine bind_eq_ok.mpr ⟨_, (), reading_eq_ok.mpr ⟨rfl, ?_⟩, reading_eq_ok.mpr ⟨rfl, hmanifest⟩⟩
    rw [checkAll_require]
    exact ⟨hcreated, checkAll_nil⟩

theorem planReplayRun_eq_ok {manifest_id readiness_report_id : String}
    {intent_kind : ReplayRunIntentKind} {notes : Option String} {m : ReplayRunManifest} :
    planReplayRun now manifest_id readiness_report_id intent_kind notes s = (t, .ok m) ↔
      ∃ readiness u, s.readiness_reports.get? readiness_report_id = some readiness ∧
        planManifest now manifest_id readiness intent_kind notes s = (u, .ok m) ∧
        u.manifests.Accepts m ∧ t = { u with manifests := u.manifests.put m } := by
  unfold planReplayRun
  constructor
  · intro h
    obtain ⟨u1, readiness, h1, h⟩ := bind_eq_ok.mp h
    obtain ⟨rfl, hload⟩ := reading_eq_ok.mp h1
    obtain ⟨u2, manifest, hplan, h⟩ := bind_eq_ok.mp h
    obtain ⟨u3, ⟨⟩, h3, h⟩ := bind_eq_ok.mp h
    obtain ⟨d, hd, rfl⟩ := writing_part_eq_ok.mp h3
    obtain ⟨haccepts, rfl⟩ := saved_eq_ok.mp hd
    obtain ⟨rfl, rfl⟩ := pure_eq_ok.mp h
    refine ⟨readiness, u2, ?_, hplan, haccepts, rfl⟩
    split at hload
    · cases hload
    · rename_i found hget
      cases hload
      exact hget
  · rintro ⟨readiness, u, hget, hplan, haccepts, rfl⟩
    refine bind_eq_ok.mpr ⟨s, readiness, reading_eq_ok.mpr ⟨rfl, ?_⟩, ?_⟩
    · rw [hget]
    · refine bind_eq_ok.mpr ⟨u, m, hplan, bind_eq_ok.mpr ⟨_, (), ?_, rfl⟩⟩
      exact writing_part_eq_ok.mpr ⟨_, saved_eq_ok.mpr ⟨haccepts, rfl⟩, rfl⟩

/-- What the planner is given: an unused manifest id and notes, each a trimmed text. -/
structure PlanRequest (s : IntegrityStores) (manifest_id : String) (notes : Option String) :
    Prop where
  id_trimmed : Trimmed manifest_id.toList
  unused : s.manifests.get? manifest_id = none
  notes_trimmed : ∀ text ∈ notes, Trimmed text.toList

theorem optionalText_of_trimmed {value : Option String} {field_name : String}
    (h : ∀ text ∈ value, Trimmed text.toList) :
    ∃ t, optionalText value field_name = .ok t := by
  cases value with
  | none => exact ⟨none, rfl⟩
  | some text =>
    have hok : requiredText text field_name = .ok ⟨text, h text rfl⟩ :=
      requiredText_eq_ok.mpr rfl
    exact ⟨some ⟨text, h text rfl⟩, map_eq_ok.mpr ⟨_, hok, rfl⟩⟩

/-- From the stores that a plan was found ready in it is planned, at any later time, exactly when
its fingerprints were verified in their order. -/
theorem plan_ready_iff (hmono : Monotone now) (hs : StoresSound now s) {reads_coverage : Bool}
    {report_id plan_id : String} {notes : Option String} {r : ReadinessReport}
    (h : checkReplayPlan now reads_coverage report_id plan_id notes s = (t, .ok r))
    (hready : r.status = .READY) {b : BatchReport} {batch_id : TrimmedText}
    (hfacts : ReadyFacts s plan_id r b batch_id) {n : ℕ} (hn : t.readings ≤ n)
    {manifest_id : String} {intent_kind : ReplayRunIntentKind} {notes' : Option String}
    (hrequest : PlanRequest t manifest_id notes') :
    (∃ u m, planReplayRun now manifest_id report_id intent_kind notes' { t with readings := n } =
        (u, .ok m) ∧ m.status = .PLANNED) ↔
      b.requested_fingerprint_ids =
        (s.planFingerprints plan_id).map fun f => f.fingerprint_id.value := by
  obtain ⟨-, -, -, hrid, hrplan, hchecked, -, -, -, -, haccepts, rfl, -⟩ := checkReplayPlan_eq_ok h
  obtain ⟨hb, hplan⟩ := hfacts.batch
  have hsound := hs.batch_reports b hb
  have hget : s.batch_reports.get? batch_id.value = some b := by
    rw [hfacts.named]
    exact KeyedDict.mem_values.mp hb
  have hload : (s.readiness_reports.put r).get? report_id = some r := by
    rw [← hrid]
    exact KeyedDict.mem_values.mp ((KeyedDict.mem_values_put_accepted haccepts).mpr (.inl rfl))
  have hlatest : r.summary.latest_batch_report_id = some batch_id := by
    rw [hfacts.summary]
    rfl
  have hpast : r.checked_at ≤ now n := by
    rw [hchecked]
    exact hmono (Nat.le_of_succ_le hn)
  constructor
  · rintro ⟨u, m, hok, -⟩
    obtain ⟨readiness, v, hfound, hmanifest, -, -⟩ := planReplayRun_eq_ok.mp hok
    have hsame : readiness = r := Option.some.inj (hfound.symm.trans hload)
    subst hsame
    obtain ⟨batch, binding, hbatch, -, hreadyplan, -, -, -⟩ := (planManifest_ready hready).mp
      hmanifest
    obtain ⟨found_id, hfound_id, hfoundget, -, -⟩ := requireReadyBatch_eq_ok.mp hbatch
    rw [hlatest, Option.some.injEq] at hfound_id
    subst hfound_id
    have hbsame : batch = b := Option.some.inj (hfoundget.symm.trans hget)
    subst hbsame
    have heq := hreadyplan.same
    rw [hrplan] at heq
    exact heq.symm
  · intro hsame
    have hnonempty : s.planFingerprints plan_id ≠ [] :=
      List.ne_nil_of_length_pos hfacts.some_fingerprint
    have hrequested : b.requested_fingerprint_ids ≠ [] := by
      rw [hsame, ne_eq, List.map_eq_nil_iff]
      exact hnonempty
    have hbefore : b.generated_at ≤ r.checked_at := by
      rw [hchecked]
      exact hsound.past
    have hbatch : requireReadyBatch { s with
        readings := n
        readiness_reports := s.readiness_reports.put r } r = .ok b := by
      refine requireReadyBatch_eq_ok.mpr ⟨batch_id, hlatest, hget, ?_, hrequested⟩
      simp only [validateReadyBatch, checkAll_require, checkAll_nil, and_true]
      rw [hfacts.summary, hrplan]
      exact ⟨hfacts.named.symm, hplan, hsound.generated, hfacts.all_valid, hfacts.no_mismatches,
        hfacts.none_missing, hfacts.no_issues, hfacts.count, rfl, rfl, hbefore⟩
    -- the ids are those of the fingerprints, each once
    have htexts : ((s.planFingerprints plan_id).map fun f => f.fingerprint_id).map
        (fun t => t.value) = b.requested_fingerprint_ids := by
      rw [List.map_map]
      exact hsame.symm
    have hdistinct : ((s.planFingerprints plan_id).map fun f => f.fingerprint_id).Nodup := by
      apply List.Nodup.of_map fun t => t.value
      rw [htexts]
      exact hsound.distinct
    have hlength : ((s.planFingerprints plan_id).map fun f => f.fingerprint_id).length =
        (s.planFingerprints plan_id).length := List.length_map _
    have htotal : r.summary.total_fingerprints = (s.planFingerprints plan_id).length := by
      rw [hfacts.summary]
      rfl
    have hreadyplan : ReadyPlan { s with
        readings := n
        readiness_reports := s.readiness_reports.put r } r b := by
      refine ⟨?_, hrplan ▸ hnonempty, ?_, ?_, fun f hf => ?_⟩
      · rw [hfacts.summary]
        exact congrArg some hfacts.count
      · rw [htotal, hrplan]
        rfl
      · rw [hrplan]
        exact hsame.symm
      · rw [hrplan] at hf
        have hmem : f.fingerprint_id.value ∈ b.items.map fun i => i.fingerprint_id := by
          rw [hsound.requested, hsame]
          exact List.mem_map_of_mem hf
        obtain ⟨i, hi, hid⟩ := List.mem_map.mp hmem
        obtain ⟨g, hg, hgid, htime⟩ := verified_of_plan hsound hplan hfacts.all_valid hi
        have hfg : g = f := by
          apply KeyedDict.eq_of_key (mem_planFingerprints.mp hg).1 (mem_planFingerprints.mp hf).1
          exact hgid.trans hid
        exact hfg ▸ htime
    have hsome : ∃ t, optionalText notes' "notes" = .ok t :=
      optionalText_of_trimmed hrequest.notes_trimmed
    obtain ⟨notes'', hnotes⟩ := hsome
    refine ⟨_, _, planReplayRun_eq_ok.mpr ⟨r, _, hload, (planManifest_ready hready).mpr
      ⟨b, _, hbatch, makeReadinessBinding_eq_ok.mpr ⟨_, htexts, hdistinct, rfl⟩, hreadyplan, hpast,
        makeManifest_eq_ok.mpr ⟨⟨manifest_id, hrequest.id_trimmed⟩, _, notes'', rfl, htexts,
          hnotes, ?_, rfl⟩, rfl⟩, ?_, rfl⟩, rfl⟩
    · simp only [ReplayRunManifest.validate, ReplayRunManifest.validatePlanned, checkAll_require,
        checkAll_nil, and_true, hlatest, hready]
      refine ⟨hdistinct, trivial, ?_, ?_, trivial, ?_, trivial, ?_, ?_, trivial, hpast⟩
      · rw [htotal]
        exact Nat.ne_of_gt hfacts.some_fingerprint
      · intro hnil
        rw [hnil] at htexts
        exact hrequested htexts.symm
      · simp
      · exact hlength.trans htotal.symm
      · exact hlength.trans htotal.symm
    · intro m hm
      have hunused : s.manifests.get? manifest_id = none := hrequest.unused
      have hused : s.manifests.get? manifest_id = some m := hm
      rw [hunused] at hused
      cases hused

/-- Whoever finds a plan ready has had exactly its fingerprints verified, every one of them valid,
and can plan it unless they were verified in another order; and a manifest that is planned keeps
the order of the times. -/
theorem readiness_sound (now : ℕ → DateTime) (hmono : Monotone now) (sha256 : Text → HexDigest)
    (calls : List IntegrityCall) :
    (∀ (reads_coverage : Bool) (report_id plan_id : String) (notes : Option String)
      (t : IntegrityStores) (r : ReadinessReport),
      checkReplayPlan now reads_coverage report_id plan_id notes
          (run (IntegrityStores.after now sha256) IntegrityStores.empty calls) = (t, .ok r) →
        r.status = .READY →
          ∃ b, ReadySound (run (IntegrityStores.after now sha256) IntegrityStores.empty calls)
              plan_id r b ∧
            ∀ (n : ℕ) (manifest_id : String) (intent_kind : ReplayRunIntentKind)
              (notes' : Option String), t.readings ≤ n → PlanRequest t manifest_id notes' →
              ((∃ u m, planReplayRun now manifest_id report_id intent_kind notes'
                  { t with readings := n } = (u, .ok m) ∧ m.status = .PLANNED) ↔
                b.requested_fingerprint_ids =
                  ((run (IntegrityStores.after now sha256) IntegrityStores.empty
                    calls).planFingerprints plan_id).map fun f => f.fingerprint_id.value)) ∧
    ∀ m ∈ (run (IntegrityStores.after now sha256) IntegrityStores.empty calls).manifests.values,
      ManifestSound (run (IntegrityStores.after now sha256) IntegrityStores.empty calls) m := by
  have hs : StoresSound now (run (IntegrityStores.after now sha256) IntegrityStores.empty calls) :=
    @run_keeps _ _ (IntegrityStores.after now sha256) (StoresSound now)
      (fun s call h => after_sound hmono h call) _ StoresSound.empty calls
  refine ⟨fun reads_coverage report_id plan_id notes t r h hready => ?_, hs.manifests⟩
  obtain ⟨b, batch_id, hfacts⟩ := ready_facts h hready
  exact ⟨b, ready_sound hs hfacts, fun n manifest_id intent_kind notes' hn hrequest =>
    plan_ready_iff hmono hs h hready hfacts hn hrequest⟩

/-! Two timelines of one plan, fingerprinted in turn. -/

def samplePayload : Json := .obj [("replay_plan_id", .str "plan-1")]

def sampleHistory : List IntegrityCall :=
  [.saveTimeline ⟨⟨"timeline-1", .checked evaluates⟩, ⟨"plan-1", .checked evaluates⟩,
      samplePayload⟩,
    .saveTimeline ⟨⟨"timeline-2", .checked evaluates⟩, ⟨"plan-1", .checked evaluates⟩,
      samplePayload⟩,
    .fingerprint .TIMELINE "fp-a" "timeline-1" none,
    .fingerprint .TIMELINE "fp-b" "timeline-2" none]

/-- A clock that goes on by seconds. -/
def sampleClock (k : ℕ) : DateTime := { sampleTime with
  second := 5 + min k 50
  time_ok := by
    change 3 < 24 ∧ 4 < 60 ∧ 5 + min k 50 < 60 ∧ 0 < 1000000
    omega }

theorem sampleClock_mono : Monotone sampleClock := by
  intro a b h
  change (sampleClock a).micros ≤ (sampleClock b).micros
  simp only [DateTime.micros, sampleClock]
  omega

def sampleDigest : HexDigest := .ofText (String.ofList (List.replicate 64 '0')) zeros_hex

/-- The stores after the fingerprints of both timelines are verified in some way. -/
def sampleStores (batch : IntegrityCall) : IntegrityStores :=
  run (IntegrityStores.after sampleClock fun _ => sampleDigest) IntegrityStores.empty
    (sampleHistory ++ [batch])

def sampleCheck (s : IntegrityStores) : IntegrityStores × Except IntegrityError ReadinessReport :=
  checkReplayPlan sampleClock false "readiness-1" "plan-1" none s

def samplePlan (s : IntegrityStores) :
    IntegrityStores × Except IntegrityError ReplayRunManifest :=
  planReplayRun sampleClock "manifest-1" "readiness-1" .REPLAY_ONLY none s

/-- In either order of the two fingerprints the plan is ready, and no manifest is there yet. -/
theorem sampleCheck_ready (batch : IntegrityCall)
    (h : batch = .verifyReplayPlan "batch-1" "plan-1" none ∨
      batch = .verifyFingerprints "batch-1" ["fp-b", "fp-a"] none) :
    ∃ t r, sampleCheck (sampleStores batch) = (t, .ok r) ∧ r.status = .READY ∧
      PlanRequest t "manifest-1" none := by
  have hready : (match sampleCheck (sampleStores batch) with
      | (t, .ok r) => decide (r.status = .READY) && (t.manifests.get? "manifest-1").isNone
      | (_, .error _) => false) = true := by
    rcases h with rfl | rfl
    · decide +kernel
    · decide +kernel
  rcases hcheck : sampleCheck (sampleStores batch) with ⟨t, e | r⟩
  · rw [hcheck] at hready
    cases hready
  · rw [hcheck] at hready
    simp only [Bool.and_eq_true, decide_eq_true_eq, Option.isNone_iff_eq_none] at hready
    exact ⟨t, r, rfl, hready.1, by decide, hready.2, by simp⟩

/-- The whole plan, verified and found ready, is planned. -/
theorem whole_plan_planned :
    ∃ t r u m, sampleCheck (sampleStores (.verifyReplayPlan "batch-1" "plan-1" none)) =
        (t, .ok r) ∧
      samplePlan t = (u, .ok m) ∧ m.status = .PLANNED := by
  obtain ⟨t, r, hcheck, hready, hrequest⟩ := sampleCheck_ready _ (.inl rfl)
  obtain ⟨hsound, -⟩ := readiness_sound sampleClock sampleClock_mono (fun _ => sampleDigest)
    (sampleHistory ++ [.verifyReplayPlan "batch-1" "plan-1" none])
  obtain ⟨b, hb, hplan⟩ := hsound false "readiness-1" "plan-1" none t r hcheck hready
  have hscope : ∀ c ∈ (sampleStores
      (.verifyReplayPlan "batch-1" "plan-1" none)).batch_reports.values,
        c.scope_kind = .REPLAY_PLAN := by decide +kernel
  have horder := hb.whole_plan (hscope b hb.known.1)
  obtain ⟨u, m, hok, hplanned⟩ :=
    (hplan t.readings "manifest-1" .REPLAY_ONLY none (Nat.le_refl _) hrequest).mpr horder
  exact ⟨t, r, u, m, hcheck, hok, hplanned⟩

/-- The same fingerprints, verified in another order and found ready, are not planned. -/
theorem other_order_not_planned :
    ¬ ∀ (batch : IntegrityCall) (t : IntegrityStores) (r : ReadinessReport),
      sampleCheck (sampleStores batch) = (t, .ok r) → r.status = .READY →
        PlanRequest t "manifest-1" none → ∃ u m, samplePlan t = (u, .ok m) := by
  intro h
  obtain ⟨t, r, hcheck, hready, hrequest⟩ :=
    sampleCheck_ready (.verifyFingerprints "batch-1" ["fp-b", "fp-a"] none) (.inr rfl)
  obtain ⟨u, m, hplan⟩ := h _ t r hcheck hready hrequest
  have hrefused : (samplePlan (sampleCheck (sampleStores
      (.verifyFingerprints "batch-1" ["fp-b", "fp-a"] none))).1).2.isOk = false := by
    decide +kernel
  rw [hcheck, hplan] at hrefused
  cases hrefused

end FuturesBot.Integrity
