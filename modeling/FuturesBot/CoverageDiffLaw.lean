import FuturesBot.CoverageDiffing

/-! The diff of two reports: its items have ids of their own, its summary counts them, and it is
made exactly when what differs can be written. -/
namespace FuturesBot.Replay

open TextLines DateTimes Dicts KeySorting Checks TaggedTexts LocalReplayTimelineCoverageDiffer

/-! The ids of the items. -/

/-- A comparison of single values finds one change or none. -/
def oneIf (p : Prop) [Decidable p] : List String := if p then [""] else []

theorem oneIf_nodup (p : Prop) [Decidable p] : (oneIf p).Nodup := by
  rw [oneIf]
  split_ifs <;> simp

/-- The items by their tags, with what tells them apart under each tag. -/
def itemGroups (baseline candidate : ReplayTimelineCoverageReport) :
    List (String × List String) :=
  [(":status", oneIf (baseline.status ≠ candidate.status)),
    (":total-events", oneIf (baseline.summary.total_events ≠ candidate.summary.total_events)),
    (":kind:", (changedKeys ReplayInputKind.value baseline.summary.event_count_by_kind
      candidate.summary.event_count_by_kind).map ReplayInputKind.value),
    (":instrument:", (changedKeys id baseline.summary.event_count_by_instrument
      candidate.summary.event_count_by_instrument).map id),
    (":dataset:", (changedKeys id baseline.summary.event_count_by_dataset
      candidate.summary.event_count_by_dataset).map id),
    (":issue-severity:", (changedKeys ReplayTimelineCoverageIssueSeverity.value
      baseline.summary.issue_count_by_severity candidate.summary.issue_count_by_severity).map
        ReplayTimelineCoverageIssueSeverity.value),
    (":expected-kind:", (changedMembers ReplayInputKind.value baseline.expected_input_kinds
      candidate.expected_input_kinds).map ReplayInputKind.value),
    (":expected-instrument:", (changedMembers id baseline.expected_instrument_keys
      candidate.expected_instrument_keys).map id),
    (":first-event-at",
      oneIf (baseline.summary.first_event_at ≠ candidate.summary.first_event_at)),
    (":last-event-at", oneIf (baseline.summary.last_event_at ≠ candidate.summary.last_event_at))]

theorem diffTime_ids (tag : String) (kind : ReplayTimelineCoverageDiffKind) (d : String)
    (b c : Option DateTime) :
    (diffTime tag kind d b c).map (·.item_id) = (oneIf (b ≠ c)).map (d ++ tag ++ ·) := by
  by_cases h : b = c <;> simp [diffTime, oneIf, h]

theorem rawItems_ids (d : String) (baseline candidate : ReplayTimelineCoverageReport) :
    (rawItems d baseline candidate).map (·.item_id) =
      groupIds d (itemGroups baseline candidate) := by
  have hstatus : (diffStatus d baseline candidate).map (·.item_id) =
      (oneIf (baseline.status ≠ candidate.status)).map (d ++ ":status" ++ ·) := by
    by_cases h : baseline.status = candidate.status <;> simp [diffStatus, oneIf, h]
  have htotal : (diffTotalEvents d baseline candidate).map (·.item_id) =
      (oneIf (baseline.summary.total_events ≠ candidate.summary.total_events)).map
        (d ++ ":total-events" ++ ·) := by
    by_cases h : baseline.summary.total_events = candidate.summary.total_events <;>
      simp [diffTotalEvents, oneIf, h]
  rw [rawItems]
  simp only [List.map_append, diffEventTimes, diffTime_ids]
  rw [hstatus, htotal]
  simp only [groupIds, itemGroups, List.flatMap_cons, List.flatMap_nil, List.append_nil,
    List.append_assoc, diffKindCounts, diffInstrumentCounts, diffDatasetCounts,
    diffIssueSeverityCounts, diffExpectedKinds, diffExpectedInstruments, diffCounts, diffMembers,
    List.map_map]
  rfl

theorem itemGroups_distinct (baseline candidate : ReplayTimelineCoverageReport) :
    ∀ group ∈ itemGroups baseline candidate, group.2.Nodup := by
  intro group hgroup
  simp only [itemGroups, List.mem_cons, List.not_mem_nil, or_false] at hgroup
  rcases hgroup with rfl | rfl | rfl | rfl | rfl | rfl | rfl | rfl | rfl | rfl
  · exact oneIf_nodup _
  · exact oneIf_nodup _
  · exact (changedKeys_nodup _ _ _).map ReplayInputKind.value_injective
  · exact (changedKeys_nodup _ _ _).map Function.injective_id
  · exact (changedKeys_nodup _ _ _).map Function.injective_id
  · exact (changedKeys_nodup _ _ _).map ReplayTimelineCoverageIssueSeverity.value_injective
  · exact (changedMembers_nodup _ _ _).map ReplayInputKind.value_injective
  · exact (changedMembers_nodup _ _ _).map Function.injective_id
  · exact oneIf_nodup _
  · exact oneIf_nodup _

theorem rawItems_ids_nodup (d : String) (baseline candidate : ReplayTimelineCoverageReport) :
    ((rawItems d baseline candidate).map (·.item_id)).Nodup := by
  have htags : (itemGroups baseline candidate).map (·.1) = [":status", ":total-events", ":kind:",
      ":instrument:", ":dataset:", ":issue-severity:", ":expected-kind:", ":expected-instrument:",
      ":first-event-at", ":last-event-at"] := rfl
  rw [rawItems_ids]
  refine groupIds_nodup _ ?_ ?_ (itemGroups_distinct baseline candidate)
  · rw [htags]
    decide
  · rw [htags]
    decide

/-! Built items. -/

/-- The items of a diff of two reports. -/
def ItemsOf (d : String) (baseline candidate : ReplayTimelineCoverageReport)
    (items : List ReplayTimelineCoverageDiffItem) : Prop :=
  buildAll RawDiffItem.build (rawItems d baseline candidate) = .ok items

theorem map_of_forall₂ {α β γ : Type} {r : α → β → Prop} {f : α → γ} {g : β → γ} {l : List α}
    {m : List β} (h : List.Forall₂ r l m) (hfg : ∀ a b, r a b → g b = f a) : m.map g = l.map f := by
  induction h with
  | nil => rfl
  | cons hab _ ih => rw [List.map_cons, List.map_cons, ih, hfg _ _ hab]

section Items
variable {d d' : String} {baseline candidate : ReplayTimelineCoverageReport}
  {items items' : List ReplayTimelineCoverageDiffItem}

theorem ItemsOf.ids_nodup (h : ItemsOf d baseline candidate items) :
    (items.map (·.item_id)).Nodup := by
  have hids : items.map (·.item_id.value) = (rawItems d baseline candidate).map (·.item_id) :=
    map_of_forall₂ (buildAll_eq_ok.mp h) fun _ _ hbuild => (RawDiffItem.build_ok hbuild).2.1
  have hnodup : (items.map (·.item_id.value)).Nodup := by
    rw [hids]
    exact rawItems_ids_nodup d baseline candidate
  apply List.Nodup.of_map (·.value)
  rw [List.map_map]
  exact hnodup

theorem ItemsOf.changes (h : ItemsOf d baseline candidate items) :
    items.map (·.change) = (rawItems d baseline candidate).map (·.change) :=
  map_of_forall₂ (buildAll_eq_ok.mp h) fun _ _ hbuild => (RawDiffItem.build_ok hbuild).2.2

theorem ItemsOf.eq_nil_iff (h : ItemsOf d baseline candidate items) :
    items = [] ↔ Agree baseline candidate := by
  rw [← rawItems_eq_nil (d := d), ← List.map_eq_nil_iff, h.changes, List.map_eq_nil_iff]

/-- Exchanging the reports mirrors the items. -/
theorem ItemsOf.mirrored (h : ItemsOf d baseline candidate items)
    (h' : ItemsOf d' candidate baseline items') :
    items'.map (·.change) = items.map (·.change.mirror) := by
  have hmirror : items.map (·.change.mirror) = (items.map (·.change)).map DiffChange.mirror := by
    rw [List.map_map]
    rfl
  rw [hmirror, h.changes, h'.changes, rawItems_mirrored d d', List.map_map]
  rfl

theorem itemsOf_total (hid : Trimmed d.toList) :
    (∃ items, ItemsOf d baseline candidate items) ↔ DiffWritable baseline candidate := by
  rw [← rawItems_buildable hid]
  simp only [ItemsOf, buildAll_total, RawDiffItem.build_total]

theorem CountsWritable.symm {κ : Type} [DecidableEq κ] {text : κ → String} {b c : Dict κ ℕ}
    (h : CountsWritable text b c) : CountsWritable text c b := fun k hne =>
  (h k hne.symm).imp id And.symm

theorem DiffWritable.symm (h : DiffWritable baseline candidate) :
    DiffWritable candidate baseline where
  total hne := (h.total hne.symm).symm
  kinds := h.kinds.symm
  instruments := h.instruments.symm
  datasets := h.datasets.symm
  severities := h.severities.symm

end Items

/-- The summary of any items passes its own check. -/
theorem buildDiffSummary_valid (items : List ReplayTimelineCoverageDiffItem) :
    checkAll (buildDiffSummary items).validateDiffSummary = .ok () := by
  simp only [DiffSummaryFields.validateDiffSummary, checkAll_require, checkAll_nil, and_true]
  have hnil : (buildDiffSummary items).total_items = 0 ↔ items = [] := List.length_eq_zero_iff
  refine ⟨fun hzero => ?_, fun hzero => ?_, fun _ => ?_, fun _ => ?_, rfl, rfl⟩
  · rw [hnil.mp hzero]
    exact ⟨rfl, rfl⟩
  · rw [hnil.mp hzero]
    exact ⟨rfl, rfl⟩
  · exact (total_countKeys _).trans (List.length_map _)
  · exact (total_countKeys _).trans (List.length_map _)

/-! Diffs. -/

/-- What a request is checked for besides the reports. -/
structure ReadyDiff (differ : LocalReplayTimelineCoverageDiffer) (request : DiffRequest) :
    Prop where
  distinct : request.baseline_report_id ≠ request.candidate_report_id
  diff_id : Trimmed request.diff_id.toList
  notes : ∀ notes ∈ request.notes, Trimmed notes.toList
  aware : request.now ≠ none
  unused : differ.diff_store.get? request.diff_id = none

section Diffs
variable {differ differ' : LocalReplayTimelineCoverageDiffer} {request : DiffRequest}
  {baseline candidate : ReplayTimelineCoverageReport} {diff : ReplayTimelineCoverageDiff}
  {items : List ReplayTimelineCoverageDiffItem}

theorem diffOf_items (h : diffOf request baseline candidate = .ok diff) :
    ItemsOf request.diff_id baseline candidate diff.items := by
  rw [diffOf, bind_eq_ok] at h
  obtain ⟨items, hitems, h⟩ := h
  obtain ⟨summary, -, h⟩ := bind_eq_ok.mp h
  obtain ⟨diff_id, -, h⟩ := bind_eq_ok.mp h
  obtain ⟨baseline_report_id, -, h⟩ := bind_eq_ok.mp h
  obtain ⟨candidate_report_id, -, h⟩ := bind_eq_ok.mp h
  obtain ⟨notes, -, h⟩ := bind_eq_ok.mp h
  cases hnow : request.now with
  | none =>
    rw [hnow] at h
    cases h
  | some generated_at =>
    rw [hnow] at h
    obtain ⟨-, rfl⟩ := validated_eq_ok.mp h
    exact hitems

theorem generateDiff_items
    (hbaseline : differ.report_store.get? request.baseline_report_id = some baseline)
    (hcandidate : differ.report_store.get? request.candidate_report_id = some candidate)
    (h : differ.generateDiff request = .ok (differ', diff)) :
    ItemsOf request.diff_id baseline candidate diff.items := by
  rw [generateDiff] at h
  split_ifs at h
  rw [hbaseline] at h
  dsimp only at h
  rw [hcandidate] at h
  obtain ⟨diff', hdiff, h⟩ := bind_eq_ok.mp h
  obtain ⟨store, -, h⟩ := bind_eq_ok.mp h
  obtain ⟨-, rfl⟩ := Prod.mk.inj (Except.ok.inj h)
  exact diffOf_items hdiff

theorem generateDiff_of (ready : ReadyDiff differ request)
    (hbaseline : differ.report_store.get? request.baseline_report_id = some baseline)
    (hcandidate : differ.report_store.get? request.candidate_report_id = some candidate)
    (hitems : ItemsOf request.diff_id baseline candidate items) :
    ∃ differ' diff, differ.generateDiff request = .ok (differ', diff) := by
  obtain ⟨notes, hnotes⟩ :=
    optionalText_of "notes must be a non-empty trimmed string" ready.notes
  obtain ⟨generated_at, hnow⟩ := Option.ne_none_iff_exists'.mp ready.aware
  have hbid : Trimmed request.baseline_report_id.toList := by
    rw [← KeyedDict.key_of_get? hbaseline]
    exact baseline.report_id.trimmed
  have hcid : Trimmed request.candidate_report_id.toList := by
    rw [← KeyedDict.key_of_get? hcandidate]
    exact candidate.report_id.trimmed
  let summary : ReplayTimelineCoverageDiffSummary :=
    ⟨buildDiffSummary items, buildDiffSummary_valid items⟩
  let fields : CoverageDiffFields := {
    diff_id := ⟨request.diff_id, ready.diff_id⟩
    baseline_report_id := ⟨request.baseline_report_id, hbid⟩
    candidate_report_id := ⟨request.candidate_report_id, hcid⟩
    baseline_timeline_id := baseline.timeline_id
    candidate_timeline_id := candidate.timeline_id
    baseline_replay_plan_id := baseline.replay_plan_id
    candidate_replay_plan_id := candidate.replay_plan_id
    generated_at
    status := .GENERATED
    direction := .BASELINE_TO_CANDIDATE
    summary
    items
    notes }
  have hvalid : checkAll fields.validateDiff = .ok () := by
    simp only [CoverageDiffFields.validateDiff, checkAll_require, checkAll_nil, and_true]
    refine ⟨?_, hitems.ids_nodup, rfl, Dict.same_iff.mpr fun _ => rfl,
      Dict.same_iff.mpr fun _ => rfl⟩
    exact fun heq => ready.distinct (congrArg TrimmedText.value heq)
  have hsummary : ReplayTimelineCoverageDiffSummary.of (buildDiffSummary items) = .ok summary :=
    validated_eq_ok.mpr ⟨buildDiffSummary_valid items, rfl⟩
  have hdiff : diffOf request baseline candidate = .ok ⟨fields, hvalid⟩ := by
    rw [diffOf, hitems]
    change (ReplayTimelineCoverageDiffSummary.of (buildDiffSummary items) >>= _) = _
    rw [hsummary, requiredText_of _ ready.diff_id, requiredText_of _ hbid, requiredText_of _ hcid,
      hnotes, hnow]
    exact validated_eq_ok.mpr ⟨hvalid, rfl⟩
  have hsave : InMemoryReplayTimelineCoverageDiffStore.save differ.diff_store ⟨fields, hvalid⟩ =
      .ok (differ.diff_store.put ⟨fields, hvalid⟩) := by
    rw [InMemoryReplayTimelineCoverageDiffStore.save, ready.unused]
  refine ⟨{ differ with diff_store := differ.diff_store.put ⟨fields, hvalid⟩ },
    ⟨fields, hvalid⟩, ?_⟩
  rw [generateDiff, if_neg ready.distinct, hbaseline]
  dsimp only
  rw [hcandidate]
  dsimp only
  rw [hdiff]
  change (InMemoryReplayTimelineCoverageDiffStore.save differ.diff_store _ >>= _) = _
  rw [hsave]
  rfl

end Diffs

/-- A request with the reports exchanged. -/
structure Exchanged (request swapped : DiffRequest) : Prop where
  baseline : swapped.baseline_report_id = request.candidate_report_id
  candidate : swapped.candidate_report_id = request.baseline_report_id

/-- A diff is made that passes its own checks: it has no item exactly when the reports agree, the ids
of its items differ, and with the reports exchanged a diff is made that has the mirrored items. -/
def DiffLaw (differ : LocalReplayTimelineCoverageDiffer) (request : DiffRequest)
    (baseline candidate : ReplayTimelineCoverageReport) : Prop :=
  ∃ differ' diff, differ.generateDiff request = .ok (differ', diff) ∧
    checkAll diff.validateDiff = .ok () ∧ checkAll diff.summary.validateDiffSummary = .ok () ∧
    (diff.items = [] ↔ Agree baseline candidate) ∧ (diff.items.map (·.item_id)).Nodup ∧
    ∀ (other : LocalReplayTimelineCoverageDiffer) (swapped : DiffRequest),
      other.report_store = differ.report_store → Exchanged request swapped →
      ReadyDiff other swapped →
      ∃ other' mirrored, other.generateDiff swapped = .ok (other', mirrored) ∧
        mirrored.items.map (·.change) = diff.items.map (·.change.mirror)

/-- The law holds exactly when every count that differs can be written down, and every instrument or
dataset whose counts differ has a key that an item accepts. -/
theorem coverage_diff {differ : LocalReplayTimelineCoverageDiffer} {request : DiffRequest}
    {baseline candidate : ReplayTimelineCoverageReport} (ready : ReadyDiff differ request)
    (hbaseline : differ.report_store.get? request.baseline_report_id = some baseline)
    (hcandidate : differ.report_store.get? request.candidate_report_id = some candidate) :
    DiffLaw differ request baseline candidate ↔ DiffWritable baseline candidate := by
  constructor
  · rintro ⟨differ', diff, hdiff, -⟩
    exact (itemsOf_total ready.diff_id).mp ⟨_, generateDiff_items hbaseline hcandidate hdiff⟩
  · intro hwritable
    obtain ⟨items, hitems⟩ := (itemsOf_total ready.diff_id).mpr hwritable
    obtain ⟨differ', diff, hdiff⟩ := generateDiff_of ready hbaseline hcandidate hitems
    have hfound := generateDiff_items hbaseline hcandidate hdiff
    refine ⟨differ', diff, hdiff, diff.valid, diff.summary.valid, hfound.eq_nil_iff,
      hfound.ids_nodup, fun other swapped hstore hexchanged hready => ?_⟩
    have hbaseline' : other.report_store.get? swapped.baseline_report_id = some candidate := by
      rw [hstore, hexchanged.baseline, hcandidate]
    have hcandidate' : other.report_store.get? swapped.candidate_report_id = some baseline := by
      rw [hstore, hexchanged.candidate, hbaseline]
    obtain ⟨items', hitems'⟩ := (itemsOf_total hready.diff_id).mpr hwritable.symm
    obtain ⟨other', mirrored, hmirrored⟩ :=
      generateDiff_of hready hbaseline' hcandidate' hitems'
    exact ⟨other', mirrored, hmirrored,
      hfound.mirrored (generateDiff_items hbaseline' hcandidate' hmirrored)⟩

/-! A report of one event and a report of none, the event under a given key. -/

def reportWith (report_id : TrimmedText) (s : ReplayTimelineCoverageSummary)
    (h : s.issue_count_by_severity.entries = []) : ReplayTimelineCoverageReport where
  report_id
  timeline_id := ⟨"timeline-1", .checked evaluates⟩
  replay_plan_id := ⟨"plan-1", .checked evaluates⟩
  temporal_window := sampleWindow
  generated_at := sampleTime
  status := .GENERATED
  summary := s
  issues := []
  expected_input_kinds := []
  expected_instrument_keys := []
  notes := none
  valid := by
    have hempty : s.issue_count_by_severity = Dict.empty := Dict.ext h
    simp only [CoverageReportFields.validateReport, checkAll_require, checkAll_nil, and_true]
    refine ⟨List.nodup_nil, List.nodup_nil, List.nodup_nil, by simp, ?_⟩
    rw [hempty]
    exact Dict.same_iff.mpr fun _ => rfl

def emptyReport : ReplayTimelineCoverageReport :=
  reportWith ⟨"report-1", by decide⟩ {
    total_events := 0
    first_event_at := none
    last_event_at := none
    event_count_by_kind := .empty
    event_count_by_instrument := .empty
    event_count_by_dataset := .empty
    issue_count_by_severity := .empty
    valid := by decide } rfl

def eventReport (instrument_key : String) (h : instrument_key ≠ "") :
    ReplayTimelineCoverageReport :=
  reportWith ⟨"report-2", by decide⟩ {
    total_events := 1
    first_event_at := some sampleTime
    last_event_at := some sampleTime
    event_count_by_kind := Dict.empty.set .TRADE 1
    event_count_by_instrument := Dict.empty.set instrument_key 1
    event_count_by_dataset := Dict.empty.set "dataset-1" 1
    issue_count_by_severity := .empty
    valid := by
      simp only [CoverageSummaryFields.validateSummary, CoverageSummaryFields.validateKeys,
        checkAll_append, checkAll_require, checkAll_nil, and_true]
      refine ⟨⟨?_, by decide⟩, by simp, by simp, by simp, ?_, fun _ => rfl, fun _ => rfl,
        fun _ => rfl⟩
      · exact fun hmem => h (List.mem_singleton.mp hmem).symm
      · rintro first ⟨⟩ last ⟨⟩
        exact lt_irrefl _ } rfl

def differOf (baseline candidate : ReplayTimelineCoverageReport) :
    LocalReplayTimelineCoverageDiffer where
  report_store := (KeyedDict.empty.put baseline).put candidate
  diff_store := .empty

def sampleDiffRequest : DiffRequest where
  diff_id := "diff-1"
  baseline_report_id := "report-1"
  candidate_report_id := "report-2"
  notes := none
  now := some sampleTime

theorem sampleDiffRequest_ready (baseline candidate : ReplayTimelineCoverageReport) :
    ReadyDiff (differOf baseline candidate) sampleDiffRequest where
  distinct := by decide
  diff_id := by decide
  notes := by simp [sampleDiffRequest]
  aware := by simp [sampleDiffRequest]
  unused := rfl

theorem one_event_diff :
    DiffLaw (differOf emptyReport (eventReport "BINANCE:BTC:USDT" (by decide))) sampleDiffRequest
      emptyReport (eventReport "BINANCE:BTC:USDT" (by decide)) := by
  have hone : ∀ {κ : Type} [DecidableEq κ] {text : κ → String} {key : κ},
      Trimmed (text key).toList →
        CountsWritable text Dict.empty ((Dict.empty : Dict κ ℕ).set key 1) := by
    intro κ _ text key hkey k hne
    have heq : key = k := by
      by_contra hkk
      rw [Dict.count, Dict.count, Dict.get?_set_ne _ hkk] at hne
      exact hne rfl
    subst heq
    rw [Dict.count, Dict.count, Dict.get?_set_self]
    exact ⟨hkey, (by decide : Writable 0), (by decide : Writable 1)⟩
  refine (coverage_diff (sampleDiffRequest_ready _ _) rfl rfl).mpr
    ⟨fun _ => ⟨by decide, by decide⟩, hone (by decide), hone (by decide), hone (by decide), ?_⟩
  exact fun k hne => absurd rfl hne

/-- A key with a space before it stands in a summary, but no item can be made of it. -/
theorem untrimmed_key_refused :
    ¬ ∀ (differ : LocalReplayTimelineCoverageDiffer) (request : DiffRequest)
      (baseline candidate : ReplayTimelineCoverageReport), ReadyDiff differ request →
      differ.report_store.get? request.baseline_report_id = some baseline →
      differ.report_store.get? request.candidate_report_id = some candidate →
      DiffLaw differ request baseline candidate := by
  intro h
  obtain ⟨differ', diff, hdiff, -⟩ := h (differOf emptyReport (eventReport " A" (by decide)))
    sampleDiffRequest _ _ (sampleDiffRequest_ready _ _) rfl rfl
  have hrefused : ((differOf emptyReport (eventReport " A" (by decide))).generateDiff
      sampleDiffRequest).isOk = false := by
    decide +kernel
  rw [hdiff] at hrefused
  cases hrefused

end FuturesBot.Replay
