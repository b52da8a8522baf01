import FuturesBot.CoverageBuilding
import FuturesBot.CoverageDiffs

/-! What the differ finds: no item exactly when the reports agree, mirrored items when the reports
are exchanged, and ids of their own for all items. A diff is made exactly when the counts that
differ, and their keys, can be written into items. -/
namespace FuturesBot.Replay

open TextLines DateTimes Dicts KeySorting Checks TaggedTexts LocalReplayTimelineCoverageDiffer

/-! Building an item. -/

/-- The text of one side of an item. -/
def DiffValue.shown : DiffValue → Option String
  | .absent => none
  | .text value => some value
  | .count n => some (String.ofList (JsonText.natText n))

/-- One side of an item can be written. -/
def DiffValue.Fits : DiffValue → Prop
  | .absent => True
  | .text value => Trimmed value.toList
  | .count n => Writable n

/-- What two diffs are compared by. -/
structure DiffChange where
  kind : ReplayTimelineCoverageDiffKind
  key : Option String
  baseline_value : Option String
  candidate_value : Option String
  numeric_delta : Option ℤ

/-- The same change seen from the other report. -/
def DiffChange.mirror (c : DiffChange) : DiffChange where
  kind := c.kind
  key := c.key
  baseline_value := c.candidate_value
  candidate_value := c.baseline_value
  numeric_delta := c.numeric_delta.map fun delta => -delta

def ReplayTimelineCoverageDiffItem.change (item : ReplayTimelineCoverageDiffItem) : DiffChange where
  kind := item.kind
  key := item.key.map (·.value)
  baseline_value := item.baseline_value.map (·.value)
  candidate_value := item.candidate_value.map (·.value)
  numeric_delta := item.numeric_delta

def RawDiffItem.change (raw : RawDiffItem) : DiffChange where
  kind := raw.kind
  key := raw.key
  baseline_value := raw.baseline_value.shown
  candidate_value := raw.candidate_value.shown
  numeric_delta := raw.numeric_delta

/-- The texts of an item pass their checks. -/
structure RawDiffItem.Buildable (raw : RawDiffItem) : Prop where
  item_id : Trimmed raw.item_id.toList
  key : ∀ key ∈ raw.key, Trimmed key.toList
  baseline_value : raw.baseline_value.Fits
  candidate_value : raw.candidate_value.Fits

theorem requiredText_eq_ok {value message : String} {t : TrimmedText} :
    requiredText value message = .ok t ↔ t.value = value := by
  constructor
  · exact requiredText_ok
  · rintro rfl
    exact requiredText_of message t.trimmed

theorem optionalText_eq_ok {message : String} {value : Option String} {t : Option TrimmedText} :
    optionalText message value = .ok t ↔ t.map (·.value) = value := by
  cases value with
  | none =>
    rw [optionalText, Option.map_eq_none_iff]
    exact ⟨fun h => (Except.ok.inj h).symm, fun h => congrArg Except.ok h.symm⟩
  | some value =>
    rw [optionalText, map_eq_ok, Option.map_eq_some_iff]
    constructor
    · rintro ⟨text, htext, rfl⟩
      exact ⟨text, rfl, requiredText_eq_ok.mp htext⟩
    · rintro ⟨text, rfl, hvalue⟩
      exact ⟨text, requiredText_eq_ok.mpr hvalue, rfl⟩

theorem DiffValue.written_eq_ok {v : DiffValue} {text : Option String} :
    v.written = .ok text ↔ (∀ n, v = .count n → Writable n) ∧ v.shown = text := by
  cases v with
  | absent => simp [written, shown]
  | text value => simp [written, shown]
  | count n =>
    by_cases h : Writable n
    · simp [written, shown, h]
    · simp [written, h]

/-- A side of an item fits exactly when its text is written and trimmed. -/
theorem DiffValue.fits_iff {v : DiffValue} :
    v.Fits ↔ (∀ n, v = .count n → Writable n) ∧ ∀ text ∈ v.shown, Trimmed text.toList := by
  cases v with
  | absent => simp [Fits, shown]
  | text value => simp [Fits, shown]
  | count n =>
    have htrimmed := natText_trimmed n
    rw [String.toList_ofList] at htrimmed
    simp [Fits, shown, htrimmed]

theorem RawDiffItem.build_ok {raw : RawDiffItem} {item : ReplayTimelineCoverageDiffItem}
    (h : raw.build = .ok item) :
    raw.Buildable ∧ item.item_id.value = raw.item_id ∧ item.change = raw.change := by
  rw [RawDiffItem.build, bind_eq_ok] at h
  obtain ⟨baseline_text, hbaseline, h⟩ := h
  obtain ⟨candidate_text, hcandidate, h⟩ := bind_eq_ok.mp h
  obtain ⟨item_id, hid, h⟩ := bind_eq_ok.mp h
  obtain ⟨key, hkey, h⟩ := bind_eq_ok.mp h
  obtain ⟨baseline_value, hb, h⟩ := bind_eq_ok.mp h
  obtain ⟨candidate_value, hc, h⟩ := bind_eq_ok.mp h
  obtain ⟨hbwritable, hbshown⟩ := DiffValue.written_eq_ok.mp hbaseline
  obtain ⟨hcwritable, hcshown⟩ := DiffValue.written_eq_ok.mp hcandidate
  rw [requiredText_eq_ok] at hid
  rw [optionalText_eq_ok] at hkey hb hc
  have htrimmed : ∀ {t : Option TrimmedText} {v : Option String}, t.map (·.value) = v →
      ∀ text ∈ v, Trimmed text.toList := by
    rintro t v rfl text htext
    obtain ⟨t', -, rfl⟩ := Option.map_eq_some_iff.mp htext
    exact t'.trimmed
  rw [← Except.ok.inj h]
  refine ⟨⟨hid ▸ item_id.trimmed, htrimmed hkey, ?_, ?_⟩, hid, ?_⟩
  · exact DiffValue.fits_iff.mpr ⟨hbwritable, hbshown ▸ htrimmed hb⟩
  · exact DiffValue.fits_iff.mpr ⟨hcwritable, hcshown ▸ htrimmed hc⟩
  · simp only [ReplayTimelineCoverageDiffItem.change, RawDiffItem.change, hkey, hb, hc, hbshown,
      hcshown]

theorem RawDiffItem.build_total {raw : RawDiffItem} :
    (∃ item, raw.build = .ok item) ↔ raw.Buildable := by
  constructor
  · rintro ⟨item, h⟩
    exact (RawDiffItem.build_ok h).1
  · intro h
    obtain ⟨hbwritable, hb⟩ := DiffValue.fits_iff.mp h.baseline_value
    obtain ⟨hcwritable, hc⟩ := DiffValue.fits_iff.mp h.candidate_value
    obtain ⟨key, hkey⟩ := optionalText_of "field must be a non-empty trimmed string" h.key
    obtain ⟨b, hb⟩ := optionalText_of "field must be a non-empty trimmed string" hb
    obtain ⟨c, hc⟩ := optionalText_of "field must be a non-empty trimmed string" hc
    refine ⟨⟨⟨raw.item_id, h.item_id⟩, raw.kind, raw.severity, key, b, c, raw.numeric_delta⟩, ?_⟩
    rw [RawDiffItem.build, DiffValue.written_eq_ok.mpr ⟨hbwritable, rfl⟩,
      DiffValue.written_eq_ok.mpr ⟨hcwritable, rfl⟩, requiredText_of _ h.item_id, hkey]
    change (optionalText _ raw.baseline_value.shown >>= _) = _
    rw [hb]
    change (optionalText _ raw.candidate_value.shown >>= _) = _
    rw [hc]
    rfl

/-! The keys that differ. -/

section Keyed
variable {κ : Type} [DecidableEq κ]

theorem mem_changedKeys {text : κ → String} {b c : Dict κ ℕ} {k : κ} :
    k ∈ changedKeys text b c ↔ b.count k ≠ c.count k := by
  have habsent : ∀ {d : Dict κ ℕ}, k ∉ d.keys → d.count k = 0 := by
    intro d h
    rw [Dict.count, Dict.get?_eq_none.mpr h, Option.getD_none]
  rw [changedKeys, List.mem_filter, mem_sortBy, List.mem_dedup, List.mem_append, decide_eq_true_iff]
  constructor
  · exact fun h => h.2
  · intro hne
    refine ⟨?_, hne⟩
    by_contra h
    rw [not_or] at h
    exact hne ((habsent h.1).trans (habsent h.2).symm)

theorem changedKeys_nodup (text : κ → String) (b c : Dict κ ℕ) : (changedKeys text b c).Nodup :=
  ((sortBy_perm text _).nodup_iff.mpr (List.nodup_dedup _)).filter _

theorem sortBy_union_comm {text : κ → String} (htext : Function.Injective text) (l m : List κ) :
    sortBy text (l ++ m).dedup = sortBy text (m ++ l).dedup :=
  sortBy_perm_eq text List.perm_append_comm.dedup fun _ _ _ _ h => htext h

theorem changedKeys_comm {text : κ → String} (htext : Function.Injective text) (b c : Dict κ ℕ) :
    changedKeys text c b = changedKeys text b c := by
  rw [changedKeys, changedKeys, sortBy_union_comm htext]
  exact List.filter_congr fun k _ => decide_eq_decide.mpr ne_comm

theorem diffCounts_mirrored {text : κ → String} (htext : Function.Injective text) (tag : String)
    (kind : ReplayTimelineCoverageDiffKind) (severity : κ → ℤ → ReplayTimelineCoverageDiffSeverity)
    (d d' : String) (b c : Dict κ ℕ) :
    (diffCounts text tag kind severity d' c b).map (·.change) =
      (diffCounts text tag kind severity d b c).map (·.change.mirror) := by
  rw [diffCounts, diffCounts, changedKeys_comm htext, List.map_map, List.map_map]
  refine List.map_congr_left fun k _ => ?_
  have hdelta : countDelta (c.count k) (b.count k) = -countDelta (b.count k) (c.count k) :=
    (neg_sub _ _).symm
  simp only [Function.comp_apply, RawDiffItem.change, DiffChange.mirror, Option.map_some, hdelta]

theorem diffCounts_eq_nil {text : κ → String} {tag : String}
    {kind : ReplayTimelineCoverageDiffKind}
    {severity : κ → ℤ → ReplayTimelineCoverageDiffSeverity} {d : String} {b c : Dict κ ℕ} :
    diffCounts text tag kind severity d b c = [] ↔ ∀ k, b.count k = c.count k := by
  rw [diffCounts, List.map_eq_nil_iff, List.eq_nil_iff_forall_not_mem]
  exact forall_congr' fun k => by rw [mem_changedKeys, not_not]

/-- The counts that differ, and their keys, can be written into items. -/
def CountsWritable (text : κ → String) (b c : Dict κ ℕ) : Prop :=
  ∀ k, b.count k ≠ c.count k →
    Trimmed (text k).toList ∧ Writable (b.count k) ∧ Writable (c.count k)

theorem diffCounts_buildable {text : κ → String} {tag : String}
    {kind : ReplayTimelineCoverageDiffKind}
    {severity : κ → ℤ → ReplayTimelineCoverageDiffSeverity} {d : String} {b c : Dict κ ℕ}
    (hid : Trimmed d.toList) (htag : Trimmed tag.toList) :
    (∀ raw ∈ diffCounts text tag kind severity d b c, raw.Buildable) ↔
      CountsWritable text b c := by
  rw [diffCounts, List.forall_mem_map]
  constructor
  · intro h k hne
    have hraw := h k (mem_changedKeys.mpr hne)
    exact ⟨hraw.key _ rfl, hraw.baseline_value, hraw.candidate_value⟩
  · intro h k hk
    obtain ⟨htext, hb, hc⟩ := h k (mem_changedKeys.mp hk)
    refine ⟨trimmed_append_trimmed (trimmed_append_trimmed hid htag) htext, ?_, hb, hc⟩
    rintro key ⟨⟩
    exact htext

theorem mem_changedMembers {text : κ → String} {b c : List κ} {k : κ} :
    k ∈ changedMembers text b c ↔ ¬(k ∈ b ↔ k ∈ c) := by
  rw [changedMembers, mem_sortBy, List.mem_filter, List.mem_dedup, List.mem_append,
    decide_eq_true_iff]
  tauto

theorem changedMembers_nodup (text : κ → String) (b c : List κ) :
    (changedMembers text b c).Nodup :=
  (sortBy_perm text _).nodup_iff.mpr ((List.nodup_dedup _).filter _)

theorem changedMembers_comm {text : κ → String} (htext : Function.Injective text)
    (b c : List κ) : changedMembers text c b = changedMembers text b c := by
  have hfilter : ∀ l : List κ, (l.filter fun k => ¬(k ∈ c ∧ k ∈ b)) =
      l.filter fun k => ¬(k ∈ b ∧ k ∈ c) := fun l =>
    List.filter_congr fun k _ => decide_eq_decide.mpr (not_congr and_comm)
  rw [changedMembers, changedMembers, hfilter]
  exact sortBy_perm_eq text (List.perm_append_comm.dedup.filter _) fun _ _ _ _ h => htext h

theorem diffMembers_mirrored {text : κ → String} (htext : Function.Injective text)
    (tag : String) (kind : ReplayTimelineCoverageDiffKind) (d d' : String) (b c : List κ) :
    (diffMembers text tag kind d' c b).map (·.change) =
      (diffMembers text tag kind d b c).map (·.change.mirror) := by
  rw [diffMembers, diffMembers, changedMembers_comm htext, List.map_map, List.map_map]
  refine List.map_congr_left fun k hk => ?_
  -- A changed member is in exactly one of the sets, so the two tests are opposite.
  have hone := mem_changedMembers.mp hk
  by_cases hb : k ∈ b
  · have hc : k ∉ c := fun hc => hone (iff_of_true hb hc)
    simp [RawDiffItem.change, DiffChange.mirror, hb, hc]
  · have hc : k ∈ c := by
      by_contra hc
      exact hone (iff_of_false hb hc)
    simp [RawDiffItem.change, DiffChange.mirror, hb, hc]

theorem diffMembers_eq_nil {text : κ → String} {tag : String}
    {kind : ReplayTimelineCoverageDiffKind} {d : String} {b c : List κ} :
    diffMembers text tag kind d b c = [] ↔ ∀ k, k ∈ b ↔ k ∈ c := by
  rw [diffMembers, List.map_eq_nil_iff, List.eq_nil_iff_forall_not_mem]
  exact forall_congr' fun k => by rw [mem_changedMembers, not_not]

theorem diffMembers_buildable {text : κ → String} {tag : String}
    {kind : ReplayTimelineCoverageDiffKind} {d : String} {b c : List κ} (hid : Trimmed d.toList)
    (htag : Trimmed tag.toList) (hb : ∀ k ∈ b, Trimmed (text k).toList)
    (hc : ∀ k ∈ c, Trimmed (text k).toList) :
    ∀ raw ∈ diffMembers text tag kind d b c, raw.Buildable := by
  rw [diffMembers, List.forall_mem_map]
  intro k hk
  have hone := mem_changedMembers.mp hk
  have htext : Trimmed (text k).toList := by
    by_cases hkb : k ∈ b
    · exact hb k hkb
    · by_cases hkc : k ∈ c
      · exact hc k hkc
      · exact absurd (iff_of_false hkb hkc) hone
  refine ⟨trimmed_append_trimmed (trimmed_append_trimmed hid htag) htext, by simp, ?_, ?_⟩
  · dsimp only
    split_ifs
    · exact htext
    · trivial
  · dsimp only
    split_ifs
    · trivial
    · exact htext

end Keyed

/-! The comparisons of single values. -/

section Reports
variable {baseline candidate : ReplayTimelineCoverageReport}

theorem ReplayTimelineCoverageStatus.value_trimmed (status : ReplayTimelineCoverageStatus) :
    Trimmed status.value.toList := by
  cases status <;> decide

theorem ReplayTimelineCoverageIssueSeverity.value_injective :
    Function.Injective ReplayTimelineCoverageIssueSeverity.value := by
  intro a b h
  cases a <;> cases b <;> first | rfl | exact absurd h (by decide)

theorem diffStatus_mirrored (d d' : String) :
    (diffStatus d' candidate baseline).map (·.change) =
      (diffStatus d baseline candidate).map (·.change.mirror) := by
  by_cases h : baseline.status = candidate.status
  · simp [diffStatus, h]
  · simp [diffStatus, h, Ne.symm h, RawDiffItem.change, DiffChange.mirror]

theorem diffStatus_buildable {d : String} (hid : Trimmed d.toList) :
    ∀ raw ∈ diffStatus d baseline candidate, raw.Buildable := by
  rw [diffStatus]
  split_ifs
  · simp
  · rw [List.forall_mem_singleton]
    exact ⟨trimmed_append_trimmed hid (by decide), by simp, baseline.status.value_trimmed,
      candidate.status.value_trimmed⟩

theorem diffTotalEvents_mirrored (d d' : String) :
    (diffTotalEvents d' candidate baseline).map (·.change) =
      (diffTotalEvents d baseline candidate).map (·.change.mirror) := by
  by_cases h : baseline.summary.total_events = candidate.summary.total_events
  · simp [diffTotalEvents, h]
  · simp [diffTotalEvents, h, Ne.symm h, RawDiffItem.change, DiffChange.mirror, countDelta]

theorem diffTotalEvents_buildable {d : String} (hid : Trimmed d.toList) :
    (∀ raw ∈ diffTotalEvents d baseline candidate, raw.Buildable) ↔
      (baseline.summary.total_events ≠ candidate.summary.total_events →
        Writable baseline.summary.total_events ∧ Writable candidate.summary.total_events) := by
  by_cases h : baseline.summary.total_events = candidate.summary.total_events
  · simp [diffTotalEvents, h]
  · simp only [diffTotalEvents, if_neg h]
    rw [List.forall_mem_singleton]
    constructor
    · exact fun hraw _ => ⟨hraw.baseline_value, hraw.candidate_value⟩
    · intro hwritable
      obtain ⟨hb, hc⟩ := hwritable h
      exact ⟨trimmed_append_trimmed hid (by decide), by simp, hb, hc⟩

theorem diffTime_mirrored (tag : String) (kind : ReplayTimelineCoverageDiffKind) (d d' : String)
    (b c : Option DateTime) :
    (diffTime tag kind d' c b).map (·.change) =
      (diffTime tag kind d b c).map (·.change.mirror) := by
  by_cases h : b = c
  · simp [diffTime, h]
  · simp [diffTime, h, Ne.symm h, RawDiffItem.change, DiffChange.mirror]

theorem isoformat_trimmed (t : DateTime) : Trimmed (isoformat t).toList := by
  obtain ⟨c, s, hyear⟩ : ∃ c s, fixedDigits 4 t.year = c :: s := by
    apply List.exists_cons_of_length_pos
    rw [fixedDigits_length]
    decide
  have hc : isSpace c = false :=
    isDigit_not_space (fixedDigits_isDigit 4 t.year c (hyear ▸ List.mem_cons_self))
  have hlast : ∀ l m : List Char,
      (l ++ 'T' :: (m ++ ['+', '0', '0', ':', '0', '0'])).getLast? = some '0' := by
    intro l m
    rw [← List.cons_append, ← List.append_assoc, List.getLast?_append]
    rfl
  rw [isoformat, String.toList_ofList]
  refine trimmed_of_ends ?_ (hlast _ _) hc (by decide)
  rw [DateTime.dateText, hyear]
  rfl

theorem timeValue_fits (t : Option DateTime) : (timeValue t).Fits := by
  cases t with
  | none => trivial
  | some t => exact isoformat_trimmed t

theorem diffTime_buildable {tag : String} {kind : ReplayTimelineCoverageDiffKind} {d : String}
    {b c : Option DateTime} (hid : Trimmed d.toList) (htag : Trimmed tag.toList) :
    ∀ raw ∈ diffTime tag kind d b c, raw.Buildable := by
  rw [diffTime]
  split_ifs
  · simp
  · rw [List.forall_mem_singleton]
    exact ⟨trimmed_append_trimmed hid htag, by simp, timeValue_fits b, timeValue_fits c⟩

theorem diffTime_eq_nil {tag : String} {kind : ReplayTimelineCoverageDiffKind} {d : String}
    {b c : Option DateTime} : diffTime tag kind d b c = [] ↔ b = c := by
  by_cases h : b = c <;> simp [diffTime, h]

/-! All comparisons. -/

/-- The fields that are compared agree. -/
structure Agree (baseline candidate : ReplayTimelineCoverageReport) : Prop where
  status : baseline.status = candidate.status
  total : baseline.summary.total_events = candidate.summary.total_events
  kinds : ∀ k, baseline.summary.event_count_by_kind.count k =
    candidate.summary.event_count_by_kind.count k
  instruments : ∀ k, baseline.summary.event_count_by_instrument.count k =
    candidate.summary.event_count_by_instrument.count k
  datasets : ∀ k, baseline.summary.event_count_by_dataset.count k =
    candidate.summary.event_count_by_dataset.count k
  severities : ∀ k, baseline.summary.issue_count_by_severity.count k =
    candidate.summary.issue_count_by_severity.count k
  expected_kinds : ∀ k, k ∈ baseline.expected_input_kinds ↔ k ∈ candidate.expected_input_kinds
  expected_instruments :
    ∀ k, k ∈ baseline.expected_instrument_keys ↔ k ∈ candidate.expected_instrument_keys
  first : baseline.summary.first_event_at = candidate.summary.first_event_at
  last : baseline.summary.last_event_at = candidate.summary.last_event_at

theorem rawItems_eq_nil {d : String} :
    rawItems d baseline candidate = [] ↔ Agree baseline candidate := by
  have hstatus : diffStatus d baseline candidate = [] ↔ baseline.status = candidate.status := by
    by_cases h : baseline.status = candidate.status <;> simp [diffStatus, h]
  have htotal : diffTotalEvents d baseline candidate = [] ↔
      baseline.summary.total_events = candidate.summary.total_events := by
    by_cases h : baseline.summary.total_events = candidate.summary.total_events <;>
      simp [diffTotalEvents, h]
  simp only [rawItems, List.append_eq_nil_iff, hstatus, htotal, diffKindCounts,
    diffInstrumentCounts, diffDatasetCounts, diffIssueSeverityCounts, diffExpectedKinds,
    diffExpectedInstruments, diffEventTimes, diffCounts_eq_nil, diffMembers_eq_nil,
    diffTime_eq_nil]
  constructor
  · rintro ⟨⟨⟨⟨⟨⟨⟨⟨hs, ht⟩, hk⟩, hi⟩, hd⟩, hv⟩, hek⟩, hei⟩, hf, hl⟩
    exact ⟨hs, ht, hk, hi, hd, hv, hek, hei, hf, hl⟩
  · rintro ⟨hs, ht, hk, hi, hd, hv, hek, hei, hf, hl⟩
    exact ⟨⟨⟨⟨⟨⟨⟨⟨hs, ht⟩, hk⟩, hi⟩, hd⟩, hv⟩, hek⟩, hei⟩, hf, hl⟩

/-- The other way round, every comparison finds the same changes from the other side. -/
theorem rawItems_mirrored (d d' : String) (baseline candidate : ReplayTimelineCoverageReport) :
    (rawItems d' candidate baseline).map (·.change) =
      (rawItems d baseline candidate).map (·.change.mirror) := by
  simp only [rawItems, List.map_append, diffKindCounts, diffInstrumentCounts, diffDatasetCounts,
    diffIssueSeverityCounts, diffExpectedKinds, diffExpectedInstruments, diffEventTimes]
  rw [diffStatus_mirrored d d', diffTotalEvents_mirrored d d',
    diffCounts_mirrored ReplayInputKind.value_injective _ _ _ d d',
    diffCounts_mirrored Function.injective_id _ _ _ d d',
    diffCounts_mirrored Function.injective_id _ _ _ d d',
    diffCounts_mirrored ReplayTimelineCoverageIssueSeverity.value_injective _ _ _ d d',
    diffMembers_mirrored ReplayInputKind.value_injective _ _ d d',
    diffMembers_mirrored Function.injective_id _ _ d d', diffTime_mirrored _ _ d d',
    diffTime_mirrored _ _ d d']

/-- Every count that differs has at most 4300 digits, and every instrument or dataset whose counts
differ has a trimmed key. -/
structure DiffWritable (baseline candidate : ReplayTimelineCoverageReport) : Prop where
  total : baseline.summary.total_events ≠ candidate.summary.total_events →
    Writable baseline.summary.total_events ∧ Writable candidate.summary.total_events
  kinds : CountsWritable ReplayInputKind.value baseline.summary.event_count_by_kind
    candidate.summary.event_count_by_kind
  instruments : CountsWritable id baseline.summary.event_count_by_instrument
    candidate.summary.event_count_by_instrument
  datasets : CountsWritable id baseline.summary.event_count_by_dataset
    candidate.summary.event_count_by_dataset
  severities : CountsWritable ReplayTimelineCoverageIssueSeverity.value
    baseline.summary.issue_count_by_severity candidate.summary.issue_count_by_severity

theorem ReplayTimelineCoverageReport.expected_keys_trimmed
    (report : ReplayTimelineCoverageReport) :
    ∀ key ∈ report.expected_instrument_keys, Trimmed key.toList := by
  have hvalid := report.valid
  simp only [CoverageReportFields.validateReport, checkAll_require, checkAll_nil, and_true]
    at hvalid
  exact hvalid.2.2.2.1

theorem rawItems_buildable {d : String} (hid : Trimmed d.toList) :
    (∀ raw ∈ rawItems d baseline candidate, raw.Buildable) ↔ DiffWritable baseline candidate := by
  have htrue : ∀ {l : List RawDiffItem}, (∀ raw ∈ l, raw.Buildable) →
      ((∀ raw ∈ l, raw.Buildable) ↔ True) := fun h => iff_true_intro h
  have hexpected : ∀ raw ∈ diffMembers id ":expected-instrument:" .EXPECTED_INSTRUMENT_SET_CHANGED d
      baseline.expected_instrument_keys candidate.expected_instrument_keys, raw.Buildable :=
    diffMembers_buildable hid (by decide) baseline.expected_keys_trimmed
      candidate.expected_keys_trimmed
  simp only [rawItems, List.forall_mem_append, diffKindCounts, diffInstrumentCounts,
    diffDatasetCounts, diffIssueSeverityCounts, diffExpectedKinds, diffExpectedInstruments,
    diffEventTimes]
  rw [htrue (diffStatus_buildable hid), diffTotalEvents_buildable hid,
    diffCounts_buildable hid (by decide), diffCounts_buildable hid (by decide),
    diffCounts_buildable hid (by decide), diffCounts_buildable hid (by decide),
    htrue (diffMembers_buildable hid (by decide) (fun k _ => k.value_trimmed)
      fun k _ => k.value_trimmed),
    htrue hexpected,
    htrue (diffTime_buildable hid (by decide)), htrue (diffTime_buildable hid (by decide))]
  constructor
  · rintro ⟨⟨⟨⟨⟨⟨⟨⟨-, ht⟩, hk⟩, hi⟩, hd⟩, hv⟩, -⟩, -⟩, -⟩
    exact ⟨ht, hk, hi, hd, hv⟩
  · rintro ⟨ht, hk, hi, hd, hv⟩
    exact ⟨⟨⟨⟨⟨⟨⟨⟨trivial, ht⟩, hk⟩, hi⟩, hd⟩, hv⟩, trivial⟩, trivial⟩, trivial, trivial⟩

end Reports

end FuturesBot.Replay
