import FuturesBot.WalReading

/-! The content of a WAL's disk as numbered segments of records, and what opening such a
disk gives. -/
namespace FuturesBot

open JsonText (Json Text)
open TextLines DateTimes Dicts

/-! Names of segments. -/

theorem segmentName_toList (run_id : RunId) (i : ℕ) :
    (segmentName run_id i).toList = segmentPrefix run_id ++ zeroPadded 6 i :=
  String.toList_ofList

theorem segmentName_begins (run_id : RunId) (i : ℕ) :
    (segmentPrefix run_id).isPrefixOf (segmentName run_id i).toList = true := by
  rw [segmentName_toList, List.isPrefixOf_iff_prefix]
  exact List.prefix_append _ _

theorem parseIndex_zeroPadded (i : ℕ) : parseIndex (zeroPadded 6 i) = some i := by
  rw [parseIndex, IntTexts.readInt_digits (zeroPadded_ne_nil (by decide) i) (zeroPadded_isDigit 6 i),
    digitsValue_zeroPadded]
  rfl

theorem segmentIndexFromId_name {id : WalSegmentId} {run_id : RunId} {i : ℕ}
    (h : id.value = segmentName run_id i) : segmentIndexFromId id run_id = .ok i := by
  have hprefix := segmentName_begins run_id i
  rw [segmentName_toList] at hprefix
  simp only [segmentIndexFromId, h, segmentName_toList, hprefix, ↓reduceIte, List.drop_left,
    parseIndex_zeroPadded]

theorem segmentName_injective (run_id : RunId) {i j : ℕ}
    (h : segmentName run_id i = segmentName run_id j) : i = j := by
  have htext := congrArg String.toList h
  rw [segmentName_toList, segmentName_toList] at htext
  have hdigits := congrArg parseIndex (List.append_cancel_left htext)
  simpa only [parseIndex_zeroPadded, Option.some.injEq] using hdigits

theorem segmentName_listed {run_id : RunId} (h : isListed run_id.value = true) (i : ℕ) :
    isListed (segmentName run_id i) = true := by
  have hdig : '/' ∉ zeroPadded 6 i := fun hmem =>
    absurd (zeroPadded_isDigit 6 i '/' hmem) (by decide)
  have hmid : '/' ∉ "-segment-".toList := by decide
  simp only [isListed, Bool.not_eq_true', List.contains_eq_mem, decide_eq_false_iff_not] at h ⊢
  rw [segmentName_toList, segmentPrefix]
  simp only [List.mem_append, not_or]
  exact ⟨⟨h, hmid⟩, hdig⟩

/-! Segments. -/

structure Segment where
  info : WalSegmentMetadata
  records : List JournalRecord

def allRecords (segs : List Segment) : List JournalRecord := segs.flatMap (·.records)

theorem allRecords_append (a b : List Segment) :
    allRecords (a ++ b) = allRecords a ++ allRecords b := List.flatMap_append

theorem allRecords_cons (s : Segment) (segs : List Segment) :
    allRecords (s :: segs) = s.records ++ allRecords segs := List.flatMap_cons

/-- Segments with consecutive indices from `i` on. -/
def NamedFrom (run_id : RunId) : ℕ → List Segment → Prop
  | _, [] => True
  | i, s :: segs =>
    (s.info.segment_id.value = segmentName run_id i ∧ s.info.run_id = run_id) ∧
      NamedFrom run_id (i + 1) segs

/-- Sealed segments whose metadata tells the truth, with consecutive offsets from `n` on. -/
def SealedFrom : ℕ → List Segment → Prop
  | _, [] => True
  | n, s :: segs =>
    (s.info.status = .SEALED ∧ Describes s.info n s.records ∧ Numbered n s.records) ∧
      SealedFrom (n + s.records.length) segs

theorem namedFrom_append (run_id : RunId) (i : ℕ) (a b : List Segment) :
    NamedFrom run_id i (a ++ b) ↔ NamedFrom run_id i a ∧ NamedFrom run_id (i + a.length) b := by
  induction a generalizing i with
  | nil => simp [NamedFrom]
  | cons s a ih =>
    have hlen : i + 1 + a.length = i + (s :: a).length := by
      rw [List.length_cons]
      omega
    simp only [List.cons_append, NamedFrom, ih, hlen, and_assoc]

theorem sealedFrom_append (n : ℕ) (a b : List Segment) :
    SealedFrom n (a ++ b) ↔ SealedFrom n a ∧ SealedFrom (n + (allRecords a).length) b := by
  induction a generalizing n with
  | nil => simp [SealedFrom, allRecords]
  | cons s a ih =>
    have hlen : n + s.records.length + (allRecords a).length =
        n + (allRecords (s :: a)).length := by
      rw [allRecords_cons, List.length_append]
      omega
    simp only [List.cons_append, SealedFrom, ih, hlen, and_assoc]

theorem sealedFrom_numbered {n : ℕ} {segs : List Segment} (h : SealedFrom n segs) :
    Numbered n (allRecords segs) := by
  induction segs generalizing n with
  | nil => trivial
  | cons s segs ih =>
    rw [allRecords_cons, numbered_append]
    exact ⟨h.1.2.2, ih h.2⟩

/-- A disk with sealed segments 1, 2, … and at most one OPEN segment behind them. The
metadata of the OPEN segment need not be up to date. -/
structure Laid (config : LocalJsonlWalConfig) (disk : Disk) (sealed : List Segment)
    (active : Option Segment) : Prop where
  files : disk.segments.entries =
    (sealed ++ active.toList).map fun s => (s.info.segment_id.value, segmentBytes s.records)
  infos : disk.metadata.entries =
    (sealed ++ active.toList).map fun s => (s.info.segment_id.value, metadataText s.info)
  named : NamedFrom config.run_id 1 (sealed ++ active.toList)
  sealed_ok : SealedFrom 0 sealed
  active_ok : ∀ s ∈ active,
    s.info.status = .OPEN ∧ Numbered (allRecords sealed).length s.records

/-- A disk whose segments a reader of the run finds, and whose records it takes back. -/
structure Holds (env : Env) (config : LocalJsonlWalConfig) (disk : Disk) (sealed : List Segment)
    (active : Option Segment) : Prop extends Laid config disk sealed active where
  listed : isListed config.run_id.value = true
  readable : ∀ r ∈ allRecords (sealed ++ active.toList), Readable env config r

/-! Reading the metadata files back. -/

theorem optional_depth {α : Type} {c : JsonCodec.Codec α} (h : ∀ a, c.dump a ≠ .null) {k : ℕ}
    (hk : ∀ a, (c.dump a).depth ≤ k) (a : Option α) : ((c.optional h).dump a).depth ≤ k := by
  cases a with
  | none => exact Nat.zero_le k
  | some a => exact hk a

theorem membersDepth_le {ms : List (String × Json)} {k : ℕ} (h : ∀ kv ∈ ms, kv.2.depth ≤ k) :
    JsonText.membersDepth ms ≤ k := by
  induction ms with
  | nil => exact Nat.zero_le k
  | cons kv ms ih =>
    exact max_le (h kv List.mem_cons_self) (ih fun m hm => h m (List.mem_cons_of_mem _ hm))

theorem metadata_depth (m : WalSegmentMetadata) : (walSegmentMetadata.dump m).depth ≤ 8 := by
  have hid : ∀ i, (domainId.dump i).depth ≤ 7 := fun _ => (by decide : (1 : ℕ) ≤ 7)
  have hrange : ∀ r, (walOffsetRange.dump r).depth ≤ 7 := fun _ => (by decide : (2 : ℕ) ≤ 7)
  have htime : ∀ t, (instant.dump t).depth ≤ 7 := fun _ => Nat.zero_le 7
  have hstatus : ∀ t, (walSegmentStatus.dump t).depth ≤ 7 := fun _ => Nat.zero_le 7
  have hcount : ∀ n, (JsonCodec.count.dump n).depth ≤ 7 := fun _ => Nat.zero_le 7
  have htext : ∀ t, (trimmedText.dump t).depth ≤ 7 := fun _ => Nat.zero_le 7
  refine Nat.succ_le_succ (membersDepth_le fun kv hkv => ?_)
  simp only [JsonCodec.dumpRow, List.mem_cons, List.not_mem_nil, or_false] at hkv
  rcases hkv with rfl | rfl | rfl | rfl | rfl | rfl | rfl | rfl | rfl | rfl
  · exact hid _
  · exact hid _
  · exact hstatus _
  · exact optional_depth (by rintro _ ⟨⟩) hrange _
  · exact htime _
  · exact optional_depth (by rintro _ ⟨⟩) htime _
  · exact hcount _
  · exact hcount _
  · exact optional_depth trimmedText_dump_ne_null htext _
  · exact optional_depth trimmedText_dump_ne_null htext _

theorem readMetadata_text {env : Env} {disk : Disk} {name : String} {m : WalSegmentMetadata}
    (h : disk.metadata.get? name = some (metadataText m)) : readMetadata env disk name = some m := by
  have hdepth := (metadata_depth m).trans env.depth_min
  simp only [readMetadata, h, metadataText, decodeUtf8_encodeUtf8, env.parseJson_encode, hdepth,
    ↓reduceIte, walSegmentMetadata.load_dump, Option.bind_eq_bind, Option.bind_some]

theorem mapM_map_ok {ε α β γ : Type} {f : β → Except ε γ} {g : α → β} {k : α → γ} {l : List α}
    (h : ∀ x ∈ l, f (g x) = .ok (k x)) : (l.map g).mapM f = .ok (l.map k) := by
  induction l with
  | nil => rfl
  | cons x l ih =>
    rw [List.map_cons, List.mapM_cons, h x List.mem_cons_self,
      ih fun y hy => h y (List.mem_cons_of_mem _ hy)]
    rfl

theorem namedFrom_mem {run_id : RunId} {i : ℕ} {segs : List Segment}
    (h : NamedFrom run_id i segs) :
    ∀ s ∈ segs, ∃ j, (i ≤ j ∧ j < i + segs.length) ∧
      s.info.segment_id.value = segmentName run_id j ∧ s.info.run_id = run_id := by
  induction segs generalizing i with
  | nil => exact fun s hs => absurd hs List.not_mem_nil
  | cons t segs ih =>
    intro s hs
    rcases List.mem_cons.mp hs with rfl | hs
    · exact ⟨i, ⟨le_refl i, Nat.lt_add_of_pos_right (Nat.succ_pos _)⟩, h.1.1, h.1.2⟩
    · obtain ⟨j, hj, hname, hrun⟩ := ih h.2 s hs
      refine ⟨j, ?_, hname, hrun⟩
      rw [List.length_cons]
      omega

theorem sealedFrom_status {n : ℕ} {segs : List Segment} (h : SealedFrom n segs) :
    ∀ s ∈ segs, s.info.status = .SEALED := by
  induction segs generalizing n with
  | nil => exact fun s hs => absurd hs List.not_mem_nil
  | cons t segs ih =>
    intro s hs
    rcases List.mem_cons.mp hs with rfl | hs
    · exact h.1.1
    · exact ih h.2 s hs

section Listing

variable {env : Env} {config : LocalJsonlWalConfig} {disk : Disk} {sealed : List Segment}
  {active : Option Segment}

theorem namesForRun_eq {files : Dict String Bytes} {segs : List Segment} {content : Segment → Bytes}
    (hlisted : isListed config.run_id.value = true) (hnamed : NamedFrom config.run_id 1 segs)
    (hfiles : files.entries = segs.map fun s => (s.info.segment_id.value, content s)) :
    namesForRun config.run_id files = segs.map fun s => s.info.segment_id.value := by
  have hkeys : files.keys = segs.map fun s => s.info.segment_id.value := by
    rw [Dict.keys, hfiles, List.map_map]
    rfl
  rw [namesForRun, hkeys, List.filter_eq_self]
  intro name hname
  obtain ⟨s, hs, rfl⟩ := List.mem_map.mp hname
  obtain ⟨j, -, hj, -⟩ := namedFrom_mem hnamed s hs
  rw [hj, segmentName_listed hlisted, segmentName_begins, Bool.and_self]

theorem Laid.get_file (h : Laid config disk sealed active) {s : Segment}
    (hs : s ∈ sealed ++ active.toList) :
    disk.segments.get? s.info.segment_id.value = some (segmentBytes s.records) := by
  rw [Dict.get?_eq_some, h.files]
  exact List.mem_map_of_mem hs

theorem Laid.get_info (h : Laid config disk sealed active) {s : Segment}
    (hs : s ∈ sealed ++ active.toList) :
    disk.metadata.get? s.info.segment_id.value = some (metadataText s.info) := by
  rw [Dict.get?_eq_some, h.infos]
  exact List.mem_map_of_mem hs

theorem Holds.loadMetadata (h : Holds env config disk sealed active) :
    loadMetadataForRun env config.run_id disk =
      .ok ((sealed ++ active.toList).map (·.info)) := by
  rw [loadMetadataForRun, namesForRun_eq h.listed h.named h.infos]
  refine mapM_map_ok fun s hs => ?_
  obtain ⟨j, -, -, hrun⟩ := namedFrom_mem h.named s hs
  simp only [loadMetadataFile, readMetadata_text (h.get_info hs), hrun, ne_eq, not_true_eq_false,
    ↓reduceIte]

theorem Holds.filter_open (h : Holds env config disk sealed active) :
    ((sealed ++ active.toList).map (·.info)).filter LocalJsonlWal.isOpen =
      active.toList.map (·.info) := by
  have hsealed : (sealed.map (·.info)).filter LocalJsonlWal.isOpen = [] := by
    rw [List.filter_eq_nil_iff]
    intro m hm
    obtain ⟨s, hs, rfl⟩ := List.mem_map.mp hm
    simp [LocalJsonlWal.isOpen, sealedFrom_status h.sealed_ok s hs]
  have hactive : (active.toList.map (·.info)).filter LocalJsonlWal.isOpen =
      active.toList.map (·.info) := by
    rw [List.filter_eq_self]
    intro m hm
    obtain ⟨s, hs, rfl⟩ := List.mem_map.mp hm
    simp [LocalJsonlWal.isOpen, (h.active_ok s (by simpa using hs)).1]
  rw [List.map_append, List.filter_append, hsealed, hactive, List.nil_append]

theorem Holds.filter_sealed (h : Holds env config disk sealed active) :
    ((sealed ++ active.toList).map (·.info)).filter (fun m => !LocalJsonlWal.isOpen m) =
      sealed.map (·.info) := by
  have hsealed : (sealed.map (·.info)).filter (fun m => !LocalJsonlWal.isOpen m) =
      sealed.map (·.info) := by
    rw [List.filter_eq_self]
    intro m hm
    obtain ⟨s, hs, rfl⟩ := List.mem_map.mp hm
    simp [LocalJsonlWal.isOpen, sealedFrom_status h.sealed_ok s hs]
  have hactive : (active.toList.map (·.info)).filter (fun m => !LocalJsonlWal.isOpen m) = [] := by
    rw [List.filter_eq_nil_iff]
    intro m hm
    obtain ⟨s, hs, rfl⟩ := List.mem_map.mp hm
    simp [LocalJsonlWal.isOpen, (h.active_ok s (by simpa using hs)).1]
  rw [List.map_append, List.filter_append, hsealed, hactive, List.append_nil]

/-! Segment indices. -/

theorem mapM_index {run_id : RunId} {i : ℕ} {segs : List Segment}
    (h : NamedFrom run_id i segs) :
    (segs.map (·.info)).mapM (fun m => segmentIndexFromId m.segment_id run_id) =
      .ok (List.range' i segs.length) := by
  induction segs generalizing i with
  | nil => rfl
  | cons s segs ih =>
    rw [List.map_cons, List.mapM_cons, segmentIndexFromId_name h.1.1, ih h.2]
    rfl

theorem range'_sorted (i n : ℕ) : (List.range' i n).Pairwise (· ≤ ·) :=
  List.pairwise_le_range'

theorem checkIndices_range' (i n : ℕ) :
    LocalJsonlWal.checkIndices i (List.range' (i + 1) n) = .ok () := by
  induction n generalizing i with
  | zero => rfl
  | succ n ih =>
    rw [List.range'_succ, LocalJsonlWal.checkIndices, if_neg (not_not.mpr rfl)]
    exact ih (i + 1)

theorem indexContinuity_range' (n : ℕ) :
    LocalJsonlWal.validateSegmentIndexContinuity (List.range' 1 n) = .ok () := by
  rw [LocalJsonlWal.validateSegmentIndexContinuity,
    List.Pairwise.insertionSort_eq (range'_sorted 1 n)]
  cases n with
  | zero => rfl
  | succ n =>
    rw [List.range'_succ]
    simp only [ne_eq, not_true_eq_false, ↓reduceIte]
    exact checkIndices_range' 1 n

theorem foldr_max_range' (i n : ℕ) :
    (List.range' i n).foldr max 0 = if n = 0 then 0 else i + n - 1 := by
  induction n generalizing i with
  | zero => rfl
  | succ n ih =>
    rw [List.range'_succ, List.foldr_cons, ih, if_neg (Nat.succ_ne_zero n)]
    split <;> omega

/-- Metadata with the index of its segment. -/
def keyedFrom : ℕ → List Segment → List (ℕ × WalSegmentMetadata)
  | _, [] => []
  | i, s :: segs => (i, s.info) :: keyedFrom (i + 1) segs

theorem keyedFrom_snd (i : ℕ) (segs : List Segment) :
    (keyedFrom i segs).map (·.2) = segs.map (·.info) := by
  induction segs generalizing i with
  | nil => rfl
  | cons s segs ih => rw [keyedFrom, List.map_cons, List.map_cons, ih]

theorem keyedFrom_sorted (i : ℕ) (segs : List Segment) :
    (keyedFrom i segs).Pairwise (fun a b => a.1 ≤ b.1) ∧ ∀ a ∈ keyedFrom i segs, i ≤ a.1 := by
  induction segs generalizing i with
  | nil => exact ⟨List.Pairwise.nil, fun a ha => absurd ha List.not_mem_nil⟩
  | cons s segs ih =>
    obtain ⟨hsorted, hle⟩ := ih (i + 1)
    refine ⟨List.Pairwise.cons (fun a ha => ?_) hsorted, fun a ha => ?_⟩
    · have := hle a ha
      simp only
      omega
    · rcases List.mem_cons.mp ha with rfl | ha
      · exact le_refl i
      · have := hle a ha
        omega

theorem mapM_keyed {run_id : RunId} {i : ℕ} {segs : List Segment}
    (h : NamedFrom run_id i segs) :
    (segs.map (·.info)).mapM (fun m => do
      let index ← segmentIndexFromId m.segment_id run_id
      Except.ok (index, m)) = .ok (keyedFrom i segs) := by
  induction segs generalizing i with
  | nil => rfl
  | cons s segs ih =>
    rw [List.map_cons, List.mapM_cons, segmentIndexFromId_name h.1.1, ih h.2]
    rfl

/-- Sealed metadata comes sorted already. -/
theorem Holds.sortSealed (h : Holds env config disk sealed active) :
    LocalJsonlWal.sortSealed config.run_id ((sealed ++ active.toList).map (·.info)) =
      .ok (sealed.map (·.info)) := by
  have hnamed := ((namedFrom_append config.run_id 1 sealed active.toList).mp h.named).1
  have hsorted := List.Pairwise.insertionSort_eq (keyedFrom_sorted 1 sealed).1
  rw [LocalJsonlWal.sortSealed, h.filter_sealed, mapM_keyed hnamed]
  change Except.ok (((keyedFrom 1 sealed).insertionSort fun a b => a.1 ≤ b.1).map (·.2)) = _
  rw [hsorted, keyedFrom_snd]

theorem ranges_offset_range {m : WalSegmentMetadata} {n : ℕ} {rs : List JournalRecord}
    (h : Ranges m n rs) :
    (rs = [] ∧ m.offset_range = none) ∨
      rs ≠ [] ∧ ∃ r, m.offset_range = some r ∧ r.first.value = n ∧
        r.last.value = n + rs.length - 1 := by
  have hrange := h.range
  by_cases hne : rs = []
  · rw [if_pos hne] at hrange
    exact .inl ⟨hne, Option.map_eq_none_iff.mp hrange⟩
  · rw [if_neg hne] at hrange
    obtain ⟨r, hr, hval⟩ := Option.map_eq_some_iff.mp hrange
    obtain ⟨h1, h2⟩ := Prod.mk.inj hval
    exact .inr ⟨hne, r, hr, h1, h2⟩

theorem continuity_cons {m : WalSegmentMetadata} {n : ℕ} {rs : List JournalRecord}
    (h : Ranges m n rs) (rest : List WalSegmentMetadata) :
    LocalJsonlWal.validateGlobalOffsetContinuity n (m :: rest) =
      LocalJsonlWal.validateGlobalOffsetContinuity (n + rs.length) rest := by
  rcases ranges_offset_range h with ⟨hnil, hr⟩ | ⟨hne, r, hr, hf, hl⟩
  · rw [LocalJsonlWal.validateGlobalOffsetContinuity, hr, hnil]
    rfl
  · have hpos := List.length_pos_of_ne_nil hne
    rw [LocalJsonlWal.validateGlobalOffsetContinuity, hr]
    simp only [hf, hl, ne_eq, not_true_eq_false, ↓reduceIte]
    congr 1
    omega

theorem sealed_continuity {n : ℕ} {segs : List Segment} (h : SealedFrom n segs)
    (rest : List WalSegmentMetadata) :
    LocalJsonlWal.validateGlobalOffsetContinuity n (segs.map (·.info) ++ rest) =
      LocalJsonlWal.validateGlobalOffsetContinuity (n + (allRecords segs).length) rest := by
  induction segs generalizing n with
  | nil => rfl
  | cons s segs ih =>
    rw [List.map_cons, List.cons_append, continuity_cons h.1.2.1.toRanges, ih h.2, allRecords_cons,
      List.length_append, Nat.add_assoc]

end Listing

/-! The open WAL. -/

/-- An open WAL whose active segment holds `rs`, behind the sealed segments. -/
structure Counted (config : LocalJsonlWalConfig) (wal : LocalJsonlWal) (sealed : List Segment)
    (rs : List JournalRecord) : Prop where
  config_eq : wal.config = config
  sealed_meta : wal.sealed_meta = sealed.map (·.info)
  index : wal.current_segment_index = sealed.length + 1
  name : wal.active_segment_id.value = segmentName config.run_id (sealed.length + 1)
  event_count : wal.active_event_count = rs.length
  first : wal.active_first_offset = if rs = [] then none else some (allRecords sealed).length
  last : wal.active_last_offset =
    if rs = [] then none else some ((allRecords sealed).length + rs.length - 1)

/-- The same, with the size of the active segment's file. -/
structure Attached (config : LocalJsonlWalConfig) (wal : LocalJsonlWal) (sealed : List Segment)
    (rs : List JournalRecord) : Prop extends Counted config wal sealed rs where
  byte_count : wal.active_byte_count = (segmentBytes rs).length

section Handle

variable {env : Env} {config : LocalJsonlWalConfig} {wal : LocalJsonlWal} {sealed : List Segment}
  {rs : List JournalRecord}

/-- The metadata that the open WAL computes for its active segment. -/
theorem Counted.activeMetadata (h : Counted config wal sealed rs) (status : WalSegmentStatus)
    (sealed_at : Option DateTime)
    (hstatus : (status = .OPEN ∧ sealed_at = none) ∨
      (status = .SEALED ∧ ∃ t, sealed_at = some t ∧ wal.active_segment_created_at ≤ t)) :
    ∃ m, wal.activeMetadata status sealed_at = .ok m ∧ m.status = status ∧
      m.segment_id = wal.active_segment_id ∧ m.run_id = config.run_id ∧
      m.payload_bytes = wal.active_byte_count ∧ Ranges m (allRecords sealed).length rs := by
  have hrange : ∃ range, offsetRange wal.active_first_offset wal.active_last_offset = .ok range ∧
      (range.map fun r => (r.first.value, r.last.value)) =
        (if rs = [] then none else
          some ((allRecords sealed).length, (allRecords sealed).length + rs.length - 1)) ∧
      ∀ r ∈ range, rs.length = r.count := by
    by_cases hne : rs = []
    · refine ⟨none, ?_, ?_, nofun⟩
      · rw [h.first, if_pos hne]
        rfl
      · rw [if_pos hne]
        rfl
    · have hpos := List.length_pos_of_ne_nil hne
      have hle : (allRecords sealed).length ≤ (allRecords sealed).length + rs.length - 1 := by
        omega
      refine ⟨some ⟨⟨_⟩, ⟨_⟩, hle⟩, ?_, ?_, ?_⟩
      · rw [h.first, h.last, if_neg hne, if_neg hne, offsetRange, dif_pos hle]
      · rw [if_neg hne]
        rfl
      · rintro r ⟨⟩
        simp only [WalOffsetRange.count]
        omega
  obtain ⟨range, hok, hval, hcount⟩ := hrange
  have hvalid : SegmentFields.Valid
      { segment_id := wal.active_segment_id, run_id := wal.config.run_id, status
        offset_range := range, created_at := wal.active_segment_created_at, sealed_at
        event_count := wal.active_event_count, payload_bytes := wal.active_byte_count
        segment_hash := none, previous_segment_hash := none } := by
    refine ⟨?_, ?_, ?_, ?_, ?_⟩
    · rintro rfl
      rcases hstatus with ⟨-, hnone⟩ | ⟨hsealed, -⟩
      · exact hnone
      · exact absurd hsealed (by decide)
    · intro hopen
      rcases hstatus with ⟨ho, -⟩ | ⟨-, t, ht, -⟩
      · exact absurd ho hopen
      · simp only [ht, ne_eq, reduceCtorEq, not_false_eq_true]
    · intro t ht
      rcases hstatus with ⟨-, hnone⟩ | ⟨-, t', ht', hle⟩
      · simp only [hnone, Option.mem_def, reduceCtorEq] at ht
      · simp only [ht', Option.mem_def, Option.some.injEq] at ht
        rw [← ht]
        exact hle
    · intro r hr
      simp only [h.event_count]
      exact hcount r hr
    · intro hdel
      rcases hstatus with ⟨ho, -⟩ | ⟨hs, -⟩ <;> simp_all
  refine ⟨⟨_, hvalid⟩, ?_, rfl, rfl, ?_, rfl, ⟨h.event_count, hval⟩⟩
  · simp only [LocalJsonlWal.activeMetadata, hok, bind, Except.bind, validated,
      WalSegmentMetadata.of, dif_pos hvalid]
  · simp only [h.config_eq]

theorem Attached.activeMetadata (h : Attached config wal sealed rs) (status : WalSegmentStatus)
    (sealed_at : Option DateTime)
    (hstatus : (status = .OPEN ∧ sealed_at = none) ∨
      (status = .SEALED ∧ ∃ t, sealed_at = some t ∧ wal.active_segment_created_at ≤ t)) :
    ∃ m, wal.activeMetadata status sealed_at = .ok m ∧ m.status = status ∧
      m.segment_id = wal.active_segment_id ∧ m.run_id = config.run_id ∧
      Describes m (allRecords sealed).length rs := by
  obtain ⟨m, hm, hst, hid, hrun, hbytes, hranges⟩ := h.toCounted.activeMetadata status sealed_at
    hstatus
  exact ⟨m, hm, hst, hid, hrun, hranges, hbytes.trans h.byte_count⟩

theorem Attached.currentMetadata (h : Attached config wal sealed rs) :
    ∃ m, wal.currentSegmentMetadata = .ok m ∧ m.status = .OPEN ∧
      m.segment_id = wal.active_segment_id ∧ m.run_id = config.run_id ∧
      Describes m (allRecords sealed).length rs :=
  h.activeMetadata .OPEN none (.inl ⟨rfl, rfl⟩)

end Handle

theorem sealedFrom_mem {n : ℕ} {segs : List Segment} (h : SealedFrom n segs) :
    ∀ s ∈ segs, ∃ k, Describes s.info k s.records ∧ Numbered k s.records := by
  induction segs generalizing n with
  | nil => exact fun s hs => absurd hs List.not_mem_nil
  | cons t segs ih =>
    intro s hs
    rcases List.mem_cons.mp hs with rfl | hs
    · exact ⟨n, h.1.2⟩
    · exact ih h.2 s hs

def activeRecords (active : Option Segment) : List JournalRecord :=
  active.elim [] (·.records)

section Opening

variable {env : Env} {config : LocalJsonlWalConfig} {disk disk' : Disk} {sealed : List Segment}
  {active : Option Segment}

theorem Holds.segment_readable (h : Holds env config disk sealed active) {s : Segment}
    (hs : s ∈ sealed ++ active.toList) : ∀ r ∈ s.records, Readable env config r :=
  fun r hr => h.readable r (List.mem_flatMap.mpr ⟨s, hs, hr⟩)

theorem namedFrom_last {run_id : RunId} {s : Segment}
    (h : NamedFrom run_id 1 (sealed ++ [s])) :
    s.info.segment_id.value = segmentName run_id (sealed.length + 1) ∧ s.info.run_id = run_id := by
  have hlast := ((namedFrom_append run_id 1 sealed [s]).mp h).2.1
  rwa [Nat.add_comm] at hlast

/-- The offset that opening gives the next record. -/
def openedNext (sealed : List Segment) (rs : List JournalRecord) : ℕ :=
  if rs = [] then LocalJsonlWal.offsetAfterSealed (sealed.map (·.info))
  else (allRecords sealed).length + rs.length

theorem segmentIdFor_value {run_id : RunId} {i : ℕ} {id : WalSegmentId}
    (h : segmentIdFor run_id i = some id) : id.value = segmentName run_id i := by
  unfold segmentIdFor DomainId.of at h
  split at h
  · obtain rfl := Option.some.inj h
    rfl
  · exact absurd h (by simp)

theorem loadMetadata_congr (run_id : RunId) (h : disk'.metadata = disk.metadata) :
    loadMetadataForRun env run_id disk' = loadMetadataForRun env run_id disk := by
  have hfile : loadMetadataFile env run_id disk' = loadMetadataFile env run_id disk := by
    funext name
    simp only [loadMetadataFile, readMetadata, h]
  rw [loadMetadataForRun, loadMetadataForRun, h, hfile]

/-- Loading depends on the metadata, the names of the segment files and the content of the
sealed ones. -/
theorem Holds.loadSegments_of (h : Holds env config disk sealed active)
    (hmeta : disk'.metadata = disk.metadata) (hkeys : disk'.segments.keys = disk.segments.keys)
    (hfiles : ∀ s ∈ sealed,
      disk'.segments.get? s.info.segment_id.value =
        disk.segments.get? s.info.segment_id.value) :
    LocalJsonlWal.loadSegments env config disk' =
      .ok ((sealed ++ active.toList).map (·.info), sealed.map (·.info)) := by
  have hone : ¬ 1 < (active.toList.map (·.info)).length := by
    cases active <;> simp
  have hsegments : (namesForRun config.run_id disk'.segments).find?
      (fun name => (disk'.metadata.get? name).isNone) = none := by
    rw [namesForRun, hkeys, ← namesForRun, List.find?_eq_none,
      namesForRun_eq h.listed h.named h.files]
    intro name hname
    obtain ⟨s, hs, rfl⟩ := List.mem_map.mp hname
    simp [hmeta, h.get_info hs]
  have hmetadata : (namesForRun config.run_id disk'.metadata).find?
      (fun name => (disk'.segments.get? name).isNone) = none := by
    rw [hmeta, List.find?_eq_none, namesForRun_eq h.listed h.named h.infos]
    intro name hname hisNone
    obtain ⟨s, hs, rfl⟩ := List.mem_map.mp hname
    have hkey : s.info.segment_id.value ∈ disk'.segments.keys := by
      rw [hkeys]
      exact Dict.mem_keys_of_get? (h.get_file hs)
    exact Dict.get?_eq_none.mp (Option.isNone_iff_eq_none.mp hisNone) hkey
  have hread : (sealed.map (·.info)).mapM (fun m =>
      readSegmentRecords env config disk' m.segment_id.value (some m)) =
      .ok (sealed.map fun s => (s.records, (segmentBytes s.records).length)) := by
    refine mapM_map_ok fun s hs => ?_
    obtain ⟨k, hdesc, hnum⟩ := sealedFrom_mem h.sealed_ok s hs
    have hmem : s ∈ sealed ++ active.toList := List.mem_append_left _ hs
    exact readSegmentRecords_checked env config ((hfiles s hs).trans (h.get_file hmem))
      (h.segment_readable hmem) hnum hdesc
  rw [LocalJsonlWal.loadSegments, loadMetadata_congr _ hmeta, h.loadMetadata]
  simp only [bind, Except.bind, h.filter_open, hone, ↓reduceIte,
    LocalJsonlWal.validateNoOrphanFiles, hsegments, hmetadata]
  rw [h.sortSealed]
  simp only [hread]

theorem Holds.loadSegments (h : Holds env config disk sealed active) :
    LocalJsonlWal.loadSegments env config disk =
      .ok ((sealed ++ active.toList).map (·.info), sealed.map (·.info)) :=
  h.loadSegments_of rfl rfl fun _ _ => rfl

/-- Recovery of a file of numbered records behind the sealed segments. -/
theorem noteRecovered_counted (id : WalSegmentId) (created_at : DateTime)
    {rs : List JournalRecord} (size : ℕ)
    (hid : id.value = segmentName config.run_id (sealed.length + 1))
    (hnum : Numbered (allRecords sealed).length rs) :
    let wal := (LocalJsonlWal.freshWal config (sealed.map (·.info)) id (sealed.length + 1)
      created_at).noteRecovered rs size
    Counted config wal sealed rs ∧ wal.active_byte_count = size ∧ wal.closed = false ∧
      wal.active_file = none ∧ wal.next_offset = openedNext sealed rs ∧
      wal.active_segment_id = id := by
  by_cases hne : rs = []
  · subst hne
    exact ⟨⟨rfl, rfl, rfl, hid, rfl, rfl, rfl⟩, rfl, rfl, rfl, rfl, rfl⟩
  · have hpos := List.length_pos_of_ne_nil hne
    obtain ⟨first, hfirst, hfo⟩ := numbered_head hnum hne
    obtain ⟨last, hlast, hlo⟩ := numbered_last hnum hne
    simp only [LocalJsonlWal.noteRecovered, hfirst, hlast]
    refine ⟨⟨rfl, rfl, rfl, hid, rfl, ?_, ?_⟩, trivial, rfl, rfl, ?_, rfl⟩
    · rw [if_neg hne, hfo]
    · rw [if_neg hne, hlo]
    · rw [openedNext, if_neg hne]
      simp only [hlo]
      omega

theorem Laid.named_active {s : Segment} (h : Laid config disk sealed (some s)) :
    s.info.segment_id.value = segmentName config.run_id (sealed.length + 1) ∧
      s.info.run_id = config.run_id := namedFrom_last h.named

/-- The last checks of `open` pass for a WAL that continues the sealed segments. -/
theorem continuity_counted {wal : LocalJsonlWal} {rs : List JournalRecord}
    (hsealed : SealedFrom 0 sealed) (hatt : Counted config wal sealed rs) :
    ∃ segments, wal.listSegmentMetadata = .ok segments ∧
      LocalJsonlWal.validateGlobalOffsetContinuity 0 segments = .ok () := by
  obtain ⟨m, hm, -, -, -, -, hranges⟩ := hatt.activeMetadata .OPEN none (.inl ⟨rfl, rfl⟩)
  refine ⟨wal.sealed_meta ++ [m], ?_, ?_⟩
  · simp only [LocalJsonlWal.listSegmentMetadata, LocalJsonlWal.currentSegmentMetadata, hm, bind,
      Except.bind]
  · rw [hatt.sealed_meta, sealed_continuity hsealed, Nat.zero_add, continuity_cons hranges]
    rfl

/-- Recovery ends with the WAL of the chosen segment when that continues the sealed ones. -/
theorem recover_of {now : DateTime} {wal : LocalJsonlWal} {rs : List JournalRecord}
    (hnamed : NamedFrom config.run_id 1 (sealed ++ active.toList)) (hsealed : SealedFrom 0 sealed)
    (hload : LocalJsonlWal.loadSegments env config disk' =
      .ok ((sealed ++ active.toList).map (·.info), sealed.map (·.info)))
    (hchoose : LocalJsonlWal.chooseActive env config disk' now
      ((sealed ++ active.toList).map (·.info)) (sealed.map (·.info))
      ((List.range' 1 (sealed ++ active.toList).length).foldr max 0 + 1) = .ok wal)
    (hcounted : Counted config wal sealed rs) :
    LocalJsonlWal.recover env config disk' now = .ok wal := by
  obtain ⟨segments, hlist, hcont⟩ := continuity_counted hsealed hcounted
  rw [LocalJsonlWal.recover, hload]
  simp only [LocalJsonlWal.liftCorruption, bind, Except.bind]
  rw [mapM_index hnamed]
  simp only [hchoose, indexContinuity_range', hlist, hcont]

/-- Recovery of an OPEN segment whose file holds the records `rs`. -/
theorem Holds.recover_active {s : Segment} (h : Holds env config disk sealed (some s))
    (now : DateTime)
    (hload : LocalJsonlWal.loadSegments env config disk' =
      .ok ((sealed ++ [s]).map (·.info), sealed.map (·.info)))
    {rs : List JournalRecord} {size : ℕ}
    (hread : readSegmentRecords env config disk' s.info.segment_id.value none = .ok (rs, size))
    (hnum : Numbered (allRecords sealed).length rs) :
    ∃ wal, LocalJsonlWal.recover env config disk' now = .ok wal ∧
      Counted config wal sealed rs ∧ wal.active_byte_count = size ∧ wal.closed = false ∧
      wal.next_offset = openedNext sealed rs ∧ wal.active_segment_id = s.info.segment_id := by
  obtain ⟨hname, -⟩ := h.named_active
  obtain ⟨hcounted, hsize, hclosed, -, hnext, hid⟩ := noteRecovered_counted s.info.segment_id
    s.info.created_at size hname hnum
  refine ⟨_, recover_of h.named h.sealed_ok hload ?_ hcounted, hcounted, hsize, hclosed, hnext, hid⟩
  rw [LocalJsonlWal.chooseActive, h.filter_open]
  simp only [Option.toList_some, List.map_cons, List.map_nil, segmentIndexFromId_name hname,
    LocalJsonlWal.liftCorruption, bind, Except.bind, LocalJsonlWal.recoverOpenSegment,
    LocalJsonlWal.freshWal, hread]

/-- What recovery computes from a disk that holds segments. -/
theorem Holds.recover (h : Holds env config disk sealed active) (now : DateTime)
    (hid : active = none → ∃ id, segmentIdFor config.run_id (sealed.length + 1) = some id) :
    ∃ wal, LocalJsonlWal.recover env config disk now = .ok wal ∧
      Attached config wal sealed (activeRecords active) ∧ wal.closed = false ∧
      wal.next_offset = openedNext sealed (activeRecords active) ∧
      ∀ s ∈ active, wal.active_segment_id = s.info.segment_id := by
  cases active with
  | none =>
    obtain ⟨id, hsome⟩ := hid rfl
    have hindex : (List.range' 1 (sealed ++ (none : Option Segment).toList).length).foldr max 0
        = sealed.length := by
      rw [Option.toList_none, List.append_nil, foldr_max_range']
      split <;> omega
    have hcounted : Counted config (LocalJsonlWal.freshWal config (sealed.map (·.info)) id
        (sealed.length + 1) now) sealed [] :=
      ⟨rfl, rfl, rfl, segmentIdFor_value hsome, rfl, rfl, rfl⟩
    refine ⟨_, recover_of h.named h.sealed_ok h.loadSegments ?_ hcounted, ⟨hcounted, rfl⟩, rfl,
      rfl, fun s hs => absurd hs (by simp)⟩
    rw [LocalJsonlWal.chooseActive, h.filter_open, hindex]
    simp only [Option.toList_none, List.map_nil, hsome]
  | some s =>
    have hmem : s ∈ sealed ++ (some s).toList := List.mem_append_right _ (by simp)
    have hnum := (h.active_ok s rfl).2
    have hread := readSegmentRecords_plain env config (h.get_file hmem)
      (h.segment_readable hmem) hnum
    obtain ⟨wal, hwal, hcounted, hsize, hclosed, hnext, hid'⟩ :=
      h.recover_active now h.loadSegments hread hnum
    refine ⟨wal, hwal, ⟨hcounted, hsize⟩, hclosed, hnext, ?_⟩
    rintro t ⟨⟩
    exact hid'

end Opening

end FuturesBot
