import FuturesBot.KeySorting
import FuturesBot.WalDirectories
import FuturesBot.WalRuns

/-! What a directory that opens holds: everything the checks are there for, except that an
OPEN segment need not come last. -/
namespace FuturesBot

open JsonText (Json Text)
open TextLines DateTimes Dicts
open Checks (bind_eq_ok)
open KeySorting

/-- The number that segments are sorted by. -/
def indexKey (run_id : RunId) (name : String) : ℕ := (indexOf run_id name).getD 0

/-- What recovery has established about a directory once it succeeds: the sealed segments
in the order of their indices, and the OPEN one, whose records are taken to come last. -/
structure Recovered (env : Env) (config : LocalJsonlWalConfig) (disk : Disk)
    (sealed : List String) (active : Option String) : Prop where
  infos : (sealed ++ active.toList).Perm (namesForRun config.run_id disk.metadata)
  files : (namesForRun config.run_id disk.segments).Perm (namesForRun config.run_id disk.metadata)
  indexed : ∀ name ∈ sealed ++ active.toList,
    indexOf config.run_id name = some (indexKey config.run_id name)
  indices : ((sealed ++ active.toList).map (indexKey config.run_id)).Perm
    (List.range' 1 (sealed ++ active.toList).length)
  ordered : SortedBy (indexKey config.run_id) sealed
  holds : ∀ name ∈ sealed ++ active.toList,
    FileHolds env config disk name (recordsOf env config disk name)
  numbered : Numbered 0 ((sealed ++ active.toList).flatMap (recordsOf env config disk))
  closed : ∀ name ∈ sealed, ∃ m, readMetadata env disk name = some m ∧ m.status ≠ .OPEN
  opened : ∀ name ∈ active, ∃ m, readMetadata env disk name = some m ∧ m.status = .OPEN

section Recovery

variable {env : Env} {config : LocalJsonlWalConfig} {disk : Disk} {now : DateTime}

theorem liftCorruption_ok {α : Type} {x : Except WalCorruption α} {a : α}
    (h : LocalJsonlWal.liftCorruption x = .ok a) : x = .ok a := by
  cases x with
  | ok b => rw [Except.ok.inj h]
  | error c => exact absurd h nofun

theorem loadMetadataFile_ok {name : String} {m : WalSegmentMetadata}
    (h : loadMetadataFile env config.run_id disk name = .ok m) :
    readMetadata env disk name = some m ∧ name = m.segment_id.value := by
  rw [loadMetadataFile] at h
  split at h
  · cases h
  rename_i m' hm
  split at h
  · cases h
  split at h
  · cases h
  rename_i hname
  obtain rfl := Except.ok.inj h
  exact ⟨hm, not_not.mp hname⟩

theorem segmentIndexFromId_ok {m : WalSegmentMetadata} {i : ℕ}
    (h : segmentIndexFromId m.segment_id config.run_id = .ok i) :
    indexOf config.run_id m.segment_id.value = some i := by
  rw [segmentIndexFromId] at h
  split at h
  · split at h
    · rename_i hindex
      rw [indexOf, hindex, Except.ok.inj h]
    · cases h
  · cases h

theorem namesForRun_nodup (run_id : RunId) (files : Dict String Bytes) :
    (namesForRun run_id files).Nodup := files.nodup.filter _

/-- Without orphans the two directories list the same names. -/
theorem validateNoOrphanFiles_ok
    (h : LocalJsonlWal.validateNoOrphanFiles config.run_id disk = .ok ()) :
    (namesForRun config.run_id disk.segments).Perm (namesForRun config.run_id disk.metadata) := by
  rw [LocalJsonlWal.validateNoOrphanFiles] at h
  split at h
  · cases h
  rename_i hsegments
  split at h
  · cases h
  rename_i hmetadata
  rw [List.find?_eq_none] at hsegments hmetadata
  rw [List.perm_ext_iff_of_nodup (namesForRun_nodup _ _) (namesForRun_nodup _ _)]
  intro name
  constructor
  · intro hmem
    have hsome := hsegments name hmem
    rw [namesForRun, List.mem_filter] at hmem ⊢
    refine ⟨?_, hmem.2⟩
    by_contra hkey
    exact hsome (by rw [Dict.get?_eq_none.mpr hkey]; rfl)
  · intro hmem
    have hsome := hmetadata name hmem
    rw [namesForRun, List.mem_filter] at hmem ⊢
    refine ⟨?_, hmem.2⟩
    by_contra hkey
    exact hsome (by rw [Dict.get?_eq_none.mpr hkey]; rfl)

theorem checkIndices_ok {i : ℕ} {is : List ℕ} (h : LocalJsonlWal.checkIndices i is = .ok ()) :
    is = List.range' (i + 1) is.length := by
  induction is generalizing i with
  | nil => rfl
  | cons j is ih =>
    rw [LocalJsonlWal.checkIndices] at h
    split at h
    · cases h
    rename_i hj
    obtain rfl := not_not.mp hj
    rw [List.length_cons, List.range'_succ, ← ih h]

theorem indexContinuity_ok {is : List ℕ}
    (h : LocalJsonlWal.validateSegmentIndexContinuity is = .ok ()) :
    is.Perm (List.range' 1 is.length) := by
  have hperm := List.perm_insertionSort (· ≤ ·) is
  rw [LocalJsonlWal.validateSegmentIndexContinuity] at h
  rw [← hperm.length_eq]
  refine hperm.symm.trans (List.Perm.of_eq ?_)
  cases hsorted : is.insertionSort (· ≤ ·) with
  | nil => rfl
  | cons first rest =>
    rw [hsorted] at h
    dsimp only at h
    split at h
    · cases h
    rename_i hfirst
    obtain rfl := not_not.mp hfirst
    rw [List.length_cons, List.range'_succ, ← checkIndices_ok h]

/-- A list paired with keys one after the other. -/
theorem eq_map_of_forall₂ {α β : Type} {f : α → β} {l : List α} {bs : List β}
    (h : List.Forall₂ (fun a b => f a = b) l bs) : bs = l.map f := by
  induction h with
  | nil => rfl
  | cons hab _ ih => rw [List.map_cons, hab, ih]

theorem forall₂_mem_right {α β : Type} {R : α → β → Prop} {l : List α} {bs : List β}
    (h : List.Forall₂ R l bs) {b : β} (hb : b ∈ bs) : ∃ a ∈ l, R a b := by
  induction h with
  | nil => exact absurd hb List.not_mem_nil
  | cons hab _ ih =>
    rcases List.mem_cons.mp hb with rfl | hb
    · exact ⟨_, List.mem_cons_self, hab⟩
    · obtain ⟨a, ha, hR⟩ := ih hb
      exact ⟨a, List.mem_cons_of_mem _ ha, hR⟩

theorem forall₂_mem_left {α β : Type} {R : α → β → Prop} {l : List α} {bs : List β}
    (h : List.Forall₂ R l bs) {a : α} (ha : a ∈ l) : ∃ b ∈ bs, R a b :=
  forall₂_mem_right h.flip ha

/-- Sealed metadata comes out in the order of the indices. -/
theorem sortSealed_ok {all_meta sealed_sorted : List WalSegmentMetadata}
    (h : LocalJsonlWal.sortSealed config.run_id all_meta = .ok sealed_sorted) :
    sealed_sorted = sortBy (fun m => indexKey config.run_id m.segment_id.value)
      (all_meta.filter fun m => !LocalJsonlWal.isOpen m) := by
  rw [LocalJsonlWal.sortSealed] at h
  generalize all_meta.filter (fun m => !LocalJsonlWal.isOpen m) = metas at h ⊢
  obtain ⟨keyed, hkeyed, h⟩ := bind_eq_ok.mp h
  have hmap : keyed = metas.map fun m => (indexKey config.run_id m.segment_id.value, m) := by
    refine eq_map_of_forall₂ ((mapM_forall₂ hkeyed).imp ?_)
    intro m p hp
    obtain ⟨i, hi, hp⟩ := bind_eq_ok.mp hp
    rw [indexKey, segmentIndexFromId_ok hi]
    exact Except.ok.inj hp
  have hkeys : ∀ p ∈ keyed,
      (fun m : WalSegmentMetadata => indexKey config.run_id m.segment_id.value) p.2 = p.1 := by
    intro p hp
    rw [hmap] at hp
    obtain ⟨m, -, rfl⟩ := List.mem_map.mp hp
    exact Eq.refl (indexKey config.run_id m.segment_id.value)
  rw [← Except.ok.inj h]
  refine (@map_sortBy _ _ _ Prod.fst _ (fun m : WalSegmentMetadata =>
    indexKey config.run_id m.segment_id.value) Prod.snd keyed hkeys).trans ?_
  rw [hmap, List.map_map]
  exact congrArg _ (List.map_id _)

theorem activeMetadata_range {wal : LocalJsonlWal} {status : WalSegmentStatus}
    {sealed_at : Option DateTime} {m : WalSegmentMetadata}
    (h : wal.activeMetadata status sealed_at = .ok m) :
    offsetRange wal.active_first_offset wal.active_last_offset = .ok m.offset_range := by
  rw [LocalJsonlWal.activeMetadata] at h
  obtain ⟨range, hrange, h⟩ := bind_eq_ok.mp h
  rw [validated, WalSegmentMetadata.of] at h
  split at h
  · rename_i hm
    split at hm
    · rw [← Except.ok.inj h, ← Option.some.inj hm]
      exact hrange
    · cases hm
  · cases h

/-- The metadata of an active segment covers the records that its file was found to hold. -/
theorem noteRecovered_covers {wal : LocalJsonlWal} {rs : List JournalRecord} {size : ℕ}
    {m : WalSegmentMetadata} (hfirst : wal.active_first_offset = none)
    (hlast : wal.active_last_offset = none)
    (h : (wal.noteRecovered rs size).currentSegmentMetadata = .ok m) : CoversRecords m rs := by
  have hrange := activeMetadata_range h
  have hcases : (∃ first last, rs.head? = some first ∧ rs.getLast? = some last) ∨
      rs.head? = none ∧ rs.getLast? = none := by
    cases rs with
    | nil => exact .inr ⟨rfl, rfl⟩
    | cons r rs => exact .inl ⟨r, _, rfl, List.getLast?_eq_some_getLast (List.cons_ne_nil r rs)⟩
  rcases hcases with ⟨first, last, hf, hl⟩ | ⟨hf, hl⟩
  · simp only [LocalJsonlWal.noteRecovered, hf, hl, offsetRange] at hrange
    split at hrange
    · simp only [CoversRecords, recordRange, hf, hl, ← Except.ok.inj hrange, Option.map_some]
    · cases hrange
  · simp only [LocalJsonlWal.noteRecovered, hf, hl, hfirst, hlast, offsetRange] at hrange
    simp only [CoversRecords, recordRange, hf, hl, ← Except.ok.inj hrange, Option.map_none]

/-- The active segment is the OPEN one with the records of its file, or a new one. -/
theorem chooseActive_ok {all_meta sealed_sorted : List WalSegmentMetadata} {next : ℕ}
    {wal : LocalJsonlWal} {m : WalSegmentMetadata}
    (hone : (all_meta.filter LocalJsonlWal.isOpen).length ≤ 1)
    (h : LocalJsonlWal.chooseActive env config disk now all_meta sealed_sorted next = .ok wal)
    (hcurrent : wal.currentSegmentMetadata = .ok m) :
    wal.sealed_meta = sealed_sorted ∧ ∃ active : Option WalSegmentMetadata,
      all_meta.filter LocalJsonlWal.isOpen = active.toList ∧
      (∀ a ∈ active.toList, ∃ p : List JournalRecord × ℕ,
        readSegmentRecords env config disk a.segment_id.value none = .ok p) ∧
      CoversRecords m
        (active.toList.flatMap fun a => recordsOf env config disk a.segment_id.value) := by
  rw [LocalJsonlWal.chooseActive] at h
  split at h
  · rename_i a rest hopen
    obtain ⟨index, -, h⟩ := bind_eq_ok.mp h
    rw [LocalJsonlWal.recoverOpenSegment] at h
    obtain ⟨⟨rs, size⟩, hread, h⟩ := bind_eq_ok.mp h
    obtain rfl := Except.ok.inj h
    replace hread : readSegmentRecords env config disk a.segment_id.value none = .ok (rs, size) :=
      liftCorruption_ok hread
    obtain rfl : rest = [] := by
      rw [hopen, List.length_cons] at hone
      exact List.length_eq_zero_iff.mp (by omega)
    refine ⟨?_, some a, hopen, ?_, ?_⟩
    · rw [LocalJsonlWal.noteRecovered]
      split <;> rfl
    · intro b hb
      obtain rfl := List.mem_singleton.mp hb
      exact ⟨_, hread⟩
    · rw [Option.toList_some, List.flatMap_singleton, (readSegmentRecords_holds hread).1]
      exact noteRecovered_covers rfl rfl hcurrent
  · rename_i hopen
    split at h
    · cases h
    · obtain rfl := Except.ok.inj h
      have hrange := activeMetadata_range hcurrent
      refine ⟨rfl, none, hopen, fun a ha => absurd ha List.not_mem_nil, ?_⟩
      rw [CoversRecords, ← Except.ok.inj hrange]
      rfl

/-- What loading has checked. -/
theorem loadSegments_ok {all_meta sealed_sorted : List WalSegmentMetadata}
    (h : LocalJsonlWal.loadSegments env config disk = .ok (all_meta, sealed_sorted)) :
    List.Forall₂ (fun name m => readMetadata env disk name = some m ∧ name = m.segment_id.value)
        (namesForRun config.run_id disk.metadata) all_meta ∧
      (all_meta.filter LocalJsonlWal.isOpen).length ≤ 1 ∧
      (namesForRun config.run_id disk.segments).Perm (namesForRun config.run_id disk.metadata) ∧
      sealed_sorted = sortBy (fun m => indexKey config.run_id m.segment_id.value)
        (all_meta.filter fun m => !LocalJsonlWal.isOpen m) ∧
      ∀ m ∈ sealed_sorted, ∃ p : List JournalRecord × ℕ,
        readSegmentRecords env config disk m.segment_id.value (some m) = .ok p := by
  rw [LocalJsonlWal.loadSegments] at h
  obtain ⟨metas, hmetas, h⟩ := bind_eq_ok.mp h
  by_cases hone : 1 < (metas.filter LocalJsonlWal.isOpen).length
  · rw [if_pos hone] at h
    cases h
  · rw [if_neg hone] at h
    obtain ⟨_, _, h⟩ := bind_eq_ok.mp h
    obtain ⟨u, horphans, h⟩ := bind_eq_ok.mp h
    obtain ⟨sorted, hsorted, h⟩ := bind_eq_ok.mp h
    obtain ⟨contents, hcontents, h⟩ := bind_eq_ok.mp h
    obtain ⟨rfl, rfl⟩ := Prod.mk.inj (Except.ok.inj h)
    refine ⟨(mapM_forall₂ hmetas).imp fun name m => loadMetadataFile_ok, not_lt.mp hone,
      validateNoOrphanFiles_ok horphans, sortSealed_ok hsorted, ?_⟩
    intro m hm
    obtain ⟨i, hi, rfl⟩ := List.getElem_of_mem hm
    have hread := (mapM_forall₂ hcontents)
    rw [List.forall₂_iff_get] at hread
    exact ⟨_, hread.2 i hi (hread.1 ▸ hi)⟩

/-- The global pass over the sealed segments and the active one behind them. -/
theorem numbered_of_continuity {sealed_sorted : List WalSegmentMetadata}
    {active : Option WalSegmentMetadata} {current : WalSegmentMetadata}
    (hread : ∀ m ∈ sealed_sorted, ∃ p : List JournalRecord × ℕ,
      readSegmentRecords env config disk m.segment_id.value (some m) = .ok p)
    (hopen_read : ∀ a ∈ active.toList, ∃ p : List JournalRecord × ℕ,
      readSegmentRecords env config disk a.segment_id.value none = .ok p)
    (hcovers : CoversRecords current
      (active.toList.flatMap fun a => recordsOf env config disk a.segment_id.value))
    (hglobal : LocalJsonlWal.validateGlobalOffsetContinuity 0 (sealed_sorted ++ [current]) =
      .ok ()) :
    Numbered 0 ((sealed_sorted ++ active.toList).flatMap fun m =>
      recordsOf env config disk m.segment_id.value) := by
  let segs : List (WalSegmentMetadata × List JournalRecord) :=
    sealed_sorted.map (fun m => (m, recordsOf env config disk m.segment_id.value)) ++
      [(current, active.toList.flatMap fun a => recordsOf env config disk a.segment_id.value)]
  have hfst : segs.map (·.1) = sealed_sorted ++ [current] := by
    simp only [segs, List.map_append, List.map_map, List.map_singleton, Function.comp_def,
      List.map_id']
  have hsnd : segs.flatMap (·.2) = (sealed_sorted ++ active.toList).flatMap fun m =>
      recordsOf env config disk m.segment_id.value := by
    simp only [segs, List.flatMap_append, List.flatMap_map, List.flatMap_singleton]
  have hsegs : ∀ p ∈ segs, CoversRecords p.1 p.2 ∧ ∃ n, Numbered n p.2 := by
    intro p hp
    rcases List.mem_append.mp hp with hp | hp
    · obtain ⟨m, hm, rfl⟩ := List.mem_map.mp hp
      obtain ⟨⟨rs, size⟩, hok⟩ := hread m hm
      obtain ⟨hrs, -, hnum, hcov⟩ := readSegmentRecords_holds hok
      rw [hrs]
      exact ⟨hcov m rfl, hnum⟩
    · obtain rfl := List.mem_singleton.mp hp
      refine ⟨hcovers, ?_⟩
      cases active with
      | none => exact ⟨0, trivial⟩
      | some a =>
        obtain ⟨⟨rs, size⟩, hok⟩ := hopen_read a (by simp)
        obtain ⟨hrs, -, hnum, -⟩ := readSegmentRecords_holds hok
        simp only [Option.toList_some, List.flatMap_singleton, hrs]
        exact hnum
  rw [← hsnd]
  exact continuity_numbered hsegs (by rw [hfst]; exact hglobal)

/-- A directory that is recovered has been checked from end to end. -/
theorem recover_recovered {wal : LocalJsonlWal}
    (h : LocalJsonlWal.recover env config disk now = .ok wal) :
    ∃ sealed active, Recovered env config disk sealed active := by
  rw [LocalJsonlWal.recover] at h
  obtain ⟨⟨all_meta, sealed_sorted⟩, hload, h⟩ := bind_eq_ok.mp h
  obtain ⟨indices, hindices, h⟩ := bind_eq_ok.mp h
  obtain ⟨wal', hchoose, h⟩ := bind_eq_ok.mp h
  obtain ⟨u, hcont, h⟩ := bind_eq_ok.mp h
  obtain ⟨segments, hsegments, h⟩ := bind_eq_ok.mp h
  obtain ⟨v, hglobal, h⟩ := bind_eq_ok.mp h
  obtain rfl := Except.ok.inj h
  rw [LocalJsonlWal.listSegmentMetadata] at hsegments
  obtain ⟨current, hcurrent, hsegments⟩ := bind_eq_ok.mp hsegments
  obtain rfl := Except.ok.inj hsegments
  obtain ⟨hnames, hone, horphans, hsorted, hread⟩ := loadSegments_ok (liftCorruption_ok hload)
  obtain ⟨hsealed_meta, active, hopen, hopen_read, hcovers⟩ :=
    chooseActive_ok hone hchoose hcurrent
  -- the metadata files in the order of the directory, and what each of them says
  have hmeta_names : all_meta.map (·.segment_id.value) = namesForRun config.run_id disk.metadata :=
    (eq_map_of_forall₂ (hnames.flip.imp fun m name hm => hm.2.symm)).symm
  have hmeta_read : ∀ m ∈ all_meta, readMetadata env disk m.segment_id.value = some m := by
    intro m hm
    obtain ⟨name, -, hname⟩ := forall₂_mem_right hnames hm
    rw [← hname.2, hname.1]
  have hmeta_index : ∀ m ∈ all_meta, indexOf config.run_id m.segment_id.value =
      some (indexKey config.run_id m.segment_id.value) := by
    intro m hm
    obtain ⟨i, -, hi⟩ := forall₂_mem_left (mapM_forall₂ (liftCorruption_ok hindices)) hm
    rw [indexKey, segmentIndexFromId_ok hi]
    rfl
  have hindices_eq : indices = all_meta.map fun m => indexKey config.run_id m.segment_id.value := by
    refine eq_map_of_forall₂ ((mapM_forall₂ (liftCorruption_ok hindices)).imp ?_)
    intro m i hi
    rw [indexKey, segmentIndexFromId_ok hi]
    rfl
  -- the sealed segments in order, then the OPEN one: the same metadata in another order
  have hsealed : sealed_sorted.Perm (all_meta.filter fun m => !LocalJsonlWal.isOpen m) := by
    rw [hsorted]
    exact sortBy_perm _ _
  have hperm : (sealed_sorted ++ active.toList).Perm all_meta := by
    rw [← hopen]
    exact (List.perm_append_comm.trans (hsealed.append_left _)).trans
      (List.filter_append_perm _ _)
  have hmap : (sealed_sorted.map (·.segment_id.value) ++
      (active.map (·.segment_id.value)).toList) =
        (sealed_sorted ++ active.toList).map (·.segment_id.value) := by
    rw [List.map_append]
    cases active <;> rfl
  have hfile : ∀ m ∈ sealed_sorted ++ active.toList, FileHolds env config disk m.segment_id.value
      (recordsOf env config disk m.segment_id.value) ∧
        ∃ n, Numbered n (recordsOf env config disk m.segment_id.value) := by
    intro m hm
    obtain ⟨metadata, ⟨rs, size⟩, hok⟩ : ∃ metadata, ∃ p : List JournalRecord × ℕ,
        readSegmentRecords env config disk m.segment_id.value metadata = .ok p := by
      rcases List.mem_append.mp hm with hm | hm
      · exact ⟨_, hread m hm⟩
      · exact ⟨_, hopen_read m hm⟩
    obtain ⟨hrs, hholds, hnum, -⟩ := readSegmentRecords_holds hok
    rw [hrs]
    exact ⟨hholds, hnum⟩
  have hall : ∀ {m}, m ∈ sealed_sorted ++ active.toList → m ∈ all_meta := hperm.mem_iff.mp
  refine ⟨sealed_sorted.map (·.segment_id.value), active.map (·.segment_id.value), ?_⟩
  constructor
  · rw [hmap, ← hmeta_names]
    exact hperm.map _
  · exact horphans
  · rw [hmap]
    intro name hname
    obtain ⟨m, hm, rfl⟩ := List.mem_map.mp hname
    exact hmeta_index m (hall hm)
  · have hcont := indexContinuity_ok (liftCorruption_ok hcont)
    rw [hindices_eq, List.length_map, ← hperm.length_eq] at hcont
    rw [hmap, List.map_map, List.length_map]
    exact (hperm.map _).trans hcont
  · rw [SortedBy, List.pairwise_map, hsorted]
    exact sortBy_sorted _ _
  · rw [hmap]
    intro name hname
    obtain ⟨m, hm, rfl⟩ := List.mem_map.mp hname
    exact (hfile m hm).1
  · rw [hmap, List.flatMap_map]
    rw [hsealed_meta] at hglobal
    exact numbered_of_continuity hread hopen_read hcovers (liftCorruption_ok hglobal)
  · intro name hname
    obtain ⟨m, hm, rfl⟩ := List.mem_map.mp hname
    obtain ⟨hmem, hclosed⟩ := List.mem_filter.mp (hsealed.mem_iff.mp hm)
    refine ⟨m, hmeta_read m hmem, ?_⟩
    simpa [LocalJsonlWal.isOpen] using hclosed
  · intro name hname
    obtain ⟨m, hm, rfl⟩ := Option.map_eq_some_iff.mp hname
    have hmem : m ∈ all_meta.filter LocalJsonlWal.isOpen := by
      rw [hopen]
      exact Option.mem_toList.mpr hm
    obtain ⟨hmem, hstatus⟩ := List.mem_filter.mp hmem
    exact ⟨m, hmeta_read m hmem, by simpa [LocalJsonlWal.isOpen] using hstatus⟩

end Recovery

/-! Soundness. -/

/-- No segment behind an OPEN segment holds anything, unless the OPEN one is empty itself. -/
def OpenLast (env : Env) (config : LocalJsonlWalConfig) (disk : Disk) : Prop :=
  ∀ name ∈ namesForRun config.run_id disk.metadata, ∀ m, readMetadata env disk name = some m →
    m.status = .OPEN → disk.segments.get? name ≠ some [] →
    ∀ later ∈ namesForRun config.run_id disk.metadata,
      indexKey config.run_id name < indexKey config.run_id later →
      disk.segments.get? later = some []

/-- Two parts of a numbered list can change places only when one of them is empty. -/
theorem numbered_swap {n : ℕ} {xs ys zs : List JournalRecord}
    (h : Numbered n (xs ++ (ys ++ zs))) :
    Numbered n (xs ++ (zs ++ ys)) ↔ zs = [] ∨ ys = [] := by
  rw [numbered_append] at h ⊢
  constructor
  · intro hswap
    by_contra hne
    obtain ⟨hz, hy⟩ := not_or.mp hne
    -- the first record of `zs` would have two offsets
    obtain ⟨z, hhead, hzo⟩ := numbered_head ((numbered_append _ _ _).mp hswap.2).1 hz
    obtain ⟨z', hhead', hzo'⟩ := numbered_head ((numbered_append _ _ _).mp h.2).2 hz
    obtain rfl := Option.some.inj (hhead.symm.trans hhead')
    have hpos := List.length_pos_of_ne_nil hy
    omega
  · intro hnil
    refine ⟨h.1, ?_⟩
    rcases hnil with rfl | rfl
    · simpa only [List.append_nil, List.nil_append] using h.2
    · simpa only [List.append_nil, List.nil_append] using h.2

section Soundness

variable {env : Env} {config : LocalJsonlWalConfig} {disk : Disk} {sealed : List String}
  {active : Option String}

theorem Recovered.sealed_closed (h : Recovered env config disk sealed active) {name : String}
    {m : WalSegmentMetadata} (hname : name ∈ sealed) (hm : readMetadata env disk name = some m) :
    m.status ≠ .OPEN := by
  obtain ⟨m', hm', hstatus⟩ := h.closed name hname
  rw [Option.some.inj (hm.symm.trans hm')]
  exact hstatus

theorem Recovered.key_injective (h : Recovered env config disk sealed active) :
    ∀ a ∈ sealed ++ active.toList, ∀ b ∈ sealed ++ active.toList,
      indexKey config.run_id a = indexKey config.run_id b → a = b := by
  have hnodup : ((sealed ++ active.toList).map (indexKey config.run_id)).Nodup :=
    h.indices.nodup_iff.mpr (List.nodup_range' ..)
  intro a ha b hb hab
  exact List.inj_on_of_nodup_map hnodup ha hb hab

/-- In order the segments are numbered 1, 2, … -/
theorem Recovered.sorted_keys (h : Recovered env config disk sealed active) :
    (sortBy (indexKey config.run_id) (sealed ++ active.toList)).map (indexKey config.run_id) =
      List.range' 1 (sortBy (indexKey config.run_id) (sealed ++ active.toList)).length := by
  have hsort := sortBy_perm (indexKey config.run_id) (sealed ++ active.toList)
  have hperm := (hsort.map (indexKey config.run_id)).trans h.indices
  rw [← hsort.length_eq] at hperm
  apply List.Perm.eq_of_pairwise (fun _ _ _ _ => le_antisymm) ?_ List.pairwise_le_range' hperm
  rw [List.pairwise_map]
  exact sortBy_sorted (indexKey config.run_id) _

/-- A recovered directory is sound when its records are in order once its segments are. -/
theorem Recovered.sound_iff (h : Recovered env config disk sealed active) :
    WalSound env config disk ↔
      Numbered 0 ((sortBy (indexKey config.run_id) (sealed ++ active.toList)).flatMap
        (recordsOf env config disk)) := by
  have hsort := sortBy_perm (indexKey config.run_id) (sealed ++ active.toList)
  constructor
  · rintro ⟨names, contents, -, hinfos, hindices, hcontents, hnum⟩
    -- names with the indices 1, 2, … are the sorted names
    have hkeys : names.map (indexKey config.run_id) = List.range' 1 names.length := by
      have hget := congrArg (List.map fun i : Option ℕ => i.getD 0) hindices
      rw [List.map_map, List.map_map] at hget
      exact hget.trans (List.map_id _)
    have hsorted : SortedBy (indexKey config.run_id) names := by
      have hrange : (List.range' 1 names.length).Pairwise (· ≤ ·) := List.pairwise_le_range'
      rw [← hkeys, List.pairwise_map] at hrange
      exact hrange
    have hnames : names = sortBy (indexKey config.run_id) (sealed ++ active.toList) := by
      refine (sorted_unique _ (hsort.trans (h.infos.trans hinfos.symm)) (sortBy_sorted _ _) hsorted
        ?_).symm
      intro a ha b hb
      exact h.key_injective a ((mem_sortBy _).mp ha) b ((mem_sortBy _).mp hb)
    have hread : List.Forall₂ (FileHolds env config disk) names
        (names.map (recordsOf env config disk)) := by
      rw [List.forall₂_map_right_iff, List.forall₂_same]
      intro name hname
      exact h.holds name (h.infos.symm.subset (hinfos.subset hname))
    have hright : Relator.RightUnique (FileHolds env config disk) := fun _ _ _ => FileHolds.unique
    rw [hright.forall₂ hcontents hread] at hnum
    rw [← hnames]
    exact hnum
  · intro hnum
    refine ⟨_, (sortBy (indexKey config.run_id) (sealed ++ active.toList)).map
      (recordsOf env config disk), hsort.trans (h.infos.trans h.files.symm), hsort.trans h.infos,
      ?_, ?_, hnum⟩
    · rw [← h.sorted_keys, List.map_map]
      apply List.map_congr_left
      intro name hname
      exact h.indexed name ((mem_sortBy _).mp hname)
    · rw [List.forall₂_map_right_iff, List.forall₂_same]
      intro name hname
      exact h.holds name ((mem_sortBy _).mp hname)

/-- The OPEN segment's place among the sealed ones. -/
theorem Recovered.sorted_split {a : String} (h : Recovered env config disk sealed (some a)) :
    ∃ before after, sealed = before ++ after ∧
      (∀ b ∈ before, indexKey config.run_id b < indexKey config.run_id a) ∧
      (∀ b ∈ after, indexKey config.run_id a < indexKey config.run_id b) ∧
      sortBy (indexKey config.run_id) (sealed ++ [a]) = before ++ a :: after := by
  obtain ⟨before, after, rfl, hbefore, hafter⟩ :=
    h.ordered.split _ (indexKey config.run_id a)
  have hstrict : ∀ b ∈ after, indexKey config.run_id a < indexKey config.run_id b := by
    intro b hb
    refine lt_of_le_of_ne (hafter b hb) fun heq => ?_
    -- otherwise the OPEN segment would be one of the sealed ones
    have hmem : b ∈ before ++ after := List.mem_append_right _ hb
    have hab : a = b := h.key_injective a (List.mem_append_right _ (by simp)) b
      (List.mem_append_left _ hmem) heq
    obtain ⟨m, hm, hstatus⟩ := h.opened a rfl
    exact h.sealed_closed hmem (hab ▸ hm) hstatus
  refine ⟨before, after, rfl, hbefore, hstrict, ?_⟩
  have hperm : (before ++ after ++ [a]).Perm (before ++ a :: after) := by
    rw [List.append_assoc]
    exact List.Perm.append_left _ List.perm_append_comm
  refine sorted_unique (indexKey config.run_id) ((sortBy_perm _ _).trans hperm)
    (sortBy_sorted _ _) ?_ ?_
  · have hord := h.ordered
    rw [SortedBy, List.pairwise_append] at hord ⊢
    refine ⟨hord.1, List.pairwise_cons.mpr ⟨hafter, hord.2.1⟩, ?_⟩
    intro b hb c hc
    rcases List.mem_cons.mp hc with rfl | hc
    · exact (hbefore b hb).le
    · exact hord.2.2 b hb c hc
  · intro b hb c hc
    exact h.key_injective b ((mem_sortBy _).mp hb) c ((mem_sortBy _).mp hc)

/-- A recovered directory is sound exactly when its OPEN segment comes last. -/
theorem Recovered.sound_iff_openLast (h : Recovered env config disk sealed active) :
    WalSound env config disk ↔ OpenLast env config disk := by
  have hnumbered := h.numbered
  rw [h.sound_iff]
  cases active with
  | none =>
    simp only [Option.toList_none, List.append_nil] at hnumbered ⊢
    rw [(sortBy_eq_self _).mpr h.ordered]
    refine ⟨fun _ => ?_, fun _ => hnumbered⟩
    intro name hname m hm hopen
    have hsealed := h.infos.symm.subset hname
    rw [Option.toList_none, List.append_nil] at hsealed
    exact absurd hopen (h.sealed_closed hsealed hm)
  | some a =>
    obtain ⟨before, after, rfl, hbefore, hafter, hsorted⟩ := h.sorted_split
    have hholds := h.holds
    simp only [Option.toList_some] at hnumbered hholds ⊢
    rw [hsorted, List.flatMap_append, List.flatMap_cons]
    rw [List.flatMap_append, List.flatMap_append, List.flatMap_singleton, List.append_assoc]
      at hnumbered
    rw [numbered_swap hnumbered, List.flatMap_eq_nil_iff]
    have ha := hholds a (by simp)
    have hafter_holds : ∀ b ∈ after, FileHolds env config disk b (recordsOf env config disk b) :=
      fun b hb => hholds b (by simp [hb])
    have hmem : ∀ {name}, name ∈ namesForRun config.run_id disk.metadata ↔
        name ∈ (before ++ after) ++ [a] := h.infos.mem_iff.symm
    constructor
    · intro hempty name hname m hm hopen hfull later hlater hlt
      -- the OPEN segment is the active one
      obtain rfl : name = a := by
        rcases List.mem_append.mp (hmem.mp hname) with hsealed | hactive
        · exact absurd hopen (h.sealed_closed hsealed hm)
        · exact List.mem_singleton.mp hactive
      have hne : recordsOf env config disk name ≠ [] := fun hnil => hfull (ha.nil_iff.mp hnil)
      have hlast : later ∈ after := by
        rcases List.mem_append.mp (hmem.mp hlater) with hsealed | hactive
        · rcases List.mem_append.mp hsealed with hb | hb
          · exact absurd (hbefore later hb) (not_lt.mpr hlt.le)
          · exact hb
        · rw [List.mem_singleton.mp hactive] at hlt
          exact absurd hlt (lt_irrefl _)
      exact (hafter_holds later hlast).nil_iff.mp (hempty.resolve_left hne later hlast)
    · intro hlast
      by_cases hne : recordsOf env config disk a = []
      · exact .inl hne
      · refine .inr fun b hb => ?_
        obtain ⟨m, hm, hstatus⟩ := h.opened a rfl
        have hfull : disk.segments.get? a ≠ some [] := fun hnil => hne (ha.nil_iff.mpr hnil)
        exact (hafter_holds b hb).nil_iff.mpr (hlast a (hmem.mpr (by simp)) m hm hstatus hfull b
          (hmem.mpr (by simp [hb])) (hafter b hb))

end Soundness

/-! The steps of `open` on the disk. -/

/-- `LocalJsonlWal.open` with the steps it has taken when it stops. -/
def openSteps (env : Env) (config : LocalJsonlWalConfig) (disk : Disk) (now : DateTime) :
    List DiskEffect × Except WalError LocalJsonlWal :=
  match LocalJsonlWal.recover env config disk now with
  | .error e => ([], .error e)
  | .ok wal =>
    let name := wal.active_segment_id.value
    if (disk.segments.get? name).isSome = true ∨ env.creatable name = true then
      match wal.currentSegmentMetadata with
      | .error e => ([.createSegment name], .error e)
      | .ok m =>
        (.createSegment name :: LocalJsonlWal.saveMetadata m,
          .ok { wal with active_file := some name })
    else ([], .error .os)

section Steps

variable {env : Env} {config : LocalJsonlWalConfig} {disk : Disk} {now : DateTime}

theorem open_eq_openSteps :
    LocalJsonlWal.open env config disk now =
      (openSteps env config disk now).2.map fun wal => (wal, (openSteps env config disk now).1) := by
  rw [LocalJsonlWal.open, openSteps]
  cases LocalJsonlWal.recover env config disk now with
  | error e => rfl
  | ok wal =>
    simp only [bind, Except.bind]
    split
    · cases wal.currentSegmentMetadata <;> rfl
    · rfl

theorem recover_of_open {wal : LocalJsonlWal} {effects : List DiskEffect}
    (h : LocalJsonlWal.open env config disk now = .ok (wal, effects)) :
    ∃ wal', LocalJsonlWal.recover env config disk now = .ok wal' := by
  rw [LocalJsonlWal.open] at h
  obtain ⟨wal', hrecover, -⟩ := bind_eq_ok.mp h
  exact ⟨wal', hrecover⟩

/-- The active metadata that is written last has been computed by the checks before. -/
theorem recover_current {wal : LocalJsonlWal}
    (h : LocalJsonlWal.recover env config disk now = .ok wal) :
    ∃ m, wal.currentSegmentMetadata = .ok m := by
  rw [LocalJsonlWal.recover] at h
  obtain ⟨loaded, -, h⟩ := bind_eq_ok.mp h
  obtain ⟨indices, -, h⟩ := bind_eq_ok.mp h
  obtain ⟨wal', -, h⟩ := bind_eq_ok.mp h
  obtain ⟨u, -, h⟩ := bind_eq_ok.mp h
  obtain ⟨segments, hsegments, h⟩ := bind_eq_ok.mp h
  obtain ⟨v, -, h⟩ := bind_eq_ok.mp h
  obtain rfl := Except.ok.inj h
  rw [LocalJsonlWal.listSegmentMetadata] at hsegments
  obtain ⟨m, hm, -⟩ := bind_eq_ok.mp hsegments
  exact ⟨m, hm⟩

/-- An open that raises has not touched the disk. -/
theorem openSteps_error {e : WalError} (h : (openSteps env config disk now).2 = .error e) :
    (openSteps env config disk now).1 = [] := by
  rw [openSteps] at h ⊢
  cases hrecover : LocalJsonlWal.recover env config disk now with
  | error c => rfl
  | ok wal =>
    obtain ⟨m, hm⟩ := recover_current hrecover
    simp only [hrecover, hm] at h ⊢
    split at h
    · exact absurd h nofun
    · rename_i hname
      rw [if_neg hname]

end Steps

/-- A directory that opens is sound exactly when no sealed segment with records stands behind
an OPEN segment with records; one that is reported as corrupt is left as it was. -/
theorem open_sound (env : Env) (config : LocalJsonlWalConfig) (disk : Disk) (now : DateTime) :
    (∀ wal effects, LocalJsonlWal.open env config disk now = .ok (wal, effects) →
      (WalSound env config disk ↔ OpenLast env config disk)) ∧
    ∀ c, (openSteps env config disk now).2 = .error (.corruption c) →
      disk.applyAll (openSteps env config disk now).1 = disk := by
  constructor
  · intro wal effects hopen
    obtain ⟨wal', hrecover⟩ := recover_of_open hopen
    obtain ⟨sealed, active, hrecovered⟩ := recover_recovered hrecover
    exact hrecovered.sound_iff_openLast
  · intro c hc
    rw [openSteps_error hc]
    rfl

/-! A directory whose first segment is OPEN and goes on where the second one ends. -/

def swappedRecord (wal_offset : ℕ) : JournalRecord where
  run_id := sampleConfig.run_id
  producer_id := sampleConfig.producer_id
  wal_offset := ⟨wal_offset⟩
  event := noteEvent "a"
  recorded_at := sampleTime
  payload_hash := sampleDigest.toTrimmedText
  record_size_bytes := 1
  size_positive := Nat.zero_lt_one

theorem swappedRecord_readable (wal_offset : ℕ) :
    Readable sampleEnv sampleConfig (swappedRecord wal_offset) := by
  obtain ⟨j, hj⟩ : ∃ j, (noteEvent "a").modelDump = some j := ⟨_, rfl⟩
  have hdump : (swappedRecord wal_offset).modelDump =
      some (recordJson (swappedRecord wal_offset) j) := by
    rw [JournalRecord.modelDump, show (swappedRecord wal_offset).event = noteEvent "a" from rfl, hj]
    rfl
  exact note_clean.readable hj rfl rfl rfl rfl hdump

/-- Metadata of a segment with one swapped record. -/
def swappedSegment (segment_id : WalSegmentId) (status : WalSegmentStatus)
    (sealed_at : Option DateTime) (wal_offset : ℕ) : SegmentFields where
  segment_id := segment_id
  run_id := sampleConfig.run_id
  status := status
  offset_range := some ⟨⟨wal_offset⟩, ⟨wal_offset⟩, le_refl _⟩
  created_at := sampleTime
  sealed_at := sealed_at
  event_count := 1
  payload_bytes := (segmentBytes [swappedRecord wal_offset]).length
  segment_hash := none
  previous_segment_hash := none

def openFirst : WalSegmentMetadata where
  toSegmentFields :=
    swappedSegment ⟨"run-1-segment-000001", DomainId.checked evaluates⟩ .OPEN none 1
  valid := ⟨fun _ => rfl, fun h => absurd rfl h, nofun, by rintro _ ⟨⟩; rfl, nofun⟩

def sealedSecond : WalSegmentMetadata where
  toSegmentFields := swappedSegment ⟨"run-1-segment-000002", by decide⟩ .SEALED (some sampleTime) 0
  valid := ⟨nofun, fun _ => nofun, by rintro _ ⟨⟩; exact le_refl _,
    by rintro _ ⟨⟩; rfl, nofun⟩

def swappedDisk : Disk where
  segments := ⟨[("run-1-segment-000001", segmentBytes [swappedRecord 1]),
    ("run-1-segment-000002", segmentBytes [swappedRecord 0])], by decide⟩
  metadata := ⟨[("run-1-segment-000001", metadataText openFirst),
    ("run-1-segment-000002", metadataText sealedSecond)], by decide⟩
  temps := .empty

theorem swapped_numbered (wal_offset : ℕ) :
    (∀ r ∈ [swappedRecord wal_offset], Readable sampleEnv sampleConfig r) ∧
      Numbered wal_offset [swappedRecord wal_offset] := by
  refine ⟨?_, rfl, trivial⟩
  intro r hr
  rw [List.mem_singleton.mp hr]
  exact swappedRecord_readable wal_offset

/-- Both files are read, the second one against its metadata. -/
theorem swappedDisk_read :
    readSegmentRecords sampleEnv sampleConfig swappedDisk "run-1-segment-000001" none =
        .ok ([swappedRecord 1], (segmentBytes [swappedRecord 1]).length) ∧
      readSegmentRecords sampleEnv sampleConfig swappedDisk "run-1-segment-000002"
          (some sealedSecond) =
        .ok ([swappedRecord 0], (segmentBytes [swappedRecord 0]).length) := by
  obtain ⟨hone, hone'⟩ := swapped_numbered 1
  obtain ⟨hzero, hzero'⟩ := swapped_numbered 0
  exact ⟨readSegmentRecords_plain sampleEnv sampleConfig rfl hone hone',
    readSegmentRecords_checked sampleEnv sampleConfig rfl hzero hzero' ⟨⟨rfl, rfl⟩, rfl⟩⟩

theorem swappedDisk_metadata :
    readMetadata sampleEnv swappedDisk "run-1-segment-000001" = some openFirst ∧
      readMetadata sampleEnv swappedDisk "run-1-segment-000002" = some sealedSecond :=
  ⟨readMetadata_text rfl, readMetadata_text rfl⟩

/-- Recovery of a directory whose parts are known. -/
theorem recover_of_parts {env : Env} {config : LocalJsonlWalConfig} {disk : Disk} {now : DateTime}
    {all_meta sealed_sorted : List WalSegmentMetadata} {a : WalSegmentMetadata} {i : ℕ}
    {indices : List ℕ} {rs : List JournalRecord} {size : ℕ} {segments : List WalSegmentMetadata}
    (hload : LocalJsonlWal.loadSegments env config disk = .ok (all_meta, sealed_sorted))
    (hindices : all_meta.mapM (fun m => segmentIndexFromId m.segment_id config.run_id) =
      .ok indices)
    (hopen : all_meta.filter LocalJsonlWal.isOpen = [a])
    (hindex : segmentIndexFromId a.segment_id config.run_id = .ok i)
    (hread : readSegmentRecords env config disk a.segment_id.value none = .ok (rs, size))
    (hcont : LocalJsonlWal.validateSegmentIndexContinuity indices = .ok ())
    (hlist : ((LocalJsonlWal.freshWal config sealed_sorted a.segment_id i
      a.created_at).noteRecovered rs size).listSegmentMetadata = .ok segments)
    (hglobal : LocalJsonlWal.validateGlobalOffsetContinuity 0 segments = .ok ()) :
    LocalJsonlWal.recover env config disk now =
      .ok ((LocalJsonlWal.freshWal config sealed_sorted a.segment_id i
        a.created_at).noteRecovered rs size) := by
  have hchoose : LocalJsonlWal.chooseActive env config disk now all_meta sealed_sorted
      (indices.foldr max 0 + 1) = .ok ((LocalJsonlWal.freshWal config sealed_sorted a.segment_id i
        a.created_at).noteRecovered rs size) := by
    rw [LocalJsonlWal.chooseActive, hopen]
    simp only [hindex, LocalJsonlWal.liftCorruption, bind, Except.bind,
      LocalJsonlWal.recoverOpenSegment, LocalJsonlWal.freshWal, hread]
  rw [LocalJsonlWal.recover, hload]
  simp only [LocalJsonlWal.liftCorruption, bind, Except.bind, hindices, hchoose, hcont, hlist,
    hglobal]

theorem loadSegments_of_parts {env : Env} {config : LocalJsonlWalConfig} {disk : Disk}
    {all_meta : List WalSegmentMetadata} {m : WalSegmentMetadata} {p : List JournalRecord × ℕ}
    (hmetadata : loadMetadataForRun env config.run_id disk = .ok all_meta)
    (hone : ¬ 1 < (all_meta.filter LocalJsonlWal.isOpen).length)
    (horphans : LocalJsonlWal.validateNoOrphanFiles config.run_id disk = .ok ())
    (hsorted : LocalJsonlWal.sortSealed config.run_id all_meta = .ok [m])
    (hread : readSegmentRecords env config disk m.segment_id.value (some m) = .ok p) :
    LocalJsonlWal.loadSegments env config disk = .ok (all_meta, [m]) := by
  rw [LocalJsonlWal.loadSegments, hmetadata]
  simp only [bind, Except.bind, pure, Except.pure, hone, ↓reduceIte, horphans, hsorted,
    List.mapM_cons, List.mapM_nil, hread]

theorem loadMetadataFile_of {env : Env} {run_id : RunId} {disk : Disk} {name : String}
    {m : WalSegmentMetadata} (hread : readMetadata env disk name = some m)
    (hrun : m.run_id.value = run_id.value) (hname : name = m.segment_id.value) :
    loadMetadataFile env run_id disk name = .ok m := by
  rw [loadMetadataFile, hread]
  dsimp only
  rw [if_neg (not_not.mpr hrun), if_neg (not_not.mpr hname)]

theorem swappedDisk_loads :
    LocalJsonlWal.loadSegments sampleEnv sampleConfig swappedDisk =
      .ok ([openFirst, sealedSecond], [sealedSecond]) := by
  have hmetadata : loadMetadataForRun sampleEnv sampleConfig.run_id swappedDisk =
      .ok [openFirst, sealedSecond] := by
    have hnames : namesForRun sampleConfig.run_id swappedDisk.metadata =
        ["run-1-segment-000001", "run-1-segment-000002"] := by decide
    have hfirst := @loadMetadataFile_of _ sampleConfig.run_id _ _ _ swappedDisk_metadata.1 rfl rfl
    have hsecond := @loadMetadataFile_of _ sampleConfig.run_id _ _ _ swappedDisk_metadata.2 rfl rfl
    rw [loadMetadataForRun, hnames, List.mapM_cons, List.mapM_cons, hfirst, hsecond,
      List.mapM_nil]
    simp only [bind, Except.bind, pure, Except.pure]
  exact loadSegments_of_parts hmetadata (by decide) (by decide) rfl swappedDisk_read.2

/-- The directory passes every check of `open`. -/
theorem swappedDisk_opens : ∃ wal effects,
    LocalJsonlWal.open sampleEnv sampleConfig swappedDisk sampleTime = .ok (wal, effects) := by
  have hlist : ∀ size, ∃ segments, ((LocalJsonlWal.freshWal sampleConfig [sealedSecond]
      openFirst.segment_id 1 openFirst.created_at).noteRecovered [swappedRecord 1]
        size).listSegmentMetadata = .ok segments ∧
      LocalJsonlWal.validateGlobalOffsetContinuity 0 segments = .ok () :=
    fun size => ⟨_, rfl, rfl⟩
  obtain ⟨segments, hsegments, hglobal⟩ := hlist (segmentBytes [swappedRecord 1]).length
  have hrecover := @recover_of_parts _ _ _ sampleTime _ _ _ _ _ _ _ _ swappedDisk_loads rfl rfl
    rfl swappedDisk_read.1 (by decide) hsegments hglobal
  obtain ⟨m, hm⟩ := recover_current hrecover
  rw [LocalJsonlWal.open, hrecover]
  simp only [bind, Except.bind, hm]
  exact ⟨_, _, if_pos (.inr rfl)⟩

theorem swappedDisk_sound_iff : ∃ wal effects,
    LocalJsonlWal.open sampleEnv sampleConfig swappedDisk sampleTime = .ok (wal, effects) ∧
      (WalSound sampleEnv sampleConfig swappedDisk ↔ OpenLast sampleEnv sampleConfig swappedDisk) := by
  obtain ⟨wal, effects, hopen⟩ := swappedDisk_opens
  exact ⟨wal, effects, hopen, (open_sound sampleEnv sampleConfig swappedDisk sampleTime).1 wal
    effects hopen⟩

theorem swappedDisk_not_openLast : ¬ OpenLast sampleEnv sampleConfig swappedDisk := by
  intro h
  have hfull : ∀ wal_offset, (segmentBytes [swappedRecord wal_offset]) ≠ [] :=
    fun _ hnil => absurd (segmentBytes_eq_nil hnil) (List.cons_ne_nil _ _)
  have hempty := h "run-1-segment-000001" (by decide) openFirst swappedDisk_metadata.1 rfl
    (fun hnil => hfull 1 (Option.some.inj hnil)) "run-1-segment-000002" (by decide) (by decide)
  exact hfull 0 (Option.some.inj hempty)

/-- Its first segment goes on where its second one ends, and it opens all the same. -/
theorem swapped_segments_open :
    ¬ ∀ (env : Env) (config : LocalJsonlWalConfig) (disk : Disk) (now : DateTime) wal effects,
      LocalJsonlWal.open env config disk now = .ok (wal, effects) → WalSound env config disk := by
  intro h
  obtain ⟨wal, effects, hopen⟩ := swappedDisk_opens
  obtain ⟨wal', hrecover⟩ := recover_of_open hopen
  obtain ⟨sealed, active, hrecovered⟩ := recover_recovered hrecover
  have hsound := h sampleEnv sampleConfig swappedDisk sampleTime wal effects hopen
  exact swappedDisk_not_openLast (hrecovered.sound_iff_openLast.mp hsound)

end FuturesBot
