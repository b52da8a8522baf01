import FuturesBot.WalOperations

/-! Where a crash leaves the disk of a WAL: it still stores the records, or opening refuses it. -/
namespace FuturesBot

open TextLines DateTimes Dicts CrashPoints

/-- Every later `open` raises `LocalWalCorruptionError`. -/
def Refused (env : Env) (config : LocalJsonlWalConfig) (disk : Disk) : Prop :=
  ∀ now, ∃ c, LocalJsonlWal.open env config disk now = .error (.corruption c)

/-- The disk holds segments with the records `L`. -/
def Stores (env : Env) (config : LocalJsonlWalConfig) (L : List JournalRecord) (disk : Disk) :
    Prop :=
  ∃ sealed active, Holds env config disk sealed active ∧
    allRecords (sealed ++ active.toList) = L

def StoresOrRefused (env : Env) (config : LocalJsonlWalConfig) (L : List JournalRecord)
    (disk : Disk) : Prop :=
  Stores env config L disk ∨ Refused env config disk

section Refusal

variable {env : Env} {config : LocalJsonlWalConfig} {disk disk' : Disk} {sealed : List Segment}
  {active : Option Segment}

theorem open_error {c : WalCorruption} (now : DateTime)
    (h : LocalJsonlWal.loadSegments env config disk = .error c) :
    LocalJsonlWal.open env config disk now = .error (.corruption c) := by
  have hrecover : LocalJsonlWal.recover env config disk now = .error (.corruption c) := by
    rw [LocalJsonlWal.recover, h]
    rfl
  rw [LocalJsonlWal.open, hrecover]
  rfl

/-- A segment file of this run without metadata: opening refuses the disk. -/
theorem orphan_refused (h : Holds env config disk sealed active)
    (hmeta : disk'.metadata = disk.metadata) {i : ℕ}
    (hkey : segmentName config.run_id i ∈ disk'.segments.keys)
    (hnone : disk.metadata.get? (segmentName config.run_id i) = none) :
    Refused env config disk' := by
  intro now
  have hmem : segmentName config.run_id i ∈ namesForRun config.run_id disk'.segments := by
    refine List.mem_filter.mpr ⟨hkey, ?_⟩
    rw [segmentName_listed h.listed, segmentName_begins, Bool.and_self]
  have hfind : ((namesForRun config.run_id disk'.segments).find? fun name =>
      (disk'.metadata.get? name).isNone).isSome = true := by
    rw [List.find?_isSome]
    exact ⟨_, hmem, by rw [hmeta, hnone]; rfl⟩
  obtain ⟨name, hname⟩ := Option.isSome_iff_exists.mp hfind
  have hone : ¬ 1 < (active.toList.map (·.info)).length := by
    cases active <;> simp
  refine ⟨.orphanSegment name, open_error now ?_⟩
  rw [LocalJsonlWal.loadSegments, loadMetadata_congr _ hmeta, h.loadMetadata]
  simp only [bind, Except.bind, h.filter_open, hone, ↓reduceIte,
    LocalJsonlWal.validateNoOrphanFiles, hname]

/-- Names of sealed segments differ from the name of the one behind them. -/
theorem Laid.sealed_name_ne {s : Segment} (h : Laid config disk sealed (some s))
    {t : Segment} (ht : t ∈ sealed) : s.info.segment_id.value ≠ t.info.segment_id.value := by
  have hsplit := (namedFrom_append config.run_id 1 sealed [s]).mp h.named
  obtain ⟨i, hi, hname, -⟩ := namedFrom_mem hsplit.1 t ht
  rw [h.named_active.1, hname]
  intro he
  have := segmentName_injective _ he
  omega

section Torn

variable {s : Segment} {r : JournalRecord}

theorem append_keys (h : Laid config disk sealed (some s)) (data : Bytes) :
    (disk.append s.info.segment_id.value data).segments.keys = disk.segments.keys := by
  rw [Dict.keys, Disk.append, Dict.entries_set_last _ h.files_split, Dict.keys, h.files_split,
    List.map_append, List.map_append]
  rfl

theorem append_get (h : Laid config disk sealed (some s)) (data : Bytes) :
    (disk.append s.info.segment_id.value data).segments.get? s.info.segment_id.value =
      some (segmentBytes s.records ++ data) := by
  have hget : disk.segments.get? s.info.segment_id.value = some (segmentBytes s.records) :=
    h.get_file (List.mem_append_right _ (by simp))
  rw [Disk.append, Dict.get?_set_self, hget, Option.getD_some]

/-- A file of the OPEN segment that cannot be read: opening refuses the disk. -/
theorem active_refused (h : Holds env config disk sealed (some s))
    (hmeta : disk'.metadata = disk.metadata) (hkeys : disk'.segments.keys = disk.segments.keys)
    (hfiles : ∀ t ∈ sealed, disk'.segments.get? t.info.segment_id.value =
      disk.segments.get? t.info.segment_id.value)
    (hread : ∃ c, readSegmentRecords env config disk' s.info.segment_id.value none = .error c) :
    Refused env config disk' := by
  intro now
  obtain ⟨c, hc⟩ := hread
  have hchoose (next_index : ℕ) : LocalJsonlWal.chooseActive env config disk' now
      ((sealed ++ (some s).toList).map (·.info)) (sealed.map (·.info)) next_index =
        .error (.corruption c) := by
    rw [LocalJsonlWal.chooseActive, h.filter_open]
    simp only [Option.toList_some, List.map_cons, List.map_nil,
      segmentIndexFromId_name h.named_active.1, LocalJsonlWal.liftCorruption, bind,
      Except.bind, LocalJsonlWal.recoverOpenSegment, LocalJsonlWal.freshWal, hc]
  have hrecover : LocalJsonlWal.recover env config disk' now = .error (.corruption c) := by
    rw [LocalJsonlWal.recover, h.loadSegments_of hmeta hkeys hfiles]
    simp only [LocalJsonlWal.liftCorruption, bind, Except.bind]
    rw [mapM_index h.named]
    simp only [hchoose]
  exact ⟨c, by rw [LocalJsonlWal.open, hrecover]; rfl⟩

/-- Part of a line behind the records of the OPEN segment: opening refuses the disk. -/
theorem torn_refused (h : Holds env config disk sealed (some s)) (hr : Readable env config r)
    {part : Bytes} (hpart : part <+: encodeUtf8 (recordText r)) (hne : part ≠ [])
    (hcut : part ≠ encodeUtf8 (recordText r)) :
    Refused env config (disk.append s.info.segment_id.value part) := by
  refine active_refused h rfl (append_keys h.toLaid part)
    (fun t ht => Dict.get?_set_ne _ (h.sealed_name_ne ht) _) ?_
  exact readSegmentRecords_torn env config none (append_get h.toLaid part)
    (h.segment_readable (List.mem_append_right _ (by simp))) (h.active_ok s rfl).2 hr hpart hne hcut

end Torn

end Refusal

section Operations

variable {env : Env} {config : LocalJsonlWalConfig} {disk : Disk}
  {sealed : List Segment} {s : Segment} {m : WalSegmentMetadata}

theorem Holds.stores {active : Option Segment} (h : Holds env config disk sealed active) :
    Stores env config (allRecords (sealed ++ active.toList)) disk :=
  ⟨sealed, active, h, rfl⟩

/-- Saving metadata is safe when the disk stores the same records before and after. -/
theorem safe_saveMetadata {P : Disk → Prop} (hbefore : P disk)
    (htemp : ∀ data, P disk → P (disk.apply (.writeTemp m.segment_id.value data)))
    (hafter : P (disk.applyAll (LocalJsonlWal.saveMetadata m))) :
    walDevice.Safe P disk (LocalJsonlWal.saveMetadata m) :=
  Device.safe_cons (fun _ => htemp _ hbefore)
    (Device.safe_cons (fun _ => htemp _ hbefore) (Device.safe_nil hafter))

theorem stores_writeTemp {L : List JournalRecord} (name : String) (data : Bytes)
    (h : Stores env config L disk) : Stores env config L (disk.apply (.writeTemp name data)) := by
  obtain ⟨sealed, active, hh, hL⟩ := h
  exact ⟨sealed, active, hh.of_laid (hh.toLaid.of_eq rfl rfl) rfl, hL⟩

theorem safe_saveOpen (h : Holds env config disk sealed (some s))
    (hid : m.segment_id = s.info.segment_id) (hrun : m.run_id = config.run_id)
    (hstatus : m.status = .OPEN) :
    walDevice.Safe (Stores env config (allRecords (sealed ++ [s]))) disk
      (LocalJsonlWal.saveMetadata m) := by
  refine safe_saveMetadata h.stores (fun data => stores_writeTemp _ data) ?_
  refine ⟨_, _, h.saveOpen hid hrun hstatus, ?_⟩
  rw [allRecords_some, allRecords_snoc]

theorem safe_saveSealed (h : Holds env config disk sealed (some s))
    (hid : m.segment_id = s.info.segment_id) (hrun : m.run_id = config.run_id)
    (hstatus : m.status = .SEALED)
    (hdesc : Describes m (allRecords sealed).length s.records) :
    walDevice.Safe (Stores env config (allRecords (sealed ++ [s]))) disk
      (LocalJsonlWal.saveMetadata m) := by
  refine safe_saveMetadata h.stores (fun data => stores_writeTemp _ data) ?_
  refine ⟨_, _, h.saveSealed hid hrun hstatus hdesc, ?_⟩
  rw [allRecords_none, allRecords_snoc, allRecords_snoc]

/-- A new segment: until its metadata is there, opening refuses its file. -/
theorem safe_start (h : Holds env config disk sealed none)
    (hname : m.segment_id.value = segmentName config.run_id (sealed.length + 1))
    (hrun : m.run_id = config.run_id) (hstatus : m.status = .OPEN) :
    walDevice.Safe (StoresOrRefused env config (allRecords sealed)) disk
      (.createSegment m.segment_id.value :: LocalJsonlWal.saveMetadata m) := by
  have hstores : Stores env config (allRecords sealed) disk :=
    ⟨sealed, none, h, allRecords_none sealed⟩
  have hnone : disk.metadata.get? (segmentName config.run_id (sealed.length + 1)) = none := by
    rw [Dict.get?_eq_none]
    intro hmem
    rw [Dict.keys, h.infos, List.map_map] at hmem
    obtain ⟨t, ht, hval⟩ := List.mem_map.mp hmem
    obtain ⟨i, hi, hname', -⟩ := namedFrom_mem h.named t ht
    rw [Option.toList_none, List.append_nil] at hi
    have := segmentName_injective config.run_id (hname'.symm.trans hval)
    omega
  have hcreated : (disk.create m.segment_id.value).metadata = disk.metadata := by
    unfold Disk.create
    split <;> rfl
  have hkey : segmentName config.run_id (sealed.length + 1) ∈
      (disk.create m.segment_id.value).segments.keys := by
    rw [← hname]
    cases hget : disk.segments.get? m.segment_id.value with
    | some data =>
      rw [Disk.create, hget]
      exact Dict.mem_keys_of_get? hget
    | none =>
      rw [Disk.create, hget]
      exact Dict.mem_keys_of_get? (Dict.get?_set_self _ _ _)
  have horphan : ∀ disk' : Disk, disk'.metadata = disk.metadata →
      disk'.segments = (disk.create m.segment_id.value).segments →
      StoresOrRefused env config (allRecords sealed) disk' := by
    intro disk' hm hs
    exact .inr (orphan_refused h hm (by rw [hs]; exact hkey) hnone)
  refine Device.safe_cons (fun _ => .inl hstores) (Device.safe_cons (fun _ => ?_)
    (Device.safe_cons (fun _ => ?_) (Device.safe_nil ?_)))
  · exact horphan _ hcreated rfl
  · exact horphan _ hcreated rfl
  · refine .inl ⟨_, _, h.start hname hrun hstatus, ?_⟩
    rw [allRecords_some, List.append_nil]

end Operations

end FuturesBot
