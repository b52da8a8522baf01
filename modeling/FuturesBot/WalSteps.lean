import FuturesBot.WalCrashes

/-! The operations of an open WAL on the segments it holds: what each returns, the disk it
leaves, and that a crash inside it cannot hurt. -/
namespace FuturesBot

open JsonText (Json)
open TextLines DateTimes Dicts CrashPoints

/-- A WAL, open or closed, that reads the OPEN segment `s` behind the sealed ones. -/
structure Handle (config : LocalJsonlWalConfig) (wal : LocalJsonlWal) (sealed : List Segment)
    (s : Segment) : Prop extends Attached config wal sealed s.records where
  id : wal.active_segment_id = s.info.segment_id
  file : wal.closed = false → wal.active_file = some s.info.segment_id.value

/-- An open WAL whose next offset follows the records. -/
structure Live (config : LocalJsonlWalConfig) (wal : LocalJsonlWal) (sealed : List Segment)
    (s : Segment) : Prop extends Handle config wal sealed s where
  not_closed : wal.closed = false
  next : wal.next_offset = (allRecords sealed).length + s.records.length

/-- `WalSegmentId` and the file system take the name of segment `index`. -/
def Nameable (env : Env) (config : LocalJsonlWalConfig) (index : ℕ) : Prop :=
  ∃ id, segmentIdFor config.run_id index = some id ∧ env.creatable id.value = true

section Sealing

variable {env : Env} {config : LocalJsonlWalConfig} {disk : Disk} {wal : LocalJsonlWal}
  {sealed : List Segment} {s : Segment}

theorem Attached.withFile {rs : List JournalRecord} (h : Attached config wal sealed rs)
    (file : Option String) : Attached config { wal with active_file := file } sealed rs :=
  ⟨⟨h.config_eq, h.sealed_meta, h.index, h.name, h.event_count, h.first, h.last⟩, h.byte_count⟩

theorem Live.doSeal (hl : Live config wal sealed s) (sealed_at : DateTime) :
    ∃ m, wal.doSeal sealed_at =
        ⟨LocalJsonlWal.saveMetadata m,
          { wal with active_file := none, sealed_meta := wal.sealed_meta ++ [m] }, .ok m⟩ ∧
      m.status = .SEALED ∧ m.segment_id = s.info.segment_id ∧ m.run_id = config.run_id ∧
      Describes m (allRecords sealed).length s.records := by
  -- the time of sealing is raised to the creation time, so the metadata is always valid
  obtain ⟨m, hm, hstatus, hid, hrun, hdesc⟩ := (hl.withFile none).activeMetadata .SEALED
    (some (DateTime.latest sealed_at wal.active_segment_created_at))
    (.inr ⟨rfl, _, rfl, DateTime.le_latest_right _ _⟩)
  refine ⟨m, ?_, hstatus, hid.trans hl.id, hrun, hdesc⟩
  simp only [LocalJsonlWal.doSeal, hl.file hl.not_closed, hm]

/-- Starting the segment behind the sealed ones. -/
theorem startSegment_spec (hconfig : wal.config = config)
    (hmeta : wal.sealed_meta = sealed.map (·.info))
    (hindex : wal.current_segment_index = sealed.length) (hclosed : wal.closed = false)
    (hnext : wal.next_offset = (allRecords sealed).length)
    (hname : Nameable env config (sealed.length + 1)) (created_at : DateTime) :
    ∃ m wal', wal.startSegment env created_at =
        ⟨.createSegment m.segment_id.value :: LocalJsonlWal.saveMetadata m, wal', .ok ()⟩ ∧
      Live config wal' sealed ⟨m, []⟩ ∧ m.status = .OPEN ∧ m.run_id = config.run_id ∧
      m.segment_id.value = segmentName config.run_id (sealed.length + 1) := by
  obtain ⟨id, hid, hcreate⟩ := hname
  let wal' : LocalJsonlWal :=
    { wal with
      current_segment_index := wal.current_segment_index + 1
      active_segment_id := id
      active_segment_created_at := created_at
      active_event_count := 0
      active_byte_count := 0
      active_first_offset := none
      active_last_offset := none
      active_file := some id.value }
  have hatt : Attached config wal' sealed [] :=
    ⟨⟨hconfig, hmeta, congrArg (· + 1) hindex, segmentIdFor_value hid, rfl, rfl, rfl⟩, rfl⟩
  obtain ⟨m, hm, hstatus, hmid, hrun, -⟩ := hatt.currentMetadata
  have hmid' : m.segment_id = id := hmid
  have hfile : wal'.active_file = some m.segment_id.value := by
    rw [hmid']
  refine ⟨m, wal', ?_, ⟨⟨hatt, hmid.symm, fun _ => hfile⟩, hclosed, hnext⟩, hstatus, hrun, ?_⟩
  · have hid' : segmentIdFor wal.config.run_id (wal.current_segment_index + 1) = some id := by
      rw [hconfig, hindex, hid]
    have hm' := hm
    simp only [wal'] at hm'
    simp only [LocalJsonlWal.startSegment, hid', hcreate, ↓reduceIte, hm', hmid', wal']
  · rw [hmid', segmentIdFor_value hid]

/-- Sealing the active segment and starting the next one. -/
theorem Live.sealAndStart (hl : Live config wal sealed s) (hd : Laid config disk sealed (some s))
    (hname : Nameable env config (sealed.length + 2)) (sealed_at created_at : DateTime) :
    ∃ m m' effects wal', wal.sealAndStart env sealed_at created_at = ⟨effects, wal', .ok m⟩ ∧
      Live config wal' (sealed ++ [⟨m, s.records⟩]) ⟨m', []⟩ ∧
      Laid config (disk.applyAll effects) (sealed ++ [⟨m, s.records⟩]) (some ⟨m', []⟩) ∧
      (Holds env config disk sealed (some s) →
        walDevice.Safe (StoresOrRefused env config (allRecords (sealed ++ [s]))) disk effects) := by
  obtain ⟨m, hseal, hstatus, hid, hrun, hdesc⟩ := hl.doSeal sealed_at
  let t : Segment := ⟨m, s.records⟩
  have hall : allRecords (sealed ++ [t]) = allRecords (sealed ++ [s]) := by
    rw [allRecords_snoc, allRecords_snoc]
  let sealing : LocalJsonlWal :=
    { wal with active_file := none, sealed_meta := wal.sealed_meta ++ [m] }
  have hconfig : sealing.config = config := hl.config_eq
  have hmeta : sealing.sealed_meta = (sealed ++ [t]).map (·.info) := by
    simp only [sealing, t, hl.sealed_meta, List.map_append, List.map_cons, List.map_nil]
  have hindex : sealing.current_segment_index = (sealed ++ [t]).length := by
    simp only [sealing, hl.index, List.length_append, List.length_singleton]
  have hclosed : sealing.closed = false := hl.not_closed
  have hnext : sealing.next_offset = (allRecords (sealed ++ [t])).length := by
    rw [allRecords_snoc, List.length_append]
    exact hl.next
  have hnameable : Nameable env config ((sealed ++ [t]).length + 1) := by
    rw [List.length_append, List.length_singleton]
    exact hname
  obtain ⟨m', wal', hstart, hlive, hstatus', hrun', hname'⟩ :=
    startSegment_spec hconfig hmeta hindex hclosed hnext hnameable created_at
  have hsealed := hd.saveSealed hid hrun hstatus hdesc
  refine ⟨m, m', LocalJsonlWal.saveMetadata m ++
    .createSegment m'.segment_id.value :: LocalJsonlWal.saveMetadata m', wal', ?_, hlive, ?_, ?_⟩
  · simp only [sealing] at hstart
    simp only [LocalJsonlWal.sealAndStart, hseal, hstart]
    rfl
  · rw [Disk.applyAll_append]
    exact hsealed.start hname' hrun' hstatus'
  · intro h
    -- first the sealing metadata, then the file and the metadata of the next segment
    have hsafe := safe_start (h.saveSealed hid hrun hstatus hdesc) hname' hrun' hstatus'
    rw [hall] at hsafe
    exact Device.safe_append ((safe_saveSealed h hid hrun hstatus hdesc).mono fun _ => .inl) hsafe

end Sealing

section Appending

variable {env : Env} {config : LocalJsonlWalConfig} {disk : Disk} {wal : LocalJsonlWal}
  {sealed : List Segment} {s : Segment}

theorem offsets_snoc (k : ℕ) (rs : List JournalRecord) (r : JournalRecord)
    {first : Option ℕ} (hfirst : first = if rs = [] then none else some k) :
    some (first.getD (k + rs.length)) = (if rs ++ [r] = [] then none else some k) ∧
      some (k + rs.length) =
        if rs ++ [r] = [] then none else some (k + (rs ++ [r]).length - 1) := by
  have hne : rs ++ [r] ≠ [] := List.concat_ne_nil r rs
  have hlen : k + (rs ++ [r]).length - 1 = k + rs.length := by
    rw [List.length_append, List.length_singleton]
    omega
  rw [if_neg hne, if_neg hne, hlen, hfirst]
  refine ⟨?_, rfl⟩
  split
  · rename_i hnil
    rw [hnil]
    rfl
  · rfl

theorem Counted.noteAppended {rs : List JournalRecord} (h : Counted config wal sealed rs)
    (hnext : wal.next_offset = (allRecords sealed).length + rs.length) (r : JournalRecord)
    (size : ℕ) : Counted config (wal.noteAppended size) sealed (rs ++ [r]) := by
  obtain ⟨hfirst, hlast⟩ := offsets_snoc (allRecords sealed).length rs r h.first
  have hcount : wal.active_event_count + 1 = (rs ++ [r]).length := by
    rw [h.event_count, List.length_append, List.length_singleton]
  rw [← hnext] at hfirst hlast
  exact ⟨h.config_eq, h.sealed_meta, h.index, h.name, hcount, hfirst, hlast⟩

/-- The WAL once it has noted a record that it wrote. -/
theorem Live.noteAppended (hl : Live config wal sealed s) (r : JournalRecord) :
    Live config (wal.noteAppended (segmentBytes [r]).length) sealed ⟨s.info, s.records ++ [r]⟩ := by
  have hbytes : wal.active_byte_count + (segmentBytes [r]).length =
      (segmentBytes (s.records ++ [r])).length := by
    rw [hl.byte_count, segmentBytes_append, List.length_append]
  have hnext : wal.next_offset + 1 =
      (allRecords sealed).length + (s.records ++ [r]).length := by
    rw [hl.next, List.length_append, List.length_singleton]
    omega
  exact ⟨⟨⟨hl.toCounted.noteAppended hl.next r _, hbytes⟩, hl.id, hl.file⟩, hl.not_closed, hnext⟩

/-- Whether appending a line of `size` bytes at time `ts` makes the WAL roll over. -/
def LocalJsonlWal.rollsOver (wal : LocalJsonlWal) (size : ℕ) (ts : DateTime) : Bool :=
  (wal.noteAppended size).shouldRollover ts

/-- An append without a rollover: the line, then the metadata. -/
theorem append_plain {event : EventEnvelope} {recorded_at : Option DateTime} {now : DateTime}
    (now' : DateTime) {r : JournalRecord} {line : Bytes} {name : String} {m : WalSegmentMetadata}
    (hclosed : wal.closed = false) (hfile : wal.active_file = some name)
    (hr : LocalJsonlWal.newRecord env wal event (recorded_at.getD now) = .ok r)
    (hline : LocalJsonlWal.recordLine r = some line)
    (hm : (wal.noteAppended line.length).currentSegmentMetadata = .ok m)
    (hroll : wal.rollsOver line.length (recorded_at.getD now) = false) :
    wal.append env event recorded_at now now' = ⟨.appendSegment name line ::
      LocalJsonlWal.saveMetadata m, wal.noteAppended line.length, .ok (.appended r)⟩ := by
  rw [LocalJsonlWal.rollsOver] at hroll
  simp only [LocalJsonlWal.append, hclosed, Bool.false_eq_true, ↓reduceIte, hr, hline, hfile, hm,
    hroll]

/-- Appending: one line behind the OPEN segment, then the metadata, and the next segment when
the WAL rolls over. -/
theorem Live.append (hl : Live config wal sealed s) (hd : Laid config disk sealed (some s))
    {event : EventEnvelope} {recorded_at : Option DateTime} {now : DateTime} (now' : DateTime)
    {r : JournalRecord} (hr : LocalJsonlWal.newRecord env wal event (recorded_at.getD now) = .ok r)
    (hline : LocalJsonlWal.recordLine r = some (segmentBytes [r]))
    (hoff : r.wal_offset.value = wal.next_offset)
    (hname : wal.rollsOver (segmentBytes [r]).length (recorded_at.getD now) = true →
      Nameable env config (sealed.length + 2)) :
    ∃ effects wal' sealed' s', wal.append env event recorded_at now now' =
        ⟨.appendSegment s.info.segment_id.value (segmentBytes [r]) :: effects, wal',
          .ok (.appended r)⟩ ∧
      Live config wal' sealed' s' ∧
      Laid config (disk.applyAll
        (.appendSegment s.info.segment_id.value (segmentBytes [r]) :: effects)) sealed' (some s') ∧
      allRecords (sealed' ++ [s']) = allRecords (sealed ++ [s]) ++ [r] ∧
      (Readable env config r → Holds env config disk sealed (some s) →
        walDevice.Safe (StoresOrRefused env config (allRecords (sealed ++ [s]) ++ [r]))
          (disk.apply (.appendSegment s.info.segment_id.value (segmentBytes [r]))) effects) := by
  let t : Segment := ⟨s.info, s.records ++ [r]⟩
  have hnoted : Live config (wal.noteAppended (segmentBytes [r]).length) sealed t :=
    hl.noteAppended r
  obtain ⟨m, hm, hstatus, hid, hrun, hdesc⟩ := hnoted.currentMetadata
  have hoff' := hoff.trans hl.next
  have hdt := hd.appendLine hoff'
  have hdm := hdt.saveOpen (hid.trans hnoted.id) hrun hstatus
  have hall (info : WalSegmentMetadata) :
      allRecords (sealed ++ [(⟨info, s.records ++ [r]⟩ : Segment)]) =
        allRecords (sealed ++ [s]) ++ [r] := by
    rw [allRecords_snoc, allRecords_snoc, List.append_assoc]
  have hid' : m.segment_id = s.info.segment_id := hid.trans hnoted.id
  -- the metadata of the OPEN segment is saved in both cases
  have hsave (hread : Readable env config r) (h : Holds env config disk sealed (some s)) :
      walDevice.Safe (StoresOrRefused env config (allRecords (sealed ++ [s]) ++ [r]))
        (disk.apply (.appendSegment s.info.segment_id.value (segmentBytes [r])))
        (LocalJsonlWal.saveMetadata m) := by
    have hsafe := safe_saveOpen (h.appendLine hread hoff') hid' hrun hstatus
    rw [hall] at hsafe
    exact hsafe.mono fun _ => .inl
  have hnotedm : Live config (wal.noteAppended (segmentBytes [r]).length) sealed
      ⟨m, s.records ++ [r]⟩ :=
    ⟨⟨hnoted.toAttached, hid.symm, by rw [hid']; exact hl.file⟩, hnoted.not_closed, hnoted.next⟩
  by_cases hroll : wal.rollsOver (segmentBytes [r]).length (recorded_at.getD now) = true
  · obtain ⟨m₁, m₂, effects, wal', hseal, hlive, hlaid, hsafe⟩ :=
      hnotedm.sealAndStart hdm (hname hroll) (recorded_at.getD now)
        (DateTime.latest now' (recorded_at.getD now))
    refine ⟨LocalJsonlWal.saveMetadata m ++ effects, wal', _, _, ?_, hlive, ?_, ?_, ?_⟩
    · rw [LocalJsonlWal.rollsOver] at hroll
      simp only [LocalJsonlWal.append, hl.not_closed, Bool.false_eq_true, ↓reduceIte, hr, hline,
        hl.file hl.not_closed, hm, hroll, LocalJsonlWal.rollover, hseal, List.cons_append]
      rfl
    · rw [Disk.applyAll_cons, Disk.applyAll_append]
      exact hlaid
    · rw [allRecords_snoc, List.append_nil, ← hall m, allRecords_snoc, allRecords_snoc]
    · intro hread h
      refine Device.safe_append (hsave hread h) ?_
      rw [← hall m]
      exact hsafe ((h.appendLine hread hoff').saveOpen hid' hrun hstatus)
  · rw [Bool.not_eq_true] at hroll
    exact ⟨LocalJsonlWal.saveMetadata m, _, sealed, ⟨m, s.records ++ [r]⟩,
      append_plain now' hl.not_closed (hl.file hl.not_closed) hr hline hm hroll, hnotedm, hdm,
      hall m, hsave⟩

/-- An event without JSON is refused before anything is written. -/
theorem append_none {event : EventEnvelope} (hj : event.modelDump = none)
    (hclosed : wal.closed = false) (recorded_at : Option DateTime) (now now' : DateTime) :
    wal.append env event recorded_at now now' = ⟨[], wal, .error .serialization⟩ := by
  simp only [LocalJsonlWal.append, hclosed, Bool.false_eq_true, ↓reduceIte, newRecord_none env wal hj]

theorem append_closed (hclosed : wal.closed = true) (event : EventEnvelope)
    (recorded_at : Option DateTime) (now now' : DateTime) :
    wal.append env event recorded_at now now' = ⟨[], wal, .ok .rejectedWalUnavailable⟩ := by
  simp only [LocalJsonlWal.append, hclosed, ↓reduceIte]

theorem Live.sealCurrentSegment (hl : Live config wal sealed s) (now now' : DateTime) :
    wal.sealCurrentSegment env now now' = wal.sealAndStart env now now' := by
  simp only [LocalJsonlWal.sealCurrentSegment, hl.not_closed, Bool.false_eq_true, ↓reduceIte]

theorem Live.close (hl : Live config wal sealed s) :
    ∃ wal', wal.close = ⟨[], wal', .ok ()⟩ ∧ Handle config wal' sealed s ∧ wal'.closed = true := by
  refine ⟨{ wal with closed := true, active_file := none }, ?_, ?_, rfl⟩
  · simp only [LocalJsonlWal.close, hl.not_closed, Bool.false_eq_true, ↓reduceIte,
      hl.file hl.not_closed]
  · exact ⟨⟨⟨hl.config_eq, hl.sealed_meta, hl.index, hl.name, hl.event_count, hl.first, hl.last⟩,
      hl.byte_count⟩, hl.id, fun h => absurd h Bool.true_eq_false.mp⟩

end Appending

section Opening

variable {env : Env} {config : LocalJsonlWalConfig} {disk : Disk} {sealed : List Segment}
  {active : Option Segment}

theorem Laid.create_active {s : Segment} (h : Laid config disk sealed (some s)) :
    disk.create s.info.segment_id.value = disk := by
  rw [Disk.create, h.get_file (List.mem_append_right _ (by simp))]

/-- After recovery `open` saves the metadata of the active segment. -/
theorem open_of_recover {now : DateTime} {wal : LocalJsonlWal} {rs : List JournalRecord}
    (hrecover : LocalJsonlWal.recover env config disk now = .ok wal)
    (hcounted : Counted config wal sealed rs)
    (hcan : (disk.segments.get? wal.active_segment_id.value).isSome = true ∨
      env.creatable wal.active_segment_id.value = true) :
    ∃ m, LocalJsonlWal.open env config disk now =
        .ok ({ wal with active_file := some wal.active_segment_id.value },
          .createSegment m.segment_id.value :: LocalJsonlWal.saveMetadata m) ∧
      m.status = .OPEN ∧ m.segment_id = wal.active_segment_id ∧ m.run_id = config.run_id := by
  obtain ⟨m, hm, hstatus, hid, hrun, -⟩ := hcounted.activeMetadata .OPEN none (.inl ⟨rfl, rfl⟩)
  refine ⟨m, ?_, hstatus, hid, hrun⟩
  rw [LocalJsonlWal.open, hrecover]
  simp only [bind, Except.bind, hcan, ↓reduceIte, LocalJsonlWal.currentSegmentMetadata, hm, hid]

/-- Opening a disk that holds segments: the records stay, the metadata of the OPEN segment is
brought up to date or a new segment is started. -/
theorem Holds.open (h : Holds env config disk sealed active) (now : DateTime)
    (hname : active = none → Nameable env config (sealed.length + 1)) :
    ∃ wal effects s, LocalJsonlWal.open env config disk now = .ok (wal, effects) ∧
      Handle config wal sealed s ∧ wal.closed = false ∧
      wal.next_offset = openedNext sealed s.records ∧ s.records = activeRecords active ∧
      Holds env config (disk.applyAll effects) sealed (some s) ∧
      walDevice.Safe (StoresOrRefused env config (allRecords (sealed ++ active.toList))) disk
        effects := by
  obtain ⟨wal, hrecover, hatt, hclosed, hnext, hid⟩ := h.recover now
    (fun hnone => (hname hnone).imp fun _ hi => hi.1)
  have hcan : (disk.segments.get? wal.active_segment_id.value).isSome = true ∨
      env.creatable wal.active_segment_id.value = true := by
    cases active with
    | none =>
      obtain ⟨id, hi, hcreate⟩ := hname rfl
      right
      rw [hatt.name, ← segmentIdFor_value hi]
      exact hcreate
    | some s =>
      left
      rw [hid s rfl, h.get_file (List.mem_append_right _ (by simp))]
      rfl
  obtain ⟨m, hopen, hstatus, hmid, hrun⟩ := open_of_recover hrecover hatt.toCounted hcan
  have hhandle : Handle config { wal with active_file := some wal.active_segment_id.value } sealed
      ⟨m, activeRecords active⟩ :=
    ⟨hatt.withFile _, hmid.symm, fun _ => by rw [hmid]⟩
  refine ⟨_, _, ⟨m, activeRecords active⟩, hopen, hhandle, hclosed, hnext, rfl, ?_⟩
  cases active with
  | none =>
    have hvalue : m.segment_id.value = segmentName config.run_id (sealed.length + 1) := by
      rw [hmid, hatt.name]
    refine ⟨h.start hvalue hrun hstatus, ?_⟩
    rw [allRecords_none]
    exact safe_start h hvalue hrun hstatus
  | some s =>
    have hsid : m.segment_id = s.info.segment_id := hmid.trans (hid s rfl)
    have hsame : disk.apply (.createSegment m.segment_id.value) = disk := by
      rw [hsid]
      exact h.toLaid.create_active
    rw [Disk.applyAll_cons, hsame]
    refine ⟨h.saveOpen hsid hrun hstatus, ?_⟩
    -- the file is there, so the first step changes nothing
    refine Device.safe_cons (fun _ => .inl h.stores) ?_
    have hsafe := (safe_saveOpen h hsid hrun hstatus).mono fun _ hstores =>
      (Or.inl hstores : StoresOrRefused env config (allRecords (sealed ++ [s])) _)
    rw [← hsame] at hsafe
    exact hsafe

end Opening

section Reading

variable {env : Env} {config : LocalJsonlWalConfig} {disk : Disk} {wal : LocalJsonlWal}
  {sealed : List Segment} {s : Segment}

/-- Every segment that the WAL lists can be read, and the segments in order, or
`iter_records`, give the records. -/
def ReadsBack (env : Env) (wal : LocalJsonlWal) (disk : Disk) (records : List JournalRecord) :
    Prop :=
  (∃ metas parts, wal.listSegmentMetadata = .ok metas ∧
    metas.mapM (fun m => wal.readSegment env disk m.segment_id) = .ok parts ∧
    parts.flatten = records) ∧
  wal.iterRecords env disk = .ok records

theorem checkOffsets_numbered {n : ℕ} {rs : List JournalRecord} (h : Numbered n rs) :
    LocalJsonlWal.checkOffsets n rs = .ok () := by
  induction rs generalizing n with
  | nil => rfl
  | cons r rs ih =>
    rw [LocalJsonlWal.checkOffsets, if_neg (not_not.mpr h.1)]
    exact ih h.2

/-- Segments that can each be read are read in order. -/
theorem readSegments_of {segs : List Segment} {n : ℕ}
    (hread : ∀ t ∈ segs, wal.readSegment env disk t.info.segment_id = .ok t.records)
    (hnum : Numbered n (allRecords segs)) :
    (segs.map (·.info)).mapM (fun m => wal.readSegment env disk m.segment_id) =
        .ok (segs.map (·.records)) ∧
      wal.iterFrom env disk n (segs.map (·.info)) = .ok (allRecords segs) := by
  refine ⟨mapM_map_ok hread, ?_⟩
  induction segs generalizing n with
  | nil => rfl
  | cons t segs ih =>
    rw [allRecords_cons, numbered_append] at hnum
    have hrest := ih (fun u hu => hread u (List.mem_cons_of_mem _ hu)) hnum.2
    rw [List.map_cons, LocalJsonlWal.iterFrom, hread t List.mem_cons_self]
    simp only [bind, Except.bind, checkOffsets_numbered hnum.1, LocalJsonlWal.liftCorruption, hrest,
      allRecords_cons]

/-- The metadata that the WAL finds for a segment among numbered ones is its own. -/
theorem find_named {run_id : RunId} {i : ℕ} {segs : List Segment} (h : NamedFrom run_id i segs)
    {t : Segment} (ht : t ∈ segs) :
    (segs.map (·.info)).find? (fun m => m.segment_id = t.info.segment_id) = some t.info := by
  induction segs generalizing i with
  | nil => exact absurd ht List.not_mem_nil
  | cons u segs ih =>
    rw [List.map_cons, List.find?_cons]
    rcases List.mem_cons.mp ht with rfl | ht'
    · simp only [decide_true]
    · -- a segment behind the first one has a larger index, hence another name
      obtain ⟨j, hj, hname, -⟩ := namedFrom_mem h.2 t ht'
      have hne : u.info.segment_id ≠ t.info.segment_id := by
        intro he
        have hvalue := h.1.1.symm.trans ((congrArg DomainId.value he).trans hname)
        have := segmentName_injective run_id hvalue
        omega
      simp only [hne, decide_false]
      exact ih h.2 ht'

/-- The segments that the WAL lists, each with its metadata and its file. -/
theorem Handle.segments (hw : Handle config wal sealed s)
    (hd : Laid config disk sealed (some s)) :
    ∃ t : Segment, t.records = s.records ∧
      wal.listSegmentMetadata = .ok ((sealed ++ [t]).map (·.info)) ∧
      ∀ u ∈ sealed ++ [t],
        wal.findMetadata u.info.segment_id = .ok (some u.info) ∧
        disk.segments.get? u.info.segment_id.value = some (segmentBytes u.records) ∧
        ∃ k, Describes u.info k u.records ∧ Numbered k u.records := by
  obtain ⟨m, hm, hstatus, hid, hrun, hdesc⟩ := hw.currentMetadata
  have hmid : m.segment_id = s.info.segment_id := hid.trans hw.id
  refine ⟨⟨m, s.records⟩, rfl, ?_, ?_⟩
  · rw [List.map_append, ← hw.sealed_meta]
    simp only [LocalJsonlWal.listSegmentMetadata, hm, bind, Except.bind, List.map_cons,
      List.map_nil]
  intro u hu
  rcases List.mem_append.mp hu with hu | hu
  · -- the metadata of a sealed segment is kept by the WAL
    have hsplit := (namedFrom_append config.run_id 1 sealed [s]).mp hd.named
    have hfind := find_named hsplit.1 hu
    rw [← hw.sealed_meta] at hfind
    refine ⟨?_, hd.get_file (List.mem_append_left _ hu), sealedFrom_mem hd.sealed_ok u hu⟩
    simp only [LocalJsonlWal.findMetadata, hfind]
  · -- that of the active one is computed
    obtain rfl := List.mem_singleton.mp hu
    have hnone : wal.sealed_meta.find? (fun v => v.segment_id = m.segment_id) = none := by
      rw [hw.sealed_meta, List.find?_eq_none]
      intro v hv
      obtain ⟨u, hu, rfl⟩ := List.mem_map.mp hv
      rw [decide_eq_true_eq, hmid]
      intro he
      exact hd.sealed_name_ne hu (congrArg DomainId.value he).symm
    have hfile := hd.get_file (s := s) (List.mem_append_right _ (by simp))
    rw [← hmid] at hfile
    refine ⟨?_, hfile, _, hdesc, (hd.active_ok s rfl).2⟩
    simp only [LocalJsonlWal.findMetadata, hnone, hm, bind, Except.bind, ↓reduceIte]

theorem Handle.readsBack (hw : Handle config wal sealed s)
    (hd : Laid config disk sealed (some s))
    (hreadable : ∀ r ∈ allRecords (sealed ++ [s]), Readable env config r) :
    ReadsBack env wal disk (allRecords (sealed ++ [s])) := by
  obtain ⟨t, hrecords, hlist, hsegments⟩ := hw.segments hd
  have hall : allRecords (sealed ++ [s]) = allRecords (sealed ++ [t]) := by
    rw [allRecords_snoc, allRecords_snoc, hrecords]
  rw [hall] at hreadable ⊢
  have hread : ∀ u ∈ sealed ++ [t],
      wal.readSegment env disk u.info.segment_id = .ok u.records := by
    intro u hu
    obtain ⟨hfind, hfile, k, hdesc, hnum⟩ := hsegments u hu
    have hrecords : ∀ r ∈ u.records, Readable env config r :=
      fun r hr => hreadable r (List.mem_flatMap.mpr ⟨u, hu, hr⟩)
    simp only [LocalJsonlWal.readSegment, hfind, bind, Except.bind, hw.config_eq,
      LocalJsonlWal.liftCorruption, readSegmentRecords_checked env config hfile hrecords hnum hdesc]
  have hnum : Numbered 0 (allRecords (sealed ++ [t])) := by
    rw [allRecords_snoc, hrecords, numbered_append, Nat.zero_add]
    exact ⟨sealedFrom_numbered hd.sealed_ok, (hd.active_ok s rfl).2⟩
  obtain ⟨hparts, hiter⟩ := readSegments_of hread hnum
  have hopen : ¬ (wal.closed = false ∧ wal.active_file = none) := by
    rintro ⟨hclosed, hnone⟩
    rw [hw.file hclosed] at hnone
    exact absurd hnone (by simp)
  refine ⟨⟨_, _, hlist, hparts, List.flatMap_def.symm⟩, ?_⟩
  simp only [LocalJsonlWal.iterRecords, hopen, ↓reduceIte, hlist, bind, Except.bind, hiter]

end Reading

end FuturesBot
