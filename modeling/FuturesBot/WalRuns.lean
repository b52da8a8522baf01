import FuturesBot.StepRuns
import FuturesBot.WalSteps

/-! Runs of one producer's WAL: opens, appends, seals and closes in any order, each of which
may crash. What the log holds at the end of a run, and where the code loses it. -/
namespace FuturesBot

open JsonText (Json)
open TextLines DateTimes Dicts CrashPoints StepRuns

/-- The disk, the WAL that the producer holds, and the records the WAL has to give back: those
whose append succeeded, and those in flight at a crash whose line was already written. -/
structure WalState where
  disk : Disk
  wal : Option LocalJsonlWal
  log : List JournalRecord

def WalState.empty : WalState := ⟨Disk.empty, none, []⟩

inductive WalOp where
  | open (now : DateTime)
  | append (event : EventEnvelope) (recorded_at : Option DateTime) (now now' : DateTime)
  | sealCurrentSegment (now now' : DateTime)
  | close

inductive WalAction where
  | complete (op : WalOp)
  /-- the process stops in step `n` of the operation, after `k` bytes of it -/
  | crash (op : WalOp) (n k : ℕ)

/-- What an operation does: its steps on the disk, the WAL after it, and the record of a
successful append. -/
structure Attempt where
  effects : List DiskEffect
  wal : Option LocalJsonlWal
  record : Option JournalRecord

def appendedRecord : Except WalError LocalJsonlWal.WalAppendResult → Option JournalRecord
  | .ok (.appended r) => some r
  | _ => none

section System

variable (env : Env) (config : LocalJsonlWalConfig)

def attempt (s : WalState) : WalOp → Attempt
  | .open now =>
    match LocalJsonlWal.open env config s.disk now with
    | .ok (wal, effects) => ⟨effects, some wal, none⟩
    | .error _ => ⟨[], s.wal, none⟩
  | .append event recorded_at now now' =>
    match s.wal with
    | none => ⟨[], none, none⟩
    | some wal =>
      let out := wal.append env event recorded_at now now'
      ⟨out.effects, some out.wal, appendedRecord out.result⟩
  | .sealCurrentSegment now now' =>
    match s.wal with
    | none => ⟨[], none, none⟩
    | some wal =>
      let out := wal.sealCurrentSegment env now now'
      ⟨out.effects, some out.wal, none⟩
  | .close =>
    match s.wal with
    | none => ⟨[], none, none⟩
    | some wal => ⟨wal.close.effects, some wal.close.wal, none⟩

def completeOp (s : WalState) (op : WalOp) : WalState :=
  let done := attempt env config s op
  ⟨s.disk.applyAll done.effects, done.wal, s.log ++ done.record.toList⟩

/-- The crash comes after the whole line of a record. -/
def lineWritten : List DiskEffect → ℕ → ℕ → Bool
  | .appendSegment _ line :: _, n, k => 0 < n || line.length ≤ k
  | _, _, _ => false

/-- The record of an append that has not returned yet. -/
def inFlight (s : WalState) : WalOp → Option JournalRecord
  | .append event recorded_at now _ =>
    s.wal.bind fun wal =>
      (LocalJsonlWal.newRecord env wal event (recorded_at.getD now)).toOption
  | _ => none

def walStep (s : WalState) : WalAction → WalState
  | .complete op => completeOp env config s op
  | .crash op n k =>
    let effects := (attempt env config s op).effects
    ⟨s.disk.applyAll (crashAt effects n k), none,
      s.log ++ if lineWritten effects n k then (inFlight env s op).toList else []⟩

/-! The conditions on the steps. -/

/-- The sealed segment that `open` takes the next offset from is empty, an earlier one is not,
and no record stands in the OPEN segment. -/
def EmptyTail (disk : Disk) : Prop :=
  ∃ all_meta sealed_sorted, loadMetadataForRun env config.run_id disk = .ok all_meta ∧
    LocalJsonlWal.sortSealed config.run_id all_meta = .ok sealed_sorted ∧
    (∃ m ∈ sealed_sorted.getLast?, m.event_count = 0) ∧ (∃ m ∈ sealed_sorted, m.event_count ≠ 0) ∧
    ∀ m ∈ all_meta, LocalJsonlWal.isOpen m = true →
      disk.segments.get? m.segment_id.value = some []

/-- An event without JSON is refused. Any other must be clean, and the name of the segment
that the append may start must be one that can be taken. -/
def CanAppend (wal : LocalJsonlWal) (event : EventEnvelope) (ts : DateTime) : Prop :=
  event.modelDump ≠ none → Clean env config event ∧
    ∀ r, LocalJsonlWal.newRecord env wal event ts = .ok r →
      wal.rollsOver (segmentBytes [r]).length ts = true →
      Nameable env config (wal.current_segment_index + 1)

def opCondition (s : WalState) : WalOp → Prop
  | .open _ => ¬ EmptyTail env config s.disk
  | .append event recorded_at now _ =>
    ∀ wal ∈ s.wal, wal.closed = false → CanAppend env config wal event (recorded_at.getD now)
  | .sealCurrentSegment _ _ =>
    ∀ wal ∈ s.wal, wal.closed = false → Nameable env config (wal.current_segment_index + 1)
  | .close => True

/-- The crash cuts a line between its JSON and its line feed. -/
def cutsLineFeed : List DiskEffect → ℕ → ℕ → Prop
  | .appendSegment _ line :: _, n, k => n = 0 ∧ k + 1 = line.length
  | _, _, _ => False

def walCondition (s : WalState) : WalAction → Prop
  | .complete op => opCondition env config s op
  | .crash (.open _) _ _ => True
  | .crash op n k => opCondition env config s op ∧
    ¬ cutsLineFeed (attempt env config s op).effects n k

end System

/-! The invariant. -/

section Invariant

variable {env : Env} {config : LocalJsonlWalConfig}

/-- The disk holds the log, and a WAL that is open continues it. -/
structure Held (env : Env) (config : LocalJsonlWalConfig) (s : WalState) (sealed : List Segment)
    (active : Option Segment) : Prop where
  holds : Holds env config s.disk sealed active
  log : allRecords (sealed ++ active.toList) = s.log
  handle : ∀ wal ∈ s.wal, ∃ t, active = some t ∧ Handle config wal sealed t ∧
    (wal.closed = false → Live config wal sealed t)

theorem offsetAfterSealed_sealed {sealed : List Segment} (h : SealedFrom 0 sealed) :
    LocalJsonlWal.offsetAfterSealed (sealed.map (·.info)) = (allRecords sealed).length ∨
      (allRecords sealed ≠ [] ∧ LocalJsonlWal.offsetAfterSealed (sealed.map (·.info)) = 0 ∧
        ∃ t ∈ sealed.getLast?, t.records = []) := by
  rcases List.eq_nil_or_concat sealed with rfl | ⟨init, t, rfl⟩
  · exact .inl rfl
  · rw [List.concat_eq_append] at h ⊢
    have hdesc := ((sealedFrom_append 0 init [t]).mp h).2.1.2.1
    rw [Nat.zero_add] at hdesc
    have hlast : ((init ++ [t]).map (·.info)).getLast? = some t.info := by
      rw [List.map_append, List.map_cons, List.map_nil, List.getLast?_concat]
    have hlen : (allRecords (init ++ [t])).length = (allRecords init).length + t.records.length := by
      rw [allRecords_snoc, List.length_append]
    rcases ranges_offset_range hdesc.toRanges with ⟨hnil, hr⟩ | ⟨hne, r, hr, -, hl⟩
    · -- the last sealed segment is empty: right only when all of them are
      have hzero : LocalJsonlWal.offsetAfterSealed ((init ++ [t]).map (·.info)) = 0 := by
        rw [LocalJsonlWal.offsetAfterSealed, hlast, Option.bind_some, hr]
      by_cases hall : allRecords (init ++ [t]) = []
      · left
        rw [hzero, hall]
        rfl
      · exact .inr ⟨hall, hzero, t, List.getLast?_concat, hnil⟩
    · left
      have hpos := List.length_pos_of_ne_nil hne
      rw [LocalJsonlWal.offsetAfterSealed, hlast, Option.bind_some, hr, hlen]
      simp only [hl]
      omega

/-- Opening finds the next offset unless the last sealed segment hides the earlier ones. -/
theorem openedNext_eq {disk : Disk} {sealed : List Segment} {active : Option Segment}
    (h : Holds env config disk sealed active) (htail : ¬ EmptyTail env config disk) :
    openedNext sealed (activeRecords active) =
      (allRecords sealed).length + (activeRecords active).length := by
  rw [openedNext]
  split
  · rename_i hnil
    rw [hnil, List.length_nil, Nat.add_zero]
    rcases offsetAfterSealed_sealed h.sealed_ok with heq | ⟨hall, -, t, ht, htnil⟩
    · exact heq
    · refine absurd ⟨_, _, h.loadMetadata, h.sortSealed, ?_, ?_, ?_⟩ htail
      · obtain ⟨k, hdesc, -⟩ := sealedFrom_mem h.sealed_ok t (List.mem_of_getLast? ht)
        refine ⟨t.info, ?_, ?_⟩
        · rw [List.getLast?_map, Option.mem_def.mp ht]
          rfl
        · rw [hdesc.count, htnil]
          rfl
      · -- some sealed segment holds a record
        obtain ⟨r, hr⟩ := List.exists_mem_of_ne_nil _ hall
        obtain ⟨u, hu, hru⟩ := List.mem_flatMap.mp hr
        obtain ⟨k, hdesc, -⟩ := sealedFrom_mem h.sealed_ok u hu
        refine ⟨u.info, List.mem_map_of_mem hu, ?_⟩
        rw [hdesc.count]
        exact (List.length_pos_of_mem hru).ne'
      · intro m hm hopen
        obtain ⟨u, hu, rfl⟩ := List.mem_map.mp hm
        rw [h.get_file hu]
        rcases List.mem_append.mp hu with hu | hu
        · rw [LocalJsonlWal.isOpen, sealedFrom_status h.sealed_ok u hu] at hopen
          exact absurd hopen (by decide)
        · obtain rfl := Option.mem_toList.mp hu
          rw [show u.records = [] from hnil]
          rfl
  · rfl

theorem Holds.numbered {disk : Disk} {sealed : List Segment} {active : Option Segment}
    (h : Holds env config disk sealed active) :
    Numbered 0 (allRecords (sealed ++ active.toList)) := by
  rw [allRecords_append, numbered_append, Nat.zero_add]
  refine ⟨sealedFrom_numbered h.sealed_ok, ?_⟩
  cases active with
  | none => trivial
  | some t =>
    rw [Option.toList_some, allRecords_cons, show allRecords [] = [] from rfl, List.append_nil]
    exact (h.active_ok t rfl).2

theorem allRecords_active (sealed : List Segment) (active : Option Segment) :
    allRecords (sealed ++ active.toList) = allRecords sealed ++ activeRecords active := by
  cases active with
  | none => rw [allRecords_none, activeRecords, Option.elim_none, List.append_nil]
  | some t => exact allRecords_some sealed t

variable {s : WalState} {sealed : List Segment} {active : Option Segment}

/-- With no OPEN segment and no name for a new one, opening fails. -/
theorem Holds.open_unnameable {disk : Disk} (h : Holds env config disk sealed none)
    (hname : ¬ Nameable env config (sealed.length + 1)) (now : DateTime) :
    ∃ e, LocalJsonlWal.open env config disk now = .error e ∧ (e = .validation ∨ e = .os) := by
  cases hid : segmentIdFor config.run_id (sealed.length + 1) with
  | none =>
    refine ⟨.validation, ?_, .inl rfl⟩
    have hindex : (List.range' 1 (sealed ++ (none : Option Segment).toList).length).foldr max 0
        = sealed.length := by
      rw [Option.toList_none, List.append_nil, foldr_max_range']
      split <;> omega
    have hchoose : LocalJsonlWal.chooseActive env config disk now
        ((sealed ++ (none : Option Segment).toList).map (·.info)) (sealed.map (·.info))
        (sealed.length + 1) = .error .validation := by
      rw [LocalJsonlWal.chooseActive, h.filter_open]
      simp only [Option.toList_none, List.map_nil, hid]
    have hrecover : LocalJsonlWal.recover env config disk now = .error .validation := by
      rw [LocalJsonlWal.recover, h.loadSegments]
      simp only [LocalJsonlWal.liftCorruption, bind, Except.bind]
      rw [mapM_index h.named]
      simp only [hindex, hchoose]
    rw [LocalJsonlWal.open, hrecover]
    rfl
  | some id =>
    refine ⟨.os, ?_, .inr rfl⟩
    obtain ⟨wal, hrecover, hatt, -⟩ := h.recover now fun _ => ⟨id, hid⟩
    have hvalue : wal.active_segment_id.value = id.value := by
      rw [hatt.name, segmentIdFor_value hid]
    -- the file cannot be there: its name is new
    have hnew : disk.segments.get? wal.active_segment_id.value = none := by
      rw [Dict.get?_eq_none]
      intro hmem
      rw [Dict.keys, h.files, List.map_map] at hmem
      obtain ⟨t, ht, hval⟩ := List.mem_map.mp hmem
      obtain ⟨i, hi, hname', -⟩ := namedFrom_mem h.named t ht
      rw [Option.toList_none, List.append_nil] at hi
      have := segmentName_injective config.run_id (hname'.symm.trans (hval.trans hatt.name))
      omega
    have hcreate : env.creatable wal.active_segment_id.value ≠ true := by
      rw [hvalue]
      intro hc
      exact hname ⟨id, hid, hc⟩
    have hcan : ¬ ((disk.segments.get? wal.active_segment_id.value).isSome = true ∨
        env.creatable wal.active_segment_id.value = true) := by
      rw [hnew]
      rintro (hs | hc)
      · exact absurd hs (by simp)
      · exact hcreate hc
    rw [LocalJsonlWal.open, hrecover]
    simp only [bind, Except.bind, hcan, ↓reduceIte]

/-- Opening by a producer: refused for want of a name, or the log continues. -/
theorem Held.open (h : Held env config s sealed active) (now : DateTime) :
    (active = none ∧ ∃ e, LocalJsonlWal.open env config s.disk now = .error e ∧
      (e = .validation ∨ e = .os)) ∨
    ∃ wal effects t, LocalJsonlWal.open env config s.disk now = .ok (wal, effects) ∧
      Handle config wal sealed t ∧ wal.closed = false ∧
      Holds env config (s.disk.applyAll effects) sealed (some t) ∧
      allRecords (sealed ++ [t]) = s.log ∧
      walDevice.Safe (StoresOrRefused env config s.log) s.disk effects ∧
      (¬ EmptyTail env config s.disk → Live config wal sealed t) := by
  by_cases hname : active = none → Nameable env config (sealed.length + 1)
  · right
    obtain ⟨wal, effects, t, hopen, hhandle, hclosed, hnext, hrec, hholds, hsafe⟩ :=
      h.holds.open now hname
    refine ⟨wal, effects, t, hopen, hhandle, hclosed, hholds, ?_, ?_, ?_⟩
    · rw [allRecords_snoc, hrec, ← allRecords_active, h.log]
    · rw [← h.log]
      exact hsafe
    · intro htail
      have hnext' := openedNext_eq h.holds htail
      rw [← hrec] at hnext'
      exact ⟨hhandle, hclosed, hnext.trans hnext'⟩
  · left
    rw [Classical.not_imp] at hname
    obtain ⟨rfl, hname⟩ := hname
    exact ⟨rfl, h.holds.open_unnameable hname now⟩

/-- The other operations, completed or not: either no line is written and the log stays, or one
line is written for one new record. -/
theorem Held.attempted (h : Held env config s sealed active) {op : WalOp}
    (hop : ∀ now, op ≠ .open now) (hc : opCondition env config s op) :
    (∃ sealed' active', Held env config
        ⟨s.disk.applyAll (attempt env config s op).effects, (attempt env config s op).wal, s.log⟩
        sealed' active' ∧
      (attempt env config s op).record = none ∧
      walDevice.Safe (StoresOrRefused env config s.log) s.disk (attempt env config s op).effects ∧
      ∀ n k, (if lineWritten (attempt env config s op).effects n k
        then (inFlight env s op).toList else []) = []) ∨
    ∃ t r rest sealed' active', active = some t ∧
      (attempt env config s op).effects =
        .appendSegment t.info.segment_id.value (segmentBytes [r]) :: rest ∧
      (attempt env config s op).record = some r ∧ inFlight env s op = some r ∧
      Readable env config r ∧
      r.wal_offset.value = (allRecords sealed).length + t.records.length ∧
      Held env config ⟨s.disk.applyAll (attempt env config s op).effects,
        (attempt env config s op).wal, s.log ++ [r]⟩ sealed' active' ∧
      walDevice.Safe (StoresOrRefused env config (s.log ++ [r]))
        (s.disk.apply (.appendSegment t.info.segment_id.value (segmentBytes [r]))) rest := by
  have hstores : StoresOrRefused env config s.log s.disk := by
    left
    rw [← h.log]
    exact h.holds.stores
  -- nothing happens on the disk, and the producer keeps a WAL that fits it
  have hidle : ∀ wal', (∀ wal ∈ wal', ∃ t, active = some t ∧ Handle config wal sealed t ∧
      (wal.closed = false → Live config wal sealed t)) →
      attempt env config s op = ⟨[], wal', none⟩ →
      (∃ sealed' active', Held env config
          ⟨s.disk.applyAll (attempt env config s op).effects, (attempt env config s op).wal, s.log⟩
          sealed' active' ∧
        (attempt env config s op).record = none ∧
        walDevice.Safe (StoresOrRefused env config s.log) s.disk
          (attempt env config s op).effects ∧
        ∀ n k, (if lineWritten (attempt env config s op).effects n k
          then (inFlight env s op).toList else []) = []) := by
    intro wal' hwal' heq
    rw [heq]
    exact ⟨sealed, active, ⟨h.holds, h.log, hwal'⟩, rfl, Device.safe_nil hstores, fun _ _ => rfl⟩
  cases hwal : s.wal with
  | none =>
    left
    apply hidle none (fun wal hw => absurd hw (by simp))
    cases op with
    | «open» now => exact absurd rfl (hop now)
    | append event recorded_at now now' => simp only [attempt, hwal]
    | sealCurrentSegment now now' => simp only [attempt, hwal]
    | close => simp only [attempt, hwal]
  | some wal =>
    obtain ⟨t, rfl, hhandle, hlive⟩ := h.handle wal hwal
    have hsame : ∀ w ∈ some wal, ∃ u, some t = some u ∧ Handle config w sealed u ∧
        (w.closed = false → Live config w sealed u) := by
      rintro w ⟨⟩
      exact ⟨t, rfl, hhandle, hlive⟩
    cases op with
    | «open» now => exact absurd rfl (hop now)
    | append event recorded_at now now' =>
      by_cases hclosed : wal.closed = true
      · left
        apply hidle (some wal) hsame
        simp only [attempt, hwal, append_closed hclosed, appendedRecord]
      have hclosed' : wal.closed = false := by
        rw [← Bool.not_eq_true]
        exact hclosed
      have hl := hlive hclosed'
      cases hj : event.modelDump with
      | none =>
        left
        apply hidle (some wal) hsame
        simp only [attempt, hwal, append_none hj hclosed', appendedRecord]
      | some j =>
        right
        obtain ⟨hclean, hname⟩ := hc wal hwal hclosed' (by rw [hj]; exact Option.some_ne_none j)
        obtain ⟨r, hr, hevent, hoff, hrun, hproducer, hhash, hdump⟩ :=
          newRecord_spec env wal hj (recorded_at.getD now)
        rw [hl.config_eq] at hrun hproducer
        have hread := hclean.readable hj hevent hrun hproducer hhash hdump
        obtain ⟨rest, wal', sealed', t', happ, hlive', hlaid, hall, hsafe⟩ :=
          hl.append h.holds.toLaid now' hr (recordLine_of_dump hdump) hoff fun hroll => by
            have := hname r hr hroll
            rwa [hl.index] at this
        have hlog : allRecords (sealed ++ [t]) = s.log := h.log
        have hdone : attempt env config s (.append event recorded_at now now') =
            ⟨.appendSegment t.info.segment_id.value (segmentBytes [r]) :: rest, some wal',
              some r⟩ := by
          simp only [attempt, hwal, happ, appendedRecord]
        have hflight : inFlight env s (.append event recorded_at now now') = some r := by
          simp only [inFlight, hwal, Option.bind_some, hr]
          rfl
        rw [hdone, hflight]
        refine ⟨t, r, rest, sealed', some t', rfl, rfl, rfl, rfl, hread, hoff.trans hl.next,
          ⟨⟨hlaid, h.holds.listed, ?_⟩, ?_, ?_⟩, ?_⟩
        · -- the records are those before and the new one
          intro u hu
          rw [Option.toList_some, hall] at hu
          rcases List.mem_append.mp hu with hu | hu
          · exact h.holds.readable u hu
          · rw [List.mem_singleton.mp hu]
            exact hread
        · rw [Option.toList_some, hall, hlog]
        · rintro w ⟨⟩
          exact ⟨t', rfl, hlive'.toHandle, fun _ => hlive'⟩
        · rw [← hlog]
          exact hsafe hread h.holds
    | sealCurrentSegment now now' =>
      left
      by_cases hclosed : wal.closed = true
      · apply hidle (some wal) hsame
        simp only [attempt, hwal, LocalJsonlWal.sealCurrentSegment, hclosed, ↓reduceIte]
      have hclosed' : wal.closed = false := by
        rw [← Bool.not_eq_true]
        exact hclosed
      have hl := hlive hclosed'
      have hname := hc wal hwal hclosed'
      rw [hl.index] at hname
      obtain ⟨m, m', effects, wal', hseal, hlive', hlaid, hsafe⟩ :=
        hl.sealAndStart h.holds.toLaid hname now now'
      have hdone : attempt env config s (.sealCurrentSegment now now') =
          ⟨effects, some wal', none⟩ := by
        simp only [attempt, hwal, hl.sealCurrentSegment, hseal]
      have hall : allRecords ((sealed ++ [(⟨m, t.records⟩ : Segment)]) ++
          (some (⟨m', []⟩ : Segment)).toList) = allRecords (sealed ++ [t]) := by
        rw [allRecords_some, List.append_nil, allRecords_snoc, allRecords_snoc]
      rw [hdone]
      refine ⟨_, _, ⟨h.holds.of_laid hlaid hall, hall.trans h.log, ?_⟩, rfl, ?_, ?_⟩
      · rintro w ⟨⟩
        exact ⟨_, rfl, hlive'.toHandle, fun _ => hlive'⟩
      · rw [← h.log]
        exact hsafe h.holds
      · intro n k
        simp only [inFlight, Option.toList_none, ite_self]
    | close =>
      left
      by_cases hclosed : wal.closed = true
      · apply hidle (some wal) hsame
        simp only [attempt, hwal, LocalJsonlWal.close, hclosed, ↓reduceIte]
      have hclosed' : wal.closed = false := by
        rw [← Bool.not_eq_true]
        exact hclosed
      obtain ⟨wal', hclose, hhandle', hnow⟩ := (hlive hclosed').close
      apply hidle (some wal')
      · rintro w ⟨⟩
        refine ⟨t, rfl, hhandle', fun hopen => ?_⟩
        rw [hnow] at hopen
        exact absurd hopen (by decide)
      · simp only [attempt, hwal, hclose]

/-- A completed operation keeps the invariant. -/
theorem Held.complete (h : Held env config s sealed active) {op : WalOp}
    (hc : opCondition env config s op) :
    ∃ sealed' active', Held env config (completeOp env config s op) sealed' active' := by
  by_cases hop : ∃ now, op = .open now
  · obtain ⟨now, rfl⟩ := hop
    rcases h.open now with ⟨-, e, he, -⟩ | ⟨wal, effects, t, hopen, hhandle, -, hholds, hall, -, hlive⟩
    · refine ⟨sealed, active, ?_⟩
      have hsame : completeOp env config s (.open now) = s := by
        simp only [completeOp, attempt, he, Option.toList_none, List.append_nil]
        rfl
      rw [hsame]
      exact h
    · refine ⟨sealed, some t, ?_⟩
      have hdone : completeOp env config s (.open now) =
          ⟨s.disk.applyAll effects, some wal, s.log⟩ := by
        simp only [completeOp, attempt, hopen, Option.toList_none, List.append_nil]
      rw [hdone]
      refine ⟨hholds, hall, ?_⟩
      rintro w ⟨⟩
      exact ⟨t, rfl, hhandle, fun _ => hlive hc⟩
  · have hop' : ∀ now, op ≠ .open now := fun now he => hop ⟨now, he⟩
    rcases h.attempted hop' hc with ⟨sealed', active', hheld, hrec, -⟩ |
      ⟨t, r, rest, sealed', active', -, -, hrec, -, -, -, hheld, -⟩
    · refine ⟨sealed', active', ?_⟩
      simp only [completeOp, hrec, Option.toList_none, List.append_nil]
      exact hheld
    · refine ⟨sealed', active', ?_⟩
      simp only [completeOp, hrec, Option.toList_some]
      exact hheld

/-- An append that the condition allows, to an open WAL. -/
theorem Held.appends (h : Held env config s sealed active) {wal : LocalJsonlWal}
    (hwal : s.wal = some wal) (hclosed : wal.closed = false) {event : EventEnvelope}
    {recorded_at : Option DateTime} {now : DateTime} (now' : DateTime)
    (hdump : event.modelDump ≠ none)
    (hcan : CanAppend env config wal event (recorded_at.getD now)) :
    ∃ r, (wal.append env event recorded_at now now').result = .ok (.appended r) ∧
      r.event = event ∧ r.wal_offset.value = s.log.length := by
  obtain ⟨t, rfl, -, hlive⟩ := h.handle wal hwal
  have hl := hlive hclosed
  obtain ⟨j, hj⟩ := Option.ne_none_iff_exists'.mp hdump
  obtain ⟨-, hname⟩ := hcan hdump
  obtain ⟨r, hr, hevent, hoff, -, -, -, hrdump⟩ :=
    newRecord_spec env wal hj (recorded_at.getD now)
  obtain ⟨rest, wal', sealed', t', happ, -⟩ :=
    hl.append h.holds.toLaid now' hr (recordLine_of_dump hrdump) hoff fun hroll => by
      have := hname r hr hroll
      rwa [hl.index] at this
  refine ⟨r, by rw [happ], hevent, ?_⟩
  rw [hoff, hl.next, ← h.log, Option.toList_some, allRecords_snoc, List.length_append]

theorem Held.reads (h : Held env config s sealed active) {wal : LocalJsonlWal}
    (hwal : s.wal = some wal) : ReadsBack env wal s.disk s.log := by
  obtain ⟨t, rfl, hhandle, -⟩ := h.handle wal hwal
  rw [← h.log]
  exact hhandle.readsBack h.holds.toLaid h.holds.readable

theorem Held.numbered (h : Held env config s sealed active) : Numbered 0 s.log := by
  rw [← h.log]
  exact h.holds.numbered

theorem held_empty (hlisted : isListed config.run_id.value = true) :
    Held env config WalState.empty [] none :=
  ⟨⟨⟨rfl, rfl, trivial, trivial, fun t ht => absurd ht (by simp)⟩, hlisted,
    fun r hr => absurd hr List.not_mem_nil⟩, rfl, fun w hw => absurd hw (by simp [WalState.empty])⟩

end Invariant

/-! Without a crash. -/

/-- What a producer relies on: offsets 0, 1, 2, …, every read and every later opening gives
the appended records back, and an append gives the next offset to its event. -/
structure Consistent (env : Env) (config : LocalJsonlWalConfig) (s : WalState) : Prop where
  numbered : Numbered 0 s.log
  reads : ∀ wal ∈ s.wal, ReadsBack env wal s.disk s.log
  reopens : s.wal ≠ none → ∀ now, ∃ wal effects,
    LocalJsonlWal.open env config s.disk now = .ok (wal, effects)
  opened : ∀ now wal effects, LocalJsonlWal.open env config s.disk now = .ok (wal, effects) →
    ReadsBack env wal (s.disk.applyAll effects) s.log
  appends : ∀ wal ∈ s.wal, wal.closed = false → ∀ event recorded_at now now',
    event.modelDump ≠ none → CanAppend env config wal event (recorded_at.getD now) →
    ∃ r, (wal.append env event recorded_at now now').result = .ok (.appended r) ∧
      r.event = event ∧ r.wal_offset.value = s.log.length

theorem Held.consistent {env : Env} {config : LocalJsonlWalConfig} {s : WalState}
    {sealed : List Segment} {active : Option Segment} (h : Held env config s sealed active) :
    Consistent env config s := by
  refine ⟨h.numbered, fun wal hwal => h.reads hwal, ?_, ?_, ?_⟩
  · intro hsome now
    obtain ⟨wal, hwal⟩ := Option.ne_none_iff_exists'.mp hsome
    obtain ⟨t, rfl, -⟩ := h.handle wal hwal
    rcases h.open now with ⟨hnone, -⟩ | ⟨wal', effects, t', hopen, -⟩
    · exact absurd hnone (Option.some_ne_none t)
    · exact ⟨wal', effects, hopen⟩
  · intro now wal effects hopen
    rcases h.open now with ⟨-, e, he, -⟩ | ⟨wal', effects', t, hopen', hhandle, -, hholds, hall, -⟩
    · rw [he] at hopen
      exact absurd hopen (by simp)
    · rw [hopen'] at hopen
      obtain ⟨rfl, rfl⟩ := Prod.mk.inj (Except.ok.inj hopen)
      rw [← hall]
      exact hhandle.readsBack hholds.toLaid hholds.readable
  · intro wal hwal hclosed event recorded_at now now' hdump hcan
    exact h.appends hwal hclosed now' hdump hcan

/-- Opens, appends, seals and closes in any order keep the WAL consistent, when every open
finds the last offset and every append can be read back. -/
theorem wal_run_consistent (env : Env) (config : LocalJsonlWalConfig)
    (hlisted : isListed config.run_id.value = true) (ops : List WalOp)
    (hops : Meets (completeOp env config) (opCondition env config) WalState.empty ops) :
    Consistent env config (run (completeOp env config) WalState.empty ops) := by
  have hstep : ∀ s op, (∃ sealed active, Held env config s sealed active) →
      opCondition env config s op →
      ∃ sealed active, Held env config (completeOp env config s op) sealed active := by
    rintro s op ⟨sealed, active, h⟩ hc
    exact h.complete hc
  obtain ⟨sealed, active, h⟩ := invariant hstep ⟨[], none, held_empty hlisted⟩ hops
  exact h.consistent

/-! What an empty tail does. -/

section Tail

variable {env : Env} {config : LocalJsonlWalConfig} {s : WalState} {sealed : List Segment}
  {active : Option Segment}

theorem segmentBytes_eq_nil {rs : List JournalRecord} (h : segmentBytes rs = []) : rs = [] := by
  rcases rs with _ | ⟨r, rs⟩
  · rfl
  · rw [segmentBytes, ← encodeUtf8_nil] at h
    have htext := encodeUtf8_injective h
    rw [List.map_cons, joinLines, List.flatMap_cons] at htext
    exact absurd htext (by simp)

/-- With an empty tail the reopened WAL starts again at offset 0, although it holds records. -/
theorem Held.open_emptyTail (h : Held env config s sealed active)
    (htail : EmptyTail env config s.disk) {now : DateTime} {wal : LocalJsonlWal}
    {effects : List DiskEffect}
    (hopen : LocalJsonlWal.open env config s.disk now = .ok (wal, effects)) :
    s.log ≠ [] ∧ wal.next_offset = 0 ∧ ∃ t, Handle config wal sealed t ∧ t.records = [] ∧
      wal.closed = false := by
  obtain ⟨all_meta, sealed_sorted, hload, hsort, ⟨m, hm, hzero⟩, ⟨m', hm', hpos⟩, hempty⟩ := htail
  obtain rfl := Except.ok.inj (hload.symm.trans h.holds.loadMetadata)
  obtain rfl := Except.ok.inj (hsort.symm.trans h.holds.sortSealed)
  have hactive : activeRecords active = [] := by
    cases active with
    | none => rfl
    | some t =>
      -- the file of the OPEN segment has no byte
      have hmem : t ∈ sealed ++ (some t).toList := List.mem_append_right _ (by simp)
      have hfile := hempty t.info (List.mem_map_of_mem hmem) (by
        simp [LocalJsonlWal.isOpen, (h.holds.active_ok t rfl).1])
      rw [h.holds.get_file hmem] at hfile
      exact segmentBytes_eq_nil (Option.some.inj hfile)
  obtain ⟨u, hu, hum⟩ : ∃ u ∈ sealed, u.info = m' := List.mem_map.mp hm'
  obtain ⟨k, hdesc, -⟩ := sealedFrom_mem h.holds.sealed_ok u hu
  have hrecords : u.records ≠ [] := by
    intro hnil
    rw [← hum, hdesc.count, hnil] at hpos
    exact hpos rfl
  have hsealed : allRecords sealed ≠ [] := by
    obtain ⟨r, hr⟩ := List.exists_mem_of_ne_nil _ hrecords
    exact List.ne_nil_of_mem (List.mem_flatMap.mpr ⟨u, hu, hr⟩)
  have hnext : openedNext sealed (activeRecords active) = 0 := by
    rw [openedNext, if_pos hactive, LocalJsonlWal.offsetAfterSealed, Option.mem_def.mp hm,
      Option.bind_some]
    obtain ⟨v, hv, rfl⟩ := List.mem_map.mp (List.mem_of_getLast? hm)
    obtain ⟨k, hdv, -⟩ := sealedFrom_mem h.holds.sealed_ok v hv
    have hnil : v.records = [] := by
      rw [← List.length_eq_zero_iff, ← hdv.count]
      exact hzero
    rcases ranges_offset_range hdv.toRanges with ⟨-, hr⟩ | ⟨hne, -⟩
    · rw [hr]
    · exact absurd hnil hne
  refine ⟨?_, ?_⟩
  · rw [← h.log, allRecords_active]
    intro hnil
    exact hsealed (List.append_eq_nil_iff.mp hnil).1
  · have hname : active = none → Nameable env config (sealed.length + 1) := by
      rintro rfl
      by_contra hname
      obtain ⟨e, he, -⟩ := h.holds.open_unnameable hname now
      rw [he] at hopen
      exact absurd hopen (by simp)
    obtain ⟨wal', effects', t, hopen', hhandle, hclosed, hnext', hrec, -⟩ :=
      h.holds.open now hname
    rw [hopen'] at hopen
    obtain ⟨rfl, rfl⟩ := Prod.mk.inj (Except.ok.inj hopen)
    rw [← hrec] at hnext hactive
    exact ⟨hnext'.trans hnext, t, hhandle, hactive, hclosed⟩

/-- The first append to a segment, when the WAL does not roll over. -/
theorem append_first {wal : LocalJsonlWal} {event : EventEnvelope} {recorded_at : Option DateTime}
    {now : DateTime} (now' : DateTime) {r : JournalRecord} {name : String}
    (hclosed : wal.closed = false) (hfile : wal.active_file = some name)
    (hcount : wal.active_event_count = 0) (hfirst : wal.active_first_offset = none)
    (hr : LocalJsonlWal.newRecord env wal event (recorded_at.getD now) = .ok r)
    (hline : LocalJsonlWal.recordLine r = some (segmentBytes [r]))
    (hroll : wal.rollsOver (segmentBytes [r]).length (recorded_at.getD now) = false) :
    (wal.append env event recorded_at now now').result = .ok (.appended r) := by
  have hmeta : ∃ m, (wal.noteAppended (segmentBytes [r]).length).currentSegmentMetadata =
      .ok m := by
    have hrange : offsetRange (some (wal.active_first_offset.getD wal.next_offset))
        (some wal.next_offset) = .ok (some ⟨⟨wal.next_offset⟩, ⟨wal.next_offset⟩, le_refl _⟩) := by
      rw [hfirst, Option.getD_none, offsetRange, dif_pos (le_refl _)]
    let written := wal.noteAppended (segmentBytes [r]).length
    have hvalid : SegmentFields.Valid
        { segment_id := written.active_segment_id, run_id := written.config.run_id
          status := .OPEN
          offset_range := some ⟨⟨wal.next_offset⟩, ⟨wal.next_offset⟩, le_refl _⟩
          created_at := written.active_segment_created_at, sealed_at := none
          event_count := written.active_event_count, payload_bytes := written.active_byte_count
          segment_hash := none, previous_segment_hash := none } := by
      refine ⟨fun _ => rfl, fun hne => absurd rfl hne, fun t ht => absurd ht (by simp), ?_,
        fun hdel => absurd hdel (by simp)⟩
      rintro range ⟨⟩
      simp only [written, LocalJsonlWal.noteAppended, hcount, WalOffsetRange.count]
      omega
    refine ⟨⟨_, hvalid⟩, ?_⟩
    simp only [LocalJsonlWal.currentSegmentMetadata, LocalJsonlWal.activeMetadata, bind,
      Except.bind]
    rw [show offsetRange (wal.noteAppended (segmentBytes [r]).length).active_first_offset
      (wal.noteAppended (segmentBytes [r]).length).active_last_offset = _ from hrange]
    simp only [validated, WalSegmentMetadata.of]
    rw [dif_pos hvalid]
  obtain ⟨m, hm⟩ := hmeta
  rw [append_plain now' hclosed hfile hr hline hm hroll]

end Tail

/-! A producer whose second segment is sealed empty. -/

def sampleDigest : HexDigest where
  value := String.ofList (List.replicate 64 '0')
  hex := by
    constructor
    · rw [String.toList_ofList, List.length_replicate]
    · intro c hc
      rw [String.toList_ofList] at hc
      exact .inl ((List.eq_of_mem_replicate hc).symm ▸ by decide)

def sampleEnv : Env := ⟨fun _ => sampleDigest, 200, by decide, fun _ => true⟩

def sampleConfig : LocalJsonlWalConfig where
  run_id := ⟨"run-1", by decide⟩
  producer_id := ⟨"bot-1", by decide⟩
  segment_max_bytes := 16777216
  segment_max_events := 10000
  segment_max_age_seconds := 1000000000000
  limits_positive := by decide

def appendNote : WalOp := .append (noteEvent "a") none sampleTime sampleTime

def sealTwice : List WalOp :=
  [.open sampleTime, appendNote, .sealCurrentSegment sampleTime sampleTime,
    .sealCurrentSegment sampleTime sampleTime, .close]

theorem note_clean : Clean sampleEnv sampleConfig (noteEvent "a") := by
  refine ⟨by decide, by decide, by decide, ?_⟩
  obtain ⟨j, hj⟩ : ∃ j, (noteEvent "a").modelDump = some j := ⟨_, rfl⟩
  refine ⟨j, hj, ?_, ?_⟩
  · have hbreak : (noteEvent "a").modelDump.map Json.hasBreak = some false := by decide
    rw [hj] at hbreak
    exact Option.some.inj hbreak
  · have hdepth : (noteEvent "a").modelDump.map Json.depth = some 2 := by decide
    rw [hj] at hdepth
    rw [Option.some.inj hdepth]
    decide

theorem sample_nameable : Nameable sampleEnv sampleConfig 2 ∧ Nameable sampleEnv sampleConfig 3 :=
  ⟨⟨⟨"run-1-segment-000002", by decide⟩, rfl, rfl⟩, ⟨⟨"run-1-segment-000003", by decide⟩, rfl, rfl⟩⟩

theorem not_emptyTail_empty (env : Env) (config : LocalJsonlWalConfig) :
    ¬ EmptyTail env config Disk.empty := by
  rintro ⟨all_meta, sealed_sorted, hload, hsort, ⟨m, hm, -⟩, -⟩
  obtain rfl := Except.ok.inj (hload.symm.trans (rfl : _ = Except.ok []))
  obtain rfl := Except.ok.inj (hsort.symm.trans (rfl : _ = Except.ok []))
  exact absurd hm (by simp)

/-- The segment indices of the WAL on its way, and what it knows at its end. -/
theorem sealTwice_facts :
    ((run (completeOp sampleEnv sampleConfig) WalState.empty (sealTwice.take 2)).wal.map
      (·.current_segment_index)) = some 1 ∧
    ((run (completeOp sampleEnv sampleConfig) WalState.empty (sealTwice.take 3)).wal.map
      (·.current_segment_index)) = some 2 ∧
    ((run (completeOp sampleEnv sampleConfig) WalState.empty sealTwice).wal.map fun wal =>
      (wal.sealed_meta.map (·.event_count), wal.active_event_count)) = some ([1, 0], 0) ∧
    (run (completeOp sampleEnv sampleConfig) WalState.empty sealTwice).log.map
      (·.wal_offset.value) = [0] := by
  decide +kernel

theorem sealTwice_meets :
    Meets (completeOp sampleEnv sampleConfig) (opCondition sampleEnv sampleConfig)
      WalState.empty sealTwice := by
  obtain ⟨hsecond, hthird, -⟩ := sealTwice_facts
  have hfirst : (completeOp sampleEnv sampleConfig WalState.empty (.open sampleTime)).wal.map
      (·.current_segment_index) = some 1 := rfl
  have hindex {o : Option LocalJsonlWal} {i : ℕ} (h : o.map (·.current_segment_index) = some i)
      {wal : LocalJsonlWal} (hwal : wal ∈ o) : wal.current_segment_index = i := by
    rw [Option.mem_def.mp hwal] at h
    exact Option.some.inj h
  refine ⟨not_emptyTail_empty _ _, ?_, ?_, ?_, trivial, trivial⟩
  · intro wal hwal _ _
    refine ⟨note_clean, fun _ _ _ => ?_⟩
    rw [hindex hfirst hwal]
    exact sample_nameable.1
  · intro wal hwal _
    rw [hindex hsecond hwal]
    exact sample_nameable.1
  · intro wal hwal _
    rw [hindex hthird hwal]
    exact sample_nameable.2

/-- The length of the lines of the first two records. -/
theorem note_line {wal : LocalJsonlWal} (hconfig : wal.config = sampleConfig)
    (hnext : wal.next_offset < 2) {r : JournalRecord}
    (hr : LocalJsonlWal.newRecord sampleEnv wal (noteEvent "a") sampleTime = .ok r) :
    (segmentBytes [r]).length = 452 := by
  -- the record depends on the WAL through its configuration and its next offset alone
  let plain (n : ℕ) : LocalJsonlWal :=
    { LocalJsonlWal.freshWal sampleConfig [] ⟨"run-1-segment-000001", by decide⟩ 1 sampleTime with
      next_offset := n }
  have hsame : LocalJsonlWal.newRecord sampleEnv wal (noteEvent "a") sampleTime =
      LocalJsonlWal.newRecord sampleEnv (plain wal.next_offset) (noteEvent "a") sampleTime := by
    simp only [LocalJsonlWal.newRecord, hconfig, plain, LocalJsonlWal.freshWal]
  have hline : ∀ n < 2, ((LocalJsonlWal.newRecord sampleEnv (plain n) (noteEvent "a")
      sampleTime).toOption.map fun r => (segmentBytes [r]).length) = some 452 := by
    decide +kernel
  have hlen := hline wal.next_offset hnext
  rw [← hsame, hr] at hlen
  exact Option.some.inj hlen

theorem note_fits {wal : LocalJsonlWal} (hconfig : wal.config = sampleConfig)
    (hcount : wal.active_event_count < 100) (hbytes : wal.active_byte_count < 10000) :
    wal.rollsOver 452 sampleTime = false := by
  have hmicros : sampleTime.micros < 1000000000000 * 1000000 := by decide +kernel
  simp only [LocalJsonlWal.rollsOver, LocalJsonlWal.shouldRollover, LocalJsonlWal.noteAppended,
    hconfig, sampleConfig, Bool.or_eq_false_iff, decide_eq_false_iff_not, not_le]
  generalize sampleTime.micros = now at hmicros
  omega

theorem sealTwice_consistent :
    Consistent sampleEnv sampleConfig
      (run (completeOp sampleEnv sampleConfig) WalState.empty sealTwice) :=
  wal_run_consistent sampleEnv sampleConfig (by decide) sealTwice sealTwice_meets

/-- The WAL that `open` gives after that run. -/
theorem sealTwice_reopened {s : WalState}
    (hs : s = run (completeOp sampleEnv sampleConfig) WalState.empty sealTwice) :
    ∃ wal effects t sealed,
      LocalJsonlWal.open sampleEnv sampleConfig s.disk sampleTime = .ok (wal, effects) ∧
      wal.next_offset = 0 ∧ Handle sampleConfig wal sealed t ∧ t.records = [] ∧
      wal.closed = false := by
  obtain ⟨-, -, hwal, -⟩ := sealTwice_facts
  rw [← hs] at hwal
  obtain ⟨old, hold, hfacts⟩ := Option.map_eq_some_iff.mp hwal
  obtain ⟨hcounts, hactive⟩ := Prod.mk.inj hfacts
  have hstep : ∀ s op, (∃ sealed active, Held sampleEnv sampleConfig s sealed active) →
      opCondition sampleEnv sampleConfig s op →
      ∃ sealed active, Held sampleEnv sampleConfig (completeOp sampleEnv sampleConfig s op)
        sealed active := by
    rintro s op ⟨sealed, active, h⟩ hc
    exact h.complete hc
  obtain ⟨sealed, active, h⟩ :=
    invariant hstep ⟨[], none, held_empty (by decide)⟩ sealTwice_meets
  rw [← hs] at h
  obtain ⟨t, rfl, hhandle, -⟩ := h.handle old hold
  rw [hhandle.sealed_meta] at hcounts
  -- one record in the first segment, none in the second and in the OPEN one
  have htail : EmptyTail sampleEnv sampleConfig s.disk := by
    refine ⟨_, _, h.holds.loadMetadata, h.holds.sortSealed, ?_⟩
    obtain ⟨u, rest, hsealed⟩ : ∃ u rest, sealed.map (·.info) = u :: rest := by
      cases hm : sealed.map (·.info) with
      | nil => rw [hm] at hcounts; exact absurd hcounts (by simp)
      | cons u rest => exact ⟨u, rest, rfl⟩
    rw [hsealed, List.map_cons] at hcounts
    obtain ⟨hone, hrest⟩ := List.cons.inj hcounts
    obtain ⟨v, hv⟩ : ∃ v, rest = [v] := by
      rw [← List.length_eq_one_iff]
      simpa only [List.length_map, List.length_singleton] using congrArg List.length hrest
    rw [hv] at hrest hsealed
    rw [hsealed]
    refine ⟨⟨v, rfl, (List.cons.inj hrest).1⟩, ⟨u, List.mem_cons_self, by rw [hone]; decide⟩, ?_⟩
    intro m hm hopen
    obtain ⟨w, hw, rfl⟩ := List.mem_map.mp hm
    rw [h.holds.get_file hw]
    rcases List.mem_append.mp hw with hw | hw
    · rw [LocalJsonlWal.isOpen, sealedFrom_status h.holds.sealed_ok w hw] at hopen
      exact absurd hopen (by decide)
    · obtain rfl := List.mem_singleton.mp hw
      have hnil : w.records = [] := by
        rw [← List.length_eq_zero_iff, ← hhandle.event_count]
        exact hactive
      rw [hnil]
      rfl
  obtain ⟨wal, effects, hopen⟩ := h.consistent.reopens (by rw [hold]; exact Option.some_ne_none old)
    sampleTime
  obtain ⟨-, hnext, t', hhandle', hnil, hclosed⟩ := h.open_emptyTail htail hopen
  exact ⟨wal, effects, t', sealed, hopen, hnext, hhandle', hnil, hclosed⟩

theorem sealTwice_appended {s : WalState}
    (hs : s = run (completeOp sampleEnv sampleConfig) WalState.empty sealTwice) :
    (run (completeOp sampleEnv sampleConfig) s [.open sampleTime, appendNote]).log.map
      (·.wal_offset.value) = [0, 0] := by
  obtain ⟨-, -, -, hlog⟩ := sealTwice_facts
  rw [← hs] at hlog
  obtain ⟨wal, effects, t, sealed, hopen, hnext, hhandle, hnil, hclosed⟩ := sealTwice_reopened hs
  have hcount : wal.active_event_count = 0 := by
    rw [hhandle.event_count, hnil, List.length_nil]
  have hfirst : wal.active_first_offset = none := by
    rw [hhandle.first, if_pos hnil]
  obtain ⟨j, hj⟩ : ∃ j, (noteEvent "a").modelDump = some j := ⟨_, rfl⟩
  obtain ⟨r, hr, -, hoff, -, -, -, hdump⟩ :=
    newRecord_spec sampleEnv wal hj ((none : Option DateTime).getD sampleTime)
  have hsize := note_line hhandle.config_eq (by rw [hnext]; decide) hr
  have hbytes : wal.active_byte_count = 0 := by
    rw [hhandle.byte_count, hnil, segmentBytes_nil, List.length_nil]
  have hroll : wal.rollsOver (segmentBytes [r]).length
      ((none : Option DateTime).getD sampleTime) = false := by
    rw [hsize]
    exact note_fits hhandle.config_eq (by rw [hcount]; decide) (by rw [hbytes]; decide)
  have happ := append_first sampleTime hclosed (hhandle.file hclosed) hcount hfirst hr
    (recordLine_of_dump hdump) hroll
  have hreopened : completeOp sampleEnv sampleConfig s (.open sampleTime) =
      ⟨s.disk.applyAll effects, some wal, s.log⟩ := by
    simp only [completeOp, attempt, hopen, Option.toList_none, List.append_nil]
  rw [run_cons, run_cons, run_nil, hreopened]
  simp only [completeOp, attempt, appendNote, happ, appendedRecord, Option.toList_some,
    List.map_append, hlog, List.map_cons, List.map_nil, hoff, hnext]
  rfl

/-- Append, seal, seal again, close, open, append: offset 0 is given twice. -/
theorem sealed_empty_segment_reuses_offset :
    (run (completeOp sampleEnv sampleConfig) WalState.empty
      (sealTwice ++ [.open sampleTime, appendNote])).log.map (·.wal_offset.value) = [0, 0] := by
  rw [run_append]
  exact sealTwice_appended rfl

end FuturesBot
