import FuturesBot.WalRuns

/-! Runs of one producer's WAL with crashes: what opening finds after each. -/
namespace FuturesBot

open JsonText (Json)
open TextLines DateTimes Dicts CrashPoints StepRuns

section Crashing

variable {env : Env} {config : LocalJsonlWalConfig} {s : WalState} {sealed : List Segment}
  {active : Option Segment}

/-- A WAL that is being written, or one that stopped on a disk that opening refuses. -/
def Survives (env : Env) (config : LocalJsonlWalConfig) (s : WalState) : Prop :=
  (∃ sealed active, Held env config s sealed active) ∨
    (s.wal = none ∧ Refused env config s.disk ∧ Numbered 0 s.log)

theorem survives_of_stores {disk : Disk} {L : List JournalRecord} (hnum : Numbered 0 L)
    (h : StoresOrRefused env config L disk) : Survives env config ⟨disk, none, L⟩ := by
  rcases h with ⟨sealed, active, hholds, hall⟩ | href
  · exact .inl ⟨sealed, active, hholds, hall, fun w hw => absurd hw (by simp)⟩
  · exact .inr ⟨rfl, href, hnum⟩

/-- A line cut short: nothing of it is on the disk, or opening refuses. -/
theorem Held.torn {t : Segment} (h : Held env config s sealed (some t)) {r : JournalRecord}
    (hr : Readable env config r) {k : ℕ} (hk : k + 1 < (segmentBytes [r]).length) :
    StoresOrRefused env config s.log (s.disk.applyAll
      [.appendSegment t.info.segment_id.value ((segmentBytes [r]).take k)]) := by
  obtain ⟨j, hj, -⟩ := hr.dumped
  have hline : segmentBytes [r] = encodeUtf8 (recordText r) ++ [10] := by
    rw [segmentBytes_single hj, recordText_of_dump hj, encodeUtf8_append]
    rfl
  rw [hline, List.length_append, List.length_singleton] at hk
  have htake : (segmentBytes [r]).take k = (encodeUtf8 (recordText r)).take k := by
    rw [hline, List.take_append_of_le_length (by omega)]
  rw [htake]
  cases k with
  | zero =>
    -- no byte was written
    left
    rw [← h.log]
    refine ⟨sealed, some t, h.holds.of_laid (h.holds.toLaid.of_eq ?_ rfl) rfl, rfl⟩
    apply Dict.ext
    have hget : s.disk.segments.get? t.info.segment_id.value = some (segmentBytes t.records) :=
      h.holds.get_file (List.mem_append_right _ (by simp))
    change (s.disk.segments.set _ _).entries = _
    rw [hget, Option.getD_some, List.take_zero, List.append_nil,
      Dict.entries_set_last _ h.holds.files_split, ← h.holds.files_split]
  | succ k =>
    right
    apply torn_refused h.holds hr (List.take_prefix _ _)
    · intro hnil
      have hlen := congrArg List.length hnil
      rw [List.length_take, List.length_nil] at hlen
      omega
    · intro hall
      have hlen := congrArg List.length hall
      rw [List.length_take] at hlen
      omega

/-- Wherever an operation stops, apart from right before the line feed of a record. -/
theorem Held.crash (h : Held env config s sealed active) {op : WalOp} {n k : ℕ}
    (hc : walCondition env config s (.crash op n k)) :
    Survives env config (walStep env config s (.crash op n k)) := by
  by_cases hop : ∃ now, op = .open now
  · obtain ⟨now, rfl⟩ := hop
    have hlog : (walStep env config s (.crash (.open now) n k)) =
        ⟨s.disk.applyAll (crashAt (attempt env config s (.open now)).effects n k), none, s.log⟩ := by
      simp only [walStep, inFlight, Option.toList_none, ite_self, List.append_nil]
    rw [hlog]
    apply survives_of_stores h.numbered
    rcases h.open now with ⟨-, e, he, -⟩ | ⟨wal, effects, t, hopen, -, -, -, -, hsafe, -⟩
    · simp only [attempt, he]
      rw [← h.log]
      exact .inl h.holds.stores
    · simp only [attempt, hopen]
      exact hsafe n k
  · have hop' : ∀ now, op ≠ .open now := fun now he => hop ⟨now, he⟩
    have hcond : opCondition env config s op ∧
        ¬ cutsLineFeed (attempt env config s op).effects n k := by
      cases op with
      | «open» now => exact absurd rfl (hop' now)
      | append event recorded_at now now' => exact hc
      | sealCurrentSegment now now' => exact hc
      | close => exact hc
    obtain ⟨hc, hcut⟩ := hcond
    rcases h.attempted hop' hc with ⟨-, -, -, -, hsafe, hnoline⟩ |
      ⟨t, r, rest, sealed', active', rfl, heff, -, hflight, hread, hoff, -, hsafe⟩
    · -- no record is being written: the log stays
      simp only [walStep, hnoline, List.append_nil]
      exact survives_of_stores h.numbered (hsafe n k)
    · have hnum : Numbered 0 (s.log ++ [r]) := by
        rw [numbered_append]
        refine ⟨h.numbered, ?_, trivial⟩
        rw [hoff, ← h.log, Option.toList_some, allRecords_snoc, List.length_append, Nat.zero_add]
      have happended : Stores env config (s.log ++ [r])
          (s.disk.apply (.appendSegment t.info.segment_id.value (segmentBytes [r]))) := by
        refine ⟨_, _, h.holds.appendLine hread hoff, ?_⟩
        rw [← h.log, Option.toList_some, Option.toList_some, allRecords_snoc, allRecords_snoc,
          List.append_assoc]
      simp only [walStep, heff, hflight, Option.toList_some]
      cases n with
      | succ n =>
        -- behind the line: the record in flight is in the log
        have hlw : lineWritten (.appendSegment t.info.segment_id.value (segmentBytes [r]) :: rest)
            (n + 1) k = true := by
          simp [lineWritten]
        rw [if_pos hlw]
        exact survives_of_stores hnum (hsafe n k)
      | zero =>
        rw [heff] at hcut
        by_cases hk : (segmentBytes [r]).length ≤ k
        · have hlw : lineWritten
              (.appendSegment t.info.segment_id.value (segmentBytes [r]) :: rest) 0 k = true := by
            simp [lineWritten, hk]
          rw [if_pos hlw]
          apply survives_of_stores hnum
          left
          change Stores env config _ (s.disk.applyAll
            [.appendSegment t.info.segment_id.value ((segmentBytes [r]).take k)])
          rw [List.take_of_length_le hk]
          exact happended
        · -- inside the line, not at its end
          have hlw : lineWritten
              (.appendSegment t.info.segment_id.value (segmentBytes [r]) :: rest) 0 k = false := by
            simp [lineWritten, hk]
          have hne : ¬ k + 1 = (segmentBytes [r]).length := fun he => hcut ⟨rfl, he⟩
          rw [hlw, if_neg Bool.false_ne_true, List.append_nil]
          exact survives_of_stores h.numbered (h.torn hread (by omega))

theorem Survives.step (h : Survives env config s) {a : WalAction}
    (hc : walCondition env config s a) : Survives env config (walStep env config s a) := by
  rcases h with ⟨sealed, active, h⟩ | ⟨hwal, href, hnum⟩
  · cases a with
    | complete op => exact .inl (h.complete hc)
    | crash op n k => exact h.crash hc
  · -- nothing can be done with a disk that opening refuses
    have hidle : ∀ op, attempt env config s op = ⟨[], none, none⟩ := by
      intro op
      cases op with
      | «open» now =>
        obtain ⟨c, hopen⟩ := href now
        simp only [attempt, hopen, hwal]
      | append event recorded_at now now' => simp only [attempt, hwal]
      | sealCurrentSegment now now' => simp only [attempt, hwal]
      | close => simp only [attempt, hwal]
    right
    cases a with
    | complete op =>
      simp only [walStep, completeOp, hidle, Option.toList_none, List.append_nil]
      exact ⟨trivial, href, hnum⟩
    | crash op n k =>
      simp only [walStep, hidle, lineWritten, Bool.false_eq_true, ↓reduceIte, List.append_nil]
      exact ⟨trivial, href, hnum⟩

end Crashing

/-- With an OPEN segment, or with a name for a new one, `open` can go on. -/
def CanOpen (env : Env) (config : LocalJsonlWalConfig) (disk : Disk) : Prop :=
  ∀ all_meta, loadMetadataForRun env config.run_id disk = .ok all_meta →
    (∀ m ∈ all_meta, LocalJsonlWal.isOpen m = false) → Nameable env config (all_meta.length + 1)

/-- After any crash: opening raises `LocalWalCorruptionError`, or gives every record of the log
back; then reads give them back too and appends continue behind them. -/
structure CrashSafe (env : Env) (config : LocalJsonlWalConfig) (s : WalState) : Prop where
  numbered : Numbered 0 s.log
  opens : CanOpen env config s.disk → ∀ now,
    (∃ c, LocalJsonlWal.open env config s.disk now = .error (.corruption c)) ∨
      ∃ wal effects, LocalJsonlWal.open env config s.disk now = .ok (wal, effects) ∧
        ReadsBack env wal (s.disk.applyAll effects) s.log
  reads : ∀ wal ∈ s.wal, ReadsBack env wal s.disk s.log
  appends : ∀ wal ∈ s.wal, wal.closed = false → ∀ event recorded_at now now',
    event.modelDump ≠ none → CanAppend env config wal event (recorded_at.getD now) →
    ∃ r, (wal.append env event recorded_at now now').result = .ok (.appended r) ∧
      r.event = event ∧ r.wal_offset.value = s.log.length

theorem Survives.crashSafe {env : Env} {config : LocalJsonlWalConfig} {s : WalState}
    (h : Survives env config s) : CrashSafe env config s := by
  rcases h with ⟨sealed, active, h⟩ | ⟨hwal, href, hnum⟩
  · have hcons := h.consistent
    refine ⟨hcons.numbered, ?_, hcons.reads, hcons.appends⟩
    intro hcan now
    right
    have hname : active = none → Nameable env config (sealed.length + 1) := by
      rintro rfl
      have hall := hcan _ h.holds.loadMetadata fun m hm => ?_
      · rwa [List.length_map, Option.toList_none, List.append_nil] at hall
      · obtain ⟨u, hu, rfl⟩ := List.mem_map.mp hm
        rw [Option.toList_none, List.append_nil] at hu
        rw [LocalJsonlWal.isOpen, sealedFrom_status h.holds.sealed_ok u hu]
        decide
    obtain ⟨wal, effects, t, hopen, -⟩ := h.holds.open now hname
    exact ⟨wal, effects, hopen, hcons.opened now wal effects hopen⟩
  · refine ⟨hnum, fun _ now => .inl (href now), ?_, ?_⟩
    · intro wal hw
      rw [hwal] at hw
      exact absurd hw (by simp)
    · intro wal hw
      rw [hwal] at hw
      exact absurd hw (by simp)

/-- Operations and crashes in any order, when no crash falls between a record and its line
feed. -/
theorem wal_run_crash_safe (env : Env) (config : LocalJsonlWalConfig)
    (hlisted : isListed config.run_id.value = true) (actions : List WalAction)
    (hactions : Meets (walStep env config) (walCondition env config) WalState.empty actions) :
    CrashSafe env config (run (walStep env config) WalState.empty actions) := by
  have hstep : ∀ s a, Survives env config s → walCondition env config s a →
      Survives env config (walStep env config s a) := fun s a hs hc => hs.step hc
  have hsurvives := invariant hstep (.inl ⟨[], none, held_empty hlisted⟩) hactions
  exact hsurvives.crashSafe

/-- A run that crashes between a line and its metadata. -/
theorem metadata_crash_safe :
    CrashSafe sampleEnv sampleConfig (run (walStep sampleEnv sampleConfig) WalState.empty
      [.complete (.open sampleTime), .crash appendNote 1 0]) := by
  refine wal_run_crash_safe sampleEnv sampleConfig (by decide) _
    ⟨not_emptyTail_empty _ _, ⟨sealTwice_meets.2.1, ?_⟩, trivial⟩
  generalize (attempt sampleEnv sampleConfig (walStep sampleEnv sampleConfig WalState.empty
    (.complete (.open sampleTime))) appendNote).effects = effects
  intro hcut
  unfold cutsLineFeed at hcut
  split at hcut
  · exact absurd hcut.1 (by decide)
  · exact hcut

/-! A crash between a record and its line feed. -/

section LostLineFeed

variable {env : Env} {config : LocalJsonlWalConfig} {disk : Disk} {sealed : List Segment}
  {s : Segment} {r : JournalRecord}

/-- Opening takes the record without a line feed as whole. -/
theorem open_unended (h : Holds env config disk sealed (some s)) (hr : Readable env config r)
    (hoff : r.wal_offset.value = (allRecords sealed).length + s.records.length) (now : DateTime) :
    ∃ wal m, LocalJsonlWal.open env config
        (disk.append s.info.segment_id.value (encodeUtf8 (recordText r))) now =
        .ok (wal, .createSegment s.info.segment_id.value :: LocalJsonlWal.saveMetadata m) ∧
      Counted config wal sealed (s.records ++ [r]) ∧ wal.closed = false ∧
      wal.active_file = some s.info.segment_id.value ∧
      wal.active_segment_id = s.info.segment_id ∧
      wal.active_byte_count = (segmentBytes s.records ++ encodeUtf8 (recordText r)).length ∧
      wal.next_offset = (allRecords sealed).length + (s.records ++ [r]).length ∧
      m.status = .OPEN ∧ m.segment_id = s.info.segment_id ∧ m.run_id = config.run_id := by
  have hnum : Numbered (allRecords sealed).length (s.records ++ [r]) :=
    (numbered_append _ _ _).mpr ⟨(h.active_ok s rfl).2, hoff, trivial⟩
  have hreadable : ∀ t ∈ s.records ++ [r], Readable env config t := by
    intro t ht
    rcases List.mem_append.mp ht with ht | ht
    · exact h.segment_readable (List.mem_append_right _ (by simp)) t ht
    · rw [List.mem_singleton.mp ht]
      exact hr
  have hread := readSegmentRecords_unended env config (append_get h.toLaid _) hreadable hnum
  have hload : LocalJsonlWal.loadSegments env config
      (disk.append s.info.segment_id.value (encodeUtf8 (recordText r))) =
        .ok ((sealed ++ [s]).map (·.info), sealed.map (·.info)) :=
    h.loadSegments_of rfl (append_keys h.toLaid _)
      fun t ht => Dict.get?_set_ne _ (h.sealed_name_ne ht) _
  obtain ⟨wal, hrecover, hcounted, hsize, hclosed, hnext, hid⟩ :=
    h.recover_active now hload hread hnum
  have hcan : ((disk.append s.info.segment_id.value (encodeUtf8 (recordText r))).segments.get?
      wal.active_segment_id.value).isSome = true ∨
      env.creatable wal.active_segment_id.value = true := by
    left
    rw [hid, append_get h.toLaid]
    rfl
  obtain ⟨m, hopen, hstatus, hmid, hrun⟩ := open_of_recover hrecover hcounted hcan
  rw [hmid, hid] at hopen
  refine ⟨_, m, hopen, ?_, hclosed, rfl, rfl, hsize, ?_, hstatus, hmid.trans hid, hrun⟩
  · have hname := hcounted.name
    rw [hid] at hname
    exact ⟨hcounted.config_eq, hcounted.sealed_meta, hcounted.index, hname,
      hcounted.event_count, hcounted.first, hcounted.last⟩
  · rw [openedNext, if_neg (List.concat_ne_nil r s.records)] at hnext
    exact hnext

theorem append_append (disk : Disk) (name : String) (a b : Bytes) :
    (disk.append name a).append name b = disk.append name (a ++ b) := by
  simp only [Disk.append, Dict.get?_set_self, Option.getD_some, Dict.set_set, List.append_assoc]

/-- The next append goes on the same line: it succeeds, and then opening refuses the disk. -/
theorem append_after_lost_line_feed (h : Holds env config disk sealed (some s))
    (hr : Readable env config r)
    (hoff : r.wal_offset.value = (allRecords sealed).length + s.records.length) (now : DateTime)
    {event : EventEnvelope} (hclean : Clean env config event) (recorded_at : Option DateTime)
    (now₁ now₂ : DateTime) :
    ∃ wal effects, LocalJsonlWal.open env config
        (disk.append s.info.segment_id.value (encodeUtf8 (recordText r))) now =
        .ok (wal, effects) ∧
      (wal.active_byte_count = (segmentBytes s.records ++ encodeUtf8 (recordText r)).length ∧
        wal.active_event_count = s.records.length + 1 ∧ wal.config = config ∧
        wal.next_offset = (allRecords sealed).length + s.records.length + 1) ∧
      ((∀ t, LocalJsonlWal.newRecord env wal event (recorded_at.getD now₁) = .ok t →
          wal.rollsOver (segmentBytes [t]).length (recorded_at.getD now₁) = false) →
        ∃ effects' wal' t, wal.append env event recorded_at now₁ now₂ =
            ⟨effects', wal', .ok (.appended t)⟩ ∧
          Refused env config
            (((disk.append s.info.segment_id.value (encodeUtf8 (recordText r))).applyAll
              effects).applyAll effects')) := by
  obtain ⟨wal, m, hopen, hcounted, hclosed, hfile, hid, hsize, hnext, hstatus, hmid, hrun⟩ :=
    open_unended h hr hoff now
  refine ⟨wal, _, hopen, ⟨hsize, ?_, hcounted.config_eq, ?_⟩, ?_⟩
  · rw [hcounted.event_count, List.length_append, List.length_singleton]
  · rw [hnext, List.length_append, List.length_singleton, Nat.add_assoc]
  intro hroll
  obtain ⟨j, hj, -⟩ := hclean.text
  obtain ⟨t, ht, hevent, -, hrunid, hproducer, hhash, hdump⟩ :=
    newRecord_spec env wal hj (recorded_at.getD now₁)
  rw [hcounted.config_eq] at hrunid hproducer
  have hreadable := hclean.readable hj hevent hrunid hproducer hhash hdump
  obtain ⟨m', hm', hstatus', hmid', hrun', -⟩ :=
    (hcounted.noteAppended hnext t (segmentBytes [t]).length).activeMetadata .OPEN none
      (.inl ⟨rfl, rfl⟩)
  have hmid'' : m'.segment_id = s.info.segment_id := hmid'.trans hid
  refine ⟨_, _, t, append_plain now₂ hclosed hfile ht (recordLine_of_dump hdump) hm'
    (hroll t ht), ?_⟩
  -- the metadata is as if no line were there
  have hsaved := (h.saveOpen hmid hrun hstatus).saveOpen (hmid''.trans hmid.symm) hrun' hstatus'
  have hcreate : (disk.append s.info.segment_id.value (encodeUtf8 (recordText r))).create
      s.info.segment_id.value =
        disk.append s.info.segment_id.value (encodeUtf8 (recordText r)) := by
    rw [Disk.create, append_get h.toLaid]
  obtain ⟨hseg, hmeta⟩ := applyAll_saveMetadata
    (disk.append s.info.segment_id.value (encodeUtf8 (recordText r))) m
  have hopened : (disk.append s.info.segment_id.value (encodeUtf8 (recordText r))).applyAll
      (.createSegment s.info.segment_id.value :: LocalJsonlWal.saveMetadata m) =
      (disk.append s.info.segment_id.value (encodeUtf8 (recordText r))).applyAll
        (LocalJsonlWal.saveMetadata m) := by
    rw [Disk.applyAll_cons, Disk.apply, hcreate]
  rw [hopened, Disk.applyAll_cons]
  generalize hd : (disk.append s.info.segment_id.value (encodeUtf8 (recordText r))).applyAll
    (LocalJsonlWal.saveMetadata m) = opened at hseg hmeta
  obtain ⟨hseg', hmeta'⟩ := applyAll_saveMetadata
    (opened.apply (.appendSegment s.info.segment_id.value (segmentBytes [t]))) m'
  obtain ⟨hsegd, hmetad⟩ := applyAll_saveMetadata disk m
  obtain ⟨hsegd', hmetad'⟩ := applyAll_saveMetadata (disk.applyAll (LocalJsonlWal.saveMetadata m)) m'
  have hsegments : ((opened.apply (.appendSegment s.info.segment_id.value (segmentBytes [t]))).applyAll
      (LocalJsonlWal.saveMetadata m')).segments = (disk.append s.info.segment_id.value
        (encodeUtf8 (recordText r) ++ segmentBytes [t])).segments := by
    rw [hseg', ← append_append]
    simp only [Disk.apply, Disk.append, hseg]
  refine active_refused hsaved ?_ ?_ ?_ ?_
  · rw [hmeta', hmetad', hmetad]
    change (opened.metadata).set _ _ = _
    rw [hmeta]
    rfl
  · rw [hsegments, append_keys h.toLaid, hsegd', hsegd]
  · intro u hu
    rw [hsegments, hsegd', hsegd]
    exact Dict.get?_set_ne _ (h.sealed_name_ne hu) _
  · have hget : ((opened.apply (.appendSegment s.info.segment_id.value
        (segmentBytes [t]))).applyAll (LocalJsonlWal.saveMetadata m')).segments.get?
          m'.segment_id.value =
        some (segmentBytes s.records ++ encodeUtf8 (recordText r) ++ segmentBytes [t]) := by
      rw [hsegments, hmid'', append_get h.toLaid, List.append_assoc]
    exact readSegmentRecords_joined env config hget
      (h.segment_readable (List.mem_append_right _ (by simp))) (h.active_ok s rfl).2 hr hreadable

end LostLineFeed

/-- The run that crashes one byte before the end of its first line. -/
def cutLine : List WalAction := [.complete (.open sampleTime), .crash appendNote 0 451]

theorem cutLine_state : ∃ (disk : Disk) (t : Segment) (r : JournalRecord),
    run (walStep sampleEnv sampleConfig) WalState.empty cutLine =
      ⟨disk.append t.info.segment_id.value (encodeUtf8 (recordText r)), none, []⟩ ∧
    Holds sampleEnv sampleConfig disk [] (some t) ∧ t.records = [] ∧
    Readable sampleEnv sampleConfig r ∧ r.wal_offset.value = 0 ∧
    (segmentBytes [r]).length = 452 := by
  have hheld : Held sampleEnv sampleConfig WalState.empty [] none := held_empty (by decide)
  have hname : Nameable sampleEnv sampleConfig 1 := ⟨⟨"run-1-segment-000001", by decide⟩, rfl, rfl⟩
  obtain ⟨wal, effects, t, hopen, hhandle, hclosed, hnext, hrec, hholds, -⟩ :=
    hheld.holds.open sampleTime fun _ => hname
  have hnil : t.records = [] := hrec
  have hzero : wal.next_offset = 0 := by
    rw [hnext, hnil]
    rfl
  have hfirst : walStep sampleEnv sampleConfig WalState.empty (.complete (.open sampleTime)) =
      ⟨WalState.empty.disk.applyAll effects, some wal, []⟩ := by
    simp only [walStep, completeOp, attempt, hopen, Option.toList_none, List.append_nil]
    rfl
  obtain ⟨j, hj⟩ : ∃ j, (noteEvent "a").modelDump = some j := ⟨_, rfl⟩
  obtain ⟨r, hr, hevent, hoff, hrun, hproducer, hhash, hdump⟩ :=
    newRecord_spec sampleEnv wal hj ((none : Option DateTime).getD sampleTime)
  have hsize := note_line hhandle.config_eq (by rw [hzero]; decide) hr
  rw [hhandle.config_eq] at hrun hproducer
  have hread := note_clean.readable hj hevent hrun hproducer hhash hdump
  have hlive : Live sampleConfig wal [] t := by
    refine ⟨hhandle, hclosed, ?_⟩
    rw [hzero, hnil]
    rfl
  have hroll : wal.rollsOver (segmentBytes [r]).length
      ((none : Option DateTime).getD sampleTime) = false := by
    rw [hsize]
    refine note_fits hhandle.config_eq ?_ ?_
    · rw [hhandle.event_count, hnil]
      decide
    · rw [hhandle.byte_count, hnil]
      decide
  obtain ⟨rest, wal', sealed', t', happ, -⟩ := hlive.append hholds.toLaid sampleTime hr
    (recordLine_of_dump hdump) hoff fun hr => absurd hr (by rw [hroll]; decide)
  have hline : segmentBytes [r] = encodeUtf8 (recordText r) ++ [10] := by
    rw [segmentBytes_single hdump, recordText_of_dump hdump, encodeUtf8_append]
    rfl
  have hcut : (segmentBytes [r]).take 451 = encodeUtf8 (recordText r) := by
    have hlen : (encodeUtf8 (recordText r)).length = 451 := by
      have := hsize
      rw [hline, List.length_append, List.length_singleton] at this
      omega
    rw [hline, List.take_append_of_le_length (by omega), List.take_of_length_le (by omega)]
  refine ⟨_, t, r, ?_, hholds, hnil, hread, hoff.trans hzero, hsize⟩
  rw [cutLine, run_cons, run_cons, run_nil, hfirst]
  have hwritten : lineWritten (.appendSegment t.info.segment_id.value (segmentBytes [r]) :: rest)
      0 451 = false := by
    simp [lineWritten, hsize]
  simp only [walStep, attempt, appendNote, happ, hwritten, Bool.false_eq_true, ↓reduceIte,
    List.append_nil]
  change (⟨Disk.append _ _ ((segmentBytes [r]).take 451), none, []⟩ : WalState) = _
  rw [hcut]

/-- The line without its line feed is recovered, the next append succeeds on the same line,
and every later opening is refused. -/
theorem lost_line_feed_loses_log :
    let crashed := run (walStep sampleEnv sampleConfig) WalState.empty cutLine
    let written := run (walStep sampleEnv sampleConfig) crashed
      [.complete (.open sampleTime), .complete appendNote]
    (∃ wal effects, LocalJsonlWal.open sampleEnv sampleConfig crashed.disk sampleTime =
      .ok (wal, effects)) ∧
    (∃ r, written.log = crashed.log ++ [r]) ∧
    ∀ now, ∃ c, LocalJsonlWal.open sampleEnv sampleConfig written.disk now =
      .error (.corruption c) := by
  obtain ⟨disk, t, r, hstate, hholds, hnil, hread, hoff, hsize⟩ := cutLine_state
  rw [hstate]
  obtain ⟨wal, effects, hopen, ⟨hbytes, hcount, hconfig, hnext⟩, happend⟩ :=
    append_after_lost_line_feed hholds hread (by rw [hoff, hnil]; rfl) sampleTime note_clean none
      sampleTime sampleTime
  have hline : segmentBytes [r] = encodeUtf8 (recordText r) ++ [10] := by
    obtain ⟨j, hj, -⟩ := hread.dumped
    rw [segmentBytes_single hj, recordText_of_dump hj, encodeUtf8_append]
    rfl
  rw [hline, List.length_append, List.length_singleton] at hsize
  rw [hnil, segmentBytes_nil, List.nil_append] at hbytes
  rw [hnil] at hnext hcount
  have hroll : ∀ u, LocalJsonlWal.newRecord sampleEnv wal (noteEvent "a")
      ((none : Option DateTime).getD sampleTime) = .ok u →
      wal.rollsOver (segmentBytes [u]).length ((none : Option DateTime).getD sampleTime) =
        false := by
    intro u hu
    rw [note_line hconfig (by rw [hnext]; decide) hu]
    refine note_fits hconfig ?_ ?_
    · rw [hcount]
      decide
    · rw [hbytes]
      omega
  obtain ⟨effects', wal', u, happ, hrefused⟩ := happend hroll
  refine ⟨⟨wal, effects, hopen⟩, ?_, ?_⟩
  · refine ⟨u, ?_⟩
    simp only [run_cons, run_nil, walStep, completeOp, attempt, hopen, appendNote, happ,
      appendedRecord, Option.toList_none, Option.toList_some, List.append_nil]
  · simp only [run_cons, run_nil, walStep, completeOp, attempt, hopen, appendNote, happ]
    exact hrefused

end FuturesBot
