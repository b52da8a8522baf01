import FuturesBot.WalRuns

/-! Appending events to a new WAL and reading the segment files back: exactly which events
come back as they were appended. -/
namespace FuturesBot

open JsonText (Json Text isLineBreak)
open TextLines DateTimes Dicts

structure AppendCall where
  event : EventEnvelope
  recorded_at : Option DateTime
  now : DateTime
  now' : DateTime

/-- Appends one after another, each of which succeeds: the WAL after them, their steps on the
disk, and the appended records. -/
def appendAll (env : Env) :
    LocalJsonlWal → List AppendCall → Option (LocalJsonlWal × List DiskEffect × List JournalRecord)
  | wal, [] => some (wal, [], [])
  | wal, call :: calls =>
    match wal.append env call.event call.recorded_at call.now call.now' with
    | ⟨effects, wal, .ok (.appended record)⟩ =>
      (appendAll env wal calls).map fun (wal, rest, records) =>
        (wal, effects ++ rest, record :: records)
    | _ => none

/-- The record that appending the event to a WAL of this configuration makes. -/
def MadeFrom (env : Env) (config : LocalJsonlWalConfig) (call : AppendCall) (r : JournalRecord) :
    Prop :=
  ∃ j, call.event.modelDump = some j ∧ r.event = call.event ∧ r.run_id = config.run_id ∧
    r.producer_id = config.producer_id ∧
    r.payload_hash = (computePayloadHash env j).toTrimmedText ∧
    r.modelDump = some (recordJson r j)

/-- A reader takes a record back exactly when its event is clean. -/
theorem MadeFrom.readable_iff {env : Env} {config : LocalJsonlWalConfig} {call : AppendCall}
    {r : JournalRecord} (h : MadeFrom env config call r) :
    Readable env config r ↔ Clean env config call.event := by
  obtain ⟨j, hj, hevent, hrun, hproducer, hhash, hdump⟩ := h
  constructor
  · rintro ⟨⟨k, hk, hbreak, hdepth⟩, hnative, -⟩
    obtain rfl := Option.some.inj (hdump.symm.trans hk)
    rw [recordJson_hasBreak, hrun, hproducer, Bool.or_eq_false_iff, Bool.or_eq_false_iff,
      Bool.or_eq_false_iff] at hbreak
    obtain ⟨hb, hb', hb'', -⟩ := hbreak
    rw [recordJson_depth] at hdepth
    rw [hevent] at hnative
    exact ⟨hb, hb', hnative, j, hj, hb'', by omega⟩
  · intro hclean
    exact hclean.readable hj hevent hrun hproducer hhash hdump

theorem made_of_mem {env : Env} {config : LocalJsonlWalConfig} {calls : List AppendCall}
    {records : List JournalRecord} (h : List.Forall₂ (MadeFrom env config) calls records) :
    ∀ r ∈ records, ∃ call, MadeFrom env config call r := by
  induction h with
  | nil => exact fun r hr => absurd hr List.not_mem_nil
  | cons hcall _ ih =>
    intro r hr
    rcases List.mem_cons.mp hr with rfl | hr
    · exact ⟨_, hcall⟩
    · exact ih r hr

section Appends

variable {env : Env} {config : LocalJsonlWalConfig} {disk : Disk} {wal : LocalJsonlWal}
  {sealed : List Segment} {s : Segment}

theorem startSegment_unnameable {index : ℕ} (hconfig : wal.config = config)
    (hindex : wal.current_segment_index = index) (hname : ¬ Nameable env config (index + 1))
    (created_at : DateTime) : ∃ e, (wal.startSegment env created_at).result = .error e := by
  subst hconfig hindex
  cases hid : segmentIdFor wal.config.run_id (wal.current_segment_index + 1) with
  | none => exact ⟨.validation, by simp only [LocalJsonlWal.startSegment, hid]⟩
  | some id =>
    have hcreate : env.creatable id.value ≠ true := fun hc => hname ⟨id, hid, hc⟩
    exact ⟨.os, by simp only [LocalJsonlWal.startSegment, hid, hcreate, Bool.false_eq_true,
      ↓reduceIte]⟩

/-- An append that rolled over and succeeded found a name for the next segment. -/
theorem Live.append_named (hl : Live config wal sealed s) {call : AppendCall} {r : JournalRecord}
    (hr : LocalJsonlWal.newRecord env wal call.event (call.recorded_at.getD call.now) = .ok r)
    (hline : LocalJsonlWal.recordLine r = some (segmentBytes [r]))
    {a : LocalJsonlWal.WalAppendResult}
    (happ : (wal.append env call.event call.recorded_at call.now call.now').result = .ok a)
    (hroll : wal.rollsOver (segmentBytes [r]).length (call.recorded_at.getD call.now) = true) :
    Nameable env config (sealed.length + 2) := by
  by_contra hname
  have hnoted := hl.noteAppended r
  obtain ⟨m, hm, -⟩ := hnoted.currentMetadata
  obtain ⟨m', hseal, -⟩ := hnoted.doSeal (call.recorded_at.getD call.now)
  let sealing : LocalJsonlWal :=
    { wal.noteAppended (segmentBytes [r]).length with
      active_file := none
      sealed_meta := (wal.noteAppended (segmentBytes [r]).length).sealed_meta ++ [m'] }
  have hconfig : sealing.config = config := hl.config_eq
  have hindex : sealing.current_segment_index = sealed.length + 1 := hl.index
  obtain ⟨e, he⟩ := startSegment_unnameable hconfig hindex hname
    (DateTime.latest call.now' (call.recorded_at.getD call.now))
  simp only [sealing] at he
  rw [LocalJsonlWal.rollsOver] at hroll
  simp only [LocalJsonlWal.append, hl.not_closed, Bool.false_eq_true, ↓reduceIte, hr, hline,
    hl.file hl.not_closed, hm, hroll, LocalJsonlWal.rollover, LocalJsonlWal.sealAndStart, hseal, he]
    at happ
  exact absurd happ (by simp [Except.map])

/-- What a sequence of appends leaves: the segments with one record more for each event. -/
theorem appendAll_laid {calls : List AppendCall} (hl : Live config wal sealed s)
    (hd : Laid config disk sealed (some s)) {wal' : LocalJsonlWal} {effects : List DiskEffect}
    {records : List JournalRecord}
    (happ : appendAll env wal calls = some (wal', effects, records)) :
    ∃ sealed' s', Live config wal' sealed' s' ∧
      Laid config (disk.applyAll effects) sealed' (some s') ∧
      allRecords (sealed' ++ [s']) = allRecords (sealed ++ [s]) ++ records ∧
      List.Forall₂ (MadeFrom env config) calls records := by
  induction calls generalizing wal disk sealed s effects records with
  | nil =>
    obtain ⟨rfl, rfl, rfl⟩ : wal = wal' ∧ [] = effects ∧ [] = records := by
      simpa only [appendAll, Option.some.injEq, Prod.mk.injEq] using happ
    exact ⟨sealed, s, hl, hd, (List.append_nil _).symm, .nil⟩
  | cons call calls ih =>
    rw [appendAll] at happ
    split at happ
    · rename_i first wal₁ r hfirst
      obtain ⟨⟨wal₂, rest, records'⟩, hrest, heq⟩ := Option.map_eq_some_iff.mp happ
      obtain ⟨rfl, rfl, rfl⟩ : wal₂ = wal' ∧ first ++ rest = effects ∧ r :: records' = records := by
        simpa only [Prod.mk.injEq] using heq
      have hresult : (wal.append env call.event call.recorded_at call.now call.now').result =
          .ok (.appended r) := by
        rw [hfirst]
      -- the record is the one that the event makes
      cases hj : call.event.modelDump with
      | none =>
        rw [append_none hj hl.not_closed] at hresult
        exact absurd hresult (by simp)
      | some j =>
        obtain ⟨r', hr, hevent, hoff, hrun, hproducer, hhash, hdump⟩ :=
          newRecord_spec env wal hj (call.recorded_at.getD call.now)
        obtain ⟨more, wal₃, sealed₁, s₁, happ₁, hl₁, hd₁, hall₁, -⟩ :=
          hl.append hd call.now' hr (recordLine_of_dump hdump) hoff
            (hl.append_named hr (recordLine_of_dump hdump) hresult)
        rw [happ₁] at hfirst
        obtain ⟨rfl, rfl, hrec⟩ := Outcome.mk.inj hfirst
        obtain rfl : r' = r := by simpa using hrec
        obtain ⟨sealed', s', hl', hd', hall, hmade⟩ := ih hl₁ hd₁ hrest
        refine ⟨sealed', s', hl', ?_, ?_, .cons ?_ hmade⟩
        · rw [Disk.applyAll_append]
          exact hd'
        · rw [hall, hall₁, List.append_assoc, List.singleton_append]
        · rw [hl.config_eq] at hrun hproducer
          exact ⟨j, hj, hevent, hrun, hproducer, hhash, hdump⟩
    · exact absurd happ (by simp)

end Appends

/-! What reading can give. -/

section Exact

variable {env : Env} {config : LocalJsonlWalConfig}

/-- When the lines of a segment are read as the records themselves, each is readable. -/
theorem readLines_exact {name : String} {rs : List JournalRecord} {num : ℕ} {prev : Option ℕ}
    (hmade : ∀ r ∈ rs, ∃ call, MadeFrom env config call r)
    (hread : readLines env config.run_id config.producer_id name num prev
      (splitLines (joinLines (rs.map recordText))) = .ok rs) :
    ∀ r ∈ rs, Readable env config r := by
  induction rs generalizing num prev with
  | nil => exact fun r hr => absurd hr List.not_mem_nil
  | cons r rs ih =>
    obtain ⟨call, j, hj, hevent, hrun, hproducer, hhash, hdump⟩ := hmade r List.mem_cons_self
    have htext : recordText r = JsonText.encode (recordJson r j) := recordText_of_dump hdump
    have hjoin : joinLines ((r :: rs).map recordText) =
        recordText r ++ '\n' :: joinLines (rs.map recordText) := by
      simp only [joinLines, List.map_cons, List.flatMap_cons, List.append_assoc, List.cons_append,
        List.nil_append]
    rw [hjoin] at hread
    by_cases hbreak : NoBreak (recordText r)
    · rw [splitLines_line _ hbreak (by decide) (by decide), readLines] at hread
      cases hline : readLine env config.run_id config.producer_id name num (recordText r) with
      | error c =>
        rw [hline] at hread
        exact absurd hread (by simp [bind, Except.bind])
      | ok r' =>
        rw [hline] at hread
        simp only [bind, Except.bind] at hread
        split at hread
        · exact absurd hread (by simp)
        cases hrest : readLines env config.run_id config.producer_id name (num + 1)
            (some r'.wal_offset.value) (splitLines (joinLines (rs.map recordText))) with
        | error c =>
          rw [hrest] at hread
          exact absurd hread (by simp)
        | ok rs' =>
          rw [hrest] at hread
          obtain ⟨rfl, rfl⟩ := List.cons.inj (Except.ok.inj hread)
          -- the line was read as the record, so JSON carried it
          have hparsed : (env.parseJson (recordText r')).bind JournalRecord.modelValidate =
              some r' := by
            rw [readLine] at hline
            split at hline
            · exact absurd hline (by simp)
            split at hline
            · exact absurd hline (by simp)
            rename_i record hrecord
            rw [hrecord]
            split at hline
            · exact absurd hline (by simp)
            split at hline
            · exact absurd hline (by simp)
            split at hline
            · exact absurd hline (by simp)
            rw [Except.ok.inj hline]
          rw [htext, env.parseJson_encode] at hparsed
          split at hparsed
          · rename_i hdepth
            intro u hu
            rcases List.mem_cons.mp hu with rfl | hu
            · have hnative := (JournalRecord.modelValidate_eq_iff hdump).mp hparsed
              refine ⟨⟨_, hdump, ?_, hdepth⟩, hnative, hrun, hproducer, ?_⟩
              · rw [htext, NoBreak, JsonText.encode_any_break] at hbreak
                exact hbreak
              · rw [eventHash, hevent, hj, hhash]
                rfl
            · exact ih (fun v hv => hmade v (List.mem_cons_of_mem _ hv)) hrest u hu
          · exact absurd hparsed (by simp)
    · -- the part before the first boundary is no document
      obtain ⟨a, c, b, hsplit, ha, hc⟩ := exists_first_break hbreak
      obtain ⟨rest, hlines⟩ := splitLines_break ha hc (b ++ '\n' :: joinLines (rs.map recordText))
      have hcons : recordText r ++ '\n' :: joinLines (rs.map recordText) =
          a ++ c :: (b ++ '\n' :: joinLines (rs.map recordText)) := by
        rw [hsplit, List.append_assoc, List.cons_append]
      rw [hcons, hlines, readLines] at hread
      have hprefix : a <+: JsonText.encode (recordJson r j) := by
        rw [← htext, hsplit]
        exact List.prefix_append _ _
      have hcut : a ≠ JsonText.encode (recordJson r j) := by
        intro he
        have hlen := congrArg List.length (hsplit.symm.trans (htext.trans he.symm))
        rw [List.length_append, List.length_cons] at hlen
        omega
      have hne : a ≠ [] := by
        rintro rfl
        rw [htext, recordJson, JsonText.encode, List.nil_append] at hsplit
        obtain ⟨rfl, -⟩ := List.cons.inj hsplit
        exact absurd hc (by decide)
      rw [readLine_cut env config hdump hprefix hne hcut] at hread
      exact absurd hread (by simp [bind, Except.bind])

theorem readSegmentRecords_count {disk : Disk} {name : String} {m : WalSegmentMetadata}
    {rs : List JournalRecord} {size : ℕ}
    (h : readSegmentRecords env config disk name (some m) = .ok (rs, size)) :
    rs.length = m.event_count := by
  rw [readSegmentRecords] at h
  split at h
  · exact absurd h (by simp)
  split at h
  · exact absurd h (by simp)
  rename_i t _
  cases hlines : readLines env config.run_id config.producer_id name 1 none (splitLines t) with
  | error c =>
    rw [hlines] at h
    exact absurd h (by simp [bind, Except.bind])
  | ok records =>
    rw [hlines] at h
    simp only [bind, Except.bind] at h
    split at h
    · exact absurd h (by simp)
    rename_i hcheck
    obtain ⟨rfl, -⟩ := Prod.mk.inj (Except.ok.inj h)
    by_contra hne
    simp only [checkMetadata, bind, Except.bind, ne_eq, hne, not_false_eq_true, ↓reduceIte]
      at hcheck
    exact absurd hcheck (by simp)

theorem readSegment_ok {disk : Disk} {wal : LocalJsonlWal} {id : WalSegmentId}
    {m : WalSegmentMetadata} {rs : List JournalRecord} (hconfig : wal.config = config)
    (hfind : wal.findMetadata id = .ok (some m)) (h : wal.readSegment env disk id = .ok rs) :
    ∃ size, readSegmentRecords env config disk id.value (some m) = .ok (rs, size) := by
  rw [LocalJsonlWal.readSegment, hfind, hconfig] at h
  simp only [bind, Except.bind] at h
  cases hread : readSegmentRecords env config disk id.value (some m) with
  | error c =>
    rw [hread] at h
    exact absurd h (by simp [LocalJsonlWal.liftCorruption])
  | ok p =>
    obtain ⟨records, size⟩ := p
    rw [hread] at h
    obtain rfl : records = rs := Except.ok.inj h
    exact ⟨size, rfl⟩

/-- Segments read to parts of the right lengths whose sum is right: each part is right. -/
theorem parts_eq {read : WalSegmentMetadata → Except WalError (List JournalRecord)}
    {segs : List Segment} {parts : List (List JournalRecord)}
    (hparts : (segs.map (·.info)).mapM read = .ok parts)
    (hlen : ∀ t ∈ segs, ∀ part, read t.info = .ok part → part.length = t.records.length)
    (hflat : parts.flatten = allRecords segs) : ∀ t ∈ segs, read t.info = .ok t.records := by
  induction segs generalizing parts with
  | nil => exact fun t ht => absurd ht List.not_mem_nil
  | cons u segs ih =>
    rw [List.map_cons, List.mapM_cons] at hparts
    cases hu : read u.info with
    | error e =>
      rw [hu] at hparts
      exact absurd hparts (by simp [bind, Except.bind])
    | ok part =>
      rw [hu] at hparts
      cases hrest : (segs.map (·.info)).mapM read with
      | error e =>
        rw [hrest] at hparts
        exact absurd hparts (by simp [bind, Except.bind])
      | ok parts' =>
        rw [hrest] at hparts
        obtain rfl : part :: parts' = parts := Except.ok.inj hparts
        rw [List.flatten_cons, allRecords_cons] at hflat
        obtain ⟨hpart, hflat'⟩ :=
          List.append_inj hflat (hlen u List.mem_cons_self part hu)
        intro t ht
        rcases List.mem_cons.mp ht with rfl | ht
        · rw [hu, hpart]
        · exact ih hrest (fun v hv => hlen v (List.mem_cons_of_mem _ hv)) hflat' t ht

/-- A WAL that reads its records back has readable records only. -/
theorem Handle.readable_of_readsBack {disk : Disk} {wal : LocalJsonlWal} {sealed : List Segment}
    {s : Segment} (hw : Handle config wal sealed s) (hd : Laid config disk sealed (some s))
    (hmade : ∀ r ∈ allRecords (sealed ++ [s]), ∃ call, MadeFrom env config call r)
    (hback : ReadsBack env wal disk (allRecords (sealed ++ [s]))) :
    ∀ r ∈ allRecords (sealed ++ [s]), Readable env config r := by
  obtain ⟨⟨metas, parts, hlist, hparts, hflat⟩, -⟩ := hback
  obtain ⟨t, hrecords, hlist', hsegments⟩ := hw.segments hd
  obtain rfl := Except.ok.inj (hlist.symm.trans hlist')
  have hall : allRecords (sealed ++ [s]) = allRecords (sealed ++ [t]) := by
    rw [allRecords_snoc, allRecords_snoc, hrecords]
  rw [hall] at hflat hmade ⊢
  have hexact : ∀ u ∈ sealed ++ [t],
      wal.readSegment env disk u.info.segment_id = .ok u.records := by
    refine parts_eq hparts ?_ hflat
    intro u hu part hread
    obtain ⟨hfind, hfile, k, hdesc, -⟩ := hsegments u hu
    obtain ⟨size, hsize⟩ := readSegment_ok hw.config_eq hfind hread
    rw [readSegmentRecords_count hsize, hdesc.count]
  intro r hr
  obtain ⟨u, hu, hru⟩ := List.mem_flatMap.mp hr
  obtain ⟨hfind, hfile, -⟩ := hsegments u hu
  obtain ⟨size, hread⟩ := readSegment_ok hw.config_eq hfind (hexact u hu)
  have hmadeu : ∀ r ∈ u.records, ∃ call, MadeFrom env config call r :=
    fun r hr => hmade r (List.mem_flatMap.mpr ⟨u, hu, hr⟩)
  have hlines : readLines env config.run_id config.producer_id u.info.segment_id.value 1 none
      (splitLines (joinLines (u.records.map recordText))) = .ok u.records := by
    simp only [readSegmentRecords, hfile, decode_segmentBytes, bind, Except.bind] at hread
    split at hread
    · exact absurd hread (by simp)
    rename_i records hlines
    split at hread
    · exact absurd hread (by simp)
    rw [hlines, (Prod.mk.inj (Except.ok.inj hread)).1]
  exact readLines_exact hmadeu hlines r hru

end Exact

/-! Run ids that a directory listing does not show. -/

section Unlisted

variable {env : Env} {config : LocalJsonlWalConfig} {disk : Disk} {sealed : List Segment}
  {s : Segment}

theorem segmentName_not_listed {run_id : RunId} (h : isListed run_id.value = false) (i : ℕ) :
    isListed (segmentName run_id i) = false := by
  have hmem : '/' ∈ run_id.value.toList := by
    simpa [isListed] using h
  have hname : '/' ∈ (segmentName run_id i).toList := by
    rw [segmentName_toList, segmentPrefix]
    exact List.mem_append_left _ (List.mem_append_left _ hmem)
  simpa [isListed] using hname

theorem namesForRun_unlisted {files : Dict String Bytes} {segs : List Segment}
    {content : Segment → Bytes} (hlisted : isListed config.run_id.value = false)
    (hnamed : NamedFrom config.run_id 1 segs)
    (hfiles : files.entries = segs.map fun s => (s.info.segment_id.value, content s)) :
    namesForRun config.run_id files = [] := by
  rw [namesForRun, List.filter_eq_nil_iff]
  intro name hname
  rw [Dict.keys, hfiles, List.map_map] at hname
  obtain ⟨t, ht, rfl⟩ := List.mem_map.mp hname
  obtain ⟨j, -, hj, -⟩ := namedFrom_mem hnamed t ht
  change ¬ (isListed t.info.segment_id.value && _) = true
  rw [hj, segmentName_not_listed hlisted, Bool.false_and]
  exact Bool.false_ne_true

/-- Opening again finds nothing: it starts over in the first segment's file. -/
theorem open_unlisted (hlisted : isListed config.run_id.value = false)
    (hd : Laid config disk sealed (some s)) (now : DateTime) :
    ∃ wal m id, LocalJsonlWal.open env config disk now =
        .ok (wal, .createSegment id :: LocalJsonlWal.saveMetadata m) ∧
      Handle config wal [] ⟨m, []⟩ ∧ m.status = .OPEN ∧ m.run_id = config.run_id ∧
      id = m.segment_id.value := by
  obtain ⟨u, rest, hsegs⟩ : ∃ u rest, sealed ++ (some s).toList = u :: rest := by
    cases sealed with
    | nil => exact ⟨s, [], rfl⟩
    | cons u rest => exact ⟨u, rest ++ (some s).toList, rfl⟩
  have hnamed := hd.named
  rw [hsegs] at hnamed
  have hid : segmentIdFor config.run_id 1 = some u.info.segment_id := by
    rw [segmentIdFor, ← hnamed.1.1, DomainId.of, dif_pos u.info.segment_id.valid]
  have hload : LocalJsonlWal.loadSegments env config disk = .ok ([], []) := by
    have hmetas := namesForRun_unlisted hlisted hd.named hd.infos
    have hfiles := namesForRun_unlisted hlisted hd.named hd.files
    simp only [LocalJsonlWal.loadSegments, loadMetadataForRun, hmetas,
      LocalJsonlWal.validateNoOrphanFiles, hfiles]
    rfl
  let wal := LocalJsonlWal.freshWal config [] u.info.segment_id 1 now
  have hcounted : Counted config wal [] [] := ⟨rfl, rfl, rfl, hnamed.1.1, rfl, rfl, rfl⟩
  have hrecover : LocalJsonlWal.recover env config disk now = .ok wal := by
    have hchoose : LocalJsonlWal.chooseActive env config disk now [] [] 1 = .ok wal := by
      rw [LocalJsonlWal.chooseActive]
      simp only [List.filter_nil, hid, wal]
    exact @recover_of env config disk [] none now wal [] trivial trivial hload hchoose hcounted
  have hfile : (disk.segments.get? wal.active_segment_id.value).isSome = true := by
    change (disk.segments.get? u.info.segment_id.value).isSome = true
    rw [hd.get_file (by rw [hsegs]; exact List.mem_cons_self)]
    rfl
  obtain ⟨m, hopen, hstatus, hmid, hrun⟩ := open_of_recover hrecover hcounted (.inl hfile)
  refine ⟨_, m, _, hopen, ⟨⟨⟨rfl, rfl, rfl, hnamed.1.1, rfl, rfl, rfl⟩, rfl⟩, hmid.symm, ?_⟩,
    hstatus, hrun, rfl⟩
  intro _
  rw [hmid]

/-- The WAL opened in this way gives no record back. -/
theorem Handle.iter_nil {wal : LocalJsonlWal} {m : WalSegmentMetadata} {rs : List JournalRecord}
    (hw : Handle config wal [] ⟨m, []⟩) (h : wal.iterRecords env disk = .ok rs) : rs = [] := by
  obtain ⟨m', hm', -, hid, -, hdesc⟩ := hw.currentMetadata
  have hmeta : wal.sealed_meta = [] := hw.sealed_meta
  have hlist : wal.listSegmentMetadata = .ok [m'] := by
    simp only [LocalJsonlWal.listSegmentMetadata, hm', hmeta, bind, Except.bind, List.nil_append]
  have hfind : wal.findMetadata m'.segment_id = .ok (some m') := by
    simp only [LocalJsonlWal.findMetadata, hmeta, List.find?_nil, hm', bind, Except.bind,
      ↓reduceIte]
  rw [LocalJsonlWal.iterRecords] at h
  split at h
  · exact absurd h (by simp)
  rw [hlist] at h
  simp only [bind, Except.bind, LocalJsonlWal.iterFrom] at h
  cases hread : wal.readSegment env disk m'.segment_id with
  | error e =>
    rw [hread] at h
    exact absurd h (by simp)
  | ok part =>
    obtain ⟨size, hsize⟩ := readSegment_ok hw.config_eq hfind hread
    have hnil : part = [] := by
      rw [← List.length_eq_zero_iff, readSegmentRecords_count hsize, hdesc.count]
      rfl
    rw [hread, hnil] at h
    exact (Except.ok.inj h).symm

end Unlisted

/-! The round trip. -/

section RoundTrip

variable {env : Env} {config : LocalJsonlWalConfig}

/-- Reading each segment, iterating over the records, and opening the WAL again all give the
records back. -/
def RoundTrips (env : Env) (config : LocalJsonlWalConfig) (wal : LocalJsonlWal) (disk : Disk)
    (records : List JournalRecord) : Prop :=
  ReadsBack env wal disk records ∧ ∀ now, ∃ wal' effects,
    LocalJsonlWal.open env config disk now = .ok (wal', effects) ∧
      ReadsBack env wal' (disk.applyAll effects) records

/-- A WAL opened where there was none. -/
theorem open_fresh {now : DateTime} {wal : LocalJsonlWal} {effects : List DiskEffect}
    (hopen : LocalJsonlWal.open env config Disk.empty now = .ok (wal, effects)) :
    ∃ s, Live config wal [] s ∧ Laid config (Disk.empty.applyAll effects) [] (some s) ∧
      s.records = [] := by
  have hempty : Laid config Disk.empty [] none :=
    ⟨rfl, rfl, trivial, trivial, fun s hs => absurd hs (by simp)⟩
  have hload : LocalJsonlWal.loadSegments env config Disk.empty = .ok ([], []) := rfl
  cases hid : segmentIdFor config.run_id 1 with
  | none =>
    have hchoose : LocalJsonlWal.chooseActive env config Disk.empty now [] [] 1 =
        .error .validation := by
      rw [LocalJsonlWal.chooseActive]
      simp only [List.filter_nil, hid]
    have hrecover : LocalJsonlWal.recover env config Disk.empty now = .error .validation := by
      rw [LocalJsonlWal.recover, hload]
      change (LocalJsonlWal.chooseActive env config Disk.empty now [] [] 1).bind _ = _
      rw [hchoose]
      rfl
    rw [LocalJsonlWal.open, hrecover] at hopen
    exact absurd hopen (by simp [bind, Except.bind])
  | some id =>
    let fresh := LocalJsonlWal.freshWal config [] id 1 now
    have hcounted : Counted config fresh [] [] :=
      ⟨rfl, rfl, rfl, segmentIdFor_value hid, rfl, rfl, rfl⟩
    have hchoose : LocalJsonlWal.chooseActive env config Disk.empty now [] [] 1 = .ok fresh := by
      rw [LocalJsonlWal.chooseActive]
      simp only [List.filter_nil, hid, fresh]
    have hrecover : LocalJsonlWal.recover env config Disk.empty now = .ok fresh :=
      @recover_of env config Disk.empty [] none now fresh [] trivial trivial hload hchoose hcounted
    by_cases hcan : (Disk.empty.segments.get? fresh.active_segment_id.value).isSome = true ∨
        env.creatable fresh.active_segment_id.value = true
    · obtain ⟨m, hopen', hstatus, hmid, hrun⟩ := open_of_recover hrecover hcounted hcan
      obtain ⟨rfl, rfl⟩ := Prod.mk.inj (Except.ok.inj (hopen'.symm.trans hopen))
      have hname : m.segment_id.value = segmentName config.run_id 1 := by
        rw [hmid]
        exact segmentIdFor_value hid
      refine ⟨⟨m, []⟩, ⟨⟨⟨⟨rfl, rfl, rfl, segmentIdFor_value hid, rfl, rfl, rfl⟩, rfl⟩, hmid.symm,
        ?_⟩, rfl, rfl⟩, hempty.start hname hrun hstatus, rfl⟩
      intro _
      rw [hmid]
    · rw [LocalJsonlWal.open, hrecover] at hopen
      simp only [bind, Except.bind, hcan, ↓reduceIte] at hopen
      exact absurd hopen (by simp)

theorem domainId_ext {a b : DomainId} (h : a.value = b.value) : a = b := by
  cases a
  cases b
  cases h
  rfl

/-- With no appends there is nothing to lose, whatever the run id. -/
theorem roundTrips_nil {disk : Disk} {wal : LocalJsonlWal} {s : Segment}
    (hw : Handle config wal [] s) (hd : Laid config disk [] (some s)) (hnil : s.records = []) :
    RoundTrips env config wal disk [] := by
  have hall : allRecords ([] ++ [s]) = [] := by
    rw [allRecords_snoc, hnil]
    rfl
  have hreadable : ∀ r ∈ allRecords ([] ++ [s]), Readable env config r := by
    rw [hall]
    exact fun r hr => absurd hr List.not_mem_nil
  have hback := hw.readsBack hd hreadable
  rw [hall] at hback
  refine ⟨hback, fun now => ?_⟩
  by_cases hlisted : isListed config.run_id.value = true
  · obtain ⟨wal', effects, t, hopen, hhandle, -, -, hrec, hholds, -⟩ :=
      (⟨hd, hlisted, hreadable⟩ : Holds env config disk [] (some s)).open now
        (fun h => absurd h (Option.some_ne_none s))
    refine ⟨wal', effects, hopen, ?_⟩
    have hback' := hhandle.readsBack hholds.toLaid hholds.readable
    rw [allRecords_snoc, hrec] at hback'
    rw [show activeRecords (some s) = s.records from rfl, hnil] at hback'
    exact hback'
  · rw [Bool.not_eq_true] at hlisted
    obtain ⟨wal', m, id, hopen, hhandle, hstatus, hrun, rfl⟩ := open_unlisted hlisted hd now
    refine ⟨wal', _, hopen, ?_⟩
    have hsid : m.segment_id = s.info.segment_id := by
      apply domainId_ext
      rw [hd.named_active.1, ← hhandle.id]
      exact hhandle.name
    have hsame : disk.apply (.createSegment m.segment_id.value) = disk := by
      rw [hsid]
      exact hd.create_active
    have hd' := hd.saveOpen hsid hrun hstatus
    rw [hnil] at hd'
    rw [Disk.applyAll_cons, hsame]
    have hback' : ReadsBack env wal' _ (allRecords ([] ++ [(⟨m, []⟩ : Segment)])) :=
      hhandle.readsBack hd' fun r hr => absurd hr List.not_mem_nil
    exact hback'

/-- What was appended to a new WAL comes back exactly when every event is clean and a listing
of the directory shows the segments. -/
theorem appends_round_trip_iff {now : DateTime} {wal₀ wal : LocalJsonlWal}
    {effects₀ effects : List DiskEffect} {calls : List AppendCall} {records : List JournalRecord}
    (hopen : LocalJsonlWal.open env config Disk.empty now = .ok (wal₀, effects₀))
    (happ : appendAll env wal₀ calls = some (wal, effects, records)) :
    RoundTrips env config wal ((Disk.empty.applyAll effects₀).applyAll effects) records ↔
      (calls = [] ∨ isListed config.run_id.value = true) ∧
        ∀ call ∈ calls, Clean env config call.event := by
  obtain ⟨s₀, hl₀, hd₀, hnil₀⟩ := open_fresh hopen
  obtain ⟨sealed, s, hl, hd, hall, hmade⟩ := appendAll_laid hl₀ hd₀ happ
  have hrecords : allRecords (sealed ++ [s]) = records := by
    rw [hall, allRecords_snoc, hnil₀]
    exact List.nil_append records
  -- each record is readable exactly when its event is clean
  have hclean : (∀ r ∈ records, Readable env config r) ↔
      ∀ call ∈ calls, Clean env config call.event := by
    clear happ hall hrecords
    induction hmade with
    | nil => simp
    | cons hr _ ih => rw [List.forall_mem_cons, List.forall_mem_cons, hr.readable_iff, ih]
  constructor
  · rintro ⟨hback, hreopen⟩
    have hreadable : ∀ r ∈ records, Readable env config r := by
      rw [← hrecords] at hback ⊢
      refine hl.toHandle.readable_of_readsBack hd ?_ hback
      intro r hr
      rw [hrecords] at hr
      exact made_of_mem hmade r hr
    refine ⟨?_, hclean.mp hreadable⟩
    by_contra hboth
    rw [not_or, Bool.not_eq_true] at hboth
    obtain ⟨hne, hunlisted⟩ := hboth
    obtain ⟨wal', effects', hopen', -, hiter⟩ := hreopen now
    obtain ⟨wal'', m, id, hopen'', hhandle, -⟩ := open_unlisted hunlisted hd now
    obtain ⟨rfl, -⟩ := Prod.mk.inj (Except.ok.inj (hopen'.symm.trans hopen''))
    have hnil := hhandle.iter_nil hiter
    rw [hnil] at hmade
    exact hne (List.forall₂_nil_right_iff.mp hmade)
  · rintro ⟨hlisted, hall'⟩
    have hreadable := hclean.mpr hall'
    rcases hlisted with rfl | hlisted
    · obtain ⟨rfl, rfl, rfl⟩ : wal₀ = wal ∧ [] = effects ∧ [] = records := by
        simpa only [appendAll, Option.some.injEq, Prod.mk.injEq] using happ
      exact roundTrips_nil hl₀.toHandle hd₀ hnil₀
    · have hheld : Held env config
          ⟨(Disk.empty.applyAll effects₀).applyAll effects, some wal, records⟩ sealed (some s) := by
        refine ⟨⟨hd, hlisted, ?_⟩, hrecords, ?_⟩
        · rw [Option.toList_some, hrecords]
          exact hreadable
        · rintro w ⟨⟩
          exact ⟨s, rfl, hl.toHandle, fun _ => hl⟩
      refine ⟨hheld.reads rfl, fun now' => ?_⟩
      obtain ⟨wal', effects', hopen'⟩ := hheld.consistent.reopens (Option.some_ne_none wal) now'
      exact ⟨wal', effects', hopen', hheld.consistent.opened now' wal' effects' hopen'⟩

end RoundTrip

def noteCall (note : String) : AppendCall := ⟨noteEvent note, none, sampleTime, sampleTime⟩

theorem note_appended (note : String) : ∃ wal₀ effects₀ wal effects records,
    LocalJsonlWal.open sampleEnv sampleConfig Disk.empty sampleTime = .ok (wal₀, effects₀) ∧
    appendAll sampleEnv wal₀ [noteCall note] = some (wal, effects, records) := by
  obtain ⟨wal₀, effects₀, hopen⟩ : ∃ wal₀ effects₀,
      LocalJsonlWal.open sampleEnv sampleConfig Disk.empty sampleTime = .ok (wal₀, effects₀) :=
    ⟨_, _, rfl⟩
  obtain ⟨s, hl, hd, -⟩ := open_fresh hopen
  obtain ⟨j, hj⟩ : ∃ j, (noteEvent note).modelDump = some j := ⟨_, rfl⟩
  obtain ⟨r, hr, -, hoff, -, -, -, hdump⟩ :=
    newRecord_spec sampleEnv wal₀ hj ((none : Option DateTime).getD sampleTime)
  obtain ⟨rest, wal, sealed, s', happ, -⟩ := hl.append hd sampleTime hr (recordLine_of_dump hdump)
    hoff fun _ => sample_nameable.1
  refine ⟨wal₀, effects₀, wal,
    .appendSegment s.info.segment_id.value (segmentBytes [r]) :: rest, [r], hopen, ?_⟩
  simp only [appendAll, noteCall, happ, Option.map_some, List.append_nil]

theorem note_round_trips : ∃ wal₀ effects₀ wal effects records,
    LocalJsonlWal.open sampleEnv sampleConfig Disk.empty sampleTime = .ok (wal₀, effects₀) ∧
    appendAll sampleEnv wal₀ [noteCall "a"] = some (wal, effects, records) ∧
    RoundTrips sampleEnv sampleConfig wal ((Disk.empty.applyAll effects₀).applyAll effects)
      records := by
  obtain ⟨wal₀, effects₀, wal, effects, records, hopen, happ⟩ := note_appended "a"
  refine ⟨wal₀, effects₀, wal, effects, records, hopen, happ, ?_⟩
  rw [appends_round_trip_iff hopen happ]
  refine ⟨.inr (by decide), ?_⟩
  intro call hcall
  rw [List.mem_singleton.mp hcall]
  exact note_clean

/-- A line separator in a payload string: the appended record does not come back. -/
theorem line_separator_breaks_round_trip : ∃ wal₀ effects₀ wal effects records,
    LocalJsonlWal.open sampleEnv sampleConfig Disk.empty sampleTime = .ok (wal₀, effects₀) ∧
    appendAll sampleEnv wal₀ [noteCall "a\u2028b"] = some (wal, effects, records) ∧
    ¬ RoundTrips sampleEnv sampleConfig wal ((Disk.empty.applyAll effects₀).applyAll effects)
      records := by
  obtain ⟨wal₀, effects₀, wal, effects, records, hopen, happ⟩ := note_appended "a\u2028b"
  refine ⟨wal₀, effects₀, wal, effects, records, hopen, happ, ?_⟩
  obtain ⟨s₀, hl₀, hd₀, hnil₀⟩ := open_fresh hopen
  obtain ⟨sealed, s, hl, hd, hall, hmade⟩ := appendAll_laid hl₀ hd₀ happ
  rintro ⟨hback, -⟩
  have hrecords : allRecords (sealed ++ [s]) = records := by
    rw [hall, allRecords_snoc, hnil₀]
    exact List.nil_append records
  rw [← hrecords] at hback
  have hreadable := hl.toHandle.readable_of_readsBack hd
    (by rw [hrecords]; exact made_of_mem hmade) hback
  rw [hrecords] at hreadable
  obtain ⟨r, hr, rs, hrs⟩ : ∃ r, MadeFrom sampleEnv sampleConfig (noteCall "a\u2028b") r ∧
      ∃ rs, records = r :: rs := by
    cases hmade with
    | cons hr _ => exact ⟨_, hr, _, rfl⟩
  obtain ⟨-, -, -, j, hj, hbreak, -⟩ := hr.readable_iff.mp
    (hreadable r (by rw [hrs]; exact List.mem_cons_self))
  -- the dumped event holds the separator
  have hdump : (noteEvent "a\u2028b").modelDump.map Json.hasBreak = some true := by decide
  change (noteEvent "a\u2028b").modelDump = some j at hj
  rw [hj, Option.map_some, hbreak] at hdump
  exact absurd (Option.some.inj hdump) (by decide)

end FuturesBot
