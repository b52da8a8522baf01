import FuturesBot.WalInvariant

/-! What each operation of an open WAL does to the segments on disk. -/
namespace FuturesBot

open JsonText (Json Text isRawBreak)
open TextLines DateTimes Dicts JsonCodec

/-! The events whose records can be read back. -/

def hasRawBreak (s : String) : Bool := s.toList.any isRawBreak

/-- No text of the event, of the run id or of the producer id holds a line boundary that
JSON copies through, JSON carries the payload unchanged, and the reader follows its nesting. -/
structure Clean (env : Env) (config : LocalJsonlWalConfig) (event : EventEnvelope) : Prop where
  run : hasRawBreak config.run_id.value = false
  producer : hasRawBreak config.producer_id.value = false
  native : event.Native
  text : ∃ j, event.modelDump = some j ∧ j.hasBreak = false ∧ j.depth < env.jsonDepth

theorem digit_not_raw {c : Char} (h : c.isDigit = true) : isRawBreak c = false := by
  by_contra hb
  simp only [isRawBreak, Bool.not_eq_false, Bool.or_eq_true, decide_eq_true_eq] at hb
  rcases hb with (rfl | rfl) | rfl <;> exact absurd h (by decide)

theorem fixedDigits_not_raw (w n : ℕ) : (fixedDigits w n).any isRawBreak = false := by
  rw [List.any_eq_false]
  intro c hc
  rw [digit_not_raw (fixedDigits_isDigit w n c hc)]
  decide

theorem dateTime_not_raw (t : DateTime) : hasRawBreak (String.ofList t.text) = false := by
  have hdash : isRawBreak '-' = false := by decide
  have hT : isRawBreak 'T' = false := by decide
  have hcolon : isRawBreak ':' = false := by decide
  have hdot : isRawBreak '.' = false := by decide
  have hZ : isRawBreak 'Z' = false := by decide
  have hfrac : t.fraction.any isRawBreak = false := by
    unfold DateTime.fraction
    split
    · rfl
    · rw [List.any_cons, hdot, fixedDigits_not_raw, Bool.or_self]
  rw [hasRawBreak, String.toList_ofList]
  simp only [DateTime.text, DateTime.dateText, DateTime.clockText, List.any_append, List.any_cons,
    List.any_nil, fixedDigits_not_raw, hdash, hT, hcolon, hZ, hfrac, Bool.or_self]

theorem hexDigest_not_raw (d : HexDigest) : hasRawBreak d.value = false := by
  rw [hasRawBreak, List.any_eq_false]
  intro c hc hb
  have hrange := d.char_cases hc
  simp only [isRawBreak, Bool.or_eq_true, decide_eq_true_eq] at hb
  rcases hb with (rfl | rfl) | rfl <;> exact absurd hrange (by decide)

/-- The JSON of a record, given the JSON of its event. -/
def recordJson (r : JournalRecord) (event : Json) : Json :=
  .obj (dumpRow JournalRecord.fields (r.row event))

theorem recordJson_eq (r : JournalRecord) (event : Json) :
    recordJson r event = .obj
      [("run_id", .obj [("value", .str r.run_id.value)]),
        ("producer_id", .obj [("value", .str r.producer_id.value)]),
        ("wal_offset", .obj [("value", .int r.wal_offset.value)]), ("event", event),
        ("recorded_at", .str (String.ofList r.recorded_at.text)),
        ("payload_hash", .str r.payload_hash.value),
        ("record_size_bytes", .int r.record_size_bytes)] := rfl

theorem recordJson_hasBreak (r : JournalRecord) (event : Json) :
    (recordJson r event).hasBreak =
      (hasRawBreak r.run_id.value || (hasRawBreak r.producer_id.value || (event.hasBreak ||
        hasRawBreak r.payload_hash.value))) := by
  have hname : ∀ s ∈ ["run_id", "producer_id", "wal_offset", "event", "recorded_at",
      "payload_hash", "record_size_bytes", "value"], s.toList.any isRawBreak = false := by decide
  simp only [List.forall_mem_cons, List.not_mem_nil, false_imp_iff, implies_true, and_true]
    at hname
  obtain ⟨h1, h2, h3, h4, h5, h6, h7, h8⟩ := hname
  have htime := dateTime_not_raw r.recorded_at
  rw [hasRawBreak] at htime
  rw [recordJson_eq]
  simp only [Json.hasBreak, JsonText.membersHaveBreak, h1, h2, h3, h4, h5, h6, h7, h8, htime,
    hasRawBreak, Bool.false_or, Bool.or_false]

theorem recordJson_depth (r : JournalRecord) (event : Json) :
    (recordJson r event).depth = max 1 event.depth + 1 := by
  rw [recordJson_eq]
  simp only [Json.depth, JsonText.membersDepth]
  omega

/-- The record that appending an event makes, when the event has JSON. -/
theorem newRecord_spec (env : Env) (wal : LocalJsonlWal) {event : EventEnvelope} {j : Json}
    (hj : event.modelDump = some j) (ts : DateTime) :
    ∃ r, LocalJsonlWal.newRecord env wal event ts = .ok r ∧ r.event = event ∧
      r.wal_offset.value = wal.next_offset ∧ r.run_id = wal.config.run_id ∧
      r.producer_id = wal.config.producer_id ∧
      r.payload_hash = (computePayloadHash env j).toTrimmedText ∧
      r.modelDump = some (recordJson r j) := by
  have hpos : 0 < (encodeUtf8 (JsonText.encode j)).length := by
    rw [List.length_pos_iff, Ne, ← encodeUtf8_nil]
    intro he
    have hpos := JsonText.encode_length_pos j
    rw [encodeUtf8_injective he, List.length_nil] at hpos
    omega
  let r : JournalRecord :=
    { run_id := wal.config.run_id, producer_id := wal.config.producer_id
      wal_offset := ⟨wal.next_offset⟩, event, recorded_at := ts
      payload_hash := (computePayloadHash env j).toTrimmedText
      record_size_bytes := (encodeUtf8 (JsonText.encode j)).length, size_positive := hpos }
  refine ⟨r, ?_, rfl, rfl, rfl, rfl, rfl, ?_⟩
  · simp only [LocalJsonlWal.newRecord, hj, dif_pos hpos, r]
  · rw [JournalRecord.modelDump, show r.event = event from rfl, hj]
    rfl

/-- An event without JSON: nothing is written. -/
theorem newRecord_none (env : Env) (wal : LocalJsonlWal) {event : EventEnvelope}
    (hj : event.modelDump = none) (ts : DateTime) :
    LocalJsonlWal.newRecord env wal event ts = .error .serialization := by
  simp only [LocalJsonlWal.newRecord, hj]

theorem recordLine_of_dump {r : JournalRecord} {j : Json} (hj : r.modelDump = some j) :
    LocalJsonlWal.recordLine r = some (segmentBytes [r]) := by
  rw [LocalJsonlWal.recordLine, hj, Option.map_some, segmentBytes_single hj]

/-- The record of a clean event is one the reader takes back. -/
theorem Clean.readable {env : Env} {config : LocalJsonlWalConfig} {event : EventEnvelope}
    (h : Clean env config event) {r : JournalRecord} {j : Json} (hj : event.modelDump = some j)
    (hevent : r.event = event) (hrun : r.run_id = config.run_id)
    (hproducer : r.producer_id = config.producer_id)
    (hhash : r.payload_hash = (computePayloadHash env j).toTrimmedText)
    (hdump : r.modelDump = some (recordJson r j)) : Readable env config r := by
  obtain ⟨j', hj', hbreak, hdepth⟩ := h.text
  obtain rfl : j = j' := Option.some.inj (hj.symm.trans hj')
  refine ⟨⟨_, hdump, ?_, ?_⟩, ?_, hrun, hproducer, ?_⟩
  · rw [recordJson_hasBreak, hrun, hproducer, hhash, h.run, h.producer, hbreak,
      show (computePayloadHash env j).toTrimmedText.value = (computePayloadHash env j).value
        from rfl, hexDigest_not_raw]
    rfl
  · rw [recordJson_depth]
    have := env.depth_min
    omega
  · rw [hevent]
    exact h.native
  · rw [eventHash, hevent, hj, hhash]
    rfl

/-! Steps on the disk. -/

section Steps

variable {env : Env} {config : LocalJsonlWalConfig} {disk : Disk} {sealed : List Segment}
  {active : Option Segment}

theorem Laid.of_eq {disk' : Disk} (h : Laid config disk sealed active)
    (hs : disk'.segments = disk.segments) (hm : disk'.metadata = disk.metadata) :
    Laid config disk' sealed active :=
  { h with
    files := by rw [hs, h.files]
    infos := by rw [hm, h.infos] }

/-- A disk with the same records holds them if the first one does. -/
theorem Holds.of_laid {disk' : Disk} {sealed' : List Segment} {active' : Option Segment}
    (h : Holds env config disk sealed active) (hlaid : Laid config disk' sealed' active')
    (hrecords : allRecords (sealed' ++ active'.toList) = allRecords (sealed ++ active.toList)) :
    Holds env config disk' sealed' active' :=
  ⟨hlaid, h.listed, by rw [hrecords]; exact h.readable⟩

theorem allRecords_none (segs : List Segment) :
    allRecords (segs ++ (none : Option Segment).toList) = allRecords segs := by
  rw [Option.toList_none, List.append_nil]

theorem allRecords_snoc (segs : List Segment) (s : Segment) :
    allRecords (segs ++ [s]) = allRecords segs ++ s.records := by
  rw [allRecords_append, allRecords_cons]
  exact congrArg _ (List.append_nil _)

theorem allRecords_some (segs : List Segment) (s : Segment) :
    allRecords (segs ++ (some s).toList) = allRecords segs ++ s.records := allRecords_snoc segs s

/-- Writing metadata to a temporary file and renaming it sets the metadata file. -/
theorem applyAll_saveMetadata (disk : Disk) (m : WalSegmentMetadata) :
    (disk.applyAll (LocalJsonlWal.saveMetadata m)).segments = disk.segments ∧
      (disk.applyAll (LocalJsonlWal.saveMetadata m)).metadata =
        disk.metadata.set m.segment_id.value (metadataText m) := by
  have hget : (disk.temps.set m.segment_id.value (metadataText m)).get? m.segment_id.value =
      some (metadataText m) := Dict.get?_set_self _ _ _
  have hsteps : disk.applyAll (LocalJsonlWal.saveMetadata m) =
      (disk.apply (.writeTemp m.segment_id.value (metadataText m))).apply
        (.replaceMetadata m.segment_id.value) := rfl
  simp only [hsteps, Disk.apply, hget, and_self]

/-- Replacing what is known of the last segment: its metadata file, and its place among the
sealed or as the OPEN one. -/
theorem Laid.infos_set {s : Segment} (h : Laid config disk sealed (some s))
    (m : WalSegmentMetadata) (hid : m.segment_id = s.info.segment_id) :
    (disk.metadata.set m.segment_id.value (metadataText m)).entries =
      (sealed.map fun s => (s.info.segment_id.value, metadataText s.info)) ++
        [(m.segment_id.value, metadataText m)] := by
  refine Dict.entries_set_last (v := metadataText s.info) _ ?_
  rw [h.infos, List.map_append, hid]
  rfl

theorem Laid.files_split {s : Segment} (h : Laid config disk sealed (some s)) :
    disk.segments.entries =
      (sealed.map fun s => (s.info.segment_id.value, segmentBytes s.records)) ++
        [(s.info.segment_id.value, segmentBytes s.records)] := by
  rw [h.files, List.map_append]
  rfl

theorem Laid.sealed_named {s : Segment} (h : Laid config disk sealed (some s))
    {m : WalSegmentMetadata} (hid : m.segment_id = s.info.segment_id)
    (hrun : m.run_id = config.run_id) (rs : List JournalRecord) :
    NamedFrom config.run_id 1 (sealed ++ [⟨m, rs⟩]) := by
  have hsplit := (namedFrom_append config.run_id 1 sealed [s]).mp h.named
  refine (namedFrom_append config.run_id 1 sealed _).mpr ⟨hsplit.1, ⟨?_, hrun⟩, trivial⟩
  simp only [hid]
  exact hsplit.2.1.1

/-- New metadata for the OPEN segment. -/
theorem Laid.saveOpen {s : Segment} (h : Laid config disk sealed (some s))
    {m : WalSegmentMetadata} (hid : m.segment_id = s.info.segment_id)
    (hrun : m.run_id = config.run_id) (hstatus : m.status = .OPEN) :
    Laid config (disk.applyAll (LocalJsonlWal.saveMetadata m)) sealed
      (some ⟨m, s.records⟩) := by
  obtain ⟨hseg, hmeta⟩ := applyAll_saveMetadata disk m
  refine ⟨?_, ?_, h.sealed_named hid hrun s.records, h.sealed_ok, ?_⟩
  · rw [hseg, h.files_split, List.map_append]
    simp only [Option.toList_some, List.map_cons, List.map_nil, hid]
  · rw [hmeta, h.infos_set m hid, List.map_append]
    rfl
  · rintro t ⟨⟩
    exact ⟨hstatus, (h.active_ok s rfl).2⟩

/-- Sealing metadata for the OPEN segment. -/
theorem Laid.saveSealed {s : Segment} (h : Laid config disk sealed (some s))
    {m : WalSegmentMetadata} (hid : m.segment_id = s.info.segment_id)
    (hrun : m.run_id = config.run_id) (hstatus : m.status = .SEALED)
    (hdesc : Describes m (allRecords sealed).length s.records) :
    Laid config (disk.applyAll (LocalJsonlWal.saveMetadata m))
      (sealed ++ [⟨m, s.records⟩]) none := by
  obtain ⟨hseg, hmeta⟩ := applyAll_saveMetadata disk m
  refine ⟨?_, ?_, ?_, ?_, fun t ht => absurd ht (by simp)⟩
  · rw [hseg, h.files_split, Option.toList_none, List.append_nil, List.map_append]
    simp only [List.map_cons, List.map_nil, hid]
  · rw [hmeta, h.infos_set m hid, Option.toList_none, List.append_nil, List.map_append]
    rfl
  · rw [Option.toList_none, List.append_nil]
    exact h.sealed_named hid hrun s.records
  · refine (sealedFrom_append 0 sealed _).mpr ⟨h.sealed_ok, ⟨hstatus, ?_⟩, trivial⟩
    rw [Nat.zero_add]
    exact ⟨hdesc, (h.active_ok s rfl).2⟩

/-- A whole line behind the records of the OPEN segment. -/
theorem Laid.appendLine {s : Segment} (h : Laid config disk sealed (some s))
    {r : JournalRecord} (hoff : r.wal_offset.value = (allRecords sealed).length + s.records.length) :
    Laid config (disk.apply (.appendSegment s.info.segment_id.value (segmentBytes [r])))
      sealed (some ⟨s.info, s.records ++ [r]⟩) := by
  have hget : disk.segments.get? s.info.segment_id.value = some (segmentBytes s.records) :=
    h.get_file (List.mem_append_right _ (by simp))
  refine ⟨?_, ?_, ?_, h.sealed_ok, ?_⟩
  · change (disk.segments.set _ _).entries = _
    rw [hget, Option.getD_some, Dict.entries_set_last _ h.files_split, List.map_append,
      ← segmentBytes_append]
    rfl
  · change disk.metadata.entries = _
    rw [h.infos, List.map_append, List.map_append]
    rfl
  · have hsplit := (namedFrom_append config.run_id 1 sealed [s]).mp h.named
    exact (namedFrom_append config.run_id 1 sealed _).mpr hsplit
  · rintro t ⟨⟩
    refine ⟨(h.active_ok s rfl).1, (numbered_append _ _ _).mpr ⟨(h.active_ok s rfl).2, hoff, ?_⟩⟩
    trivial

/-- The same, when the reader takes the new record back. -/
theorem Holds.appendLine {s : Segment} (h : Holds env config disk sealed (some s))
    {r : JournalRecord} (hr : Readable env config r)
    (hoff : r.wal_offset.value = (allRecords sealed).length + s.records.length) :
    Holds env config (disk.apply (.appendSegment s.info.segment_id.value (segmentBytes [r])))
      sealed (some ⟨s.info, s.records ++ [r]⟩) := by
  refine ⟨h.toLaid.appendLine hoff, h.listed, ?_⟩
  have hread := h.readable
  rw [allRecords_some] at hread ⊢
  intro t ht
  rw [← List.append_assoc] at ht
  rcases List.mem_append.mp ht with ht | ht
  · exact hread t ht
  · rw [List.mem_singleton.mp ht]
    exact hr

theorem Holds.saveOpen {s : Segment} (h : Holds env config disk sealed (some s))
    {m : WalSegmentMetadata} (hid : m.segment_id = s.info.segment_id)
    (hrun : m.run_id = config.run_id) (hstatus : m.status = .OPEN) :
    Holds env config (disk.applyAll (LocalJsonlWal.saveMetadata m)) sealed
      (some ⟨m, s.records⟩) := by
  apply h.of_laid (h.toLaid.saveOpen hid hrun hstatus)
  rw [allRecords_some, allRecords_some]

theorem Holds.saveSealed {s : Segment} (h : Holds env config disk sealed (some s))
    {m : WalSegmentMetadata} (hid : m.segment_id = s.info.segment_id)
    (hrun : m.run_id = config.run_id) (hstatus : m.status = .SEALED)
    (hdesc : Describes m (allRecords sealed).length s.records) :
    Holds env config (disk.applyAll (LocalJsonlWal.saveMetadata m))
      (sealed ++ [⟨m, s.records⟩]) none := by
  apply h.of_laid (h.toLaid.saveSealed hid hrun hstatus hdesc)
  rw [allRecords_none, allRecords_some, allRecords_snoc]

/-- The file and the metadata of a new OPEN segment behind the sealed ones. -/
theorem Laid.start (h : Laid config disk sealed none) {m : WalSegmentMetadata}
    (hname : m.segment_id.value = segmentName config.run_id (sealed.length + 1))
    (hrun : m.run_id = config.run_id) (hstatus : m.status = .OPEN) :
    Laid config
      (disk.applyAll (.createSegment m.segment_id.value :: LocalJsonlWal.saveMetadata m))
      sealed (some ⟨m, []⟩) := by
  have hfresh : ∀ {content : Segment → Bytes} {files : Dict String Bytes},
      files.entries = (sealed ++ (none : Option Segment).toList).map
        (fun s => (s.info.segment_id.value, content s)) → m.segment_id.value ∉ files.keys := by
    intro content files hfiles hmem
    rw [Dict.keys, hfiles, List.map_map] at hmem
    obtain ⟨s, hs, hval⟩ := List.mem_map.mp hmem
    obtain ⟨i, hi, hname', -⟩ := namedFrom_mem h.named s hs
    rw [Option.toList_none, List.append_nil] at hi
    have hindex := segmentName_injective config.run_id (hname'.symm.trans (hval.trans hname))
    omega
  have hcreate : (disk.create m.segment_id.value).segments =
      disk.segments.set m.segment_id.value [] := by
    rw [Disk.create, Dict.get?_eq_none.mpr (hfresh h.files)]
  have hcreate' : (disk.create m.segment_id.value).metadata = disk.metadata := by
    rw [Disk.create, Dict.get?_eq_none.mpr (hfresh h.files)]
  obtain ⟨hseg, hmeta⟩ := applyAll_saveMetadata (disk.create m.segment_id.value) m
  have hnamed : NamedFrom config.run_id 1 sealed := by
    simpa only [Option.toList_none, List.append_nil] using h.named
  refine ⟨?_, ?_, ?_, h.sealed_ok, ?_⟩
  · rw [Disk.applyAll_cons, Disk.apply, hseg, hcreate, Dict.entries_set_new _ (hfresh h.files),
      h.files, Option.toList_none, List.append_nil, List.map_append]
    rfl
  · rw [Disk.applyAll_cons, Disk.apply, hmeta, hcreate', Dict.entries_set_new _ (hfresh h.infos),
      h.infos, Option.toList_none, List.append_nil, List.map_append]
    rfl
  · refine (namedFrom_append config.run_id 1 sealed _).mpr ⟨hnamed, ⟨?_, hrun⟩, trivial⟩
    rw [hname, Nat.add_comm]
  · rintro t ⟨⟩
    exact ⟨hstatus, trivial⟩

theorem Holds.start (h : Holds env config disk sealed none) {m : WalSegmentMetadata}
    (hname : m.segment_id.value = segmentName config.run_id (sealed.length + 1))
    (hrun : m.run_id = config.run_id) (hstatus : m.status = .OPEN) :
    Holds env config
      (disk.applyAll (.createSegment m.segment_id.value :: LocalJsonlWal.saveMetadata m))
      sealed (some ⟨m, []⟩) := by
  apply h.of_laid (h.toLaid.start hname hrun hstatus)
  rw [allRecords_some, allRecords_none, List.append_nil]

end Steps

end FuturesBot
