import FuturesBot.IntTexts
import FuturesBot.WalDisk

/-! The segmented JSONL WAL: opening with recovery, appending with rollover, sealing,
closing and reading. Each operation is a function of the disk and of the open WAL; it
returns the steps it takes on the disk, in order. -/
namespace FuturesBot

open JsonText (Json Text)
open TextLines DateTimes Dicts

structure LocalJsonlWalConfig where
  run_id : RunId
  producer_id : ProducerId
  segment_max_bytes : ℕ
  segment_max_events : ℕ
  segment_max_age_seconds : ℕ
  limits_positive : 0 < segment_max_bytes ∧ 0 < segment_max_events ∧ 0 < segment_max_age_seconds

/-- The reasons of a `LocalWalCorruptionError`, with the file or segment it names. -/
inductive WalCorruption where
  | metadataUnreadable (name : String)
  | metadataRunMismatch (name : String)
  | metadataNameMismatch (name : String)
  | multipleOpenSegments
  | orphanSegment (name : String)
  | orphanMetadata (name : String)
  | unexpectedSegmentId (name : String)
  | segmentIndexUnreadable (name : String)
  | segmentMissing (name : String)
  | invalidUtf8 (name : String)
  | blankLine (line : ℕ) (name : String)
  | malformedRecord (line : ℕ) (name : String)
  | runIdMismatch (line : ℕ) (name : String)
  | producerIdMismatch (line : ℕ) (name : String)
  | payloadHashMismatch (line : ℕ) (name : String)
  | nonContiguousOffset (line : ℕ) (name : String)
  | eventCountMismatch (name : String)
  | offsetRangeMissing (name : String)
  | firstOffsetMismatch (name : String)
  | lastOffsetMismatch (name : String)
  | offsetRangeUnexpected (name : String)
  | payloadBytesMismatch (name : String)
  | firstIndexNotOne (index : ℕ)
  | segmentIndexGap (index : ℕ)
  | offsetDiscontinuity (expected got : ℕ)
  deriving DecidableEq, Repr

inductive WalError where
  /-- `LocalWalCorruptionError` -/
  | corruption (reason : WalCorruption)
  /-- `LocalWalError` -/
  | unavailable
  /-- a model validator refused a value -/
  | validation
  /-- the payload holds an object that has no JSON -/
  | serialization
  /-- the file system refused to create a file -/
  | os
  /-- an operation on a file object that is closed -/
  | closedFile
  deriving DecidableEq, Repr

/-! Names of segments. -/

def segmentPrefix (run_id : RunId) : Text := run_id.value.toList ++ "-segment-".toList

def segmentName (run_id : RunId) (index : ℕ) : String :=
  String.ofList (segmentPrefix run_id ++ zeroPadded 6 index)

def segmentIdFor (run_id : RunId) (index : ℕ) : Option WalSegmentId :=
  DomainId.of (segmentName run_id index)

/-- `int(suffix)`. A negative index is none as well: either way the run's indices do not
start at 1 and opening reports corruption. -/
def parseIndex (t : Text) : Option ℕ := (IntTexts.readInt t).bind Int.toNat?

def segmentIndexFromId (segment_id : WalSegmentId) (run_id : RunId) : Except WalCorruption ℕ :=
  if (segmentPrefix run_id).isPrefixOf segment_id.value.toList then
    match parseIndex (segment_id.value.toList.drop (segmentPrefix run_id).length) with
    | some index => .ok index
    | none => .error (.segmentIndexUnreadable segment_id.value)
  else .error (.unexpectedSegmentId segment_id.value)

/-- A directory listing shows the files in the directory: a name with a slash leads to a
file elsewhere. -/
def isListed (name : String) : Bool := !name.toList.contains '/'

/-- The names in a directory that begin as this run's segments do. -/
def namesForRun (run_id : RunId) (files : Dict String Bytes) : List String :=
  files.keys.filter fun name => isListed name && (segmentPrefix run_id).isPrefixOf name.toList

/-! Reading. -/

def metadataText (m : WalSegmentMetadata) : Bytes :=
  encodeUtf8 (JsonText.encode (walSegmentMetadata.dump m))

def readMetadata (env : Env) (disk : Disk) (name : String) : Option WalSegmentMetadata := do
  let data ← disk.metadata.get? name
  let t ← decodeUtf8 data
  let j ← env.parseJson t
  walSegmentMetadata.load j

def loadMetadataFile (env : Env) (run_id : RunId) (disk : Disk) (name : String) :
    Except WalCorruption WalSegmentMetadata :=
  match readMetadata env disk name with
  | none => .error (.metadataUnreadable name)
  | some m =>
    if m.run_id.value ≠ run_id.value then .error (.metadataRunMismatch name)
    else if name ≠ m.segment_id.value then .error (.metadataNameMismatch name)
    else .ok m

def loadMetadataForRun (env : Env) (run_id : RunId) (disk : Disk) :
    Except WalCorruption (List WalSegmentMetadata) :=
  (namesForRun run_id disk.metadata).mapM (loadMetadataFile env run_id disk)

def eventHash (env : Env) (e : EventEnvelope) : Option HexDigest :=
  e.modelDump.map (computePayloadHash env)

def readLine (env : Env) (run_id : RunId) (producer_id : ProducerId) (name : String) (num : ℕ)
    (line : Text) : Except WalCorruption JournalRecord :=
  if line = [] ∨ strip line = [] then .error (.blankLine num name)
  else
    match (env.parseJson line).bind JournalRecord.modelValidate with
    | none => .error (.malformedRecord num name)
    | some record =>
      if record.run_id.value ≠ run_id.value then .error (.runIdMismatch num name)
      else if record.producer_id.value ≠ producer_id.value then
        .error (.producerIdMismatch num name)
      else if (eventHash env record.event).map (·.value) ≠ some record.payload_hash.value then
        .error (.payloadHashMismatch num name)
      else .ok record

/-- The lines of a segment from line `num` on; `prev` is the offset of the record before. -/
def readLines (env : Env) (run_id : RunId) (producer_id : ProducerId) (name : String) :
    ℕ → Option ℕ → List Text → Except WalCorruption (List JournalRecord)
  | _, _, [] => .ok []
  | num, prev, line :: lines => do
    let record ← readLine env run_id producer_id name num line
    if ∃ o ∈ prev, record.wal_offset.value ≠ o + 1 then
      .error (.nonContiguousOffset num name)
    else do
      let records ← readLines env run_id producer_id name (num + 1)
        (some record.wal_offset.value) lines
      .ok (record :: records)

/-- The cross-check of a segment's content against its metadata. -/
def checkMetadata (name : String) (m : WalSegmentMetadata) (records : List JournalRecord)
    (byte_count : ℕ) : Except WalCorruption Unit := do
  if records.length ≠ m.event_count then .error (.eventCountMismatch name) else .ok ()
  match records.head?, records.getLast?, m.offset_range with
  | some first, some last, some range =>
    if first.wal_offset.value ≠ range.first.value then .error (.firstOffsetMismatch name)
    else if last.wal_offset.value ≠ range.last.value then .error (.lastOffsetMismatch name)
    else .ok ()
  | some _, _, none => .error (.offsetRangeMissing name)
  | none, _, some _ => .error (.offsetRangeUnexpected name)
  | _, _, _ => .ok ()
  if byte_count ≠ m.payload_bytes then .error (.payloadBytesMismatch name) else .ok ()

def readSegmentRecords (env : Env) (config : LocalJsonlWalConfig) (disk : Disk) (name : String)
    (metadata : Option WalSegmentMetadata) : Except WalCorruption (List JournalRecord × ℕ) :=
  match disk.segments.get? name with
  | none => .error (.segmentMissing name)
  | some data =>
    match decodeUtf8 data with
    | none => .error (.invalidUtf8 name)
    | some t => do
      let records ← readLines env config.run_id config.producer_id name 1 none (splitLines t)
      match metadata with
      | none => .ok (records, data.length)
      | some m => do
        checkMetadata name m records data.length
        .ok (records, data.length)

/-! The open WAL. -/

structure LocalJsonlWal where
  config : LocalJsonlWalConfig
  closed : Bool
  sealed_meta : List WalSegmentMetadata
  next_offset : ℕ
  current_segment_index : ℕ
  active_segment_id : WalSegmentId
  active_segment_created_at : DateTime
  active_event_count : ℕ
  active_byte_count : ℕ
  active_first_offset : Option ℕ
  active_last_offset : Option ℕ
  /-- the segment whose file is held open; none once that file object is closed -/
  active_file : Option String

/-- The result of an operation that may stop with an exception after some steps. -/
structure Outcome (α : Type) where
  effects : List DiskEffect
  wal : LocalJsonlWal
  result : Except WalError α

def offsetRange : Option ℕ → Option ℕ → Except WalError (Option WalOffsetRange)
  | some first, some last =>
    if h : first ≤ last then .ok (some ⟨⟨first⟩, ⟨last⟩, h⟩) else .error .validation
  | _, _ => .ok none

def validated (m : SegmentFields) : Except WalError WalSegmentMetadata :=
  match WalSegmentMetadata.of m with
  | some m => .ok m
  | none => .error .validation

namespace LocalJsonlWal

def activeMetadata (wal : LocalJsonlWal) (status : WalSegmentStatus)
    (sealed_at : Option DateTime) : Except WalError WalSegmentMetadata := do
  let offset_range ← offsetRange wal.active_first_offset wal.active_last_offset
  validated
    { segment_id := wal.active_segment_id
      run_id := wal.config.run_id
      status, offset_range
      created_at := wal.active_segment_created_at
      sealed_at
      event_count := wal.active_event_count
      payload_bytes := wal.active_byte_count
      segment_hash := none
      previous_segment_hash := none }

def currentSegmentMetadata (wal : LocalJsonlWal) : Except WalError WalSegmentMetadata :=
  wal.activeMetadata .OPEN none

def listSegmentMetadata (wal : LocalJsonlWal) : Except WalError (List WalSegmentMetadata) := do
  let active ← wal.currentSegmentMetadata
  .ok (wal.sealed_meta ++ [active])

def saveMetadata (m : WalSegmentMetadata) : List DiskEffect :=
  [.writeTemp m.segment_id.value (metadataText m), .replaceMetadata m.segment_id.value]

/-! Opening. -/

def validateNoOrphanFiles (run_id : RunId) (disk : Disk) : Except WalCorruption Unit :=
  match (namesForRun run_id disk.segments).find? fun name => (disk.metadata.get? name).isNone with
  | some name => .error (.orphanSegment name)
  | none =>
    match (namesForRun run_id disk.metadata).find? fun name =>
      (disk.segments.get? name).isNone with
    | some name => .error (.orphanMetadata name)
    | none => .ok ()

def checkIndices (previous : ℕ) : List ℕ → Except WalCorruption Unit
  | [] => .ok ()
  | index :: indices =>
    if index ≠ previous + 1 then .error (.segmentIndexGap index) else checkIndices index indices

/-- Segment indices form a contiguous sequence that starts at 1. -/
def validateSegmentIndexContinuity (indices : List ℕ) : Except WalCorruption Unit :=
  match indices.insertionSort (· ≤ ·) with
  | [] => .ok ()
  | first :: rest =>
    if first ≠ 1 then .error (.firstIndexNotOne first) else checkIndices first rest

/-- Non-empty segments form one contiguous stream of offsets from `expected` on. -/
def validateGlobalOffsetContinuity (expected : ℕ) :
    List WalSegmentMetadata → Except WalCorruption Unit
  | [] => .ok ()
  | m :: segments =>
    match m.offset_range with
    | none => validateGlobalOffsetContinuity expected segments
    | some range =>
      if range.first.value ≠ expected then
        .error (.offsetDiscontinuity expected range.first.value)
      else validateGlobalOffsetContinuity (range.last.value + 1) segments

def isOpen (m : WalSegmentMetadata) : Bool := m.status = .OPEN

/-- Sealed metadata in the order of the segment indices. -/
def sortSealed (run_id : RunId) (all_meta : List WalSegmentMetadata) :
    Except WalCorruption (List WalSegmentMetadata) := do
  let keyed ← (all_meta.filter fun m => !isOpen m).mapM fun m => do
    let index ← segmentIndexFromId m.segment_id run_id
    .ok (index, m)
  .ok ((keyed.insertionSort fun a b => a.1 ≤ b.1).map (·.2))

/-- The offset after the last sealed segment, as opening computes it: from that segment
alone. -/
def offsetAfterSealed (sealed_sorted : List WalSegmentMetadata) : ℕ :=
  match sealed_sorted.getLast?.bind (·.offset_range) with
  | none => 0
  | some range => range.last.value + 1

def liftCorruption {α : Type} : Except WalCorruption α → Except WalError α
  | .ok a => .ok a
  | .error c => .error (.corruption c)

/-- The WAL with the records that the file of its active segment holds. -/
def noteRecovered (wal : LocalJsonlWal) (records : List JournalRecord) (byte_count : ℕ) :
    LocalJsonlWal :=
  let wal := { wal with active_event_count := records.length, active_byte_count := byte_count }
  match records.head?, records.getLast? with
  | some first, some last =>
    { wal with
      active_first_offset := some first.wal_offset.value
      active_last_offset := some last.wal_offset.value
      next_offset := last.wal_offset.value + 1 }
  | _, _ => wal

/-- `_recover_open_segment`: the file of an OPEN segment is the truth, its metadata may be
behind. -/
def recoverOpenSegment (env : Env) (disk : Disk) (wal : LocalJsonlWal) (m : WalSegmentMetadata) :
    Except WalError LocalJsonlWal := do
  let (records, byte_count) ← liftCorruption
    (readSegmentRecords env wal.config disk m.segment_id.value none)
  .ok (wal.noteRecovered records byte_count)

/-- The WAL as `open` initializes it, with nothing in its active segment yet. -/
def freshWal (config : LocalJsonlWalConfig) (sealed_sorted : List WalSegmentMetadata)
    (id : WalSegmentId) (index : ℕ) (created_at : DateTime) : LocalJsonlWal :=
  { config, closed := false, sealed_meta := sealed_sorted
    next_offset := offsetAfterSealed sealed_sorted
    current_segment_index := index
    active_segment_id := id
    active_segment_created_at := created_at
    active_event_count := 0
    active_byte_count := 0
    active_first_offset := none
    active_last_offset := none
    active_file := none }

/-- The first part of `open`: all metadata of the run, and the sealed part of it in order
once every sealed segment has been read and checked. -/
def loadSegments (env : Env) (config : LocalJsonlWalConfig) (disk : Disk) :
    Except WalCorruption (List WalSegmentMetadata × List WalSegmentMetadata) := do
  let all_meta ← loadMetadataForRun env config.run_id disk
  if 1 < (all_meta.filter isOpen).length then .error .multipleOpenSegments else .ok ()
  validateNoOrphanFiles config.run_id disk
  let sealed_sorted ← sortSealed config.run_id all_meta
  let _ ← sealed_sorted.mapM fun m =>
    readSegmentRecords env config disk m.segment_id.value (some m)
  .ok (all_meta, sealed_sorted)

/-- The active segment: the OPEN one, recovered, or a new one after the last. -/
def chooseActive (env : Env) (config : LocalJsonlWalConfig) (disk : Disk) (now : DateTime)
    (all_meta sealed_sorted : List WalSegmentMetadata) (next_index : ℕ) :
    Except WalError LocalJsonlWal :=
  match all_meta.filter isOpen with
  | m :: _ => do
    let index ← liftCorruption (segmentIndexFromId m.segment_id config.run_id)
    recoverOpenSegment env disk (freshWal config sealed_sorted m.segment_id index m.created_at) m
  | [] =>
    match segmentIdFor config.run_id next_index with
    | none => .error .validation
    | some id => .ok (freshWal config sealed_sorted id next_index now)

/-- Everything `open` does before it touches the disk. -/
def recover (env : Env) (config : LocalJsonlWalConfig) (disk : Disk) (now : DateTime) :
    Except WalError LocalJsonlWal := do
  let (all_meta, sealed_sorted) ← liftCorruption (loadSegments env config disk)
  let all_indices ← liftCorruption
    (all_meta.mapM fun m => segmentIndexFromId m.segment_id config.run_id)
  let wal ← chooseActive env config disk now all_meta sealed_sorted
    (all_indices.foldr max 0 + 1)
  liftCorruption (validateSegmentIndexContinuity all_indices)
  let segments ← wal.listSegmentMetadata
  liftCorruption (validateGlobalOffsetContinuity 0 segments)
  .ok wal

/-- `LocalJsonlWal.open`. Every check comes before the first step on the disk; a file that
exists can always be opened for appending. -/
def «open» (env : Env) (config : LocalJsonlWalConfig) (disk : Disk) (now : DateTime) :
    Except WalError (LocalJsonlWal × List DiskEffect) := do
  let wal ← recover env config disk now
  let name := wal.active_segment_id.value
  if (disk.segments.get? name).isSome = true ∨ env.creatable name = true then do
    let m ← wal.currentSegmentMetadata
    .ok ({ wal with active_file := some name }, .createSegment name :: saveMetadata m)
  else .error .os

/-! Writing. -/

def shouldRollover (wal : LocalJsonlWal) (now : DateTime) : Bool :=
  wal.config.segment_max_bytes ≤ wal.active_byte_count ||
    wal.config.segment_max_events ≤ wal.active_event_count ||
    ((wal.config.segment_max_age_seconds * 1000000 : ℕ) : ℤ) ≤
      (now.micros : ℤ) - wal.active_segment_created_at.micros

/-- `_do_seal`. The file object is closed whatever happens next. -/
def doSeal (wal : LocalJsonlWal) (sealed_at : DateTime) : Outcome WalSegmentMetadata :=
  match wal.active_file with
  | none => ⟨[], { wal with closed := true }, .error .unavailable⟩
  | some _ =>
    let wal := { wal with active_file := none }
    match wal.activeMetadata .SEALED
      (some (DateTime.latest sealed_at wal.active_segment_created_at)) with
    | .error e => ⟨[], wal, .error e⟩
    | .ok m => ⟨saveMetadata m, { wal with sealed_meta := wal.sealed_meta ++ [m] }, .ok m⟩

/-- The end of `seal_current_segment` and of `_rollover`: the next segment, its file before
its metadata. -/
def startSegment (env : Env) (wal : LocalJsonlWal) (created_at : DateTime) : Outcome Unit :=
  let wal := { wal with current_segment_index := wal.current_segment_index + 1 }
  match segmentIdFor wal.config.run_id wal.current_segment_index with
  | none => ⟨[], wal, .error .validation⟩
  | some id =>
    let wal :=
      { wal with
        active_segment_id := id
        active_segment_created_at := created_at
        active_event_count := 0
        active_byte_count := 0
        active_first_offset := none
        active_last_offset := none }
    if env.creatable id.value then
      let wal := { wal with active_file := some id.value }
      match wal.currentSegmentMetadata with
      | .error e => ⟨[.createSegment id.value], wal, .error e⟩
      | .ok m => ⟨.createSegment id.value :: saveMetadata m, wal, .ok ()⟩
    else ⟨[], wal, .error .os⟩

/-- Seal and start the next segment, giving its creation time from the time of sealing. -/
def sealAndStart (env : Env) (wal : LocalJsonlWal) (sealed_at created_at : DateTime) :
    Outcome WalSegmentMetadata :=
  let sealing := wal.doSeal sealed_at
  match sealing.result with
  | .error e => ⟨sealing.effects, sealing.wal, .error e⟩
  | .ok m =>
    let start := sealing.wal.startSegment env created_at
    ⟨sealing.effects ++ start.effects, start.wal, start.result.map fun _ => m⟩

def rollover (env : Env) (wal : LocalJsonlWal) (sealed_at now : DateTime) :
    Outcome WalSegmentMetadata :=
  wal.sealAndStart env sealed_at (DateTime.latest now sealed_at)

/-- `seal_current_segment`, with the two clock readings it takes. -/
def sealCurrentSegment (env : Env) (wal : LocalJsonlWal) (now now' : DateTime) :
    Outcome WalSegmentMetadata :=
  if wal.closed then ⟨[], wal, .error .unavailable⟩
  else wal.sealAndStart env now now'

inductive WalAppendResult where
  | appended (record : JournalRecord)
  | rejectedWalUnavailable
  deriving DecidableEq

/-- The record that `append` writes. -/
def newRecord (env : Env) (wal : LocalJsonlWal) (event : EventEnvelope) (ts : DateTime) :
    Except WalError JournalRecord :=
  match event.modelDump with
  | none => .error .serialization
  | some event_json =>
    if h : 0 < (encodeUtf8 (JsonText.encode event_json)).length then
      .ok {
        run_id := wal.config.run_id
        producer_id := wal.config.producer_id
        wal_offset := ⟨wal.next_offset⟩
        event
        recorded_at := ts
        payload_hash := (computePayloadHash env event_json).toTrimmedText
        record_size_bytes := (encodeUtf8 (JsonText.encode event_json)).length
        size_positive := h }
    else .error .validation

/-- The line of a record, with its line feed. -/
def recordLine (record : JournalRecord) : Option Bytes :=
  record.modelDump.map fun j => encodeUtf8 (JsonText.encode j ++ ['\n'])

/-- The WAL after a line of `size` bytes was written for the record at `offset`. -/
def noteAppended (wal : LocalJsonlWal) (size : ℕ) : LocalJsonlWal :=
  { wal with
    next_offset := wal.next_offset + 1
    active_event_count := wal.active_event_count + 1
    active_byte_count := wal.active_byte_count + size
    active_first_offset := some (wal.active_first_offset.getD wal.next_offset)
    active_last_offset := some wal.next_offset }

/-- `append`, with the clock readings for a missing `recorded_at` and for a rollover. -/
def append (env : Env) (wal : LocalJsonlWal) (event : EventEnvelope)
    (recorded_at : Option DateTime) (now now' : DateTime) : Outcome WalAppendResult :=
  if wal.closed then ⟨[], wal, .ok .rejectedWalUnavailable⟩
  else
    let ts := recorded_at.getD now
    match newRecord env wal event ts with
    | .error e => ⟨[], wal, .error e⟩
    | .ok record =>
      match recordLine record, wal.active_file with
      | none, _ => ⟨[], wal, .error .serialization⟩
      | some _, none => ⟨[], wal, .error .closedFile⟩
      | some line, some name =>
        let written := wal.noteAppended line.length
        match written.currentSegmentMetadata with
        | .error e => ⟨[.appendSegment name line], written, .error e⟩
        | .ok m =>
          let effects := .appendSegment name line :: saveMetadata m
          if written.shouldRollover ts then
            let roll := written.rollover env ts now'
            ⟨effects ++ roll.effects, roll.wal, roll.result.map fun _ => .appended record⟩
          else ⟨effects, written, .ok (.appended record)⟩

/-- `close`. A file object that a failed seal closed cannot be flushed. -/
def close (wal : LocalJsonlWal) : Outcome Unit :=
  if wal.closed then ⟨[], wal, .ok ()⟩
  else
    match wal.active_file with
    | some _ => ⟨[], { wal with closed := true, active_file := none }, .ok ()⟩
    | none => ⟨[], { wal with closed := true }, .error .unavailable⟩

/-! Reading through the open WAL. -/

def findMetadata (wal : LocalJsonlWal) (segment_id : WalSegmentId) :
    Except WalError (Option WalSegmentMetadata) := do
  match wal.sealed_meta.find? fun m => m.segment_id = segment_id with
  | some m => .ok (some m)
  | none => do
    let active ← wal.currentSegmentMetadata
    .ok (if active.segment_id = segment_id then some active else none)

def readSegment (env : Env) (wal : LocalJsonlWal) (disk : Disk) (segment_id : WalSegmentId) :
    Except WalError (List JournalRecord) := do
  let m ← wal.findMetadata segment_id
  let (records, _) ← liftCorruption
    (readSegmentRecords env wal.config disk segment_id.value m)
  .ok records

def checkOffsets (expected : ℕ) : List JournalRecord → Except WalCorruption Unit
  | [] => .ok ()
  | record :: records =>
    if record.wal_offset.value ≠ expected then
      .error (.offsetDiscontinuity expected record.wal_offset.value)
    else checkOffsets (expected + 1) records

def iterFrom (env : Env) (wal : LocalJsonlWal) (disk : Disk) (expected : ℕ) :
    List WalSegmentMetadata → Except WalError (List JournalRecord)
  | [] => .ok []
  | m :: segments => do
    let records ← wal.readSegment env disk m.segment_id
    liftCorruption (checkOffsets expected records)
    let rest ← wal.iterFrom env disk (expected + records.length) segments
    .ok (records ++ rest)

/-- `iter_records`, run to its end. -/
def iterRecords (env : Env) (wal : LocalJsonlWal) (disk : Disk) :
    Except WalError (List JournalRecord) :=
  if wal.closed = false ∧ wal.active_file = none then .error .closedFile
  else do
    let segments ← wal.listSegmentMetadata
    wal.iterFrom env disk 0 segments

end LocalJsonlWal

end FuturesBot
