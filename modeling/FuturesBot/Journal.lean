import FuturesBot.Events
import FuturesBot.Dicts

/-! Journal records, the hash over their events, and the metadata of WAL segments. -/
namespace FuturesBot

open JsonText (Json Text)
open JsonCodec TextLines DateTimes

/-- A SHA-256 digest in lower-case hexadecimal. -/
structure HexDigest where
  value : String
  hex : value.toList.length = 64 ∧ ∀ c ∈ value.toList, c.isDigit = true ∨ ('a' ≤ c ∧ c ≤ 'f')
  deriving DecidableEq

def isHexChar (c : Char) : Bool := c.isDigit || ('a' ≤ c && c ≤ 'f')

theorem zeros_hex : (String.ofList (List.replicate 64 '0')).toList.length = 64 ∧
    (String.ofList (List.replicate 64 '0')).toList.all isHexChar = true := by decide +kernel

/-- A digest whose text is checked character by character. -/
def HexDigest.ofText (value : String)
    (h : value.toList.length = 64 ∧ value.toList.all isHexChar = true) : HexDigest where
  value
  hex := by
    refine ⟨h.1, fun c hc => ?_⟩
    have hchar := List.all_eq_true.mp h.2 c hc
    simpa [isHexChar] using hchar

theorem HexDigest.char_cases (d : HexDigest) {c : Char} (hc : c ∈ d.value.toList) :
    48 ≤ c.toNat ∧ c.toNat ≤ 102 := by
  rcases d.hex.2 c hc with h | h
  · simp only [Char.isDigit, Bool.and_eq_true, decide_eq_true_eq] at h
    obtain ⟨h1, h2⟩ := h
    have h1' : (48 : ℕ) ≤ c.toNat := h1
    have h2' : c.toNat ≤ (57 : ℕ) := h2
    omega
  · have h1' : (97 : ℕ) ≤ c.toNat := h.1
    have h2' : c.toNat ≤ (102 : ℕ) := h.2
    omega

theorem HexDigest.ne_nil (d : HexDigest) : d.value.toList ≠ [] := by
  intro hnil
  have hlen := d.hex.1
  rw [hnil] at hlen
  exact absurd hlen (by decide)

theorem HexDigest.no_space (d : HexDigest) {c : Char} (hc : c ∈ d.value.toList) :
    isSpace c = false := by
  have hrange := d.char_cases hc
  simp only [isSpace, Bool.or_eq_false_iff, Bool.and_eq_false_imp, decide_eq_true_eq,
    decide_eq_false_iff_not]
  omega

theorem HexDigest.trimmed (d : HexDigest) : Trimmed d.value.toList :=
  trimmed_of_no_space d.ne_nil fun _ hc => d.no_space hc

def HexDigest.toTrimmedText (d : HexDigest) : TrimmedText := ⟨d.value, d.trimmed⟩

/-- What an id starts with, before its digest. -/
structure IdHead where
  value : String
  plain : value.toList.length ≤ 64 ∧ (value.toList.all fun c => !isSpace c) = true

theorem IdHead.checked {s : String} (h : decide (s.toList.length ≤ 64 ∧
      (s.toList.all fun c => !isSpace c) = true) = true) :
    s.toList.length ≤ 64 ∧ (s.toList.all fun c => !isSpace c) = true :=
  of_decide_eq_true h

def DomainId.ofDigest (head : IdHead) (d : HexDigest) : DomainId where
  value := head.value ++ d.value
  valid := by
    have hlength := d.hex.1
    have hhead := head.plain.1
    rw [String.toList_append, List.length_append]
    refine ⟨trimmed_of_no_space ?_ fun c hc => ?_, by omega⟩
    · exact fun hnil => d.ne_nil (List.append_eq_nil_iff.mp hnil).2
    · rcases List.mem_append.mp hc with hc | hc
      · simpa using List.all_eq_true.mp head.plain.2 c hc
      · exact d.no_space hc

theorem DomainId.ofDigest_inj {head : IdHead} {a b : HexDigest} :
    DomainId.ofDigest head a = DomainId.ofDigest head b ↔ a = b := by
  constructor
  · intro h
    have hvalue : head.value ++ a.value = head.value ++ b.value := congrArg DomainId.value h
    have := (String.append_right_inj head.value).mp hvalue
    cases a
    cases b
    cases this
    rfl
  · rintro rfl
    rfl

/-- What the code takes from outside: the hash function, how deep the JSON reader follows
nested values (deep enough for the models' own objects), and the file names the file system
lets it create. -/
structure Env where
  sha256 : Bytes → HexDigest
  jsonDepth : ℕ
  depth_min : 8 ≤ jsonDepth
  creatable : String → Bool

/-- Reading one JSON document, within the reader's limit on nesting. -/
def Env.parseJson (env : Env) (t : Text) : Option Json :=
  (JsonText.decode t).bind fun j => if j.depth ≤ env.jsonDepth then some j else none

theorem Env.parseJson_encode (env : Env) (j : Json) :
    env.parseJson (JsonText.encode j) = if j.depth ≤ env.jsonDepth then some j else none := by
  rw [parseJson, JsonText.decode_encode, Option.bind_some]

/-- The hash of the canonical JSON of an event, given the JSON it is dumped as. -/
def computePayloadHash (env : Env) (event_json : Json) : HexDigest :=
  env.sha256 (encodeUtf8 (JsonText.canonicalText event_json))

structure JournalRecord where
  run_id : RunId
  producer_id : ProducerId
  wal_offset : WalOffset
  event : EventEnvelope
  recorded_at : DateTime
  payload_hash : TrimmedText
  record_size_bytes : ℕ
  size_positive : 0 < record_size_bytes
  deriving DecidableEq

namespace JournalRecord

/-- The members of a record, with the event as the JSON it is dumped as. -/
def fields : List Field :=
  [required "run_id" domainId, required "producer_id" domainId, required "wal_offset" walOffset,
    required "event" value, required "recorded_at" instant, required "payload_hash" trimmedText,
    required "record_size_bytes" count]

def row (r : JournalRecord) (event : Json) : Row fields :=
  (r.run_id, r.producer_id, r.wal_offset, event, r.recorded_at, r.payload_hash,
    r.record_size_bytes, ())

def modelDump (r : JournalRecord) : Option Json :=
  r.event.modelDump.map fun event => .obj (dumpRow fields (r.row event))

def ofRow (row : Row fields) : Option JournalRecord :=
  match row with
  | (run_id, producer_id, wal_offset, event, recorded_at, payload_hash, record_size_bytes, _) =>
    (EventEnvelope.modelValidate event).bind fun event =>
      if h : 0 < record_size_bytes then
        some ⟨run_id, producer_id, wal_offset, event, recorded_at, payload_hash,
          record_size_bytes, h⟩
      else none

def modelValidate : Json → Option JournalRecord
  | .obj ms => if ∀ m ∈ ms, m.1 ∈ fieldNames fields then (loadRow ms fields).bind ofRow else none
  | _ => none

theorem loadRow_dumpRow (r : JournalRecord) (event : Json) :
    (∀ m ∈ dumpRow fields (r.row event), m.1 ∈ fieldNames fields) ∧
      loadRow (dumpRow fields (r.row event)) fields = some (r.row event) := by
  have hnames := dumpRow_names fields (r.row event)
  refine ⟨fun m hm => ?_, loadRow_of_lookup _ fields (r.row event) fun kv hkv => ?_⟩
  · rw [← hnames]
    exact List.mem_map_of_mem hm
  · exact lookup_of_nodup (by rw [hnames]; decide) hkv

theorem modelValidate_modelDump {r : JournalRecord} {event : Json}
    (hevent : r.event.modelDump = some event) :
    modelValidate (.obj (dumpRow fields (r.row event))) =
      (EventEnvelope.modelValidate event).map fun e => { r with event := e } := by
  obtain ⟨hknown, hrow⟩ := loadRow_dumpRow r event
  rw [modelValidate, if_pos hknown, hrow, Option.bind_some, row, ofRow]
  obtain ⟨e, he⟩ := EventEnvelope.modelValidate_isSome hevent
  rw [he, Option.bind_some, dif_pos r.size_positive, Option.map_some]

/-- A record is read back as itself exactly when its payload is native. -/
theorem modelValidate_eq_iff {r : JournalRecord} {j : Json} (h : r.modelDump = some j) :
    modelValidate j = some r ↔ r.event.Native := by
  obtain ⟨event, hevent, rfl⟩ := Option.map_eq_some_iff.mp h
  rw [modelValidate_modelDump hevent, ← EventEnvelope.modelValidate_eq_iff hevent]
  obtain ⟨e, he⟩ := EventEnvelope.modelValidate_isSome hevent
  rw [he]
  constructor
  · intro hr
    exact congrArg (fun r => r.map JournalRecord.event) hr
  · intro hr
    obtain rfl := Option.some.inj hr
    rfl

end JournalRecord

/-! Segment metadata. -/

inductive WalSegmentStatus where
  | OPEN
  | SEALED
  | PUBLISHED_TO_KAFKA
  | REQUIRED_CONSUMERS_COMMITTED
  | ELIGIBLE_FOR_DELETE
  | ARCHIVED
  | DELETED
  deriving DecidableEq, Repr

def WalSegmentStatus.name : WalSegmentStatus → String
  | .OPEN => "OPEN"
  | .SEALED => "SEALED"
  | .PUBLISHED_TO_KAFKA => "PUBLISHED_TO_KAFKA"
  | .REQUIRED_CONSUMERS_COMMITTED => "REQUIRED_CONSUMERS_COMMITTED"
  | .ELIGIBLE_FOR_DELETE => "ELIGIBLE_FOR_DELETE"
  | .ARCHIVED => "ARCHIVED"
  | .DELETED => "DELETED"

def walSegmentStatus : Codec WalSegmentStatus :=
  enumCodec [.OPEN, .SEALED, .PUBLISHED_TO_KAFKA, .REQUIRED_CONSUMERS_COMMITTED,
    .ELIGIBLE_FOR_DELETE, .ARCHIVED, .DELETED] WalSegmentStatus.name
    (by intro a; cases a <;> decide)

/-- The members of segment metadata, before the check across them. -/
structure SegmentFields where
  segment_id : WalSegmentId
  run_id : RunId
  status : WalSegmentStatus
  offset_range : Option WalOffsetRange
  created_at : DateTime
  sealed_at : Option DateTime
  event_count : ℕ
  payload_bytes : ℕ
  segment_hash : Option TrimmedText
  previous_segment_hash : Option TrimmedText
  deriving DecidableEq

/-- `_validate_status_invariants`. -/
def SegmentFields.Valid (m : SegmentFields) : Prop :=
  (m.status = .OPEN → m.sealed_at = none) ∧
  (m.status ≠ .OPEN → m.sealed_at ≠ none) ∧
  (∀ t ∈ m.sealed_at, m.created_at ≤ t) ∧
  (∀ r ∈ m.offset_range, m.event_count = r.count) ∧
  (m.status = .DELETED → m.sealed_at ≠ none ∧ m.offset_range ≠ none)

instance (m : SegmentFields) : Decidable m.Valid := inferInstanceAs (Decidable (_ ∧ _))

structure WalSegmentMetadata extends SegmentFields where
  valid : toSegmentFields.Valid
  deriving DecidableEq

def WalSegmentMetadata.of (m : SegmentFields) : Option WalSegmentMetadata :=
  if h : m.Valid then some ⟨m, h⟩ else none

def walSegmentMetadata : Codec WalSegmentMetadata :=
  record
    [required "segment_id" domainId, required "run_id" domainId,
      required "status" walSegmentStatus, nullable "offset_range" walOffsetRange nofun,
      required "created_at" instant, nullable "sealed_at" instant nofun,
      ⟨"event_count", ℕ, count, some 0⟩, ⟨"payload_bytes", ℕ, count, some 0⟩,
      nullable "segment_hash" trimmedText nofun,
      nullable "previous_segment_hash" trimmedText nofun] (by decide)
    (fun m => (m.segment_id, m.run_id, m.status, m.offset_range, m.created_at, m.sealed_at,
      m.event_count, m.payload_bytes, m.segment_hash, m.previous_segment_hash, ()))
    (fun (segment_id, run_id, status, offset_range, created_at, sealed_at, event_count,
        payload_bytes, segment_hash, previous_segment_hash, _) =>
      WalSegmentMetadata.of ⟨segment_id, run_id, status, offset_range, created_at, sealed_at,
        event_count, payload_bytes, segment_hash, previous_segment_hash⟩)
    (fun m => dif_pos m.valid)

end FuturesBot
