import FuturesBot.CalendarTimes
import FuturesBot.Checks
import FuturesBot.ConfigPayloads
import FuturesBot.DecimalArithmetic
import FuturesBot.FixedPointText
import FuturesBot.Journal
import FuturesBot.PythonJsonReader

/-! The canonical JSON of config payloads, and the snapshots that carry it with its digest. -/
namespace FuturesBot.Configs

open JsonText (Text)
open PythonTexts PythonJson DecimalNumbers Dicts Checks TextLines DateTimes

inductive ConfigSnapshotKind where
  | RUN_CONFIG
  | DATASET_CONFIG
  | FEATURE_CONFIG
  | LABEL_CONFIG
  | BOT_CONFIG
  | DECISION_STACK_CONFIG
  | RISK_CONFIG
  | EXECUTION_CONFIG
  | EVALUATION_CONFIG
  | ENVIRONMENT_CONFIG
  | OTHER
  deriving DecidableEq, Repr

/-- The ValueErrors and the TypeError with their texts, and what the decimal context signals. -/
inductive ConfigError where
  | value (message : String)
  | type (message : String)
  | decimal (signal : DecimalError)
  deriving DecidableEq, Repr

/-- `Decimal.normalize()`: rounded to the context, then without trailing zeros. -/
def normalize (d : Decimal) : Except DecimalError Decimal :=
  (Decimal.fix d).map fun r =>
    if r.coeff = 0 then ⟨r.neg, 0, 0⟩
    else
      let (coeff, exp) := Decimal.stripZeros (Decimal.maxExp - r.exp).toNat r.coeff r.exp
      ⟨r.neg, coeff, exp⟩

def normalize_decimal (value : Decimal) : Except ConfigError Text :=
  match normalize value with
  | .error signal => .error (.decimal signal)
  | .ok normalized =>
    let normalized := if normalized.same ⟨true, 0, 0⟩ then ⟨false, 0, 0⟩ else normalized
    .ok normalized.fixedText

mutual

def normalize_value : ConfigValue → Except ConfigError Value
  | .float => .error (.value "config payloads must not contain floats")
  | .decimal value => (normalize_decimal value).map fun t => .str (ofText t)
  | .nonFinite => .error (.value "Decimal config values must be finite")
  | .null => .ok .null
  | .bool b => .ok (.bool b)
  | .int n => .ok (.int n)
  | .str s => .ok (.str s)
  | .mapping members => (normalize_members [] members).map .dict
  | .tuple items => (normalize_items items).map .list
  | .list items => (normalize_items items).map .list
  | .other type_name => .error (.type ("unsupported config value type: " ++ type_name))

def normalize_items : List ConfigValue → Except ConfigError (List Value)
  | [] => .ok []
  | item :: items => do
    let v ← normalize_value item
    let vs ← normalize_items items
    .ok (v :: vs)

/-- The loop over the items of a mapping, with the dict made so far. -/
def normalize_members (normalized : Members) : ConfigMapping → Except ConfigError Members
  | [] => .ok normalized
  | (.str key, value) :: members => do
    let v ← normalize_value value
    normalize_members (put key v normalized) members
  | (.other, _) :: _ => .error (.value "config mapping keys must be strings")

end

def normalize_mapping (payload : ConfigMapping) : Except ConfigError Members :=
  normalize_members [] payload

def canonicalize (payload : ConfigMapping) : Except ConfigError Text := do
  let normalized ← normalize_mapping payload
  match dumps (.dict normalized) with
  | some t => .ok t
  | none => .error (.value "Exceeds the limit (4300 digits) for integer string conversion")

/-! The model of a snapshot. -/

def contains_decimal (v : Value) : Bool := anywhere isDecimal v

def validate_exact_canonical_json_object (value : Text) (field_name : String) :
    Except ConfigError Unit :=
  match loads value with
  | none => .error (.value (field_name ++ " must be valid JSON"))
  | some (.dict members) =>
    if contains_decimal (.dict members) then
      .error (.value (field_name ++ " must not contain JSON float values"))
    else if dumps (.dict members) = some value then .ok ()
    else .error (.value (field_name ++ " must be exact canonical JSON"))
  | some _ => .error (.value (field_name ++ " must parse as a JSON object"))

/-- The whitespace that `str.strip` takes off. -/
def isSpacePoint (u : CodePoint) : Bool := isSpace (Char.ofNat u.val)

def stripPoints (s : PyText) : PyText := (s.dropWhile isSpacePoint).rdropWhile isSpacePoint

def RequiredText (value : PyText) : Prop := value ≠ [] ∧ value = stripPoints value

instance (value : PyText) : Decidable (RequiredText value) :=
  inferInstanceAs (Decidable (_ ∧ _))

def requiredText (value : PyText) (field_name : String) : Check ConfigError :=
  require (RequiredText value) (.value (field_name ++ " must be a non-empty trimmed string"))

def optionalText (value : Option PyText) (field_name : String) : List (Check ConfigError) :=
  value.toList.map fun s => requiredText s field_name

def sha256Hex (value : Text) (field_name : String) : Check ConfigError :=
  require (value.length = 64 ∧ value.all isHexChar)
    (.value (field_name ++ " must be 64 lowercase hex characters"))

def ensureAwareUtc (t : AwareDateTime) : Except ConfigError DateTime :=
  t.ensureAwareUtc.mapError .value

variable (digest : Bytes → HexDigest)

/-- `hashlib.sha256(text.encode("utf-8")).hexdigest()`. -/
def sha256Text (text : Text) : Text := (digest (encodeUtf8 text)).value.toList

structure ConfigSnapshotFields where
  config_id : PyText
  kind : ConfigSnapshotKind
  created_at : DateTime
  canonical_json : Text
  sha256 : Text
  description : Option PyText

def ConfigSnapshotFields.check (fields : ConfigSnapshotFields) : Except ConfigError Unit := do
  checkAll [requiredText fields.config_id "field",
    requiredText (ofText fields.canonical_json) "field"]
  validate_exact_canonical_json_object fields.canonical_json "canonical_json"
  checkAll (sha256Hex fields.sha256 "sha256" ::
    (optionalText fields.description "description" ++
      [require (fields.sha256 = sha256Text digest fields.canonical_json)
        (.value "sha256 must match canonical_json UTF-8 SHA-256 digest")]))

structure ConfigSnapshot extends ConfigSnapshotFields where
  valid : toConfigSnapshotFields.check digest = .ok ()

def ConfigSnapshot.of (config_id : PyText) (kind : ConfigSnapshotKind) (created_at : AwareDateTime)
    (canonical_json sha256 : Text) (description : Option PyText) :
    Except ConfigError (ConfigSnapshot digest) := do
  let created_at ← ensureAwareUtc created_at
  let fields : ConfigSnapshotFields :=
    ⟨config_id, kind, created_at, canonical_json, sha256, description⟩
  validated (fields.check digest) fun h => ⟨fields, h⟩

/-- `CanonicalConfigFingerprinter.snapshot`. -/
def snapshot (config_id : PyText) (kind : ConfigSnapshotKind) (payload : ConfigMapping)
    (created_at : AwareDateTime) (description : Option PyText) :
    Except ConfigError (ConfigSnapshot digest) := do
  let canonical_json ← canonicalize payload
  ConfigSnapshot.of digest config_id kind created_at canonical_json
    (sha256Text digest canonical_json) description

/-! The other fields of a snapshot, each past its own check. -/

structure SnapshotHeader where
  config_id : PyText
  kind : ConfigSnapshotKind
  created_at : AwareDateTime
  description : Option PyText
  id_required : RequiredText config_id
  created_utc : ∃ utc, created_at.ensureAwareUtc = .ok utc
  description_required : ∀ s ∈ description, RequiredText s

/-- A snapshot is made of the text and its digest. -/
def Accepts (header : SnapshotHeader) (text : Text) : Prop :=
  ∃ made, ConfigSnapshot.of digest header.config_id header.kind header.created_at text
    (sha256Text digest text) header.description = .ok made

theorem requiredText_of_ends {s : PyText} {u v : CodePoint} (hu : s.head? = some u)
    (hv : s.getLast? = some v) (hu' : isSpacePoint u = false) (hv' : isSpacePoint v = false) :
    RequiredText s := by
  obtain ⟨t, rfl⟩ : ∃ t, s = u :: t := by
    cases s with
    | nil => exact absurd hu (by simp)
    | cons u' t => exact ⟨t, by rw [Option.some.inj hu]⟩
  refine ⟨List.cons_ne_nil u t, Eq.symm ?_⟩
  have hdrop : (u :: t).dropWhile isSpacePoint = u :: t := by
    rw [List.dropWhile_cons, if_neg (by rw [hu']; decide)]
  rw [stripPoints, hdrop, List.rdropWhile_eq_self_iff]
  intro hne
  rw [List.getLast?_eq_some_getLast hne] at hv
  rw [Option.some.inj hv, hv']
  decide

theorem requiredText_write {α : Type} {char : Char → α} {body : PyText → List α}
    {point : α → CodePoint}
    (hpoint : ∀ c, point (char c) = codePoint c) (members : Members) :
    RequiredText ((writeWith char body (.dict members)).map point) := by
  obtain ⟨t, ht⟩ := write_dict_ends char body members
  rw [ht]
  apply requiredText_of_ends (u := codePoint '{') (v := codePoint '}')
  · rw [List.map_cons, hpoint]
    rfl
  · rw [← List.cons_append, List.map_append, List.getLast?_append, List.map_singleton, hpoint]
    rfl
  · decide
  · decide

theorem requiredText_encode (members : Members) :
    RequiredText (ofText (encode (.dict members))) := by
  rw [encode_eq_write]
  exact requiredText_write (fun _ => rfl) members

theorem sha256Text_hex (text : Text) :
    (sha256Text digest text).length = 64 ∧ (sha256Text digest text).all isHexChar = true := by
  obtain ⟨hlength, hhex⟩ := (digest (encodeUtf8 text)).hex
  refine ⟨hlength, List.all_eq_true.mpr fun c hc => ?_⟩
  simp only [isHexChar, Bool.or_eq_true, Bool.and_eq_true, decide_eq_true_eq]
  exact hhex c hc

theorem checkAll_optionalText {value : Option PyText} {field_name : String} :
    checkAll (optionalText value field_name) = .ok () ↔ ∀ s ∈ value, RequiredText s := by
  cases value with
  | none => simp [optionalText]
  | some s => simp [optionalText, requiredText]

/-- A text that is the digest of another is one of hexadecimal digits. -/
theorem ConfigSnapshotFields.check_eq_ok {fields : ConfigSnapshotFields} :
    fields.check digest = .ok () ↔ RequiredText fields.config_id ∧
      RequiredText (ofText fields.canonical_json) ∧
      validate_exact_canonical_json_object fields.canonical_json "canonical_json" = .ok () ∧
      (∀ s ∈ fields.description, RequiredText s) ∧
      fields.sha256 = sha256Text digest fields.canonical_json := by
  have hfirst : checkAll [requiredText fields.config_id "field",
      requiredText (ofText fields.canonical_json) "field"] = .ok () ↔
      RequiredText fields.config_id ∧ RequiredText (ofText fields.canonical_json) := by
    simp only [requiredText, checkAll_require, checkAll_nil, and_true]
  have hlast : checkAll (sha256Hex fields.sha256 "sha256" ::
      (optionalText fields.description "description" ++
        [require (fields.sha256 = sha256Text digest fields.canonical_json)
          (.value "sha256 must match canonical_json UTF-8 SHA-256 digest")])) = .ok () ↔
      (fields.sha256.length = 64 ∧ fields.sha256.all isHexChar = true) ∧
        (∀ s ∈ fields.description, RequiredText s) ∧
          fields.sha256 = sha256Text digest fields.canonical_json := by
    simp only [sha256Hex, checkAll_require, checkAll_append, checkAll_nil, and_true,
      checkAll_optionalText]
  rw [check]
  constructor
  · intro h
    obtain ⟨⟨⟩, h₁, h⟩ := bind_eq_ok.mp h
    obtain ⟨⟨⟩, hvalid, h₂⟩ := bind_eq_ok.mp h
    obtain ⟨hid, htext⟩ := hfirst.mp h₁
    exact ⟨hid, htext, hvalid, (hlast.mp h₂).2⟩
  · rintro ⟨hid, htext, hvalid, hdescription, hsha⟩
    have hhex := sha256Text_hex digest fields.canonical_json
    rw [← hsha] at hhex
    exact bind_eq_ok.mpr ⟨(), hfirst.mpr ⟨hid, htext⟩,
      bind_eq_ok.mpr ⟨(), hvalid, hlast.mpr ⟨hhex, hdescription, hsha⟩⟩⟩

end FuturesBot.Configs
