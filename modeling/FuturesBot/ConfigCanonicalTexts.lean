import FuturesBot.ConfigFingerprint
import FuturesBot.SettledJson

/-! The texts that a snapshot takes for canonical, against those that the fingerprinter writes. -/
namespace FuturesBot.Configs

open JsonText (Text)
open PythonTexts PythonJson DecimalNumbers Dicts Checks TextLines DateTimes

/-- The text is that of a dict without decimals. -/
structure Written (v : Value) (text : Text) : Prop where
  dict : ∃ members, v = .dict members
  no_repeats : anywhere repeatsName v = false
  text : dumps v = some text

theorem no_decimal_of_writable {v : Value} (h : anywhere unwritable v = false) :
    contains_decimal v = false := by
  apply nowhere_mono (q := unwritable) ?_ v h
  intro v hv
  cases v with
  | decimal t => cases hv
  | _ => rfl

theorem validate_canonical_iff {text : Text} {field_name : String} :
    validate_exact_canonical_json_object text field_name = .ok () ↔
      ∃ members, loads text = some (.dict members) ∧ dumps (.dict members) = some text := by
  rw [validate_exact_canonical_json_object]
  split
  · next h => simp [h]
  · next members h =>
    rw [h]
    constructor
    · intro hok
      split at hok
      · cases hok
      · split at hok
        · next hdumps => exact ⟨members, rfl, hdumps⟩
        · cases hok
    · rintro ⟨members', heq, hdumps⟩
      obtain rfl := Value.dict.inj (Option.some.inj heq)
      have hno := no_decimal_of_writable (dumps_eq_some.mp hdumps).1
      rw [if_neg (by rw [hno]; decide), if_pos hdumps]
  · next parsed hparsed h =>
    constructor
    · exact fun hok => nomatch hok
    · rintro ⟨members, heq, -⟩
      rw [h] at heq
      exact absurd (Option.some.inj heq) (hparsed members)

/-- What is read of an accepted text has that text. -/
theorem written_of_valid {text : Text} {field_name : String}
    (h : validate_exact_canonical_json_object text field_name = .ok ()) :
    ∃ v, Written v text := by
  obtain ⟨members, hloads, hdumps⟩ := validate_canonical_iff.mp h
  refine ⟨.dict members, ⟨members, rfl⟩, ?_, hdumps⟩
  obtain ⟨v, -, hv⟩ := Option.map_eq_some_iff.mp hloads
  rw [← hv]
  exact dicts_no_repeats v

/-- A text that was written is accepted exactly when reading it moves no name. -/
theorem Written.valid_iff {v : Value} {text : Text} (h : Written v text) (field_name : String) :
    validate_exact_canonical_json_object text field_name = .ok () ↔
      anywhere movesName v = false := by
  obtain ⟨members, rfl⟩ := h.dict
  rw [validate_canonical_iff, loads_dumps h.text, ← dumps_loads h.text]
  have hdict : ∃ read, dicts (joined (sortKeys (.dict members))) = .dict read := by
    rw [sortKeys, rebuild_dict, joined_dict, dicts, rebuild_dict]
    exact ⟨_, rfl⟩
  obtain ⟨read, hread⟩ := hdict
  rw [hread]
  constructor
  · rintro ⟨members', heq, hdumps⟩
    rw [Option.some.inj heq]
    exact hdumps
  · exact fun hdumps => ⟨read, rfl, hdumps⟩

theorem Written.writable {v : Value} {text : Text} (h : Written v text) :
    anywhere unwritable v = false := (dumps_eq_some.mp h.text).1

/-- The text shows whether a constant stands in the value. -/
theorem Written.constants_iff {v w : Value} {text : Text} (hv : Written v text)
    (hw : Written w text) : anywhere isConstant v = false ↔ anywhere isConstant w = false := by
  have htext : encode (sortKeys v) = encode (sortKeys w) :=
    (dumps_eq_some.mp hv.text).2.trans (dumps_eq_some.mp hw.text).2.symm
  have hread := (encode_eq_iff ((unwritable_ofLeaves.nowhere_sortKeys v).mpr hv.writable)
    ((unwritable_ofLeaves.nowhere_sortKeys w).mpr hw.writable)).mp htext
  rw [← isConstant_ofLeaves.nowhere_sortKeys v, ← isConstant_ofLeaves.nowhere_joined, hread,
    isConstant_ofLeaves.nowhere_joined, isConstant_ofLeaves.nowhere_sortKeys]

/-! What the normalizer makes. -/

/-- What no normalized value has. -/
def impure (v : Value) : Bool := isDecimal v || isConstant v || repeatsName v

theorem pure_dict {members : Members} : anywhere impure (.dict members) = false ↔
    (names members).Nodup ∧ ∀ m ∈ members, anywhere impure m.2 = false := by
  rw [nowhere_dict]
  exact and_congr_left fun _ => repeatsName_dict

theorem pure_list {items : List Value} :
    anywhere impure (.list items) = false ↔ ∀ v ∈ items, anywhere impure v = false := by
  rw [nowhere_list]
  exact and_iff_right rfl

mutual

theorem normalize_value_pure : ∀ (value : ConfigValue) {v : Value},
    normalize_value value = .ok v → anywhere impure v = false
  | .null, _, h => by cases h; rfl
  | .bool _, _, h => by cases h; rfl
  | .int _, _, h => by cases h; rfl
  | .str _, _, h => by cases h; rfl
  | .decimal _, _, h => by
    obtain ⟨t, -, rfl⟩ := map_eq_ok.mp h
    rfl
  | .tuple items, _, h => by
    obtain ⟨vs, hvs, rfl⟩ := map_eq_ok.mp h
    exact pure_list.mpr (normalize_items_pure items hvs)
  | .list items, _, h => by
    obtain ⟨vs, hvs, rfl⟩ := map_eq_ok.mp h
    exact pure_list.mpr (normalize_items_pure items hvs)
  | .mapping members, _, h => by
    obtain ⟨ms, hms, rfl⟩ := map_eq_ok.mp h
    have hempty : (names []).Nodup := List.nodup_nil
    exact pure_dict.mpr (normalize_members_pure members hempty
      (fun _ hm => absurd hm List.not_mem_nil) hms)

theorem normalize_items_pure : ∀ (items : List ConfigValue) {vs : List Value},
    normalize_items items = .ok vs → ∀ v ∈ vs, anywhere impure v = false
  | [], _, h => by
    cases h
    exact fun _ hv => absurd hv List.not_mem_nil
  | item :: items, _, h => by
    obtain ⟨v, hv, h⟩ := bind_eq_ok.mp h
    obtain ⟨vs, hvs, h⟩ := bind_eq_ok.mp h
    cases h
    exact List.forall_mem_cons.mpr
      ⟨normalize_value_pure item hv, normalize_items_pure items hvs⟩

theorem normalize_members_pure : ∀ (members : ConfigMapping) {normalized ms : Members},
    (names normalized).Nodup → (∀ m ∈ normalized, anywhere impure m.2 = false) →
    normalize_members normalized members = .ok ms →
    (names ms).Nodup ∧ ∀ m ∈ ms, anywhere impure m.2 = false
  | [], _, _, hnodup, hpure, h => by
    cases h
    exact ⟨hnodup, hpure⟩
  | (.str key, value) :: members, normalized, _, hnodup, hpure, h => by
    obtain ⟨v, hv, h⟩ := bind_eq_ok.mp h
    refine normalize_members_pure members (put_nodup key v hnodup) ?_ h
    intro m hm
    rcases mem_put hm with rfl | hm
    · exact normalize_value_pure value hv
    · exact hpure m hm

end

/-! Every such value is the normalized form of a payload. -/

mutual

def payloadOf : Value → ConfigValue
  | .null => .null
  | .bool b => .bool b
  | .int n => .int n
  | .constant _ => .float
  | .decimal _ => .nonFinite
  | .str s => .str s
  | .list items => .list (payloadItems items)
  | .dict members => .mapping (payloadMembers members)

def payloadItems : List Value → List ConfigValue
  | [] => []
  | v :: items => payloadOf v :: payloadItems items

def payloadMembers : Members → ConfigMapping
  | [] => []
  | (k, v) :: members => (.str k, payloadOf v) :: payloadMembers members

end

theorem normalize_payloadItems {items : List Value}
    (h : ∀ v ∈ items, normalize_value (payloadOf v) = .ok v) :
    normalize_items (payloadItems items) = .ok items := by
  induction items with
  | nil => rfl
  | cons v items ih =>
    obtain ⟨hv, hitems⟩ := List.forall_mem_cons.mp h
    rw [payloadItems, normalize_items, hv, ih hitems]
    rfl

theorem normalize_payloadMembers {members : Members} :
    ∀ normalized : Members, (names (normalized ++ members)).Nodup →
      (∀ m ∈ members, normalize_value (payloadOf m.2) = .ok m.2) →
      normalize_members normalized (payloadMembers members) = .ok (normalized ++ members) := by
  induction members with
  | nil =>
    intro normalized _ _
    rw [payloadMembers, normalize_members, List.append_nil]
  | cons m members ih =>
    intro normalized hnodup h
    obtain ⟨hm, hmembers⟩ := List.forall_mem_cons.mp h
    have hnew : m.1 ∉ normalized.map (·.1) := by
      intro hold
      rw [names, List.map_append, List.nodup_append'] at hnodup
      exact hnodup.2.2 hold List.mem_cons_self
    have happ : normalized ++ m :: members = (normalized ++ [m]) ++ members := by
      rw [List.append_assoc, List.singleton_append]
    have hstep : normalize_members normalized (payloadMembers (m :: members)) =
        normalize_members (put m.1 m.2 normalized) (payloadMembers members) := by
      rw [payloadMembers, normalize_members, hm]
      rfl
    rw [hstep, put_of_new m.2 hnew, happ]
    exact ih _ (happ ▸ hnodup) hmembers

theorem normalize_payloadOf {v : Value} (h : anywhere impure v = false) :
    normalize_value (payloadOf v) = .ok v := by
  induction v using Value.induct with
  | null => rfl
  | bool b => rfl
  | int n => rfl
  | constant c => cases h
  | decimal t => cases h
  | str s => rfl
  | list items ih =>
    have hitems := normalize_payloadItems fun v hv => ih v hv (pure_list.mp h v hv)
    rw [payloadOf, normalize_value, hitems]
    rfl
  | dict members ih =>
    obtain ⟨hnodup, hparts⟩ := pure_dict.mp h
    have hmembers := normalize_payloadMembers [] hnodup fun m hm => ih m hm (hparts m hm)
    rw [payloadOf, normalize_value, hmembers]
    rfl

theorem payloadItems_eq (items : List Value) : payloadItems items = items.map payloadOf := by
  induction items with
  | nil => rfl
  | cons v items ih => rw [payloadItems, List.map_cons, ih]

theorem payloadMembers_eq (members : Members) :
    payloadMembers members = members.map fun m => (.str m.1, payloadOf m.2) := by
  induction members with
  | nil => rfl
  | cons m members ih => rw [payloadMembers, List.map_cons, ih]

theorem strNames_payloadMembers (members : Members) :
    strNames (payloadMembers members) = names members := by
  rw [strNames, payloadMembers_eq, List.filterMap_map, names]
  exact congrFun List.filterMap_eq_map' members

theorem payloadOf_distinct {v : Value} (h : anywhere repeatsName v = false) :
    (payloadOf v).anywhere repeatsKey = false := by
  induction v using Value.induct with
  | list items ih =>
    rw [payloadOf, payloadItems_eq, ConfigValue.nowhere_list]
    refine ⟨rfl, fun w hw => ?_⟩
    obtain ⟨v, hv, rfl⟩ := List.mem_map.mp hw
    exact ih v hv ((nowhere_list.mp h).2 v hv)
  | dict members ih =>
    obtain ⟨hself, hparts⟩ := nowhere_dict.mp h
    rw [payloadOf, ConfigValue.nowhere_mapping, repeatsKey_mapping, strNames_payloadMembers]
    refine ⟨repeatsName_dict.mp hself, fun n hn => ?_⟩
    rw [payloadMembers_eq] at hn
    obtain ⟨m, hm, rfl⟩ := List.mem_map.mp hn
    exact ih m hm (hparts m hm)
  | _ => rfl

theorem canonicalize_eq_ok {payload : ConfigMapping} {text : Text} :
    canonicalize payload = .ok text ↔
      ∃ members, normalize_mapping payload = .ok members ∧ dumps (.dict members) = some text := by
  rw [canonicalize, bind_eq_ok]
  apply exists_congr
  intro members
  apply and_congr_right
  intro _
  cases dumps (.dict members) <;> simp

theorem normalize_mapping_pure {payload : ConfigMapping} {members : Members}
    (h : normalize_mapping payload = .ok members) : anywhere impure (.dict members) = false := by
  have hvalue : normalize_value (.mapping payload) = .ok (.dict members) := by
    rw [normalize_value]
    exact congrArg (Except.map Value.dict) h
  exact normalize_value_pure _ hvalue

theorem nowhere_impure (v : Value) : anywhere impure v = false ↔
    (anywhere isDecimal v = false ∧ anywhere isConstant v = false) ∧
      anywhere repeatsName v = false := by
  rw [← nowhere_or, ← nowhere_or]
  exact Iff.rfl

/-- The fingerprinter writes exactly the texts of dicts without decimals and constants. -/
theorem canonical_iff {text : Text} :
    (∃ payload : ConfigPayload, canonicalize payload.members = .ok text) ↔
      ∃ v, Written v text ∧ anywhere isConstant v = false := by
  constructor
  · rintro ⟨payload, h⟩
    obtain ⟨members, hnormal, hdumps⟩ := canonicalize_eq_ok.mp h
    obtain ⟨⟨-, hconstant⟩, hrepeats⟩ :=
      (nowhere_impure _).mp (normalize_mapping_pure hnormal)
    exact ⟨.dict members, ⟨⟨members, rfl⟩, hrepeats, hdumps⟩, hconstant⟩
  · rintro ⟨v, h, hconstant⟩
    have hpure : anywhere impure v = false := (nowhere_impure v).mpr
      ⟨⟨no_decimal_of_writable h.writable, hconstant⟩, h.no_repeats⟩
    obtain ⟨members, rfl⟩ := h.dict
    obtain ⟨hnodup, hparts⟩ := pure_dict.mp hpure
    have hnormal := normalize_payloadMembers [] hnodup fun m hm =>
      normalize_payloadOf (hparts m hm)
    have hdistinct := payloadOf_distinct h.no_repeats
    rw [payloadOf] at hdistinct
    exact ⟨⟨payloadMembers members, hdistinct⟩,
      canonicalize_eq_ok.mpr ⟨members, hnormal, h.text⟩⟩

/-! Snapshots. -/

variable (digest : Bytes → HexDigest)

/-- Past the checks of the other fields, what counts is the check of the text. -/
theorem accepts_iff (header : SnapshotHeader) (text : Text) :
    Accepts digest header text ↔
      validate_exact_canonical_json_object text "canonical_json" = .ok () := by
  obtain ⟨utc, hutc⟩ := header.created_utc
  have hcreated : ensureAwareUtc header.created_at = .ok utc := by
    rw [ensureAwareUtc, hutc]
    rfl
  rw [Accepts]
  constructor
  · rintro ⟨made, h⟩
    obtain ⟨created_at, -, h⟩ := bind_eq_ok.mp h
    obtain ⟨hcheck, -⟩ := validated_eq_ok.mp h
    exact ((ConfigSnapshotFields.check_eq_ok digest).mp hcheck).2.2.1
  · intro hvalid
    obtain ⟨members, -, hdumps⟩ := validate_canonical_iff.mp hvalid
    have hrequired : RequiredText (ofText text) := by
      obtain ⟨-, rfl⟩ := dumps_eq_some.mp hdumps
      rw [sortKeys, rebuild_dict]
      exact requiredText_encode _
    have hcheck : ConfigSnapshotFields.check digest ⟨header.config_id, header.kind, utc, text,
        sha256Text digest text, header.description⟩ = .ok () :=
      (ConfigSnapshotFields.check_eq_ok digest).mpr
        ⟨header.id_required, hrequired, hvalid, header.description_required, rfl⟩
    exact ⟨⟨_, hcheck⟩, bind_eq_ok.mpr ⟨utc, hcreated, validated_eq_ok.mpr ⟨hcheck, rfl⟩⟩⟩

/-- A snapshot takes exactly the texts of the fingerprinter, but for the texts of dicts in which a
constant stands and reading moves no name, and of those in which none stands and a name moves. -/
theorem accepted_iff_canonical (header : SnapshotHeader) (text : Text) :
    (Accepts digest header text ↔
        ∃ payload : ConfigPayload, canonicalize payload.members = .ok text) ↔
      ∀ v, Written v text → (anywhere isConstant v = true ↔ anywhere movesName v = true) := by
  rw [accepts_iff, canonical_iff]
  constructor
  · intro h v hv
    rw [hv.valid_iff] at h
    have hcanonical : (∃ w, Written w text ∧ anywhere isConstant w = false) ↔
        anywhere isConstant v = false :=
      ⟨fun ⟨w, hw, hconstant⟩ => (hw.constants_iff hv).mp hconstant, fun h => ⟨v, hv, h⟩⟩
    rw [hcanonical] at h
    rw [← Bool.not_eq_false, ← Bool.not_eq_false, h]
  · intro h
    constructor
    · intro hvalid
      obtain ⟨v, hv⟩ := written_of_valid hvalid
      have hmoves := (hv.valid_iff _).mp hvalid
      refine ⟨v, hv, Bool.eq_false_of_not_eq_true fun hconstant => ?_⟩
      rw [(h v hv).mp hconstant] at hmoves
      cases hmoves
    · rintro ⟨v, hv, hconstant⟩
      refine (hv.valid_iff _).mpr (Bool.eq_false_of_not_eq_true fun hmoves => ?_)
      rw [(h v hv).mpr hmoves] at hconstant
      cases hconstant

/-! A constant is taken, and a pair of names that are read as one is not. -/

theorem sampleClock_ok : 3 < 24 ∧ 4 < 60 ∧ 5 < 60 ∧ 6 < 1000000 := by decide

theorem none_required : ∀ d ∈ (none : Option PyText), RequiredText d := nofun

def sampleHeader : SnapshotHeader where
  config_id := ofText "config".toList
  kind := .RUN_CONFIG
  created_at := ⟨⟨2026, 1, 2, 3, 4, 5, 6, sampleTime.date_ok, sampleClock_ok⟩, some 0, by decide⟩
  description := none
  id_required := by decide +kernel
  created_utc := ⟨⟨2026, 1, 2, 3, 4, 5, 6, sampleTime.date_ok, sampleClock_ok⟩,
    AwareDateTime.ensureAwareUtc_eq_ok.mpr (by simp [AwareDateTime.instant])⟩
  description_required := none_required

def zeroDigest : HexDigest := .ofText (String.ofList (List.replicate 64 '0')) zeros_hex

def constantText : Text := "\x7b\"a\":NaN\x7d".toList

def constantValue : Value := .dict [(ofText ['a'], .constant .nan)]

/-- The two surrogates of one character, and that character. -/
def splitPayload : ConfigPayload where
  members := [(.str [0xD83D, 0xDE00], .int 1), (.str [0x1F600], .int 2)]
  distinct := by decide +kernel

def splitText : Text := "\x7b\"\\ud83d\\ude00\":1,\"\\ud83d\\ude00\":2\x7d".toList

theorem constantText_written : Written constantValue constantText where
  dict := ⟨_, rfl⟩
  no_repeats := by decide +kernel
  text := by decide +kernel

theorem constant_accepted_split_refused :
    (Accepts (fun _ => zeroDigest) sampleHeader constantText ∧
      ¬ ∃ payload : ConfigPayload, canonicalize payload.members = .ok constantText) ∧
    (¬ Accepts (fun _ => zeroDigest) sampleHeader splitText ∧
      ∃ payload : ConfigPayload, canonicalize payload.members = .ok splitText) := by
  refine ⟨⟨?_, ?_⟩, ?_, splitPayload, by decide +kernel⟩
  · rw [accepts_iff, constantText_written.valid_iff]
    decide +kernel
  · rw [canonical_iff]
    rintro ⟨v, hv, hconstant⟩
    have hnone := (hv.constants_iff constantText_written).mp hconstant
    exact absurd hnone (by decide +kernel)
  · rw [accepts_iff]
    decide +kernel

end FuturesBot.Configs
