import FuturesBot.ConfigEquality
import FuturesBot.ReplayStateMachine

/-! Bundles of config snapshots: what the fingerprinter builds, and what the model of a bundle
takes. Both write the entries in an order of their own. -/
namespace FuturesBot.Configs

open JsonText (Text)
open PythonTexts PythonJson DecimalNumbers Dicts Checks KeySorting TextLines DateTimes

def ConfigSnapshotKind.value : ConfigSnapshotKind → Text
  | .RUN_CONFIG => "RUN_CONFIG".toList
  | .DATASET_CONFIG => "DATASET_CONFIG".toList
  | .FEATURE_CONFIG => "FEATURE_CONFIG".toList
  | .LABEL_CONFIG => "LABEL_CONFIG".toList
  | .BOT_CONFIG => "BOT_CONFIG".toList
  | .DECISION_STACK_CONFIG => "DECISION_STACK_CONFIG".toList
  | .RISK_CONFIG => "RISK_CONFIG".toList
  | .EXECUTION_CONFIG => "EXECUTION_CONFIG".toList
  | .EVALUATION_CONFIG => "EVALUATION_CONFIG".toList
  | .ENVIRONMENT_CONFIG => "ENVIRONMENT_CONFIG".toList
  | .OTHER => "OTHER".toList

structure ConfigBundleEntry where
  config_id : PyText
  sha256 : Text
  kind : ConfigSnapshotKind
  deriving DecidableEq

def ConfigBundleEntry.of (config_id : PyText) (sha256 : Text) (kind : ConfigSnapshotKind) :
    Except ConfigError ConfigBundleEntry := do
  checkAll [requiredText config_id "config_id", sha256Hex sha256 "sha256"]
  .ok ⟨config_id, sha256, kind⟩

/-- The key that the model of a bundle sorts by: id, kind and digest. -/
def ConfigBundleEntry.key (e : ConfigBundleEntry) : List PyText :=
  [e.config_id, ofText e.kind.value, ofText e.sha256]

/-! The names of the JSON. -/

def entriesName : PyText := ofText "entries".toList

def configIdName : PyText := ofText "config_id".toList

def kindName : PyText := ofText "kind".toList

def sha256Name : PyText := ofText "sha256".toList

def entryValue (e : ConfigBundleEntry) : Value :=
  .dict [(configIdName, .str e.config_id), (kindName, .str (ofText e.kind.value)),
    (sha256Name, .str (ofText e.sha256))]

def entriesValue (entries : List ConfigBundleEntry) : Value :=
  .dict [(entriesName, .list (entries.map entryValue))]

/-- `_canonical_config_bundle_json`. -/
def canonical_config_bundle_json (entries : List ConfigBundleEntry) : Option Text :=
  dumps (entriesValue (sortBy ConfigBundleEntry.key entries))

variable (digest : Bytes → HexDigest)

structure ConfigBundleFields where
  bundle_id : PyText
  created_at : DateTime
  entries : List ConfigBundleEntry
  canonical_json : Text
  sha256 : Text
  description : Option PyText

def ConfigBundleFields.check (fields : ConfigBundleFields) : Except ConfigError Unit := do
  checkAll [requiredText fields.bundle_id "field",
    require (fields.entries ≠ []) (.value "entries must be non-empty"),
    require (fields.entries.map (·.config_id)).Nodup
      (.value "duplicate config_id values are not allowed"),
    requiredText (ofText fields.canonical_json) "field"]
  validate_exact_canonical_json_object fields.canonical_json "canonical_json"
  checkAll (sha256Hex fields.sha256 "sha256" ::
    (optionalText fields.description "description" ++
      [require (some fields.canonical_json = canonical_config_bundle_json fields.entries)
        (.value "canonical_json must match deterministic ConfigBundle entries"),
      require (fields.sha256 = sha256Text digest fields.canonical_json)
        (.value "sha256 must match canonical_json UTF-8 SHA-256 digest")]))

structure ConfigBundle extends ConfigBundleFields where
  valid : toConfigBundleFields.check digest = .ok ()

def ConfigBundle.of (bundle_id : PyText) (created_at : AwareDateTime)
    (entries : List ConfigBundleEntry) (canonical_json sha256 : Text)
    (description : Option PyText) : Except ConfigError (ConfigBundle digest) := do
  let created_at ← ensureAwareUtc created_at
  let fields : ConfigBundleFields :=
    ⟨bundle_id, created_at, entries, canonical_json, sha256, description⟩
  validated (fields.check digest) fun h => ⟨fields, h⟩

/-! The builder. -/

def entryPayload (e : ConfigBundleEntry) : ConfigValue :=
  .mapping [(.str configIdName, .str e.config_id), (.str kindName, .str (ofText e.kind.value)),
    (.str sha256Name, .str (ofText e.sha256))]

def bundlePayload (entries : List ConfigBundleEntry) : ConfigMapping :=
  [(.str entriesName, .list (entries.map entryPayload))]

def bundleChecks (snapshots : List (ConfigSnapshot digest)) : Except ConfigError Unit :=
  checkAll [require (snapshots ≠ []) (.value "snapshots must be non-empty"),
    require (snapshots.map (·.config_id)).Nodup
      (.value "duplicate config_id values are not allowed")]

/-- `CanonicalConfigFingerprinter.bundle`. -/
def bundle (bundle_id : PyText) (snapshots : List (ConfigSnapshot digest))
    (created_at : AwareDateTime) (description : Option PyText) :
    Except ConfigError (ConfigBundle digest) := do
  bundleChecks digest snapshots
  let entries ← buildAll (fun s => ConfigBundleEntry.of s.config_id s.sha256 s.kind)
    (sortBy (·.config_id) snapshots)
  let canonical_json ← canonicalize (bundlePayload entries)
  ConfigBundle.of digest bundle_id created_at entries canonical_json
    (sha256Text digest canonical_json) description

/-! The texts of entries. -/

theorem bundlePayload_eq (entries : List ConfigBundleEntry) :
    bundlePayload entries = payloadMembers [(entriesName, .list (entries.map entryValue))] := by
  have hentry : payloadOf ∘ entryValue = entryPayload := by
    funext e
    rfl
  rw [payloadMembers, payloadOf, payloadItems_eq, List.map_map, hentry]
  rfl

/-- A property that no entry has, and not the list of them. -/
theorem nowhere_entriesValue {p : Value → Bool} (hlist : ∀ vs, p (.list vs) = false)
    (hstr : ∀ s, p (.str s) = false) (hdict : ∀ v, p (.dict [(entriesName, v)]) = false)
    (hentry : ∀ a b c, p (.dict [(configIdName, a), (kindName, b), (sha256Name, c)]) = false)
    (entries : List ConfigBundleEntry) : anywhere p (entriesValue entries) = false := by
  rw [entriesValue, nowhere_dict]
  refine ⟨hdict _, List.forall_mem_singleton.mpr (nowhere_list.mpr ⟨hlist _, ?_⟩)⟩
  intro v hv
  obtain ⟨e, -, rfl⟩ := List.mem_map.mp hv
  rw [entryValue, nowhere_dict]
  exact ⟨hentry _ _ _, List.forall_mem_cons.mpr ⟨hstr _, List.forall_mem_cons.mpr ⟨hstr _,
    List.forall_mem_singleton.mpr (hstr _)⟩⟩⟩

theorem entriesValue_ordered (entries : List ConfigBundleEntry) :
    anywhere disordered (entriesValue entries) = false := by
  apply nowhere_entriesValue
  · exact fun _ => rfl
  · exact fun _ => rfl
  · intro v
    rw [disordered_dict]
    exact ⟨List.nodup_singleton _, List.pairwise_singleton _ _⟩
  · intro a b c
    rw [disordered_dict]
    change [configIdName, kindName, sha256Name].Nodup ∧
      SortedBy id [configIdName, kindName, sha256Name]
    decide +kernel

theorem entriesValue_moves_none (entries : List ConfigBundleEntry) :
    anywhere movesName (entriesValue entries) = false := by
  apply nowhere_entriesValue
  · exact fun _ => rfl
  · exact fun _ => rfl
  · intro v
    rw [movesName_dict]
    change ((sortBy id [entriesName]).map join).Nodup ∧
      SortedBy id ((sortBy id [entriesName]).map join)
    decide +kernel
  · intro a b c
    rw [movesName_dict]
    change ((sortBy id [configIdName, kindName, sha256Name]).map join).Nodup ∧
      SortedBy id ((sortBy id [configIdName, kindName, sha256Name]).map join)
    decide +kernel

theorem entriesValue_writable (entries : List ConfigBundleEntry) :
    anywhere unwritable (entriesValue entries) = false :=
  nowhere_entriesValue (fun _ => rfl) (fun _ => rfl) (fun _ => rfl) (fun _ _ _ => rfl) entries

theorem entriesValue_pure (entries : List ConfigBundleEntry) :
    anywhere impure (entriesValue entries) = false := by
  rw [nowhere_impure]
  refine ⟨⟨?_, ?_⟩, apart_of_ordered (entriesValue_ordered entries)⟩
  · exact nowhere_entriesValue (fun _ => rfl) (fun _ => rfl) (fun _ => rfl) (fun _ _ _ => rfl) _
  · exact nowhere_entriesValue (fun _ => rfl) (fun _ => rfl) (fun _ => rfl) (fun _ _ _ => rfl) _

/-- The text of entries in the order given. -/
def entriesText (entries : List ConfigBundleEntry) : Text := encode (entriesValue entries)

theorem dumps_entries (entries : List ConfigBundleEntry) :
    dumps (entriesValue entries) = some (entriesText entries) := by
  rw [dumps_eq_some, sortKeys_eq_self (entriesValue_ordered entries)]
  exact ⟨entriesValue_writable entries, rfl⟩

/-- The builder writes the text of the entries as it has them. -/
theorem canonicalize_bundlePayload (entries : List ConfigBundleEntry) :
    canonicalize (bundlePayload entries) = .ok (entriesText entries) := by
  obtain ⟨hnodup, hparts⟩ := pure_dict.mp (entriesValue_pure entries)
  have hnormal := normalize_payloadMembers [] hnodup fun m hm => normalize_payloadOf (hparts m hm)
  rw [canonicalize_eq_ok, bundlePayload_eq]
  exact ⟨_, hnormal, dumps_entries entries⟩

/-! Entries that look alike in JSON. -/

theorem ConfigSnapshotKind.value_injective : Function.Injective ConfigSnapshotKind.value := by
  intro a b h
  cases a <;> cases b <;> first | rfl | exact absurd h (by decide)

/-- Entries of one kind and digest, whose ids are read as one. -/
def EntryAlike (e f : ConfigBundleEntry) : Prop :=
  join e.config_id = join f.config_id ∧ e.kind = f.kind ∧ e.sha256 = f.sha256

theorem joined_entryValue_iff {e f : ConfigBundleEntry} :
    joined (entryValue e) = joined (entryValue f) ↔ EntryAlike e f := by
  have hjoined : ∀ e : ConfigBundleEntry, joined (entryValue e) =
      .dict [(join configIdName, .str (join e.config_id)),
        (join kindName, .str (join (ofText e.kind.value))),
        (join sha256Name, .str (join (ofText e.sha256)))] := fun e => joined_dict _
  rw [hjoined, hjoined, Value.dict.injEq]
  simp only [List.cons.injEq, Prod.mk.injEq, Value.str.injEq, true_and, and_true, joined_text_iff,
    ConfigSnapshotKind.value_injective.eq_iff]
  exact Iff.rfl

/-- The text tells the entries in their order, up to ids that are read as one. -/
theorem entriesText_eq_iff {l m : List ConfigBundleEntry} :
    entriesText l = entriesText m ↔ List.Forall₂ EntryAlike l m := by
  have hjoined : ∀ l, joined (entriesValue l) =
      .dict [(join entriesName, .list (l.map fun e => joined (entryValue e)))] := by
    intro l
    rw [entriesValue, joined_dict, List.map_cons, List.map_nil, joined_list, List.map_map]
    rfl
  rw [entriesText, entriesText, encode_eq_iff (entriesValue_writable l) (entriesValue_writable m),
    hjoined, hjoined]
  simp only [Value.dict.injEq, List.cons.injEq, Prod.mk.injEq, Value.list.injEq, true_and, and_true]
  rw [← List.forall₂_eq_eq_eq, List.forall₂_map_left_iff, List.forall₂_map_right_iff]
  simp only [joined_entryValue_iff]

/-! What a bundle is. -/

theorem entry_key_inj {e f : ConfigBundleEntry} (h : e.key = f.key) : e = f := by
  obtain ⟨hid, hrest⟩ := List.cons.inj h
  obtain ⟨hkind, hrest⟩ := List.cons.inj hrest
  have hsha := ofText_injective (List.cons.inj hrest).1
  have hkind' := ConfigSnapshotKind.value_injective (ofText_injective hkind)
  cases e
  cases f
  cases hid
  cases hkind'
  cases hsha
  rfl

theorem sorted_entries_eq_iff {l m : List ConfigBundleEntry} :
    sortBy ConfigBundleEntry.key l = sortBy ConfigBundleEntry.key m ↔ l.Perm m := by
  constructor
  · intro h
    exact (sortBy_perm _ l).symm.trans (h ▸ sortBy_perm _ m)
  · exact fun h => sortBy_perm_eq _ h fun e _ f _ => entry_key_inj

/-- With ids of their own, entries sorted by their ids are sorted by all. -/
theorem sorted_by_id {entries : List ConfigBundleEntry}
    (hnodup : (entries.map (·.config_id)).Nodup) (hsorted : SortedBy (·.config_id) entries) :
    sortBy ConfigBundleEntry.key entries = entries := by
  rw [sortBy_eq_self]
  have hne : entries.Pairwise fun e f => e.config_id ≠ f.config_id := List.pairwise_map.mp hnodup
  refine (hsorted.and hne).imp fun {e f} h => ?_
  have hlt : e.config_id < f.config_id := lt_of_le_of_ne h.1 h.2
  exact le_of_lt (List.cons_lt_cons_iff.mpr (.inl hlt))

/-- The text of entries is one that the model takes. -/
theorem entriesText_valid (entries : List ConfigBundleEntry) (field_name : String) :
    validate_exact_canonical_json_object (entriesText entries) field_name = .ok () := by
  have hwritten : Written (entriesValue entries) (entriesText entries) :=
    ⟨⟨_, rfl⟩, apart_of_ordered (entriesValue_ordered entries), dumps_entries entries⟩
  exact (hwritten.valid_iff field_name).mpr (entriesValue_moves_none entries)

theorem entriesText_required (entries : List ConfigBundleEntry) :
    RequiredText (ofText (entriesText entries)) := requiredText_encode _

theorem ConfigBundleFields.check_eq_ok {fields : ConfigBundleFields} :
    fields.check digest = .ok () ↔
      (RequiredText fields.bundle_id ∧ fields.entries ≠ [] ∧
        (fields.entries.map (·.config_id)).Nodup) ∧
      (∀ s ∈ fields.description, RequiredText s) ∧
      fields.canonical_json = entriesText (sortBy ConfigBundleEntry.key fields.entries) ∧
      fields.sha256 = sha256Text digest fields.canonical_json := by
  have hfirst : checkAll [requiredText fields.bundle_id "field",
      require (fields.entries ≠ []) (.value "entries must be non-empty"),
      require (fields.entries.map (·.config_id)).Nodup
        (.value "duplicate config_id values are not allowed"),
      requiredText (ofText fields.canonical_json) "field"] = .ok () ↔
      RequiredText fields.bundle_id ∧ fields.entries ≠ [] ∧
        (fields.entries.map (·.config_id)).Nodup ∧
          RequiredText (ofText fields.canonical_json) := by
    simp only [requiredText, checkAll_require, checkAll_nil, and_true]
  have hlast : checkAll (sha256Hex fields.sha256 "sha256" ::
      (optionalText fields.description "description" ++
        [require (some fields.canonical_json = canonical_config_bundle_json fields.entries)
          (.value "canonical_json must match deterministic ConfigBundle entries"),
        require (fields.sha256 = sha256Text digest fields.canonical_json)
          (.value "sha256 must match canonical_json UTF-8 SHA-256 digest")])) = .ok () ↔
      (fields.sha256.length = 64 ∧ fields.sha256.all isHexChar = true) ∧
        (∀ s ∈ fields.description, RequiredText s) ∧
          fields.canonical_json = entriesText (sortBy ConfigBundleEntry.key fields.entries) ∧
            fields.sha256 = sha256Text digest fields.canonical_json := by
    simp only [sha256Hex, checkAll_require, checkAll_append, checkAll_nil, and_true,
      checkAll_optionalText, canonical_config_bundle_json, dumps_entries, Option.some.injEq]
  rw [check]
  constructor
  · intro h
    obtain ⟨⟨⟩, h₁, h⟩ := bind_eq_ok.mp h
    obtain ⟨⟨⟩, -, h₂⟩ := bind_eq_ok.mp h
    obtain ⟨hid, hne, hnodup, -⟩ := hfirst.mp h₁
    exact ⟨⟨hid, hne, hnodup⟩, (hlast.mp h₂).2⟩
  · rintro ⟨⟨hid, hne, hnodup⟩, hdescription, htext, hsha⟩
    have hrequired : RequiredText (ofText fields.canonical_json) := by
      rw [htext]
      exact entriesText_required _
    have hvalid :
        validate_exact_canonical_json_object fields.canonical_json "canonical_json" = .ok () := by
      rw [htext]
      exact entriesText_valid _ _
    have hhex := sha256Text_hex digest fields.canonical_json
    rw [← hsha] at hhex
    exact bind_eq_ok.mpr ⟨(), hfirst.mpr ⟨hid, hne, hnodup, hrequired⟩,
      bind_eq_ok.mpr ⟨(), hvalid, hlast.mpr ⟨hhex, hdescription, htext, hsha⟩⟩⟩

namespace ConfigBundle

variable {digest}

theorem canonical_json_eq (b : ConfigBundle digest) :
    b.canonical_json = entriesText (sortBy ConfigBundleEntry.key b.entries) :=
  ((ConfigBundleFields.check_eq_ok digest).mp b.valid).2.2.1

theorem sha256_eq (b : ConfigBundle digest) : b.sha256 = sha256Text digest b.canonical_json :=
  ((ConfigBundleFields.check_eq_ok digest).mp b.valid).2.2.2

/-- The same triples of id, kind and digest, in some order. -/
def SameEntries (a b : ConfigBundle digest) : Prop := a.entries.Perm b.entries

/-- The same triples, in order of their ids, but for ids that are read as one. -/
def EntriesAlike (a b : ConfigBundle digest) : Prop :=
  List.Forall₂ EntryAlike (sortBy ConfigBundleEntry.key a.entries)
    (sortBy ConfigBundleEntry.key b.entries)

theorem SameEntries.alike {a b : ConfigBundle digest} (h : a.SameEntries b) :
    a.EntriesAlike b := by
  rw [EntriesAlike, sorted_entries_eq_iff.mpr h, List.forall₂_same]
  exact fun e _ => ⟨rfl, rfl, rfl⟩

end ConfigBundle

/-! Fingerprints. -/

theorem sha256Text_eq_iff {t u : Text} (hfree : Set.InjOn digest {encodeUtf8 t, encodeUtf8 u}) :
    sha256Text digest t = sha256Text digest u ↔ t = u := by
  constructor
  · intro h
    have hdigest : digest (encodeUtf8 t) = digest (encodeUtf8 u) :=
      Replay.HexDigest.ext (String.toList_inj.mp h)
    exact encodeUtf8_injective (hfree (.inl rfl) (.inr rfl) hdigest)
  · exact congrArg _

theorem ConfigBundle.sha256_eq_iff {a b : ConfigBundle digest}
    (hfree : Set.InjOn digest {encodeUtf8 a.canonical_json, encodeUtf8 b.canonical_json}) :
    a.sha256 = b.sha256 ↔ a.EntriesAlike b := by
  rw [a.sha256_eq, b.sha256_eq, sha256Text_eq_iff digest hfree, a.canonical_json_eq,
    b.canonical_json_eq, entriesText_eq_iff, EntriesAlike]

/-! The builder and the model agree. -/

/-- The triple of a snapshot. -/
def ConfigSnapshot.entry {digest : Bytes → HexDigest} (s : ConfigSnapshot digest) :
    ConfigBundleEntry := ⟨s.config_id, s.sha256, s.kind⟩

theorem ConfigSnapshot.entry_ok (s : ConfigSnapshot digest) :
    ConfigBundleEntry.of s.config_id s.sha256 s.kind = .ok s.entry := by
  obtain ⟨hid, -, -, -, hsha⟩ := (ConfigSnapshotFields.check_eq_ok digest).mp s.valid
  have hhex := sha256Text_hex digest s.canonical_json
  rw [← hsha] at hhex
  have hcheck : checkAll [requiredText s.config_id "config_id", sha256Hex s.sha256 "sha256"] =
      .ok () := by
    simp only [requiredText, sha256Hex, checkAll_require, checkAll_nil, and_true]
    exact ⟨hid, hhex⟩
  rw [ConfigBundleEntry.of, hcheck]
  rfl

theorem build_entries (snapshots : List (ConfigSnapshot digest)) :
    buildAll (fun s => ConfigBundleEntry.of s.config_id s.sha256 s.kind) snapshots =
      .ok (snapshots.map (·.entry)) := by
  rw [buildAll_eq_ok, List.forall₂_map_right_iff, List.forall₂_same]
  exact fun s _ => s.entry_ok

/-- The checks of the builder on its snapshots. -/
def Bundled (snapshots : List (ConfigSnapshot digest)) : Prop :=
  snapshots ≠ [] ∧ (snapshots.map (·.config_id)).Nodup

/-- What a bundle has besides its entries, past its own checks. -/
structure BundleHeader where
  bundle_id : PyText
  created_at : AwareDateTime
  description : Option PyText
  id_required : RequiredText bundle_id
  created_utc : ∃ utc, created_at.ensureAwareUtc = .ok utc
  description_required : ∀ s ∈ description, RequiredText s

theorem sorted_snapshots_nodup {snapshots : List (ConfigSnapshot digest)}
    (h : (snapshots.map (·.config_id)).Nodup) :
    (((sortBy (·.config_id) snapshots).map (·.entry)).map (·.config_id)).Nodup := by
  rw [List.map_map]
  exact (((sortBy_perm (·.config_id) snapshots).map (·.config_id)).nodup_iff).mpr h

/-- The order of the builder is that of the model. -/
theorem sorted_snapshots {snapshots : List (ConfigSnapshot digest)}
    (h : (snapshots.map (·.config_id)).Nodup) :
    sortBy ConfigBundleEntry.key ((sortBy (·.config_id) snapshots).map (·.entry)) =
      (sortBy (·.config_id) snapshots).map (·.entry) := by
  apply sorted_by_id (sorted_snapshots_nodup digest h)
  exact List.pairwise_map.mpr (sortBy_sorted (fun s : ConfigSnapshot digest => s.config_id) _)

theorem bundle_checks {snapshots : List (ConfigSnapshot digest)} :
    bundleChecks digest snapshots = .ok () ↔ Bundled digest snapshots := by
  simp only [bundleChecks, checkAll_require, checkAll_nil, and_true, Bundled]

/-- A bundle is made of the triples of any snapshots with ids of their own. -/
theorem bundle_made (header : BundleHeader) {snapshots : List (ConfigSnapshot digest)}
    (h : Bundled digest snapshots) :
    ∃ made, bundle digest header.bundle_id snapshots header.created_at header.description =
      .ok made ∧ made.entries.Perm (snapshots.map (·.entry)) := by
  obtain ⟨utc, hutc⟩ := header.created_utc
  have hcreated : ensureAwareUtc header.created_at = .ok utc := by
    rw [ensureAwareUtc, hutc]
    rfl
  obtain ⟨hne, hnodup⟩ := h
  let entries := (sortBy (·.config_id) snapshots).map (·.entry)
  have hperm : entries.Perm (snapshots.map (·.entry)) :=
    (sortBy_perm (·.config_id) snapshots).map (·.entry)
  have hentries : entries ≠ [] := by
    intro hempty
    rw [hempty] at hperm
    exact hne (List.map_eq_nil_iff.mp (List.nil_perm.mp hperm))
  have htext : entriesText entries = entriesText (sortBy ConfigBundleEntry.key entries) :=
    congrArg entriesText (sorted_snapshots digest hnodup).symm
  have hcheck : ConfigBundleFields.check digest ⟨header.bundle_id, utc, entries,
      entriesText entries, sha256Text digest (entriesText entries), header.description⟩ = .ok () :=
    (ConfigBundleFields.check_eq_ok digest).mpr
      ⟨⟨header.id_required, hentries, sorted_snapshots_nodup digest hnodup⟩,
        header.description_required, htext, rfl⟩
  refine ⟨⟨_, hcheck⟩, ?_, hperm⟩
  exact bind_eq_ok.mpr ⟨(), (bundle_checks digest).mpr ⟨hne, hnodup⟩,
    bind_eq_ok.mpr ⟨entries, build_entries digest _,
      bind_eq_ok.mpr ⟨entriesText entries, canonicalize_bundlePayload entries,
        bind_eq_ok.mpr ⟨utc, hcreated, validated_eq_ok.mpr ⟨hcheck, rfl⟩⟩⟩⟩⟩

/-- Snapshots in another order are refused or bundled alike. -/
theorem bundle_perm {snapshots snapshots' : List (ConfigSnapshot digest)}
    (h : snapshots.Perm snapshots') (bundle_id : PyText) (created_at : AwareDateTime)
    (description : Option PyText) :
    bundle digest bundle_id snapshots created_at description =
      bundle digest bundle_id snapshots' created_at description := by
  have hids : (snapshots.map (·.config_id)).Nodup ↔ (snapshots'.map (·.config_id)).Nodup :=
    (h.map (·.config_id)).nodup_iff
  have hempty : snapshots ≠ [] ↔ snapshots' ≠ [] := by
    rw [ne_eq, ne_eq, not_iff_not]
    exact ⟨fun hnil => List.nil_perm.mp (hnil ▸ h), fun hnil => List.perm_nil.mp (hnil ▸ h)⟩
  have hchecks : bundleChecks digest snapshots = bundleChecks digest snapshots' := by
    simp only [bundleChecks, hids, hempty]
  rw [bundle, bundle, ← hchecks]
  cases hok : bundleChecks digest snapshots with
  | error e => rfl
  | ok _ =>
    have hnodup := ((bundle_checks digest).mp hok).2
    have hsorted : sortBy (·.config_id) snapshots = sortBy (·.config_id) snapshots' :=
      sortBy_perm_eq _ h (List.inj_on_of_nodup_map hnodup)
    rw [hsorted]

/-! Fingerprints and equality. -/

/-- Fingerprints of payloads agree with their equality exactly where payloads that look alike are
equal. A bundle is made of the triples of its snapshots in any order, and its fingerprint tells them
exactly where entries that look alike are the same. -/
theorem config_identity_iff :
    (∀ (a b : ConfigPayload) (t u : Text),
      canonicalize a.members = .ok t → canonicalize b.members = .ok u →
      Set.InjOn digest {encodeUtf8 t, encodeUtf8 u} →
      ((sha256Text digest t = sha256Text digest u ↔ Same a.members b.members) ↔
        (WrittenAlike a.members b.members → Same a.members b.members))) ∧
    (∀ (header : BundleHeader) (snapshots : List (ConfigSnapshot digest)),
      Bundled digest snapshots → ∃ made, made.entries.Perm (snapshots.map (·.entry)) ∧
        ∀ snapshots', snapshots.Perm snapshots' →
          bundle digest header.bundle_id snapshots' header.created_at header.description =
            .ok made) ∧
    ∀ a b : ConfigBundle digest,
      Set.InjOn digest {encodeUtf8 a.canonical_json, encodeUtf8 b.canonical_json} →
      ((a.sha256 = b.sha256 ↔ a.SameEntries b) ↔ (a.EntriesAlike b → a.SameEntries b)) := by
  refine ⟨?_, ?_, ?_⟩
  · intro a b t u ha hb hfree
    rw [sha256Text_eq_iff digest hfree, canonicalize_eq_iff ha hb]
    exact ⟨fun h => h.mp, fun h => ⟨h, Same.writtenAlike⟩⟩
  · intro header snapshots h
    obtain ⟨made, hmade, hentries⟩ := bundle_made digest header h
    refine ⟨made, hentries, fun snapshots' hperm => ?_⟩
    rw [← bundle_perm digest hperm, hmade]
  · intro a b hfree
    rw [ConfigBundle.sha256_eq_iff digest hfree]
    exact ⟨fun h => h.mp, fun h => ⟨h, ConfigBundle.SameEntries.alike⟩⟩

/-! Payloads with a number of their own, of which two are rounded to one. -/

def numberPayload (d : Decimal) : ConfigPayload where
  members := [(.str (ofText ['k']), .decimal d)]
  distinct := by
    rw [ConfigValue.nowhere_mapping, repeatsKey_mapping]
    exact ⟨List.nodup_singleton _, List.forall_mem_singleton.mpr rfl⟩

theorem same_numbers_iff {d e : Decimal} :
    Same (numberPayload d).members (numberPayload e).members ↔ d.value = e.value := by
  change Agree Eq SameLeaf (.mapping [(.str (ofText ['k']), .decimal d)])
    (.mapping [(.str (ofText ['k']), .decimal e)]) ↔ _
  constructor
  · intro h
    cases h with
    | leaf h => cases h
    | mapping _ hvalues =>
      obtain ⟨hleaf, -⟩ := List.forall₂_cons.mp hvalues
      cases (agree_leaf_iff rfl).mp hleaf with
      | decimal hvalue => exact hvalue
  · intro h
    exact .mapping (.cons rfl .nil) (.cons (.leaf (.decimal h)) .nil)

def numberText (digits : Text) : Text :=
  ['{', '"', 'k', '"', ':', '"'] ++ digits ++ ['"', '}']

def emptyText : Text := ['{', '}']

theorem emptyText_valid :
    validate_exact_canonical_json_object emptyText "canonical_json" = .ok () := by decide +kernel

theorem emptyText_required : RequiredText (ofText emptyText) := by decide +kernel

theorem sampleId_required : RequiredText (ofText "config".toList) := by decide +kernel

/-- A snapshot of the empty payload. -/
def emptySnapshot (digest : Bytes → HexDigest) : ConfigSnapshot digest where
  config_id := ofText "config".toList
  kind := .RUN_CONFIG
  created_at := ⟨2026, 1, 2, 3, 4, 5, 6, sampleTime.date_ok, sampleClock_ok⟩
  canonical_json := emptyText
  sha256 := sha256Text digest emptyText
  description := none
  valid := (ConfigSnapshotFields.check_eq_ok digest).mpr
    ⟨sampleId_required, emptyText_required, emptyText_valid, none_required, rfl⟩

def sampleBundleHeader : BundleHeader where
  bundle_id := ofText "bundle".toList
  created_at := sampleHeader.created_at
  description := none
  id_required := by decide +kernel
  created_utc := sampleHeader.created_utc
  description_required := none_required

/-- The payloads of 1.5 and of 2 have two fingerprints, and a bundle is made of one snapshot. -/
theorem sample_fingerprints :
    (sha256Text Replay.sampleEnv.sha256 (numberText ['1', '.', '5']) =
        sha256Text Replay.sampleEnv.sha256 (numberText ['2']) ↔
      Same (numberPayload ⟨false, 15, -1⟩).members (numberPayload ⟨false, 2, 0⟩).members) ∧
    ∃ made, made.entries.Perm [(emptySnapshot Replay.sampleEnv.sha256).entry] ∧
      ∀ snapshots', [emptySnapshot Replay.sampleEnv.sha256].Perm snapshots' →
        bundle Replay.sampleEnv.sha256 sampleBundleHeader.bundle_id snapshots'
          sampleBundleHeader.created_at sampleBundleHeader.description = .ok made := by
  obtain ⟨hpayloads, hbundles, -⟩ := config_identity_iff Replay.sampleEnv.sha256
  have hone : Bundled _ [emptySnapshot Replay.sampleEnv.sha256] :=
    ⟨List.cons_ne_nil _ _, List.nodup_singleton _⟩
  refine ⟨?_, hbundles sampleBundleHeader _ hone⟩
  have hne : Replay.sampleEnv.sha256 (encodeUtf8 (numberText ['1', '.', '5'])) ≠
      Replay.sampleEnv.sha256 (encodeUtf8 (numberText ['2'])) := by decide +kernel
  have hfree : Set.InjOn Replay.sampleEnv.sha256
      {encodeUtf8 (numberText ['1', '.', '5']), encodeUtf8 (numberText ['2'])} :=
    Set.injOn_pair.mpr fun h => absurd h hne
  apply (hpayloads _ _ _ _ (by decide +kernel) (by decide +kernel) hfree).mpr
  intro halike
  have htext : numberText ['1', '.', '5'] = numberText ['2'] :=
    (canonicalize_eq_iff (a := numberPayload ⟨false, 15, -1⟩) (b := numberPayload ⟨false, 2, 0⟩)
      (by decide +kernel) (by decide +kernel)).mpr halike
  exact absurd htext (by decide)

/-- The payloads of one and of a number with 29 digits next to it have one fingerprint. -/
theorem rounded_one_fingerprint :
    ¬ ∀ (a b : ConfigPayload) (t u : Text),
      canonicalize a.members = .ok t → canonicalize b.members = .ok u →
      Set.InjOn Replay.sampleEnv.sha256 {encodeUtf8 t, encodeUtf8 u} →
      (sha256Text Replay.sampleEnv.sha256 t = sha256Text Replay.sampleEnv.sha256 u ↔
        Same a.members b.members) := by
  intro h
  have hfree : Set.InjOn Replay.sampleEnv.sha256
      {encodeUtf8 (numberText ['1']), encodeUtf8 (numberText ['1'])} :=
    Set.injOn_pair.mpr fun _ => rfl
  have hsame := (h (numberPayload ⟨false, 1, 0⟩)
    (numberPayload ⟨false, 10000000000000000000000000001, -28⟩) (numberText ['1'])
    (numberText ['1']) (by decide +kernel) (by decide +kernel) hfree).mp rfl
  have hvalue := same_numbers_iff.mp hsame
  norm_num [Decimal.value] at hvalue

end FuturesBot.Configs
