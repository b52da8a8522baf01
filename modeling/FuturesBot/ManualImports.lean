import FuturesBot.IdStores
import FuturesBot.StepRuns
import FuturesBot.StoreActions
import FuturesBot.VenueSources

/-! The gateway that takes manual imports into four stores, and when it does so all or nothing. -/
namespace FuturesBot.Venues

open JsonText (Json)
open Checks Dicts StepRuns StoreActions

variable {digests : SourceDigests}

/-- The stores of the gateway. -/
structure ImportStores (digests : SourceDigests) where
  source_records : KeyedDict digests.recordId
  venue_snapshots : KeyedDict fun s : VenueCapabilitySnapshot => s.snapshot_id
  instrument_rules : KeyedDict fun r : VenueInstrumentRuleSnapshot => r.snapshot_id
  manual_imports : KeyedDict fun m : VenueCapabilityManualImport digests =>
    digests.importId m.toManualImportFields

/-- The shape of an import in its store. -/
def storedImportShape (m : VenueCapabilityManualImport digests) : ImportShape :=
  importShape digests m.toManualImportFields

structure ImportFailure where
  reason : VenueCapabilityManualImportDecisionReason
  details : Json

def optionText (t : Option String) : Json :=
  match t with
  | some t => .str t
  | none => .null

/-- `_failure`. -/
def failure (reason : VenueCapabilityManualImportDecisionReason) (details : List (String × Json)) :
    ImportFailure := ⟨reason, .obj details⟩

/-- `_validate_source_record`. -/
def validateSourceRecord (r : VenueCapabilitySourceRecord) :
    Option VenueCapabilityManualImportDecisionReason :=
  if r.descriptor.trust ≠ .OFFICIAL ∨ r.descriptor.source_kind = .UNKNOWN then
    some .SOURCE_RECORD_NOT_OFFICIAL
  else if r.health_status ≠ .HEALTHY then some .SOURCE_RECORD_NOT_HEALTHY
  else if r.accepted_for_execution = false then some .SOURCE_RECORD_NOT_ACCEPTED
  else none

/-- `_validate_snapshot_provenance` of the gateway. -/
def snapshotProvenanceFailure (label : String) (actual expected : SnapshotProvenanceRef)
    (mismatch_reason : VenueCapabilityManualImportDecisionReason) : Option ImportFailure :=
  if actual.venue_id ≠ expected.venue_id then
    some (failure .VENUE_ID_MISMATCH [("snapshot_kind", .str label),
      ("snapshot_venue_id", .str actual.venue_id.value),
      ("source_venue_id", .str expected.venue_id.value)])
  else if actual.source_record_id ≠ expected.source_record_id then
    some (failure mismatch_reason [("snapshot_kind", .str label),
      ("snapshot_source_record_id", optionText (actual.source_record_id.map (·.value))),
      ("source_record_id", optionText (expected.source_record_id.map (·.value)))])
  else if actual.source_payload_hash ≠ expected.source_payload_hash then
    some (failure mismatch_reason [("snapshot_kind", .str label),
      ("snapshot_source_payload_hash", optionText (actual.source_payload_hash.map (·.value))),
      ("source_payload_hash", optionText (expected.source_payload_hash.map (·.value)))])
  else none

/-- `_validate_request_provenance`: the first failure, of the venue snapshot or of a rule. -/
def validateRequestProvenance (digests : SourceDigests) (q : VenueCapabilityManualImportRequest) :
    Option ImportFailure :=
  let expected := recordProvenance digests q.source_record
  (q.venue_snapshot.bind fun s => snapshotProvenanceFailure "venue_snapshot" s.provenance expected
      .VENUE_SNAPSHOT_PROVENANCE_MISMATCH).or
    (q.instrument_rules.findSome? fun r => snapshotProvenanceFailure "instrument_rule" r.provenance
      expected .INSTRUMENT_RULE_PROVENANCE_MISMATCH)

/-- A conflict with what stands under the key of the value. -/
def conflict {κ ν τ : Type} [DecidableEq κ] [DecidableEq τ] {key : ν → κ} (shape : ν → τ)
    (store : KeyedDict key) (value : ν) (failure : ImportFailure) : Option ImportFailure :=
  match store.get? (key value) with
  | some existing => if shape existing ≠ shape value then some failure else none
  | none => none

/-- `_preflight_conflicts`: the first conflict. -/
def preflightConflicts (stores : ImportStores digests) (q : VenueCapabilityManualImportRequest)
    (manual_import : VenueCapabilityManualImport digests) : Option ImportFailure :=
  (conflict (recordShape digests) stores.source_records q.source_record
    (failure .SOURCE_RECORD_STORE_CONFLICT
      [("source_record_id", .str (digests.recordId q.source_record).value)])).or <|
  (q.venue_snapshot.bind fun s => conflict id stores.venue_snapshots s
    (failure .VENUE_SNAPSHOT_STORE_CONFLICT
      [("venue_snapshot_id", .str s.snapshot_id.value)])).or <|
  (q.instrument_rules.findSome? fun r => conflict (ruleShape digests) stores.instrument_rules r
    (failure .INSTRUMENT_RULE_STORE_CONFLICT
      [("instrument_rule_snapshot_id", .str r.snapshot_id.value)])).or <|
  conflict storedImportShape stores.manual_imports manual_import
    (failure .MANUAL_IMPORT_STORE_CONFLICT
      [("manual_import_id", .str (digests.importId manual_import.toManualImportFields).value)])

/-- `_decision`. -/
def importDecision (digests : SourceDigests) (q : VenueCapabilityManualImportRequest)
    (accepted : Bool) (reason : VenueCapabilityManualImportDecisionReason) (details : Json)
    (manual_import : Option (VenueCapabilityManualImport digests)) :
    Except String VenueCapabilityManualImportDecision :=
  VenueCapabilityManualImportDecision.of
      { request_id := digests.requestId q
        accepted
        reason
        source_record_id := some (digests.recordId q.source_record)
        venue_snapshot_id := q.venue_snapshot.map (·.snapshot_id)
        instrument_rule_snapshot_ids := q.instrument_rules.map (·.snapshot_id)
        manual_import_id := manual_import.map fun m => digests.importId m.toManualImportFields
        imported_at := q.imported_at
        details }

/-- `_jsonable_errors` of an error that a model's own check raises. -/
def jsonableErrors (message : String) : Json :=
  .arr [.obj [("type", .str "value_error"), ("loc", .arr []),
    ("msg", .str ("Value error, " ++ message))]]

/-- A put of one value, or the error of its store. -/
def putOne {κ ν τ : Type} [DecidableEq κ] [DecidableEq τ] {key : ν → κ} (shape : ν → τ)
    (name : String) (store : KeyedDict key) (value : ν) : Except String (KeyedDict key) :=
  match store.putEqual shape value with
  | some store => .ok store
  | none => .error (name ++ " id collision")

/-- The put of the venue snapshot, if the request has one. -/
def putSnapshot (store : KeyedDict fun s : VenueCapabilitySnapshot => s.snapshot_id) :
    Option VenueCapabilitySnapshot →
      Except String (KeyedDict fun s : VenueCapabilitySnapshot => s.snapshot_id)
  | some snapshot => putOne id "venue capability snapshot" store snapshot
  | none => .ok store

/-- The puts of the instrument rules, each by itself. -/
def putRules (rules : List VenueInstrumentRuleSnapshot) :
    Action (ImportStores digests) String Unit := fun stores =>
  let (instrument_rules, done) := stores.instrument_rules.putEachEqual (ruleShape digests) rules
  ({ stores with instrument_rules },
    if done then .ok () else .error "venue instrument rule snapshot id collision")

/-- The puts of an import that nothing was found against. -/
def putImport (q : VenueCapabilityManualImportRequest)
    (manual_import : VenueCapabilityManualImport digests) :
    Action (ImportStores digests) String Unit := do
  Action.writing fun stores => (putOne (recordShape digests) "venue capability source record"
    stores.source_records q.source_record).map fun s => { stores with source_records := s }
  Action.writing fun stores => (putSnapshot stores.venue_snapshots q.venue_snapshot).map
    fun s => { stores with venue_snapshots := s }
  putRules q.instrument_rules
  Action.writing fun stores =>
    (putOne storedImportShape "venue capability manual import"
      stores.manual_imports manual_import).map fun s => { stores with manual_imports := s }

/-- The details of an accepted import. -/
def importedDetails (digests : SourceDigests) (q : VenueCapabilityManualImportRequest) : Json :=
  .obj [("source_record_id", .str (digests.recordId q.source_record).value),
    ("venue_snapshot_id", optionText (q.venue_snapshot.map fun s => s.snapshot_id.value)),
    ("instrument_rule_snapshot_ids",
      .arr (q.instrument_rules.map fun r => .str r.snapshot_id.value))]

/-- `DeterministicVenueCapabilityManualImportGateway.import_capabilities`. -/
def importCapabilities (q : VenueCapabilityManualImportRequest) :
    Action (ImportStores digests) String VenueCapabilityManualImportDecision := fun stores =>
  let rejected (reason : VenueCapabilityManualImportDecisionReason) (details : Json) :=
    (stores, importDecision digests q false reason details none)
  if q.venue_snapshot = none ∧ q.instrument_rules = [] then
    rejected .NO_SNAPSHOTS_PROVIDED (.obj [("message", .str "at least one snapshot is required")])
  else
    match validateSourceRecord q.source_record with
    | some reason =>
      rejected reason (.obj [("source_record_id", .str (digests.recordId q.source_record).value)])
    | none =>
      match validateRequestProvenance digests q with
      | some failure => rejected failure.reason failure.details
      | none =>
        match VenueCapabilityManualImport.of digests q.toManualImportFields with
        | .error message =>
          rejected .VALIDATION_FAILED (.obj [("errors", jsonableErrors message)])
        | .ok manual_import =>
          match preflightConflicts stores q manual_import with
          | some failure => rejected failure.reason failure.details
          | none =>
            (do
              putImport q manual_import
              Action.reading fun _ => importDecision digests q true .ACCEPTED
                (importedDetails digests q) (some manual_import)) stores

/-! What the checks before the puts say. -/

theorem validateSourceRecord_eq_none {r : VenueCapabilitySourceRecord} :
    validateSourceRecord r = none ↔ r.accepted_for_execution = true := by
  rw [validateSourceRecord]
  constructor
  · intro h
    split_ifs at h with h1 h2 h3
    simpa using h3
  · intro h
    obtain ⟨-, htrust, hkind, hhealth⟩ := r.accepted h
    rw [if_neg (by simp [htrust, hkind]), if_neg (by simp [hhealth]), if_neg (by simp [h])]

theorem snapshotProvenanceFailure_eq_none {label : String} {actual expected : SnapshotProvenanceRef}
    {reason : VenueCapabilityManualImportDecisionReason} :
    snapshotProvenanceFailure label actual expected reason = none ↔ actual = expected := by
  rw [snapshotProvenanceFailure]
  constructor
  · intro h
    split_ifs at h with hvenue hrecord hpayload
    exact SnapshotProvenanceRef.ext (not_not.mp hvenue) (not_not.mp hrecord) (not_not.mp hpayload)
  · rintro rfl
    simp

theorem validateSnapshotProvenance_ok {actual expected : SnapshotProvenanceRef} {label : String} :
    checkAll (validateSnapshotProvenance actual expected label) = .ok () ↔ actual = expected := by
  simp only [validateSnapshotProvenance, checkAll_require, checkAll_nil, and_true]
  constructor
  · rintro ⟨hvenue, hrecord, hpayload⟩
    exact SnapshotProvenanceRef.ext hvenue hrecord hpayload
  · rintro rfl
    exact ⟨rfl, rfl, rfl⟩

theorem conflict_eq_none {κ ν τ : Type} [DecidableEq κ] [DecidableEq τ] {key : ν → κ}
    {shape : ν → τ} {store : KeyedDict key} {value : ν} {f : ImportFailure} :
    conflict shape store value f = none ↔ store.Admits shape value := by
  rw [conflict]
  cases hget : store.get? (key value) with
  | none => simp [KeyedDict.Admits, hget]
  | some existing => simp [KeyedDict.Admits, hget]

/-- The source record is accepted, and every snapshot of the request comes from it. -/
structure Sourced (digests : SourceDigests) (m : ManualImportFields) : Prop where
  accepted : m.source_record.accepted_for_execution = true
  venue : ∀ s ∈ m.venue_snapshot, s.provenance = recordProvenance digests m.source_record
  rules : ∀ r ∈ m.instrument_rules, r.provenance = recordProvenance digests m.source_record

theorem VenueCapabilityManualImport.of_eq_ok {m : ManualImportFields}
    {manual_import : VenueCapabilityManualImport digests} :
    VenueCapabilityManualImport.of digests m = .ok manual_import ↔
      manual_import.toManualImportFields = m := by
  unfold VenueCapabilityManualImport.of
  constructor
  · intro h
    split at h
    · cases h
      rfl
    · cases h
  · rintro rfl
    split
    · rfl
    · rename_i message herror
      exact absurd (manual_import.valid.symm.trans herror) (by simp)

theorem ManualImportFields.validate_ok {m : ManualImportFields} :
    checkAll (m.validate digests) = .ok () ↔ Sourced digests m := by
  rw [ManualImportFields.validate, checkAll_append, checkAll_append, checkAll_flatMap,
    checkAll_flatMap, checkAll_require]
  simp only [validateSnapshotProvenance_ok, checkAll_nil, and_true, Option.mem_toList]
  exact ⟨fun ⟨⟨h1, h2⟩, h3⟩ => ⟨h1, h2, h3⟩, fun h => ⟨⟨h.accepted, h.venue⟩, h.rules⟩⟩

/-- Nothing of the request is in conflict with the stores. -/
structure Admitted (stores : ImportStores digests) (q : VenueCapabilityManualImportRequest) :
    Prop where
  record : stores.source_records.Admits (recordShape digests) q.source_record
  venue : ∀ s ∈ q.venue_snapshot, stores.venue_snapshots.Admits id s
  rules : ∀ r ∈ q.instrument_rules, stores.instrument_rules.Admits (ruleShape digests) r
  manual_import : ∀ m ∈ stores.manual_imports.get? (digests.importId q.toManualImportFields),
    importShape digests m.toManualImportFields = importShape digests q.toManualImportFields

variable {stores after : ImportStores digests} {q : VenueCapabilityManualImportRequest}
  {manual_import : VenueCapabilityManualImport digests}

theorem preflightConflicts_eq_none (hfields : manual_import.toManualImportFields =
    q.toManualImportFields) :
    preflightConflicts stores q manual_import = none ↔ Admitted stores q := by
  have hmanual : stores.manual_imports.Admits storedImportShape manual_import ↔
        ∀ m ∈ stores.manual_imports.get? (digests.importId q.toManualImportFields),
          importShape digests m.toManualImportFields =
            importShape digests q.toManualImportFields := by
    rw [KeyedDict.Admits, hfields, storedImportShape, hfields]
    exact Iff.rfl
  rw [preflightConflicts]
  simp only [Option.or_eq_none_iff, conflict_eq_none, Option.bind_eq_none_iff,
    List.findSome?_eq_none_iff, hmanual]
  constructor
  · rintro ⟨h1, h2, h3, h4⟩
    exact ⟨h1, h2, h3, h4⟩
  · intro h
    exact ⟨h.record, h.venue, h.rules, h.manual_import⟩

theorem validateRequestProvenance_eq_none
    (haccepted : q.source_record.accepted_for_execution = true) :
    validateRequestProvenance digests q = none ↔ Sourced digests q.toManualImportFields := by
  rw [validateRequestProvenance]
  simp only [Option.or_eq_none_iff, Option.bind_eq_none_iff, List.findSome?_eq_none_iff,
    snapshotProvenanceFailure_eq_none]
  exact ⟨fun ⟨h1, h2⟩ => ⟨haccepted, h1, h2⟩, fun h => ⟨h.venue, h.rules⟩⟩

/-- The checks of a request all pass. -/
structure Cleared (stores : ImportStores digests) (q : VenueCapabilityManualImportRequest) :
    Prop where
  sourced : Sourced digests q.toManualImportFields
  admitted : Admitted stores q

theorem importDecision_eq_ok {accepted : Bool} {reason : VenueCapabilityManualImportDecisionReason}
    {details : Json} {m : Option (VenueCapabilityManualImport digests)}
    {d : VenueCapabilityManualImportDecision}
    (h : importDecision digests q accepted reason details m = .ok d) : d.accepted = accepted := by
  unfold importDecision VenueCapabilityManualImportDecision.of at h
  split at h
  · cases h
    rfl
  · cases h

/-- A request is rejected with the stores as they are, or goes on to the puts. -/
theorem importCapabilities_cases (stores : ImportStores digests)
    (q : VenueCapabilityManualImportRequest) :
    (¬ Cleared stores q ∧ ∃ reason details, importCapabilities q stores =
        (stores, importDecision digests q false reason details none)) ∨
      (Cleared stores q ∧ ∃ m : VenueCapabilityManualImport digests,
        m.toManualImportFields = q.toManualImportFields ∧ importCapabilities q stores =
          (do
            putImport q m
            Action.reading fun _ => importDecision digests q true .ACCEPTED
              (importedDetails digests q) (some m)) stores) := by
  rw [importCapabilities, if_neg q.has_snapshot]
  split
  · -- the source record is not accepted
    rename_i reason hreason
    refine .inl ⟨fun h => ?_, _, _, rfl⟩
    rw [validateSourceRecord_eq_none.mpr h.sourced.accepted] at hreason
    cases hreason
  rename_i hrecord
  have haccepted := validateSourceRecord_eq_none.mp hrecord
  split
  · rename_i f hf
    refine .inl ⟨fun h => ?_, _, _, rfl⟩
    rw [(validateRequestProvenance_eq_none haccepted).mpr h.sourced] at hf
    cases hf
  rename_i hprovenance
  have hsourced := (validateRequestProvenance_eq_none haccepted).mp hprovenance
  split
  · -- the checks of the import are made already
    rename_i message herror
    unfold VenueCapabilityManualImport.of at herror
    split at herror
    · cases herror
    · rename_i hinvalid
      exact absurd ((ManualImportFields.validate_ok.mpr hsourced).symm.trans hinvalid) (by simp)
  rename_i m hm
  have hfields := VenueCapabilityManualImport.of_eq_ok.mp hm
  split
  · rename_i f hf
    refine .inl ⟨fun h => ?_, _, _, rfl⟩
    rw [(preflightConflicts_eq_none hfields).mpr h.admitted] at hf
    cases hf
  · rename_i hnone
    exact .inr ⟨⟨hsourced, (preflightConflicts_eq_none hfields).mp hnone⟩, m, hfields, rfl⟩

/-! The puts. -/

/-- Every store keeps what it holds. -/
structure ImportStores.Extends (s t : ImportStores digests) : Prop where
  source_records : s.source_records.Extends t.source_records
  venue_snapshots : s.venue_snapshots.Extends t.venue_snapshots
  instrument_rules : s.instrument_rules.Extends t.instrument_rules
  manual_imports : s.manual_imports.Extends t.manual_imports

theorem ImportStores.Extends.refl (s : ImportStores digests) : s.Extends s :=
  ⟨KeyedDict.Extends.refl _, KeyedDict.Extends.refl _, KeyedDict.Extends.refl _,
    KeyedDict.Extends.refl _⟩

theorem extends_frame : Action.IsFrame (@ImportStores.Extends digests) where
  refl := ImportStores.Extends.refl
  trans h h' := ⟨h.1.trans h'.1, h.2.trans h'.2, h.3.trans h'.3, h.4.trans h'.4⟩

section Puts

variable {κ ν τ : Type} [DecidableEq κ] [DecidableEq τ] {key : ν → κ} {shape : ν → τ}
  {name : String} {store store' : KeyedDict key} {value : ν}

theorem putOne_eq_ok :
    putOne shape name store value = .ok store' ↔ store.putEqual shape value = some store' := by
  rw [putOne]
  cases store.putEqual shape value <;> simp

end Puts

theorem putSnapshot_extends {store store' : KeyedDict fun s : VenueCapabilitySnapshot =>
    s.snapshot_id} {snapshot : Option VenueCapabilitySnapshot}
    (h : putSnapshot store snapshot = .ok store') : store.Extends store' := by
  cases snapshot with
  | none =>
    rw [← Except.ok.inj h]
    exact KeyedDict.Extends.refl store
  | some snapshot => exact KeyedDict.putEqual_extends (putOne_eq_ok.mp h)

theorem putImport_extends (q : VenueCapabilityManualImportRequest)
    (m : VenueCapabilityManualImport digests) :
    Action.Keeps ImportStores.Extends (putImport q m) := by
  apply Action.Keeps.bind extends_frame
  · refine Action.keeps_writing_part extends_frame fun s c hc => ?_
    exact { ImportStores.Extends.refl s with
      source_records := KeyedDict.putEqual_extends (putOne_eq_ok.mp hc) }
  intro _
  apply Action.Keeps.bind extends_frame
  · refine Action.keeps_writing_part extends_frame fun s c hc => ?_
    exact { ImportStores.Extends.refl s with venue_snapshots := putSnapshot_extends hc }
  intro _
  apply Action.Keeps.bind extends_frame
  · exact fun s => { ImportStores.Extends.refl s with
      instrument_rules := KeyedDict.putEachEqual_extends }
  intro _
  refine Action.keeps_writing_part extends_frame fun s c hc => ?_
  exact { ImportStores.Extends.refl s with
    manual_imports := KeyedDict.putEqual_extends (putOne_eq_ok.mp hc) }

/-- An import never removes or replaces what a store holds. -/
theorem importCapabilities_extends (q : VenueCapabilityManualImportRequest) :
    Action.Keeps (@ImportStores.Extends digests) (importCapabilities q) := by
  intro stores
  rcases importCapabilities_cases stores q with ⟨-, reason, details, h⟩ | ⟨-, m, -, h⟩
  · rw [h]
    exact ImportStores.Extends.refl stores
  · rw [h]
    exact Action.Keeps.bind extends_frame (putImport_extends q m)
      (fun _ => Action.keeps_reading extends_frame _) stores

/-- The stores hold everything of the request. -/
structure Imported (stores : ImportStores digests) (q : VenueCapabilityManualImportRequest) :
    Prop where
  record : stores.source_records.Holds (recordShape digests) q.source_record
  venue : ∀ s ∈ q.venue_snapshot, stores.venue_snapshots.Holds id s
  rules : ∀ r ∈ q.instrument_rules, stores.instrument_rules.Holds (ruleShape digests) r
  manual_import : ∃ m ∈ stores.manual_imports.get? (digests.importId q.toManualImportFields),
    importShape digests m.toManualImportFields = importShape digests q.toManualImportFields

theorem Imported.mono (h : Imported stores q) (hext : stores.Extends after) :
    Imported after q := by
  obtain ⟨m, hm, hshape⟩ := h.manual_import
  exact ⟨h.record.mono hext.source_records, fun s hs => (h.venue s hs).mono hext.venue_snapshots,
    fun r hr => (h.rules r hr).mono hext.instrument_rules,
    m, hext.manual_imports _ m hm, hshape⟩

/-- What is imported is in no conflict with the stores. -/
theorem Imported.admitted (h : Imported stores q) : Admitted stores q := by
  refine ⟨h.record.admits, fun s hs => (h.venue s hs).admits, fun r hr => (h.rules r hr).admits, ?_⟩
  obtain ⟨m, hm, hshape⟩ := h.manual_import
  intro m' hm'
  rw [← Option.some.inj (hm.symm.trans hm'), hshape]

/-- Rules of the request with one snapshot id are equal. -/
def ConsistentRules (digests : SourceDigests) (q : VenueCapabilityManualImportRequest) : Prop :=
  KeyedDict.Consistent (fun r : VenueInstrumentRuleSnapshot => r.snapshot_id) (ruleShape digests)
    q.instrument_rules

/-- The puts of an import against which nothing is found: all of them are made when its rules are
consistent, and else they end with changed stores at a rule. -/
theorem putImport_of_admitted (h : Admitted stores q)
    (hfields : manual_import.toManualImportFields = q.toManualImportFields) :
    (ConsistentRules digests q ∧ ∃ after, putImport q manual_import stores = (after, .ok ()) ∧
        Imported after q) ∨
      (¬ ConsistentRules digests q ∧ ∃ after e,
        putImport q manual_import stores = (after, .error e) ∧ after ≠ stores) := by
  obtain ⟨records, hrecords⟩ := h.record.put
  have hvenues : ∃ venues, putSnapshot stores.venue_snapshots q.venue_snapshot = .ok venues ∧
      ∀ s ∈ q.venue_snapshot, venues.Holds id s := by
    cases hsnapshot : q.venue_snapshot with
    | none => exact ⟨_, rfl, fun s hs => absurd hs (by simp)⟩
    | some snapshot =>
      obtain ⟨venues, hput⟩ := (h.venue snapshot hsnapshot).put
      refine ⟨venues, putOne_eq_ok.mpr hput, fun s hs => ?_⟩
      rw [← Option.some.inj hs]
      exact KeyedDict.putEqual_holds hput
  obtain ⟨venues, hvenues, hvenue⟩ := hvenues
  let rules := stores.instrument_rules.putEachEqual (ruleShape digests) q.instrument_rules
  have hmanual : stores.manual_imports.Admits storedImportShape manual_import := by
    intro m hm
    rw [storedImportShape, storedImportShape, hfields]
    refine h.manual_import m ?_
    rw [← hfields]
    exact hm
  obtain ⟨imports, himports⟩ := hmanual.put
  by_cases hconsistent : ConsistentRules digests q
  · have hdone : rules.2 = true := (KeyedDict.putEachEqual_iff h.rules).mpr hconsistent
    refine .inl ⟨hconsistent, ⟨records, venues, rules.1, imports⟩, ?_, ?_⟩
    · rw [putImport, Action.bind_eq_ok]
      refine ⟨_, (), Action.writing_part_eq_ok.mpr ⟨records, putOne_eq_ok.mpr hrecords, rfl⟩, ?_⟩
      rw [Action.bind_eq_ok]
      refine ⟨_, (), Action.writing_part_eq_ok.mpr ⟨venues, hvenues, rfl⟩, ?_⟩
      rw [Action.bind_eq_ok]
      refine ⟨⟨records, venues, rules.1, stores.manual_imports⟩, (), ?_,
        Action.writing_part_eq_ok.mpr ⟨imports, putOne_eq_ok.mpr himports, rfl⟩⟩
      change (_, if rules.2 = true then _ else _) = _
      rw [hdone]
      rfl
    · refine ⟨KeyedDict.putEqual_holds hrecords, hvenue, KeyedDict.putEachEqual_holds hdone, ?_⟩
      obtain ⟨m, hm, hshape⟩ := KeyedDict.putEqual_holds himports
      rw [storedImportShape, storedImportShape, hfields] at hshape
      change m ∈ imports.get? (digests.importId manual_import.toManualImportFields) at hm
      rw [hfields] at hm
      exact ⟨m, hm, hshape⟩
  · have hrefused : rules.2 = false := by
      rw [← Bool.not_eq_true, KeyedDict.putEachEqual_iff h.rules]
      exact hconsistent
    refine .inr ⟨hconsistent, ⟨records, venues, rules.1, stores.manual_imports⟩,
      "venue instrument rule snapshot id collision", ?_, fun hsame => ?_⟩
    · rw [putImport, Action.bind_eq_error]
      refine .inr ⟨_, (), Action.writing_part_eq_ok.mpr ⟨records, putOne_eq_ok.mpr hrecords, rfl⟩,
        ?_⟩
      rw [Action.bind_eq_error]
      refine .inr ⟨_, (), Action.writing_part_eq_ok.mpr ⟨venues, hvenues, rfl⟩, ?_⟩
      rw [Action.bind_eq_error]
      refine .inl ?_
      change (_, if rules.2 = true then _ else _) = _
      rw [hrefused]
      rfl
    · exact KeyedDict.putEachEqual_changed h.rules hrefused
        (congrArg ImportStores.instrument_rules hsame)

/-- The puts of what is imported change nothing. -/
theorem putImport_of_imported (h : Imported stores q)
    (hfields : manual_import.toManualImportFields = q.toManualImportFields) :
    putImport q manual_import stores = (stores, .ok ()) := by
  have hvenue : putSnapshot stores.venue_snapshots q.venue_snapshot =
      .ok stores.venue_snapshots := by
    cases hsnapshot : q.venue_snapshot with
    | none => rfl
    | some snapshot => exact putOne_eq_ok.mpr (KeyedDict.putEqual_of_holds (h.venue _ hsnapshot))
  have hrecord : putOne (recordShape digests) "venue capability source record"
      stores.source_records q.source_record = .ok stores.source_records :=
    putOne_eq_ok.mpr (KeyedDict.putEqual_of_holds h.record)
  have hmanual : stores.manual_imports.Holds storedImportShape manual_import := by
    obtain ⟨m, hm, hshape⟩ := h.manual_import
    rw [← hfields] at hm hshape
    exact ⟨m, hm, hshape⟩
  rw [putImport, Action.bind_eq_ok]
  refine ⟨stores, (), Action.writing_part_eq_ok.mpr ⟨_, hrecord, rfl⟩, ?_⟩
  rw [Action.bind_eq_ok]
  refine ⟨stores, (), Action.writing_part_eq_ok.mpr ⟨_, hvenue, rfl⟩, ?_⟩
  rw [Action.bind_eq_ok]
  refine ⟨stores, (), ?_, Action.writing_part_eq_ok.mpr
    ⟨_, putOne_eq_ok.mpr (KeyedDict.putEqual_of_holds hmanual), rfl⟩⟩
  rw [putRules, KeyedDict.putEachEqual_of_holds h.rules]
  rfl

/-! All or nothing. -/

/-- The request is accepted and changes no store. -/
def Repeats (stores : ImportStores digests) (q : VenueCapabilityManualImportRequest) : Prop :=
  ∃ d, importCapabilities q stores = (stores, .ok d) ∧ d.accepted = true

/-- The stores after the imports of several requests. -/
def importEach (stores : ImportStores digests)
    (requests : List VenueCapabilityManualImportRequest) : ImportStores digests :=
  run (fun s q => (importCapabilities q s).1) stores requests

/-- An accepted import has stored everything, and is accepted again after any further imports
without a change; any other end leaves the stores as they are. -/
structure AllOrNothing (stores : ImportStores digests) (q : VenueCapabilityManualImportRequest) :
    Prop where
  accepted : ∀ after d, importCapabilities q stores = (after, .ok d) → d.accepted = true →
    Imported after q ∧ ∀ requests, Repeats (importEach after requests) q
  rejected : ∀ after d, importCapabilities q stores = (after, .ok d) → d.accepted = false →
    after = stores
  raised : ∀ after e, importCapabilities q stores = (after, .error e) → after = stores

/-- The decision of an import that was made. -/
theorem accepted_decision (q : VenueCapabilityManualImportRequest)
    (m : VenueCapabilityManualImport digests) :
    ∃ d, importDecision digests q true .ACCEPTED (importedDetails digests q) (some m) = .ok d := by
  unfold importDecision VenueCapabilityManualImportDecision.of
  split
  · exact ⟨_, rfl⟩
  · rename_i message herror
    refine absurd (herror.symm.trans ?_) (by simp : Except.error message ≠ .ok ())
    simp [ManualImportDecisionFields.validate]

theorem Imported.repeats (h : Imported stores q) (hsourced : Sourced digests q.toManualImportFields) :
    Repeats stores q := by
  rcases importCapabilities_cases stores q with ⟨hnot, -⟩ | ⟨-, m, hfields, hrun⟩
  · exact absurd ⟨hsourced, h.admitted⟩ hnot
  · obtain ⟨d, hd⟩ := accepted_decision q m
    refine ⟨d, ?_, importDecision_eq_ok hd⟩
    rw [hrun, Action.bind_eq_ok]
    exact ⟨stores, (), putImport_of_imported h hfields, Action.reading_eq_ok.mpr ⟨rfl, hd⟩⟩

theorem importEach_extends (stores : ImportStores digests)
    (requests : List VenueCapabilityManualImportRequest) :
    stores.Extends (importEach stores requests) :=
  run_keeps (fun s q hs => extends_frame.trans hs (importCapabilities_extends q s))
    (ImportStores.Extends.refl stores) requests

/-- A rejection leaves the stores as they are. -/
theorem allOrNothing_of_rejected {reason : VenueCapabilityManualImportDecisionReason}
    {details : Json} (hrun : importCapabilities q stores =
      (stores, importDecision digests q false reason details none)) : AllOrNothing stores q := by
  refine ⟨?_, ?_, ?_⟩
  · intro after d h haccepted
    rw [hrun] at h
    have hfalse := importDecision_eq_ok (Prod.mk.inj h).2
    exact absurd (haccepted.symm.trans hfalse) (by simp)
  · intro after d h _
    rw [hrun] at h
    exact (Prod.mk.inj h).1.symm
  · intro after e h
    rw [hrun] at h
    exact (Prod.mk.inj h).1.symm

theorem Cleared.allOrNothing (hcleared : Cleared stores q)
    (hconsistent : ConsistentRules digests q) : AllOrNothing stores q := by
  rcases importCapabilities_cases stores q with ⟨hnot, -⟩ | ⟨-, m, hfields, hrun⟩
  · exact absurd hcleared hnot
  rcases putImport_of_admitted hcleared.admitted hfields with
    ⟨-, t, hput, himported⟩ | ⟨hnot, -⟩
  · obtain ⟨d, hd⟩ := accepted_decision q m
    have hok : importCapabilities q stores = (t, .ok d) := by
      rw [hrun, Action.bind_eq_ok]
      exact ⟨t, (), hput, Action.reading_eq_ok.mpr ⟨rfl, hd⟩⟩
    refine ⟨fun after d' h _ => ?_, fun after d' h hrejected => ?_, fun after e h => ?_⟩
    · obtain rfl : t = after := (Prod.mk.inj (hok.symm.trans h)).1
      refine ⟨himported, fun requests => ?_⟩
      exact (himported.mono (importEach_extends t requests)).repeats hcleared.sourced
    · obtain rfl : d = d' := Except.ok.inj (Prod.mk.inj (hok.symm.trans h)).2
      have htrue := importDecision_eq_ok hd
      exact absurd (htrue.symm.trans hrejected) (by simp)
    · exact absurd (Prod.mk.inj (hok.symm.trans h)).2 (by simp)
  · exact absurd hconsistent hnot

/-- Rules that differ under one snapshot id stop the puts behind those that were made. -/
theorem Cleared.not_allOrNothing (hcleared : Cleared stores q)
    (hconsistent : ¬ ConsistentRules digests q) : ¬ AllOrNothing stores q := by
  rcases importCapabilities_cases stores q with ⟨hnot, -⟩ | ⟨-, m, hfields, hrun⟩
  · exact absurd hcleared hnot
  rcases putImport_of_admitted hcleared.admitted hfields with
    ⟨h, -⟩ | ⟨-, t, e, hput, hchanged⟩
  · exact absurd h hconsistent
  · intro h
    refine hchanged (h.raised t e ?_)
    rw [hrun, Action.bind_eq_error]
    exact .inl hput

/-- A request is imported all or nothing exactly when its checks find something against it, or its
rules with one snapshot id are equal. -/
theorem import_all_or_nothing_iff (stores : ImportStores digests)
    (q : VenueCapabilityManualImportRequest) :
    AllOrNothing stores q ↔ (Cleared stores q → ConsistentRules digests q) := by
  constructor
  · intro h hcleared
    by_contra hconsistent
    exact hcleared.not_allOrNothing hconsistent h
  · intro h
    rcases importCapabilities_cases stores q with ⟨-, reason, details, hrun⟩ | ⟨hcleared, -⟩
    · exact allOrNothing_of_rejected hrun
    · exact hcleared.allOrNothing (h hcleared)

/-! Two rules with one snapshot id, in a request to empty stores. -/

def sampleDigest : HexDigest :=
  .ofText "44136fa355b3678a1146ad16f7e8649e94fb4fc21fe77e8310c060f61caaff8a" (by decide +kernel)

def sampleSourceDigests : SourceDigests where
  sha256 _ := sampleDigest
  asset _ := sampleDigest
  asset_semantics _ := sampleDigest
  descriptor _ := sampleDigest
  record _ := sampleDigest
  manual_import _ := sampleDigest
  request _ := sampleDigest

def sampleRecord : VenueCapabilitySourceRecord where
  descriptor := {
    venue_id := ⟨"BINANCE", by decide⟩
    source_kind := .OFFICIAL_EXCHANGE_EXPORT
    trust := .OFFICIAL
    fetch_mode := .MANUAL
    reference_uri := none
    reference_name := ⟨"exchange info", by decide⟩
    official_owner := none
    version := none
    created_at := sampleTime
    metadata := .obj []
    known := by decide
    fixture := by decide }
  payload := {
    canonical_payload := .obj []
    content_type := ⟨"application/json", by decide⟩
    captured_at := sampleTime
    observed_at := sampleTime
    allow_observed_before_captured := false
    observed := by decide }
  health_status := .HEALTHY
  reason := .ACCEPTED
  accepted_for_execution := true
  recorded_at := sampleTime
  details := .obj []
  accepted _ := by decide
  rejected := by decide

def sampleRule (symbol : TrimmedText) : VenueInstrumentRuleSnapshot where
  snapshot_id := ⟨"rules-1", by decide⟩
  venue_id := ⟨"BINANCE", by decide⟩
  instrument_id := ⟨"BTCUSDT-PERP", by decide⟩
  symbol
  trading_status := .TRADING
  contract_kind := .LINEAR_PERPETUAL
  margin_asset := ⟨"USDT", by decide⟩
  settlement_asset := ⟨"USDT", by decide⟩
  base_asset := none
  quote_asset := none
  captured_at := sampleTime
  price_filter := ⟨⟨⟨false, 1, -1⟩, by decide⟩, none, none, none, by decide⟩
  quantity_filter :=
    ⟨⟨⟨false, 1, -3⟩, by decide⟩, ⟨⟨false, 1, -3⟩, by decide⟩, none, none, by decide⟩
  notional_filter := ⟨none, none, false, by decide⟩
  max_leverage := none
  supported_order_types := ["LIMIT"]
  supported_time_in_force := ["GTC"]
  supports_reduce_only := true
  supports_post_only := true
  supports_close_position := true
  supports_gtd := false
  min_gtd_duration_ms := none
  supports_price_protection := false
  supported_self_trade_prevention_modes := []
  asset_semantics := none
  source_hash := none
  source_record_id := some (sampleSourceDigests.recordId sampleRecord)
  source_payload_hash := some sampleDigest
  valid := ⟨by simp, by simp, rfl, by simp⟩

def collidingRules : VenueCapabilityManualImportRequest where
  source_record := sampleRecord
  venue_snapshot := none
  instrument_rules := [sampleRule ⟨"BTCUSDT", .checked evaluates⟩, sampleRule ⟨"BTCUSD", by decide⟩]
  imported_at := sampleTime
  imported_by := ⟨"operator", .checked evaluates⟩
  details := .obj []
  correlation_id := none
  has_snapshot := by simp

/-- The second rule is refused, and the source record and the first rule are stored. -/
theorem colliding_rules_half_imported :
    ¬ @AllOrNothing sampleSourceDigests ⟨.empty, .empty, .empty, .empty⟩
      collidingRules := by
  apply Cleared.not_allOrNothing
  · refine ⟨⟨rfl, fun s hs => absurd hs (by simp [collidingRules]), fun r hr => ?_⟩,
      ⟨fun w hw => absurd hw (by simp), fun s hs => absurd hs (by simp [collidingRules]),
        fun r _ w hw => absurd hw (by simp), fun m hm => absurd hm (by simp)⟩⟩
    -- both rules name the record
    simp only [collidingRules, List.mem_cons, List.not_mem_nil, or_false] at hr
    rcases hr with rfl | rfl <;> rfl
  · intro h
    have hshape := h _ List.mem_cons_self _ (List.mem_cons_of_mem _ List.mem_cons_self) rfl
    have hnames := congrArg RuleShape.names hshape
    exact absurd hnames (by decide)

end FuturesBot.Venues
