import FuturesBot.ReplayIntegrity
import Mathlib.Data.List.Dedup

/-! What the stores of fingerprints, verifications, batches, readiness reports and manifests say of
each other after any calls. -/
namespace FuturesBot.Integrity

open JsonText (Json Text)
open TextLines DateTimes Dicts KeySorting Checks StoreActions
open Replay (ReplayArtifactKind ReplayRunManifestStatus)
open Action

variable {now : ℕ → DateTime} {sha256 : Text → HexDigest} {s t u : IntegrityStores}

/-! What the stores hold stays, and the fingerprints stay in their order. -/

structure Grows (s t : IntegrityStores) : Prop where
  readings : s.readings ≤ t.readings
  fingerprints : s.fingerprints.values <+: t.fingerprints.values
  verifications : s.verifications.Grows t.verifications
  batch_reports : s.batch_reports.Grows t.batch_reports
  readiness_reports : s.readiness_reports.Grows t.readiness_reports

theorem Grows.refl (s : IntegrityStores) : Grows s s :=
  ⟨Nat.le_refl _, List.prefix_refl _, KeyedDict.Grows.refl _, KeyedDict.Grows.refl _,
    KeyedDict.Grows.refl _⟩

theorem Grows.trans (h : Grows s t) (h' : Grows t u) : Grows s u :=
  ⟨h.readings.trans h'.readings, h.fingerprints.trans h'.fingerprints,
    h.verifications.trans h'.verifications, h.batch_reports.trans h'.batch_reports,
    h.readiness_reports.trans h'.readiness_reports⟩

/-! What a record says, given the stores. -/

structure VerificationSound (now : ℕ → DateTime) (s : IntegrityStores)
    (v : ReplayArtifactFingerprintVerification) : Prop where
  past : v.verified_at ≤ now s.readings
  valid : v.status = .VALID → v.issues = [] ∧ ∃ f ∈ s.fingerprints.values,
    f.fingerprint_id = v.fingerprint_id ∧ f.replay_plan_id = v.replay_plan_id ∧
      v.stored_canonical_payload = some f.canonical_payload ∧
        v.recomputed_canonical_payload = some f.canonical_payload

/-- An item stands for a verification of the batch's time or later, and a fingerprint that is
found valid was generated before the batch. -/
structure ItemSound (s : IntegrityStores) (b : BatchReport) (i : BatchItem) : Prop where
  verified : ∃ v ∈ s.verifications.values, i = itemOf b.report_id v ∧
    b.generated_at ≤ v.verified_at
  generated : i.verification_status = .VALID → ∃ f ∈ s.fingerprints.values,
    f.fingerprint_id.value = i.fingerprint_id ∧
      f.replay_plan_id.map (fun t => t.value) = i.replay_plan_id ∧
        f.generated_at ≤ b.generated_at

/-- What a batch was asked to verify: some fingerprints, of which it finds the plan out, or those
that a plan then had. -/
def ScopeSound (fingerprints : List ReplayArtifactFingerprint) (b : BatchReport) : Prop :=
  (b.scope_kind = .EXPLICIT_FINGERPRINT_SET ∧ b.replay_plan_id = inferReplayPlanId b.items) ∨
    (b.scope_kind = .REPLAY_PLAN ∧ ∃ plan_id before, b.replay_plan_id = some plan_id ∧
      before <+: fingerprints ∧ b.requested_fingerprint_ids =
        (sortBy IntegrityStores.fingerprintOrder
          (before.filter (IntegrityStores.ofPlan plan_id))).map fun f => f.fingerprint_id.value)

structure BatchSound (now : ℕ → DateTime) (s : IntegrityStores) (b : BatchReport) : Prop where
  past : b.generated_at ≤ now s.readings
  generated : b.status = .GENERATED
  summary : b.summary = buildBatchSummary b.items
  requested : b.items.map (fun i => i.fingerprint_id) = b.requested_fingerprint_ids
  distinct : b.requested_fingerprint_ids.Nodup
  items : ∀ i ∈ b.items, ItemSound s b i
  scope : ScopeSound s.fingerprints.values b

/-- The latest batch of a readiness report comes before it, with all its verifications. -/
structure ReadinessSound (now : ℕ → DateTime) (s : IntegrityStores) (r : ReadinessReport) :
    Prop where
  past : r.checked_at ≤ now s.readings
  latest : ∀ batch_id ∈ r.summary.latest_batch_report_id, ∃ b ∈ s.batch_reports.values,
    b.report_id = batch_id.value ∧ ∀ i ∈ b.items, ∃ v ∈ s.verifications.values,
      i = itemOf b.report_id v ∧ b.generated_at ≤ v.verified_at ∧ v.verified_at ≤ r.checked_at

/-- The times of a planned manifest: each fingerprint was generated before the batch that verified
it, and verified before the readiness check, which comes before the manifest. -/
structure PlannedSound (s : IntegrityStores) (m : ReplayRunManifest) (b : BatchReport)
    (r : ReadinessReport) : Prop where
  readiness_id : m.readiness.readiness_report_id = r.report_id
  ready : r.status = .READY
  batch_id : m.verification_batch_report_id.map (fun t => t.value) = some b.report_id
  plan : m.replay_plan_id = r.replay_plan_id
  ids : m.fingerprint_ids.map (fun t => t.value) = b.requested_fingerprint_ids
  generated : ∀ id ∈ m.fingerprint_ids, ∃ f ∈ s.fingerprints.values, f.fingerprint_id = id ∧
    f.replay_plan_id = some m.replay_plan_id ∧ f.generated_at ≤ b.generated_at
  verified : ∀ id ∈ m.fingerprint_ids, ∃ v ∈ s.verifications.values, v.fingerprint_id = id ∧
    v.status = .VALID ∧ b.generated_at ≤ v.verified_at ∧ v.verified_at ≤ r.checked_at
  checked : b.generated_at ≤ r.checked_at
  created : r.checked_at ≤ m.created_at

def ManifestSound (s : IntegrityStores) (m : ReplayRunManifest) : Prop :=
  m.status = .PLANNED → ∃ r ∈ s.readiness_reports.values, ∃ b ∈ s.batch_reports.values,
    PlannedSound s m b r

structure StoresSound (now : ℕ → DateTime) (s : IntegrityStores) : Prop where
  fingerprints : ∀ f ∈ s.fingerprints.values, f.generated_at ≤ now s.readings
  verifications : ∀ v ∈ s.verifications.values, VerificationSound now s v
  batch_reports : ∀ b ∈ s.batch_reports.values, BatchSound now s b
  readiness_reports : ∀ r ∈ s.readiness_reports.values, ReadinessSound now s r
  manifests : ∀ m ∈ s.manifests.values, ManifestSound s m

/-! What a record says stays true. -/

section Mono

variable (hmono : Monotone now) (h : Grows s t)
include h

theorem Grows.fingerprint {f : ReplayArtifactFingerprint} (hf : f ∈ s.fingerprints.values) :
    f ∈ t.fingerprints.values := h.fingerprints.subset hf

theorem ItemSound.mono {b : BatchReport} {i : BatchItem} (hi : ItemSound s b i) :
    ItemSound t b i := by
  refine ⟨?_, fun hvalid => ?_⟩
  · obtain ⟨v, hv, hitem⟩ := hi.verified
    exact ⟨v, h.verifications v hv, hitem⟩
  · obtain ⟨f, hf, hitem⟩ := hi.generated hvalid
    exact ⟨f, h.fingerprint hf, hitem⟩

theorem ScopeSound.mono {b : BatchReport} (hb : ScopeSound s.fingerprints.values b) :
    ScopeSound t.fingerprints.values b := by
  rcases hb with hexplicit | ⟨hplan, plan_id, before, hid, hbefore, hrequested⟩
  · exact .inl hexplicit
  · exact .inr ⟨hplan, plan_id, before, hid, hbefore.trans h.fingerprints, hrequested⟩

theorem PlannedSound.mono {m : ReplayRunManifest} {b : BatchReport} {r : ReadinessReport}
    (hm : PlannedSound s m b r) : PlannedSound t m b r where
  readiness_id := hm.readiness_id
  ready := hm.ready
  batch_id := hm.batch_id
  plan := hm.plan
  ids := hm.ids
  generated id hid := by
    obtain ⟨f, hf, hrest⟩ := hm.generated id hid
    exact ⟨f, h.fingerprint hf, hrest⟩
  verified id hid := by
    obtain ⟨v, hv, hrest⟩ := hm.verified id hid
    exact ⟨v, h.verifications v hv, hrest⟩
  checked := hm.checked
  created := hm.created

theorem ManifestSound.mono {m : ReplayRunManifest} (hm : ManifestSound s m) :
    ManifestSound t m := by
  intro hplanned
  obtain ⟨r, hr, b, hb, hsound⟩ := hm hplanned
  exact ⟨r, h.readiness_reports r hr, b, h.batch_reports b hb, hsound.mono h⟩

include hmono

theorem Grows.past {time : DateTime} (htime : time ≤ now s.readings) : time ≤ now t.readings :=
  htime.trans (hmono h.readings)

theorem VerificationSound.mono {v : ReplayArtifactFingerprintVerification}
    (hv : VerificationSound now s v) : VerificationSound now t v := by
  refine ⟨h.past hmono hv.past, fun hvalid => ?_⟩
  obtain ⟨hissues, f, hf, hrest⟩ := hv.valid hvalid
  exact ⟨hissues, f, h.fingerprint hf, hrest⟩

theorem BatchSound.mono {b : BatchReport} (hb : BatchSound now s b) : BatchSound now t b where
  past := h.past hmono hb.past
  generated := hb.generated
  summary := hb.summary
  requested := hb.requested
  distinct := hb.distinct
  items i hi := (hb.items i hi).mono h
  scope := hb.scope.mono h

theorem ReadinessSound.mono {r : ReadinessReport} (hr : ReadinessSound now s r) :
    ReadinessSound now t r := by
  refine ⟨h.past hmono hr.past, fun batch_id hid => ?_⟩
  obtain ⟨b, hb, hbid, hitems⟩ := hr.latest batch_id hid
  refine ⟨b, h.batch_reports b hb, hbid, fun i hi => ?_⟩
  obtain ⟨v, hv, hrest⟩ := hitems i hi
  exact ⟨v, h.verifications v hv, hrest⟩

end Mono

/-- The stores after one write: what they held stays sound, and what is new is sound. -/
theorem StoresSound.grown (hmono : Monotone now) (hs : StoresSound now s) (h : Grows s t)
    (hfingerprints : ∀ f ∈ t.fingerprints.values,
      f ∈ s.fingerprints.values ∨ f.generated_at ≤ now t.readings)
    (hverifications : ∀ v ∈ t.verifications.values,
      v ∈ s.verifications.values ∨ VerificationSound now t v)
    (hbatches : ∀ b ∈ t.batch_reports.values, b ∈ s.batch_reports.values ∨ BatchSound now t b)
    (hreadiness : ∀ r ∈ t.readiness_reports.values,
      r ∈ s.readiness_reports.values ∨ ReadinessSound now t r)
    (hmanifests : ∀ m ∈ t.manifests.values, m ∈ s.manifests.values ∨ ManifestSound t m) :
    StoresSound now t where
  fingerprints f hf := (hfingerprints f hf).elim
    (fun hold => h.past hmono (hs.fingerprints f hold)) id
  verifications v hv := (hverifications v hv).elim
    (fun hold => (hs.verifications v hold).mono hmono h) id
  batch_reports b hb := (hbatches b hb).elim
    (fun hold => (hs.batch_reports b hold).mono hmono h) id
  readiness_reports r hr := (hreadiness r hr).elim
    (fun hold => (hs.readiness_reports r hold).mono hmono h) id
  manifests m hm := (hmanifests m hm).elim (fun hold => (hs.manifests m hold).mono h) id

theorem StoresSound.empty : StoresSound now IntegrityStores.empty where
  fingerprints _ hf := absurd hf List.not_mem_nil
  verifications _ hv := absurd hv List.not_mem_nil
  batch_reports _ hb := absurd hb List.not_mem_nil
  readiness_reports _ hr := absurd hr List.not_mem_nil
  manifests _ hm := absurd hm List.not_mem_nil

/-! The writes. -/

theorem saved_eq_ok {κ ν : Type} [DecidableEq κ] [DecidableEq ν] {key : ν → κ}
    {d d' : KeyedDict key} {v : ν} {e : IntegrityError} :
    saved d v e = .ok d' ↔ d.Accepts v ∧ d' = d.put v := by
  rw [saved]
  cases hsave : d.saveOnce v with
  | none =>
    have hnot : ¬ (d.Accepts v ∧ d' = d.put v) := fun h => by
      rw [KeyedDict.saveOnce_accepted h.1] at hsave
      cases hsave
    exact ⟨fun h => absurd h (by simp), fun h => absurd h hnot⟩
  | some saved =>
    obtain ⟨haccepts, rfl⟩ := KeyedDict.saveOnce_eq_some.mp hsave
    simp only [Except.ok.injEq]
    exact ⟨fun h => ⟨haccepts, h.symm⟩, fun h => h.2.symm⟩

/-- What holds of the stores before and after an operation, however it ends. -/
structure Kept (now : ℕ → DateTime) (s t : IntegrityStores) : Prop where
  sound : StoresSound now t
  grows : Grows s t

theorem Kept.refl (hs : StoresSound now s) : Kept now s s := ⟨hs, Grows.refl s⟩

theorem Kept.trans (h : Kept now s t) (h' : Kept now t u) : Kept now s u :=
  ⟨h'.sound, h.grows.trans h'.grows⟩

theorem kept_tick (hmono : Monotone now) (hs : StoresSound now s) :
    Kept now s { s with readings := s.readings + 1 } := by
  have hgrows : Grows s { s with readings := s.readings + 1 } :=
    { Grows.refl s with readings := Nat.le_succ _ }
  exact ⟨hs.grown hmono hgrows (fun _ hf => .inl hf) (fun _ hv => .inl hv) (fun _ hb => .inl hb)
    (fun _ hr => .inl hr) fun _ hm => .inl hm, hgrows⟩

theorem kept_fingerprint (hmono : Monotone now) (hs : StoresSound now s)
    {f : ReplayArtifactFingerprint} (haccepts : s.fingerprints.Accepts f)
    (hf : f.generated_at ≤ now s.readings) :
    Kept now s { s with fingerprints := s.fingerprints.put f } := by
  have hgrows : Grows s { s with fingerprints := s.fingerprints.put f } := by
    refine { Grows.refl s with fingerprints := ?_ }
    rcases KeyedDict.put_accepted haccepts with ⟨-, hsame⟩ | ⟨-, hadded⟩
    · change s.fingerprints.values <+: (s.fingerprints.put f).values
      rw [hsame]
    · change s.fingerprints.values <+: (s.fingerprints.put f).values
      rw [hadded]
      exact List.prefix_append _ _
  refine ⟨hs.grown hmono hgrows (fun g hg => ?_) (fun _ hv => .inl hv) (fun _ hb => .inl hb)
    (fun _ hr => .inl hr) fun _ hm => .inl hm, hgrows⟩
  rcases (KeyedDict.mem_values_put_accepted haccepts).mp hg with rfl | hold
  · exact .inr hf
  · exact .inl hold

theorem kept_verification (hmono : Monotone now) (hs : StoresSound now s)
    {v : ReplayArtifactFingerprintVerification} (haccepts : s.verifications.Accepts v)
    (hv : VerificationSound now s v) :
    Kept now s { s with verifications := s.verifications.put v } := by
  have hgrows : Grows s { s with verifications := s.verifications.put v } :=
    { Grows.refl s with verifications := KeyedDict.grows_put haccepts }
  refine ⟨hs.grown hmono hgrows (fun _ hf => .inl hf) (fun w hw => ?_) (fun _ hb => .inl hb)
    (fun _ hr => .inl hr) fun _ hm => .inl hm, hgrows⟩
  rcases (KeyedDict.mem_values_put_accepted haccepts).mp hw with rfl | hold
  · exact .inr (hv.mono hmono hgrows)
  · exact .inl hold

theorem kept_batch (hmono : Monotone now) (hs : StoresSound now s) {b : BatchReport}
    (haccepts : s.batch_reports.Accepts b) (hb : BatchSound now s b) :
    Kept now s { s with batch_reports := s.batch_reports.put b } := by
  have hgrows : Grows s { s with batch_reports := s.batch_reports.put b } :=
    { Grows.refl s with batch_reports := KeyedDict.grows_put haccepts }
  refine ⟨hs.grown hmono hgrows (fun _ hf => .inl hf) (fun _ hv => .inl hv) (fun c hc => ?_)
    (fun _ hr => .inl hr) fun _ hm => .inl hm, hgrows⟩
  rcases (KeyedDict.mem_values_put_accepted haccepts).mp hc with rfl | hold
  · exact .inr (hb.mono hmono hgrows)
  · exact .inl hold

theorem kept_readiness (hmono : Monotone now) (hs : StoresSound now s) {r : ReadinessReport}
    (haccepts : s.readiness_reports.Accepts r) (hr : ReadinessSound now s r) :
    Kept now s { s with readiness_reports := s.readiness_reports.put r } := by
  have hgrows : Grows s { s with readiness_reports := s.readiness_reports.put r } :=
    { Grows.refl s with readiness_reports := KeyedDict.grows_put haccepts }
  refine ⟨hs.grown hmono hgrows (fun _ hf => .inl hf) (fun _ hv => .inl hv) (fun _ hb => .inl hb)
    (fun q hq => ?_) fun _ hm => .inl hm, hgrows⟩
  rcases (KeyedDict.mem_values_put_accepted haccepts).mp hq with rfl | hold
  · exact .inr (hr.mono hmono hgrows)
  · exact .inl hold

theorem kept_manifest (hmono : Monotone now) (hs : StoresSound now s) {m : ReplayRunManifest}
    (haccepts : s.manifests.Accepts m) (hm : ManifestSound s m) :
    Kept now s { s with manifests := s.manifests.put m } := by
  have hgrows : Grows s { s with manifests := s.manifests.put m } := { Grows.refl s with }
  refine ⟨hs.grown hmono hgrows (fun _ hf => .inl hf) (fun _ hv => .inl hv) (fun _ hb => .inl hb)
    (fun _ hr => .inl hr) fun n hn => ?_, hgrows⟩
  rcases (KeyedDict.mem_values_put_accepted haccepts).mp hn with rfl | hold
  · exact .inr (hm.mono hgrows)
  · exact .inl hold

/-! The operations keep the stores sound. -/

theorem requiredText_eq_ok {value field_name : String} {t : TrimmedText} :
    requiredText value field_name = .ok t ↔ t.value = value := by
  rw [requiredText, TrimmedText.of]
  by_cases h : Trimmed value.toList
  · rw [dif_pos h]
    constructor
    · intro heq
      rw [← Except.ok.inj heq]
    · intro heq
      exact congrArg Except.ok (TrimmedText.ext heq.symm)
  · rw [dif_neg h]
    constructor
    · intro heq
      cases heq
    · intro heq
      exact absurd (heq ▸ t.trimmed) h

theorem ends_tick {β : Type} {f : DateTime → IntegrityAction β}
    {after : IntegrityStores → Except IntegrityError β → Prop}
    (h : Ends (f (now s.readings)) { s with readings := s.readings + 1 } after) :
    Ends (tick now >>= f) s after := h

theorem fingerprintArtifact_ends (hmono : Monotone now) (hs : StoresSound now s)
    {kind : ReplayArtifactKind} {fingerprint_id artifact_id : String} {notes : Option String} :
    Ends (fingerprintArtifact now kind fingerprint_id artifact_id notes) s
      fun t _ => Kept now s t := by
  have htick := kept_tick hmono hs
  unfold fingerprintArtifact
  refine ends_bind_reading (fun data _ => ends_tick ?_) fun _ => Kept.refl hs
  refine ends_bind_reading (fun id _ => ?_) fun _ => htick
  refine ends_bind_reading (fun notes _ => ?_) fun _ => htick
  refine ends_bind_writing_part (fun d hd => ?_) fun _ => htick
  obtain ⟨haccepts, rfl⟩ := saved_eq_ok.mp hd
  exact htick.trans (kept_fingerprint hmono htick.sound haccepts (hmono (Nat.le_succ _)))

theorem verified_sound {verification_id fingerprint_id : TrimmedText} {time : DateTime}
    {notes : Option TrimmedText} {v : ReplayArtifactFingerprintVerification}
    (h : verified sha256 s verification_id fingerprint_id time notes = .ok v)
    (htime : time ≤ now s.readings) :
    VerificationSound now s v ∧ v.verification_id = verification_id ∧
      v.fingerprint_id = fingerprint_id ∧ v.verified_at = time := by
  unfold verified at h
  split at h
  · cases h
    exact ⟨⟨htime, fun hvalid => by cases hvalid⟩, rfl, rfl, rfl⟩
  · rename_i f hget
    simp only at h
    split at h
    · cases h
      exact ⟨⟨htime, fun hvalid => by cases hvalid⟩, rfl, rfl, rfl⟩
    · split_ifs at h with hplan hsame
      · cases h
        have hkey := KeyedDict.key_of_get? hget
        have hid : f.fingerprint_id = fingerprint_id := TrimmedText.ext hkey
        refine ⟨⟨htime, fun _ => ⟨rfl, f, KeyedDict.mem_values_of_get? hget, hid, rfl, rfl, ?_⟩⟩,
          rfl, rfl, rfl⟩
        exact congrArg some hsame.2
      · cases h
        exact ⟨⟨htime, fun hvalid => by cases hvalid⟩, rfl, rfl, rfl⟩

/-- A verification of the fingerprint is recorded, not before the time of the call. -/
theorem verifyFingerprint_ends (hmono : Monotone now) (hs : StoresSound now s)
    {verification_id fingerprint_id : String} {notes : Option String} :
    Ends (verifyFingerprint now sha256 verification_id fingerprint_id notes) s fun t r =>
      Kept now s t ∧ t.fingerprints = s.fingerprints ∧ ∀ v, r = .ok v →
        v ∈ t.verifications.values ∧ v.fingerprint_id.value = fingerprint_id ∧
          now s.readings ≤ v.verified_at := by
  have htick := kept_tick hmono hs
  have hstop : ∀ e : IntegrityError, Kept now s { s with readings := s.readings + 1 } ∧
      s.fingerprints = s.fingerprints ∧ ∀ v : ReplayArtifactFingerprintVerification,
        Except.error e = Except.ok v → v ∈ s.verifications.values ∧
          v.fingerprint_id.value = fingerprint_id ∧ now s.readings ≤ v.verified_at :=
    fun e => ⟨htick, rfl, fun v hv => by cases hv⟩
  unfold verifyFingerprint
  refine ends_tick (ends_bind_reading (fun vid _ => ?_) hstop)
  refine ends_bind_reading (fun fid hfid => ?_) hstop
  refine ends_bind_reading (fun notes _ => ?_) hstop
  refine ends_bind_reading (fun v hv => ?_) hstop
  obtain ⟨hsound, -, hvfid, htime⟩ := verified_sound hv (hmono (Nat.le_succ s.readings))
  refine ends_bind_writing_part (fun d hd => ?_) hstop
  obtain ⟨haccepts, rfl⟩ := saved_eq_ok.mp hd
  refine ⟨htick.trans (kept_verification hmono htick.sound haccepts hsound), rfl, ?_⟩
  rintro w ⟨⟩
  refine ⟨(KeyedDict.mem_values_put_accepted haccepts).mpr (.inl rfl), ?_, ?_⟩
  · rw [hvfid]
    exact requiredText_eq_ok.mp hfid
  · rw [htime]

/-- Every id gets a verification and an item, in the order of the ids. -/
theorem verifyEach_ends (hmono : Monotone now) (hs : StoresSound now s) {report_id : String}
    {fp_ids : List String} :
    Ends (verifyEach now sha256 report_id fp_ids) s fun t r =>
      Kept now s t ∧ t.fingerprints = s.fingerprints ∧ ∀ items, r = .ok items →
        items.map (fun i => i.fingerprint_id) = fp_ids ∧
          ∀ i ∈ items, ∃ v ∈ t.verifications.values, i = itemOf report_id v ∧
            now s.readings ≤ v.verified_at := by
  induction fp_ids generalizing s with
  | nil =>
    refine ⟨Kept.refl hs, rfl, ?_⟩
    rintro items ⟨⟩
    exact ⟨rfl, fun i hi => absurd hi List.not_mem_nil⟩
  | cons fp_id fp_ids ih =>
    rw [verifyEach]
    refine Ends.bind (verifyFingerprint_ends hmono hs) (fun t v hfirst => ?_) fun t e hfirst => ?_
    · obtain ⟨hkept, hfps, hv⟩ := hfirst
      obtain ⟨hmem, hvid, htime⟩ := hv v rfl
      refine Ends.bind (ih hkept.sound) (fun u items hrest => ?_) fun u e hrest => ?_
      · obtain ⟨hkept', hfps', hitems⟩ := hrest
        obtain ⟨hids, hall⟩ := hitems items rfl
        refine ⟨hkept.trans hkept', hfps'.trans hfps, ?_⟩
        rintro items' ⟨⟩
        refine ⟨?_, fun i hi => ?_⟩
        · rw [List.map_cons, hids]
          exact congrArg (fun id => id :: fp_ids) hvid
        · rcases List.mem_cons.mp hi with rfl | hi
          · exact ⟨v, hkept'.grows.verifications v hmem, rfl, htime⟩
          · obtain ⟨w, hw, hitem, hlater⟩ := hall i hi
            exact ⟨w, hw, hitem, (hmono hkept.grows.readings).trans hlater⟩
      · exact ⟨hkept.trans hrest.1, hrest.2.1.trans hfps, fun items hitems => by cases hitems⟩
    · exact ⟨hfirst.1, hfirst.2.1, fun items hitems => by cases hitems⟩

/-- What a call asks a batch to verify. -/
def Asked (s : IntegrityStores) (scope_kind : BatchScopeKind) (replay_plan_id : Option String)
    (fingerprint_ids : List String) : Prop :=
  (scope_kind = .EXPLICIT_FINGERPRINT_SET ∧ replay_plan_id = none) ∨
    (scope_kind = .REPLAY_PLAN ∧ ∃ plan_id, replay_plan_id = some plan_id ∧
      fingerprint_ids = (s.planFingerprints plan_id).map fun f => f.fingerprint_id.value)

theorem buildReport_ends (hmono : Monotone now) (hs : StoresSound now s) {report_id : String}
    {fingerprint_ids : List String} {scope_kind : BatchScopeKind}
    {replay_plan_id notes : Option String}
    (hasked : Asked s scope_kind replay_plan_id fingerprint_ids) :
    Ends (buildReport now sha256 report_id fingerprint_ids scope_kind replay_plan_id notes) s
      fun t _ => Kept now s t := by
  have htick := kept_tick hmono hs
  unfold buildReport
  refine ends_tick (ends_bind_reading (fun _ hdistinct => ?_) fun _ => htick)
  rw [checkAll_require] at hdistinct
  refine Ends.bind (verifyEach_ends hmono htick.sound) (fun t items heach => ?_)
    fun t e heach => htick.trans heach.1
  obtain ⟨hkept, hfps, hitems⟩ := heach
  obtain ⟨hids, hall⟩ := hitems items rfl
  have hkept' := htick.trans hkept
  refine ends_bind_reading (fun notes _ => ?_) fun _ => hkept'
  refine ends_bind_reading (fun _ hvalid => ?_) fun _ => hkept'
  refine ends_bind_writing_part (fun d hd => ?_) fun _ => hkept'
  obtain ⟨haccepts, rfl⟩ := saved_eq_ok.mp hd
  refine hkept'.trans (kept_batch hmono hkept'.sound haccepts ?_)
  have hlater : now s.readings ≤ now (s.readings + 1) := hmono (Nat.le_succ _)
  refine ⟨hmono hkept'.grows.readings, rfl, rfl, hids, hdistinct.1, fun i hi => ?_, ?_⟩
  · obtain ⟨v, hv, rfl, htime⟩ := hall i hi
    refine ⟨⟨v, hv, rfl, hlater.trans htime⟩, fun hstatus => ?_⟩
    obtain ⟨-, f, hf, hfid, hfplan, -⟩ := (hkept'.sound.verifications v hv).valid hstatus
    refine ⟨f, hf, congrArg TrimmedText.value hfid,
      congrArg (Option.map fun t => t.value) hfplan, ?_⟩
    -- the fingerprint was there when the batch began
    rw [hfps] at hf
    exact hs.fingerprints f hf
  · rcases hasked with ⟨rfl, rfl⟩ | ⟨rfl, plan_id, rfl, rfl⟩
    · exact .inl ⟨rfl, rfl⟩
    · exact .inr ⟨rfl, plan_id, s.fingerprints.values, rfl, hkept'.grows.fingerprints, rfl⟩

theorem namedBatch_some {latest : Option BatchReport} {b : BatchReport} {id : TrimmedText}
    (h : namedBatch latest = .ok (some (b, id))) : latest = some b ∧ id.value = b.report_id := by
  cases latest with
  | none => cases h
  | some c =>
    obtain ⟨t, ht, heq⟩ := map_eq_ok.mp h
    cases heq
    exact ⟨rfl, requiredText_eq_ok.mp ht⟩

theorem foldl_max_le {α κ : Type} [LinearOrder κ] {key : α → κ} {l : List α} {a : α} :
    (l.foldl (fun m x => if key m < key x then x else m) a) ∈ a :: l ∧
      ∀ x ∈ a :: l, key x ≤ key (l.foldl (fun m x => if key m < key x then x else m) a) := by
  induction l generalizing a with
  | nil =>
    refine ⟨List.mem_cons_self, fun x hx => ?_⟩
    rw [List.mem_singleton.mp hx]
    exact le_refl _
  | cons b bs ih =>
    rw [List.foldl_cons]
    by_cases hlt : key a < key b
    · rw [if_pos hlt]
      refine ⟨List.mem_cons_of_mem a (ih (a := b)).1, fun x hx => ?_⟩
      rcases List.mem_cons.mp hx with rfl | hx
      · exact (le_of_lt hlt).trans ((ih (a := b)).2 b List.mem_cons_self)
      · exact (ih (a := b)).2 x hx
    · rw [if_neg hlt]
      refine ⟨?_, fun x hx => ?_⟩
      · rcases List.mem_cons.mp (ih (a := a)).1 with heq | hmem
        · rw [heq]
          exact List.mem_cons_self
        · exact List.mem_cons_of_mem a (List.mem_cons_of_mem b hmem)
      · rcases List.mem_cons.mp hx with rfl | hx
        · exact (ih (a := x)).2 x List.mem_cons_self
        · rcases List.mem_cons.mp hx with rfl | hx
          · exact (not_lt.mp hlt).trans ((ih (a := a)).2 a List.mem_cons_self)
          · exact (ih (a := a)).2 x (List.mem_cons_of_mem a hx)

theorem maxBy_some {α κ : Type} [LinearOrder κ] {key : α → κ} {l : List α} {m : α}
    (h : maxBy key l = some m) : m ∈ l ∧ ∀ x ∈ l, key x ≤ key m := by
  cases l with
  | nil => cases h
  | cons a as =>
    cases h
    exact foldl_max_le

theorem mem_planBatches {plan_id : String} {b : BatchReport} :
    b ∈ s.planBatches plan_id ↔ b ∈ s.batch_reports.values ∧ b.replay_plan_id = some plan_id := by
  simp only [IntegrityStores.planBatches, mem_sortBy, List.mem_filter, decide_eq_true_eq]

/-- The check of a plan, from what it reads to the report that it saves. -/
theorem checkReplayPlan_eq_ok {reads_coverage : Bool} {report_id replay_plan_id : String}
    {notes : Option String} {r : ReadinessReport}
    (h : checkReplayPlan now reads_coverage report_id replay_plan_id notes s = (t, .ok r)) :
    ∃ latest coverage_reports,
      namedBatch (latestBatchReport (s.planBatches replay_plan_id)) = .ok latest ∧
      r.report_id.value = report_id ∧ r.replay_plan_id.value = replay_plan_id ∧
      r.checked_at = now s.readings ∧
      r.issues = collectReadinessIssues (s.planFingerprints replay_plan_id).length latest
        coverage_reports ∧
      r.status = determineReadinessStatus r.issues (s.planFingerprints replay_plan_id).length
        (latest.map fun b => b.1) ∧
      r.summary = buildReadinessSummary (s.planFingerprints replay_plan_id).length latest
        r.issues ∧
      checkAll r.validate = .ok () ∧ s.readiness_reports.Accepts r ∧
      t = { s with
        readings := s.readings + 1
        readiness_reports := s.readiness_reports.put r } ∧
      optionalText notes "notes" = .ok r.notes := by
  unfold checkReplayPlan at h
  obtain ⟨u1, ⟨count, latest, coverage_reports⟩, h1, h⟩ := bind_eq_ok.mp h
  obtain ⟨rfl, hread⟩ := reading_eq_ok.mp h1
  obtain ⟨named, hnamed, htuple⟩ := map_eq_ok.mp hread
  cases htuple
  obtain ⟨u2, checked_at, htick, h⟩ := bind_eq_ok.mp h
  cases htick
  obtain ⟨u3, id, h3, h⟩ := bind_eq_ok.mp h
  obtain ⟨rfl, hid⟩ := reading_eq_ok.mp h3
  obtain ⟨u4, plan, h4, h⟩ := bind_eq_ok.mp h
  obtain ⟨rfl, hplan⟩ := reading_eq_ok.mp h4
  obtain ⟨u5, notes', h5, h⟩ := bind_eq_ok.mp h
  obtain ⟨rfl, hnotes⟩ := reading_eq_ok.mp h5
  obtain ⟨u6, ⟨⟩, h6, h⟩ := bind_eq_ok.mp h
  obtain ⟨rfl, hvalid⟩ := reading_eq_ok.mp h6
  obtain ⟨u7, ⟨⟩, h7, h⟩ := bind_eq_ok.mp h
  obtain ⟨d, hd, rfl⟩ := writing_part_eq_ok.mp h7
  obtain ⟨haccepts, rfl⟩ := saved_eq_ok.mp hd
  obtain ⟨rfl, rfl⟩ := pure_eq_ok.mp h
  exact ⟨_, _, hnamed, requiredText_eq_ok.mp hid, requiredText_eq_ok.mp hplan, rfl, rfl, rfl,
    rfl, hvalid, haccepts, rfl, hnotes⟩

theorem checkReplayPlan_ends (hmono : Monotone now) (hs : StoresSound now s)
    {reads_coverage : Bool} {report_id replay_plan_id : String} {notes : Option String} :
    Ends (checkReplayPlan now reads_coverage report_id replay_plan_id notes) s
      fun t _ => Kept now s t := by
  have htick := kept_tick hmono hs
  unfold checkReplayPlan
  refine ends_bind_reading (fun ⟨count, latest, coverage_reports⟩ hread => ?_)
    fun _ => Kept.refl hs
  obtain ⟨named, hnamed, htuple⟩ := map_eq_ok.mp hread
  cases htuple
  refine ends_tick (ends_bind_reading (fun id _ => ?_) fun _ => htick)
  refine ends_bind_reading (fun plan _ => ?_) fun _ => htick
  refine ends_bind_reading (fun notes _ => ?_) fun _ => htick
  refine ends_bind_reading (fun _ _ => ?_) fun _ => htick
  refine ends_bind_writing_part (fun d hd => ?_) fun _ => htick
  obtain ⟨haccepts, rfl⟩ := saved_eq_ok.mp hd
  refine htick.trans (kept_readiness hmono htick.sound haccepts ⟨hmono (Nat.le_succ _), ?_⟩)
  intro batch_id hid
  obtain ⟨⟨b, id⟩, hlatest, rfl⟩ := Option.map_eq_some_iff.mp hid
  rw [hlatest] at hnamed
  obtain ⟨hmax, hbid⟩ := namedBatch_some hnamed
  have hb := (mem_planBatches.mp (maxBy_some hmax).1).1
  refine ⟨b, hb, hbid.symm, fun i hi => ?_⟩
  obtain ⟨v, hv, hitem, htime⟩ := ((hs.batch_reports b hb).items i hi).verified
  exact ⟨v, hv, hitem, htime, (hs.verifications v hv).past⟩

/-! What a batch that finds everything valid says of its plan. -/

theorem all_valid_items {b : BatchReport} (hb : BatchSound now s b)
    (h : b.summary.all_valid = true) : ∀ i ∈ b.items, i.verification_status = .VALID := by
  rw [hb.summary] at h
  have hcount := (of_decide_eq_true h).2
  intro i hi
  have hall := List.countP_eq_length.mp hcount i hi
  exact of_decide_eq_true hall

theorem inferred_plan {items : List BatchItem} {plan_id : String}
    (h : inferReplayPlanId items = some plan_id) {i : BatchItem} (hi : i ∈ items) :
    i.replay_plan_id = some plan_id := by
  rw [inferReplayPlanId] at h
  split at h
  · rename_i named hdedup
    have hmem : i.replay_plan_id ∈ (items.map fun i => i.replay_plan_id).dedup :=
      List.mem_dedup.mpr (List.mem_map_of_mem hi)
    rw [hdedup, List.mem_singleton] at hmem
    rw [hmem]
    exact h
  · cases h

theorem mem_planFingerprints {plan_id : String} {f : ReplayArtifactFingerprint} :
    f ∈ s.planFingerprints plan_id ↔
      f ∈ s.fingerprints.values ∧ IntegrityStores.ofPlan plan_id f = true := by
  simp only [IntegrityStores.planFingerprints, mem_sortBy, List.mem_filter]

/-- Every fingerprint that a batch of the plan has found valid belongs to the plan, and was
generated before the batch. -/
theorem verified_of_plan {b : BatchReport} {plan_id : String} (hb : BatchSound now s b)
    (hplan : b.replay_plan_id = some plan_id) (hvalid : b.summary.all_valid = true) {i : BatchItem}
    (hi : i ∈ b.items) :
    ∃ f ∈ s.planFingerprints plan_id, f.fingerprint_id.value = i.fingerprint_id ∧
      f.generated_at ≤ b.generated_at := by
  obtain ⟨f, hf, hid, hfplan, htime⟩ := (hb.items i hi).generated (all_valid_items hb hvalid i hi)
  refine ⟨f, mem_planFingerprints.mpr ⟨hf, ?_⟩, hid, htime⟩
  rcases hb.scope with ⟨-, hinferred⟩ | ⟨-, asked, before, hasked, hbefore, hrequested⟩
  · rw [hinferred] at hplan
    rw [IntegrityStores.ofPlan, hfplan, inferred_plan hplan hi]
    exact decide_eq_true rfl
  · rw [hasked, Option.some.injEq] at hplan
    subst hplan
    -- the fingerprint is the one that the plan had
    have hmem : f.fingerprint_id.value ∈ b.requested_fingerprint_ids := by
      rw [← hb.requested, hid]
      exact List.mem_map_of_mem hi
    rw [hrequested] at hmem
    obtain ⟨g, hg, hgid⟩ := List.mem_map.mp hmem
    obtain ⟨hgbefore, hgplan⟩ := List.mem_filter.mp ((mem_sortBy _).mp hg)
    have hsame := KeyedDict.eq_of_key (hbefore.subset hgbefore) hf hgid
    rw [← hsame]
    exact hgplan

/-! Manifests. -/

theorem requiredTexts_eq_ok {field_name : String} {values : List String} {ts : List TrimmedText} :
    requiredTexts field_name values = .ok ts ↔ ts.map (fun t => t.value) = values := by
  induction values generalizing ts with
  | nil =>
    rw [requiredTexts, Except.ok.injEq, List.map_eq_nil_iff, eq_comm]
  | cons value values ih =>
    rw [requiredTexts]
    constructor
    · intro h
      obtain ⟨t, ht, h⟩ := Checks.bind_eq_ok.mp h
      obtain ⟨ts', hts, h⟩ := Checks.bind_eq_ok.mp h
      cases h
      rw [List.map_cons, requiredText_eq_ok.mp ht, ih.mp hts]
    · intro h
      obtain ⟨t, ts', rfl, ht, hts⟩ := List.map_eq_cons_iff.mp h
      exact Checks.bind_eq_ok.mpr ⟨t, requiredText_eq_ok.mpr ht,
        Checks.bind_eq_ok.mpr ⟨ts', ih.mpr hts, rfl⟩⟩

theorem requireReadyBatch_eq_ok {readiness : ReadinessReport} {batch : BatchReport} :
    requireReadyBatch s readiness = .ok batch ↔
      ∃ batch_id, readiness.summary.latest_batch_report_id = some batch_id ∧
        s.batch_reports.get? batch_id.value = some batch ∧
        checkAll (validateReadyBatch batch batch_id.value readiness) = .ok () ∧
        batch.requested_fingerprint_ids ≠ [] := by
  rw [requireReadyBatch.eq_def]
  cases hlatest : readiness.summary.latest_batch_report_id with
  | none => simp
  | some batch_id =>
    simp only [Option.some.injEq, exists_eq_left']
    cases hget : s.batch_reports.get? batch_id.value with
    | none => simp
    | some found =>
      simp only [Option.some.injEq]
      constructor
      · intro h
        obtain ⟨⟨⟩, hvalid, h⟩ := Checks.bind_eq_ok.mp h
        split_ifs at h with hempty
        cases h
        exact ⟨rfl, hvalid, hempty⟩
      · rintro ⟨rfl, hvalid, hempty⟩
        refine Checks.bind_eq_ok.mpr ⟨(), hvalid, ?_⟩
        rw [if_neg hempty]

theorem makeReadinessBinding_eq_ok {readiness : ReadinessReport} {ids : List String}
    {binding : ReplayRunReadinessBinding} :
    makeReadinessBinding readiness ids = .ok binding ↔
      ∃ texts : List TrimmedText, texts.map (fun t => t.value) = ids ∧ texts.Nodup ∧
        binding = {
          readiness_report_id := readiness.report_id
          readiness_replay_plan_id := readiness.replay_plan_id
          readiness_status := readiness.status
          readiness_checked_at := readiness.checked_at
          readiness_total_fingerprints := readiness.summary.total_fingerprints
          readiness_latest_batch_report_id := readiness.summary.latest_batch_report_id
          verified_fingerprint_ids := texts } := by
  rw [makeReadinessBinding]
  constructor
  · intro h
    obtain ⟨texts, htexts, h⟩ := Checks.bind_eq_ok.mp h
    obtain ⟨⟨⟩, hdistinct, h⟩ := Checks.bind_eq_ok.mp h
    rw [checkAll_require] at hdistinct
    exact ⟨texts, requiredTexts_eq_ok.mp htexts, hdistinct.1, (Except.ok.inj h).symm⟩
  · rintro ⟨texts, htexts, hdistinct, rfl⟩
    refine Checks.bind_eq_ok.mpr ⟨texts, requiredTexts_eq_ok.mpr htexts,
      Checks.bind_eq_ok.mpr ⟨(), ?_, rfl⟩⟩
    rw [checkAll_require]
    exact ⟨hdistinct, checkAll_nil⟩

theorem makeManifest_eq_ok {manifest_id : String} {readiness : ReadinessReport}
    {binding : ReplayRunReadinessBinding} {intent_kind : ReplayRunIntentKind}
    {notes : Option String} {status : ReplayRunManifestStatus} {created_at : DateTime}
    {ids : List String} {m : ReplayRunManifest} :
    makeManifest manifest_id readiness binding intent_kind notes status created_at ids = .ok m ↔
      ∃ (id : TrimmedText) (texts : List TrimmedText) (notes' : Option TrimmedText),
        id.value = manifest_id ∧ texts.map (fun t => t.value) = ids ∧
        optionalText notes "notes" = .ok notes' ∧ checkAll m.validate = .ok () ∧
        m = {
          manifest_id := id
          replay_plan_id := readiness.replay_plan_id
          created_at
          status
          fingerprint_ids := texts
          intent_kind
          readiness := binding
          verification_batch_report_id := readiness.summary.latest_batch_report_id
          notes := notes' } := by
  rw [makeManifest]
  constructor
  · intro h
    obtain ⟨id, hid, h⟩ := Checks.bind_eq_ok.mp h
    obtain ⟨texts, htexts, h⟩ := Checks.bind_eq_ok.mp h
    obtain ⟨notes', hnotes, h⟩ := Checks.bind_eq_ok.mp h
    obtain ⟨⟨⟩, hvalid, h⟩ := Checks.bind_eq_ok.mp h
    cases h
    exact ⟨id, texts, notes', requiredText_eq_ok.mp hid, requiredTexts_eq_ok.mp htexts, hnotes,
      hvalid, rfl⟩
  · rintro ⟨id, texts, notes', hid, htexts, hnotes, hvalid, rfl⟩
    exact Checks.bind_eq_ok.mpr ⟨id, requiredText_eq_ok.mpr hid, Checks.bind_eq_ok.mpr ⟨texts,
      requiredTexts_eq_ok.mpr htexts, Checks.bind_eq_ok.mpr ⟨notes', hnotes,
        Checks.bind_eq_ok.mpr ⟨(), hvalid, rfl⟩⟩⟩⟩

/-- The checks of a plan that may become a manifest. -/
structure ReadyPlan (s : IntegrityStores) (readiness : ReadinessReport) (batch : BatchReport) :
    Prop where
  total : readiness.summary.latest_batch_total_fingerprints =
    some readiness.summary.total_fingerprints
  nonempty : s.planFingerprints readiness.replay_plan_id.value ≠ []
  count : (s.planFingerprints readiness.replay_plan_id.value).length =
    readiness.summary.total_fingerprints
  same : (s.planFingerprints readiness.replay_plan_id.value).map
    (fun f => f.fingerprint_id.value) = batch.requested_fingerprint_ids
  generated : ∀ f ∈ s.planFingerprints readiness.replay_plan_id.value,
    f.generated_at ≤ batch.generated_at

theorem validateReadyPlan_eq_ok {readiness : ReadinessReport} {batch : BatchReport} :
    validateReadyPlan s readiness batch = .ok () ↔ ReadyPlan s readiness batch := by
  have hchecks : ∀ fs : List ReplayArtifactFingerprint,
      checkAll (fs.map fun f => require (f.generated_at ≤ batch.generated_at)
          (IntegrityError.fingerprintAfterBatch f.fingerprint_id.value)) = .ok () ↔
        ∀ f ∈ fs, f.generated_at ≤ batch.generated_at := by
    intro fs
    rw [List.map_eq_flatMap, checkAll_flatMap]
    simp only [checkAll_require, checkAll_nil, and_true]
  rw [validateReadyPlan.eq_def]
  simp only
  constructor
  · intro h
    split at h
    · cases h
    · rename_i total htotal
      split_ifs at h with h1 h2 h3 h4
      rw [not_not] at h1 h3 h4
      rw [List.map_eq_nil_iff] at h2
      rw [List.length_map] at h3
      subst h1
      exact ⟨htotal, h2, h3, h4, (hchecks _).mp h⟩
  · intro h
    rw [h.total]
    simp only
    rw [if_neg (not_not.mpr rfl), if_neg (by rw [List.map_eq_nil_iff]; exact h.nonempty),
      if_neg (not_not.mpr (by rw [List.length_map]; exact h.count)),
      if_neg (not_not.mpr h.same)]
    exact (hchecks _).mpr h.generated

/-- The manifest of a ready plan names its times. -/
theorem planned_sound (hs : StoresSound now s) {readiness : ReadinessReport}
    (hreadiness : readiness ∈ s.readiness_reports.values) (hready : readiness.status = .READY)
    {batch : BatchReport} (hbatch : requireReadyBatch s readiness = .ok batch)
    (hplan : ReadyPlan s readiness batch) {binding : ReplayRunReadinessBinding}
    (hbinding : makeReadinessBinding readiness batch.requested_fingerprint_ids = .ok binding)
    {created_at : DateTime} (hcreated : readiness.checked_at ≤ created_at) {manifest_id : String}
    {intent_kind : ReplayRunIntentKind} {notes : Option String} {m : ReplayRunManifest}
    (hm : makeManifest manifest_id readiness binding intent_kind notes .PLANNED created_at
      batch.requested_fingerprint_ids = .ok m) : ManifestSound s m := by
  obtain ⟨batch_id, hlatest, hget, hvalid, -⟩ := requireReadyBatch_eq_ok.mp hbatch
  have hb := KeyedDict.mem_values_of_get? hget
  have hbid : batch.report_id = batch_id.value := KeyedDict.key_of_get? hget
  have hsound := hs.batch_reports batch hb
  simp only [validateReadyBatch, checkAll_require, checkAll_nil, and_true] at hvalid
  obtain ⟨-, hbplan, -, hallvalid, -, -, -, -, -, -, htime⟩ := hvalid
  obtain ⟨texts, htexts, hdistinct, rfl⟩ := makeReadinessBinding_eq_ok.mp hbinding
  obtain ⟨id, ids, notes', hid, hids, -, -, rfl⟩ := makeManifest_eq_ok.mp hm
  have hitem : ∀ fp_id ∈ ids, ∃ i ∈ batch.items, i.fingerprint_id = fp_id.value := by
    intro fp_id hfp
    have hmem : fp_id.value ∈ batch.items.map fun i => i.fingerprint_id := by
      rw [hsound.requested, ← hids]
      exact List.mem_map_of_mem hfp
    exact List.mem_map.mp hmem
  intro _
  refine ⟨readiness, hreadiness, batch, hb, ⟨rfl, hready, ?_, rfl, hids, ?_, ?_, htime, hcreated⟩⟩
  · change readiness.summary.latest_batch_report_id.map _ = _
    rw [hlatest, hbid]
    rfl
  · intro fp_id hfp
    obtain ⟨i, hi, hid⟩ := hitem fp_id hfp
    obtain ⟨f, hf, hfid, hfgenerated⟩ := verified_of_plan hsound hbplan hallvalid hi
    obtain ⟨hfmem, hfplan⟩ := mem_planFingerprints.mp hf
    refine ⟨f, hfmem, TrimmedText.ext (hfid.trans hid), ?_, hfgenerated⟩
    obtain ⟨t, ht, hvalue⟩ := Option.map_eq_some_iff.mp (of_decide_eq_true hfplan)
    rw [ht, TrimmedText.ext hvalue]
  · intro fp_id hfp
    obtain ⟨i, hi, hid⟩ := hitem fp_id hfp
    have hstatus := all_valid_items hsound hallvalid i hi
    -- the readiness report comes after every verification of its batch
    obtain ⟨c, hc, hcid, hitems⟩ :=
      (hs.readiness_reports readiness hreadiness).latest batch_id hlatest
    have hsame : c = batch := KeyedDict.eq_of_key hc hb (hcid.trans hbid.symm)
    subst hsame
    obtain ⟨v, hv, rfl, hafter, hbefore⟩ := hitems i hi
    exact ⟨v, hv, TrimmedText.ext hid, hstatus, hafter, hbefore⟩

theorem planManifest_ends (hmono : Monotone now) (hs : StoresSound now s)
    {readiness : ReadinessReport} (hreadiness : readiness ∈ s.readiness_reports.values)
    {manifest_id : String} {intent_kind : ReplayRunIntentKind} {notes : Option String} :
    Ends (planManifest now manifest_id readiness intent_kind notes) s fun t r =>
      Kept now s t ∧ ∀ m, r = .ok m → ManifestSound t m := by
  have htick := kept_tick hmono hs
  have hstop : ∀ e : IntegrityError, Kept now s s ∧ ∀ m : ReplayRunManifest,
      Except.error e = Except.ok m → ManifestSound s m :=
    fun e => ⟨Kept.refl hs, fun m hm => by cases hm⟩
  have hother : Ends (do
      let ids ← Action.reading fun s => .ok (verifiedIdsForBlocked s readiness)
      let binding ← Action.reading fun _ => makeReadinessBinding readiness ids
      planBlockedManifest now manifest_id readiness binding intent_kind notes) s
        fun t r => Kept now s t ∧ ∀ m, r = .ok m → ManifestSound t m := by
    refine ends_bind_reading (fun ids _ => ?_) hstop
    refine ends_bind_reading (fun binding _ => ?_) hstop
    unfold planBlockedManifest
    refine ends_bind_reading (fun ids _ => ends_tick ⟨htick, fun m hm => ?_⟩) hstop
    obtain ⟨id, texts, notes', -, -, -, -, rfl⟩ := makeManifest_eq_ok.mp hm
    intro hplanned
    cases hplanned
  unfold planManifest
  split
  · rename_i hstatus
    refine ends_bind_reading (fun batch hbatch => ?_) hstop
    refine ends_bind_reading (fun binding hbinding => ?_) hstop
    unfold planReadyManifest
    refine ends_bind_reading (fun _ hplan => ?_) hstop
    refine ends_tick (ends_bind_reading (fun _ hcreated => ?_)
      fun e => ⟨htick, fun m hm => by cases hm⟩)
    rw [checkAll_require] at hcreated
    refine ⟨htick, fun m hm => ?_⟩
    exact (planned_sound hs hreadiness hstatus hbatch (validateReadyPlan_eq_ok.mp hplan) hbinding
      hcreated.1 hm).mono htick.grows
  · exact hother

theorem planReplayRun_ends (hmono : Monotone now) (hs : StoresSound now s)
    {manifest_id readiness_report_id : String} {intent_kind : ReplayRunIntentKind}
    {notes : Option String} :
    Ends (planReplayRun now manifest_id readiness_report_id intent_kind notes) s
      fun t _ => Kept now s t := by
  unfold planReplayRun
  refine ends_bind_reading (fun readiness hload => ?_) fun _ => Kept.refl hs
  have hreadiness : readiness ∈ s.readiness_reports.values := by
    split at hload
    · cases hload
    · rename_i found hget
      cases hload
      exact KeyedDict.mem_values_of_get? hget
  refine Ends.bind (planManifest_ends hmono hs hreadiness) (fun t m hplan => ?_)
    fun t e hplan => hplan.1
  obtain ⟨hkept, hmanifest⟩ := hplan
  refine ends_bind_writing_part (fun d hd => ?_) fun _ => hkept
  obtain ⟨haccepts, rfl⟩ := saved_eq_ok.mp hd
  exact hkept.trans (kept_manifest hmono hkept.sound haccepts (hmanifest m rfl))

/-! The invariant of every history. -/

theorem kept_artifacts (hs : StoresSound now s) (ht : t.readings = s.readings ∧
    t.fingerprints = s.fingerprints ∧ t.verifications = s.verifications ∧
    t.batch_reports = s.batch_reports ∧ t.readiness_reports = s.readiness_reports ∧
    t.manifests = s.manifests) : StoresSound now t := by
  cases s
  cases t
  obtain ⟨rfl, rfl, rfl, rfl, rfl, rfl⟩ := ht
  exact ⟨hs.fingerprints, fun v hv => ⟨(hs.verifications v hv).past, (hs.verifications v hv).valid⟩,
    fun b hb => by
      have h := hs.batch_reports b hb
      exact ⟨h.past, h.generated, h.summary, h.requested, h.distinct,
        fun i hi => ⟨(h.items i hi).verified, (h.items i hi).generated⟩, h.scope⟩,
    fun r hr => ⟨(hs.readiness_reports r hr).past, (hs.readiness_reports r hr).latest⟩,
    fun m hm hplanned => by
      obtain ⟨r, hr, b, hb, h⟩ := hs.manifests m hm hplanned
      exact ⟨r, hr, b, hb, ⟨h.readiness_id, h.ready, h.batch_id, h.plan, h.ids, h.generated,
        h.verified, h.checked, h.created⟩⟩⟩

theorem after_sound (hmono : Monotone now) (hs : StoresSound now s) (call : IntegrityCall) :
    StoresSound now (s.after now sha256 call) := by
  cases call with
  | saveTimeline timeline =>
    simp only [IntegrityStores.after]
    split
    · exact kept_artifacts hs ⟨rfl, rfl, rfl, rfl, rfl, rfl⟩
    · exact hs
  | saveCoverageReport report =>
    simp only [IntegrityStores.after]
    split
    · exact kept_artifacts hs ⟨rfl, rfl, rfl, rfl, rfl, rfl⟩
    · exact hs
  | saveCoverageDiff diff =>
    simp only [IntegrityStores.after]
    split
    · exact kept_artifacts hs ⟨rfl, rfl, rfl, rfl, rfl, rfl⟩
    · exact hs
  | fingerprint kind fingerprint_id artifact_id notes =>
    exact Kept.sound (fingerprintArtifact_ends hmono hs)
  | verify verification_id fingerprint_id notes =>
    exact Kept.sound (verifyFingerprint_ends hmono hs).1
  | verifyFingerprints report_id fingerprint_ids notes =>
    exact Kept.sound (buildReport_ends hmono hs (.inl ⟨rfl, rfl⟩))
  | verifyReplayPlan report_id replay_plan_id notes =>
    exact Kept.sound (buildReport_ends hmono hs (.inr ⟨rfl, replay_plan_id, rfl, rfl⟩))
  | checkReplayPlan reads_coverage report_id replay_plan_id notes =>
    exact Kept.sound (checkReplayPlan_ends hmono hs)
  | planReplayRun manifest_id readiness_report_id intent_kind notes =>
    exact Kept.sound (planReplayRun_ends hmono hs)

end FuturesBot.Integrity
