import FuturesBot.DictsOfLists
import FuturesBot.ReadinessChecks
import FuturesBot.JoinedTexts
import Mathlib.Algebra.BigOperators.Group.Finset.Piecewise

/-! A batch of verifications: what it leaves when it ends in a report, what it leaves when it ends
in an error, and when a later batch under its id ends in a report. -/
namespace FuturesBot.Integrity

open JsonText (Text)
open TextLines DateTimes Dicts Checks StoreActions
open Action

/-! A verification is read off the stores, at a time. -/

section Verifications

variable (sha256 : Text → HexDigest) (s : IntegrityStores) (report_id : String)

/-- The verification of a fingerprint in a batch, before it is saved. -/
def verifiedAt (fp_id : String) (verified_at : DateTime) :
    Except IntegrityError ReplayArtifactFingerprintVerification := do
  let verification_id ← requiredText (verificationId report_id fp_id) "field"
  let fingerprint_id ← requiredText fp_id "field"
  verified sha256 s verification_id fingerprint_id verified_at none

/-- The verifications of some fingerprints, from a reading of the clock on. -/
inductive VerifiedFrom (now : ℕ → DateTime) : ℕ → List String →
    List ReplayArtifactFingerprintVerification → Prop where
  | nil (n : ℕ) : VerifiedFrom now n [] []
  | cons {n : ℕ} {fp_id : String} {fp_ids : List String}
      {v : ReplayArtifactFingerprintVerification}
      {vs : List ReplayArtifactFingerprintVerification} :
      verifiedAt sha256 s report_id fp_id (now n) = .ok v → VerifiedFrom now (n + 1) fp_ids vs →
      VerifiedFrom now n (fp_id :: fp_ids) (v :: vs)

/-- The fingerprint names the plan of its artifact, as far as both are there. -/
def PlanKept (fp_id : String) : Prop :=
  ∀ f, s.fingerprints.get? fp_id = some f →
    ∀ data, loadArtifactData s f.artifact_kind f.artifact_id.value = some data →
      ∀ plan_id ∈ f.replay_plan_id, ∀ named ∈ data.plan_ids, named = plan_id

/-- Nothing keeps a fingerprint from a verification in the batch. -/
structure Verifiable (fp_id : String) : Prop where
  verification_trimmed : Trimmed (verificationId report_id fp_id).toList
  fingerprint_trimmed : Trimmed fp_id.toList
  plan_kept : PlanKept s fp_id

end Verifications

section Verified

variable {now : ℕ → DateTime} {sha256 : Text → HexDigest} {s : IntegrityStores}
  {report_id fp_id : String} {verified_at : DateTime}
  {v : ReplayArtifactFingerprintVerification}

/-- What a verification is of, and that it has issues unless it is valid. -/
structure VerificationOf (verification_id fp_id : String) (verified_at : DateTime)
    (v : ReplayArtifactFingerprintVerification) : Prop where
  verification_id : v.verification_id.value = verification_id
  fingerprint_id : v.fingerprint_id.value = fp_id
  verified_at : v.verified_at = verified_at
  issues : v.issues = [] ↔ v.status = .VALID

theorem mismatchIssues_eq_nil {recomputed stored : Text} :
    mismatchIssues sha256 recomputed stored = [] ↔
      sha256 recomputed = sha256 stored ∧ recomputed = stored := by
  rw [mismatchIssues]
  split_ifs with hsha htext htext
  · simp [hsha]
  · simp [hsha]
  · simp [htext]
  · simp [not_not.mp htext]

theorem verified_of {verification_id fingerprint_id : TrimmedText} {notes : Option TrimmedText}
    (h : verified sha256 s verification_id fingerprint_id verified_at notes = .ok v) :
    VerificationOf verification_id.value fingerprint_id.value verified_at v ∧
      PlanKept s fingerprint_id.value := by
  rw [verified] at h
  cases hfp : s.fingerprints.get? fingerprint_id.value with
  | none =>
    rw [hfp] at h
    cases h
    refine ⟨⟨rfl, rfl, rfl, ⟨nofun, nofun⟩⟩, fun f hf => ?_⟩
    rw [hfp] at hf
    cases hf
  | some f =>
    simp only [hfp] at h
    cases hdata : loadArtifactData s f.artifact_kind f.artifact_id.value with
    | none =>
      simp only [hdata] at h
      cases h
      refine ⟨⟨rfl, rfl, rfl, ⟨nofun, nofun⟩⟩, fun g hg data hload => ?_⟩
      rw [hfp] at hg
      cases hg
      rw [hdata] at hload
      cases hload
    | some data =>
      simp only [hdata] at h
      split_ifs at h with hplan hsame
      · cases h
        refine ⟨⟨rfl, rfl, rfl, ⟨fun _ => rfl, fun _ => rfl⟩⟩, fun g hg data' hload => ?_⟩
        rw [hfp] at hg
        cases hg
        rw [hdata] at hload
        cases hload
        push Not at hplan
        exact hplan
      · cases h
        refine ⟨⟨rfl, rfl, rfl, ?_⟩, fun g hg data' hload => ?_⟩
        · rw [mismatchIssues_eq_nil]
          exact ⟨fun hnil => absurd hnil hsame, nofun⟩
        · rw [hfp] at hg
          cases hg
          rw [hdata] at hload
          cases hload
          push Not at hplan
          exact hplan

theorem verified_total {verification_id fingerprint_id : TrimmedText} {notes : Option TrimmedText}
    (h : PlanKept s fingerprint_id.value) :
    ∃ v, verified sha256 s verification_id fingerprint_id verified_at notes = .ok v := by
  rw [verified]
  cases hfp : s.fingerprints.get? fingerprint_id.value with
  | none => exact ⟨_, rfl⟩
  | some f =>
    simp only
    cases hdata : loadArtifactData s f.artifact_kind f.artifact_id.value with
    | none => exact ⟨_, rfl⟩
    | some data =>
      have hplan : ¬ ∃ plan_id ∈ f.replay_plan_id, ∃ named ∈ data.plan_ids, named ≠ plan_id := by
        push Not
        exact h f hfp data hdata
      simp only [if_neg hplan]
      split_ifs
      · exact ⟨_, rfl⟩
      · exact ⟨_, rfl⟩

theorem verifiedAt_of (h : verifiedAt sha256 s report_id fp_id verified_at = .ok v) :
    VerificationOf (verificationId report_id fp_id) fp_id verified_at v ∧
      Verifiable s report_id fp_id := by
  obtain ⟨verification_id, hvid, h⟩ := Checks.bind_eq_ok.mp h
  obtain ⟨fingerprint_id, hfid, h⟩ := Checks.bind_eq_ok.mp h
  obtain ⟨hof, hplan⟩ := verified_of h
  rw [requiredText_eq_ok] at hvid hfid
  rw [hvid, hfid] at hof
  rw [hfid] at hplan
  exact ⟨hof, hvid ▸ verification_id.trimmed, hfid ▸ fingerprint_id.trimmed, hplan⟩

theorem verifiedAt_total (h : Verifiable s report_id fp_id) :
    ∃ v, verifiedAt sha256 s report_id fp_id verified_at = .ok v := by
  have hplan : PlanKept s (⟨fp_id, h.fingerprint_trimmed⟩ : TrimmedText).value := h.plan_kept
  obtain ⟨v, hv⟩ := verified_total hplan
  exact ⟨v, Checks.bind_eq_ok.mpr ⟨⟨_, h.verification_trimmed⟩, requiredText_eq_ok.mpr rfl,
    Checks.bind_eq_ok.mpr ⟨⟨_, h.fingerprint_trimmed⟩, requiredText_eq_ok.mpr rfl, hv⟩⟩⟩

end Verified

/-! The ids of one batch differ. -/

theorem verificationId_inj {report_id a b : String}
    (h : verificationId report_id a = verificationId report_id b) : a = b := by
  have hchars := congrArg String.toList h
  simp only [verificationId, String.toList_append, List.append_assoc] at hchars
  exact String.ext (List.append_cancel_right (List.append_cancel_left
    (List.append_cancel_left hchars)))

theorem itemId_inj {report_id a b : String} (h : itemId report_id a = itemId report_id b) :
    a = b := by
  have hchars := congrArg String.toList h
  simp only [itemId, String.toList_append, List.append_assoc] at hchars
  exact String.ext (List.append_cancel_right (List.append_cancel_left
    (List.append_cancel_left hchars)))

/-- The ids of two batches differ where no report id holds a colon. -/
theorem verificationId_separated {report_id report_id' a b : String}
    (hreport : ':' ∉ report_id.toList) (hreport' : ':' ∉ report_id'.toList)
    (h : verificationId report_id a = verificationId report_id' b) :
    report_id = report_id' ∧ a = b := by
  have hchars := congrArg String.toList h
  simp only [verificationId, String.toList_append, List.append_assoc] at hchars
  obtain ⟨hsame, hrest⟩ := TaggedTexts.separator_inj hreport hreport' hchars
  exact ⟨String.ext hsame, String.ext (List.append_cancel_right hrest)⟩

/-! Verifications of a run of ids. -/

section Runs

variable {now : ℕ → DateTime} {sha256 : Text → HexDigest} {s t : IntegrityStores}
  {report_id : String}

/-- The stores after some readings, with some verifications saved. -/
def IntegrityStores.savedAt (s : IntegrityStores) (readings : ℕ)
    (vs : List ReplayArtifactFingerprintVerification) : IntegrityStores := { s with
  readings
  verifications := vs.foldl KeyedDict.put s.verifications }

theorem verifyFingerprint_eq_ok {fp_id : String} {v : ReplayArtifactFingerprintVerification} :
    verifyFingerprint now sha256 (verificationId report_id fp_id) fp_id none s = (t, .ok v) ↔
      verifiedAt sha256 s report_id fp_id (now s.readings) = .ok v ∧ s.verifications.Accepts v ∧
        t = s.savedAt (s.readings + 1) [v] := by
  rw [verifyFingerprint]
  constructor
  · intro h
    obtain ⟨u, time, htick, h⟩ := bind_eq_ok.mp h
    cases htick
    obtain ⟨u, verification_id, hread, h⟩ := bind_eq_ok.mp h
    obtain ⟨rfl, hvid⟩ := reading_eq_ok.mp hread
    obtain ⟨u, fingerprint_id, hread, h⟩ := bind_eq_ok.mp h
    obtain ⟨rfl, hfid⟩ := reading_eq_ok.mp hread
    obtain ⟨u, notes, hread, h⟩ := bind_eq_ok.mp h
    obtain ⟨rfl, hnotes⟩ := reading_eq_ok.mp hread
    cases hnotes
    obtain ⟨u, verification, hread, h⟩ := bind_eq_ok.mp h
    obtain ⟨rfl, hverified⟩ := reading_eq_ok.mp hread
    obtain ⟨u, ⟨⟩, hsave, h⟩ := bind_eq_ok.mp h
    obtain ⟨d, hd, rfl⟩ := writing_part_eq_ok.mp hsave
    obtain ⟨haccepts, rfl⟩ := saved_eq_ok.mp hd
    obtain ⟨rfl, rfl⟩ := pure_eq_ok.mp h
    exact ⟨Checks.bind_eq_ok.mpr ⟨_, hvid, Checks.bind_eq_ok.mpr ⟨_, hfid, hverified⟩⟩, haccepts,
      rfl⟩
  · rintro ⟨hverified, haccepts, rfl⟩
    obtain ⟨verification_id, hvid, h⟩ := Checks.bind_eq_ok.mp hverified
    obtain ⟨fingerprint_id, hfid, h⟩ := Checks.bind_eq_ok.mp h
    exact bind_eq_ok.mpr ⟨_, _, rfl, bind_eq_ok.mpr ⟨_, _, reading_eq_ok.mpr ⟨rfl, hvid⟩,
      bind_eq_ok.mpr ⟨_, _, reading_eq_ok.mpr ⟨rfl, hfid⟩, bind_eq_ok.mpr ⟨_, _,
        reading_eq_ok.mpr ⟨rfl, rfl⟩, bind_eq_ok.mpr ⟨_, _, reading_eq_ok.mpr ⟨rfl, h⟩,
          bind_eq_ok.mpr ⟨_, (), writing_part_eq_ok.mpr
            ⟨_, saved_eq_ok.mpr ⟨haccepts, rfl⟩, rfl⟩, pure_eq_ok.mpr ⟨rfl, rfl⟩⟩⟩⟩⟩⟩⟩

/-- A refused verification takes a reading of the clock and leaves nothing. -/
theorem verifyFingerprint_error {verification_id fp_id : String} {notes : Option String}
    {e : IntegrityError}
    (h : verifyFingerprint now sha256 verification_id fp_id notes s = (t, .error e)) :
    t = s.savedAt (s.readings + 1) [] := by
  rw [verifyFingerprint] at h
  rcases bind_eq_error.mp h with htick | ⟨u, time, htick, h⟩
  · cases htick
  · cases htick
    rcases bind_eq_error.mp h with hread | ⟨u, verification_id, hread, h⟩
    · exact (reading_eq_error.mp hread).1.symm
    · obtain ⟨rfl, -⟩ := reading_eq_ok.mp hread
      rcases bind_eq_error.mp h with hread | ⟨u, fingerprint_id, hread, h⟩
      · exact (reading_eq_error.mp hread).1.symm
      · obtain ⟨rfl, -⟩ := reading_eq_ok.mp hread
        rcases bind_eq_error.mp h with hread | ⟨u, notes, hread, h⟩
        · exact (reading_eq_error.mp hread).1.symm
        · obtain ⟨rfl, -⟩ := reading_eq_ok.mp hread
          rcases bind_eq_error.mp h with hread | ⟨u, v, hread, h⟩
          · exact (reading_eq_error.mp hread).1.symm
          · obtain ⟨rfl, -⟩ := reading_eq_ok.mp hread
            rcases bind_eq_error.mp h with hsave | ⟨u, ⟨⟩, -, h⟩
            · exact (writing_eq_error.mp hsave).1.symm
            · cases h

/-! What is known of the verifications of a run of ids. -/

variable {n : ℕ} {fp_ids : List String} {vs : List ReplayArtifactFingerprintVerification}

/-- Verifications that are saved change none that are made. -/
theorem VerifiedFrom.savedAt {m : ℕ} {ws : List ReplayArtifactFingerprintVerification} :
    VerifiedFrom sha256 (s.savedAt m ws) report_id now n fp_ids vs ↔
      VerifiedFrom sha256 s report_id now n fp_ids vs := by
  constructor
  · intro h
    induction h with
    | nil n => exact .nil n
    | cons hw hrest ih => exact .cons hw ih
  · intro h
    induction h with
    | nil n => exact .nil n
    | cons hw hrest ih => exact .cons hw ih

theorem VerifiedFrom.of_mem (h : VerifiedFrom sha256 s report_id now n fp_ids vs)
    {v : ReplayArtifactFingerprintVerification} (hv : v ∈ vs) :
    ∃ fp_id ∈ fp_ids, ∃ i, n ≤ i ∧ i < n + fp_ids.length ∧
      VerificationOf (verificationId report_id fp_id) fp_id (now i) v := by
  induction h with
  | nil n => exact absurd hv List.not_mem_nil
  | @cons n fp_id fp_ids w vs hw hrest ih =>
    rcases List.mem_cons.mp hv with rfl | hv
    · refine ⟨fp_id, List.mem_cons_self, n, Nat.le_refl n, ?_, (verifiedAt_of hw).1⟩
      rw [List.length_cons]
      omega
    · obtain ⟨fp_id', hmem, i, hle, hlt, hof⟩ := ih hv
      refine ⟨fp_id', List.mem_cons_of_mem _ hmem, i, by omega, ?_, hof⟩
      rw [List.length_cons]
      omega

theorem VerifiedFrom.verification (h : VerifiedFrom sha256 s report_id now n fp_ids vs)
    {fp_id : String} (hfp : fp_id ∈ fp_ids) :
    ∃ v ∈ vs, ∃ i, n ≤ i ∧ i < n + fp_ids.length ∧
      VerificationOf (verificationId report_id fp_id) fp_id (now i) v := by
  induction h with
  | nil n => exact absurd hfp List.not_mem_nil
  | @cons n fp_id' fp_ids w vs hw hrest ih =>
    rcases List.mem_cons.mp hfp with rfl | hfp
    · refine ⟨w, List.mem_cons_self, n, Nat.le_refl n, ?_, (verifiedAt_of hw).1⟩
      rw [List.length_cons]
      omega
    · obtain ⟨v, hmem, i, hle, hlt, hof⟩ := ih hfp
      refine ⟨v, List.mem_cons_of_mem _ hmem, i, by omega, ?_, hof⟩
      rw [List.length_cons]
      omega

theorem VerifiedFrom.fingerprint_ids (h : VerifiedFrom sha256 s report_id now n fp_ids vs) :
    vs.map (fun v => v.fingerprint_id.value) = fp_ids := by
  induction h with
  | nil n => rfl
  | cons hw hrest ih => rw [List.map_cons, ih, (verifiedAt_of hw).1.fingerprint_id]

theorem VerifiedFrom.verification_ids (h : VerifiedFrom sha256 s report_id now n fp_ids vs) :
    vs.map (fun v => v.verification_id.value) = fp_ids.map (verificationId report_id) := by
  induction h with
  | nil n => rfl
  | cons hw hrest ih => rw [List.map_cons, List.map_cons, ih, (verifiedAt_of hw).1.verification_id]

theorem VerifiedFrom.verifiable (h : VerifiedFrom sha256 s report_id now n fp_ids vs) :
    ∀ fp_id ∈ fp_ids, Verifiable s report_id fp_id := by
  induction h with
  | nil n => exact fun _ h => absurd h List.not_mem_nil
  | cons hw hrest ih => exact List.forall_mem_cons.mpr ⟨(verifiedAt_of hw).2, ih⟩

/-! A run of ids. -/

/-- How a run of verifications ends: all of them are saved, or those before the first that is
refused. -/
def EachEnds (now : ℕ → DateTime) (sha256 : Text → HexDigest) (report_id : String)
    (fp_ids : List String) (s t : IntegrityStores) :
    Except IntegrityError (List BatchItem) → Prop
  | .ok items => ∃ vs, VerifiedFrom sha256 s report_id now s.readings fp_ids vs ∧
      items = vs.map (itemOf report_id) ∧ (∀ v ∈ vs, s.verifications.Accepts v) ∧
      t = s.savedAt (s.readings + fp_ids.length) vs
  | .error _ => ∃ done vs, done <+: fp_ids ∧ VerifiedFrom sha256 s report_id now s.readings done vs ∧
      (∀ v ∈ vs, s.verifications.Accepts v) ∧ t = s.savedAt (s.readings + done.length + 1) vs

theorem accepts_before_put {v w : ReplayArtifactFingerprintVerification}
    (hv : s.verifications.Accepts v) (hw : (s.verifications.put v).Accepts w) :
    s.verifications.Accepts w := by
  intro x hx
  have hput := KeyedDict.grows_put hv x (KeyedDict.mem_values_of_get? hx)
  have hkey := KeyedDict.key_of_get? hx
  refine hw x ?_
  rw [← hkey]
  exact KeyedDict.mem_values.mp hput

theorem verifyEach_outcome (fp_ids : List String) (s : IntegrityStores) :
    EachEnds now sha256 report_id fp_ids s (verifyEach now sha256 report_id fp_ids s).1
      (verifyEach now sha256 report_id fp_ids s).2 := by
  induction fp_ids generalizing s with
  | nil => exact ⟨[], .nil _, rfl, fun _ h => absurd h List.not_mem_nil, rfl⟩
  | cons fp_id fp_ids ih =>
    rw [verifyEach, bind_apply]
    rcases hfirst : verifyFingerprint now sha256 (verificationId report_id fp_id) fp_id none s
      with ⟨u, e | v⟩
    · refine ⟨[], [], List.nil_prefix, .nil _, fun _ h => absurd h List.not_mem_nil, ?_⟩
      exact verifyFingerprint_error hfirst
    · obtain ⟨hv, haccepts, rfl⟩ := verifyFingerprint_eq_ok.mp hfirst
      simp only [bind_apply]
      have hrest := ih (s.savedAt (s.readings + 1) [v])
      rcases hrun : verifyEach now sha256 report_id fp_ids (s.savedAt (s.readings + 1) [v])
        with ⟨t, e | items⟩
      · rw [hrun] at hrest
        obtain ⟨done, vs, hdone, hvs, hall, rfl⟩ := hrest
        refine ⟨fp_id :: done, v :: vs, (List.cons_prefix_cons).mpr ⟨rfl, hdone⟩, .cons hv (VerifiedFrom.savedAt.mp hvs),
          List.forall_mem_cons.mpr ⟨haccepts, fun w hw => ?_⟩, ?_⟩
        · exact accepts_before_put haccepts (hall w hw)
        · have hcount : s.readings + 1 + done.length + 1 = s.readings + (done.length + 1) + 1 := by
            omega
          rw [List.length_cons, ← hcount]
          rfl
      · rw [hrun] at hrest
        obtain ⟨vs, hvs, rfl, hall, rfl⟩ := hrest
        refine ⟨v :: vs, .cons hv (VerifiedFrom.savedAt.mp hvs), rfl, List.forall_mem_cons.mpr ⟨haccepts, fun w hw => ?_⟩, ?_⟩
        · exact accepts_before_put haccepts (hall w hw)
        · have hcount : s.readings + 1 + fp_ids.length = s.readings + (fp_ids.length + 1) := by
            omega
          rw [List.length_cons, ← hcount]
          rfl

/-- Nothing of a run was saved before, so all of it is. -/
theorem verifyEach_total {fp_ids : List String} (hdistinct : fp_ids.Nodup)
    (hnew : ∀ fp_id ∈ fp_ids, s.verifications.get? (verificationId report_id fp_id) = none)
    (hall : ∀ fp_id ∈ fp_ids, Verifiable s report_id fp_id) :
    ∃ t items, verifyEach now sha256 report_id fp_ids s = (t, .ok items) := by
  induction fp_ids generalizing s with
  | nil => exact ⟨s, [], rfl⟩
  | cons fp_id fp_ids ih =>
    obtain ⟨hfirst, hdistinct⟩ := List.nodup_cons.mp hdistinct
    obtain ⟨hnone, hnew⟩ := List.forall_mem_cons.mp hnew
    obtain ⟨hverifiable, hall⟩ := List.forall_mem_cons.mp hall
    obtain ⟨v, hv⟩ := @verifiedAt_total sha256 s report_id fp_id (now s.readings) hverifiable
    have hid := (verifiedAt_of hv).1.verification_id
    have haccepts : s.verifications.Accepts v := fun w hw => by
      rw [hid, hnone] at hw
      cases hw
    have hrest : ∀ fp_id' ∈ fp_ids, (s.savedAt (s.readings + 1) [v]).verifications.get?
        (verificationId report_id fp_id') = none := by
      intro fp_id' hmem
      have hne : v.verification_id.value ≠ verificationId report_id fp_id' := by
        rw [hid]
        intro heq
        exact hfirst (verificationId_inj heq ▸ hmem)
      exact (s.verifications.get?_put_ne hne).trans (hnew fp_id' hmem)
    obtain ⟨t, items, hrun⟩ := ih hdistinct hrest fun fp_id' hmem =>
      ⟨(hall fp_id' hmem).verification_trimmed, (hall fp_id' hmem).fingerprint_trimmed,
        (hall fp_id' hmem).plan_kept⟩
    exact ⟨t, itemOf report_id v :: items, bind_eq_ok.mpr ⟨_, v,
      verifyFingerprint_eq_ok.mpr ⟨hv, haccepts, rfl⟩, bind_eq_ok.mpr ⟨t, items, hrun, rfl⟩⟩⟩

end Runs

/-! The report on a run passes its own checks. -/

section Reports

variable {now : ℕ → DateTime} {sha256 : Text → HexDigest} {s t : IntegrityStores}
  {report_id : String} {n : ℕ} {fp_ids : List String}
  {vs : List ReplayArtifactFingerprintVerification}

theorem text_ne_empty (t : TrimmedText) : t.value ≠ "" := by
  intro h
  apply t.trimmed.1
  rw [h]
  rfl

theorem map_value_ne_empty (t : Option TrimmedText) : t.map (fun t => t.value) ≠ some "" := by
  intro h
  obtain ⟨t, -, ht⟩ := Option.map_eq_some_iff.mp h
  exact text_ne_empty t ht

theorem itemOf_valid {verification_id fp_id : String} {at_time : DateTime}
    {v : ReplayArtifactFingerprintVerification}
    (h : VerificationOf verification_id fp_id at_time v) :
    checkAll (itemOf report_id v).validate = .ok () := by
  have hitem : itemId report_id v.fingerprint_id.value ≠ "" := by
    intro heq
    have hchars := congrArg (fun text => text.toList.length) heq
    simp only [itemId, String.toList_append, List.length_append] at hchars
    have htail : ":item".toList.length = 5 := by decide
    have hempty : "".toList.length = 0 := rfl
    omega
  simp only [BatchItem.validate, checkAll_require, checkAll_nil, and_true]
  refine ⟨hitem, text_ne_empty v.fingerprint_id, text_ne_empty v.verification_id,
    map_value_ne_empty _, map_value_ne_empty _, fun hvalid => ?_, fun hfailed => ?_⟩
  · change v.issues.length = 0
    rw [h.issues.mpr hvalid]
    rfl
  · intro hzero
    have hvalid : v.status = .VALID := h.issues.mp (List.eq_nil_of_length_eq_zero hzero)
    change v.status = _ ∨ v.status = _ ∨ v.status = _ at hfailed
    rw [hvalid] at hfailed
    rcases hfailed with h | h | h <;> cases h

theorem countOf_built (items : List BatchItem) (status : VerificationStatus) :
    (buildBatchSummary items).countOf status = statusCount items status := by
  rw [BatchSummary.countOf, buildBatchSummary]
  simp only
  split_ifs with hpos
  · rfl
  · exact (Nat.eq_zero_of_not_pos hpos).symm

theorem sum_statusCount (items : List BatchItem) :
    ∑ status, statusCount items status = items.length := by
  induction items with
  | nil => rfl
  | cons i items ih =>
    have hcons (status : VerificationStatus) : statusCount (i :: items) status =
        statusCount items status + if i.verification_status = status then 1 else 0 := by
      rw [statusCount, statusCount, List.countP_cons]
      simp only [decide_eq_true_eq]
    simp only [hcons]
    rw [Finset.sum_add_distrib, ih, Finset.sum_ite_eq, List.length_cons]
    simp

theorem summary_built {items : List BatchItem}
    (hvalid : ∀ i ∈ items, i.verification_status = .VALID → i.issue_count = 0) :
    checkAll (buildBatchSummary items).validate = .ok () := by
  simp only [BatchSummary.validate, checkAll_require, checkAll_nil, and_true, countOf_built]
  refine ⟨fun hzero status => ?_, sum_statusCount items, rfl, fun hall => ?_, rfl, rfl⟩
  · have hnil : items = [] := List.eq_nil_of_length_eq_zero hzero
    rw [hnil]
    rfl
  · -- every item counts as valid, so none has an issue
    have hcount := (of_decide_eq_true hall).2
    rw [statusCount, List.countP_eq_length] at hcount
    apply List.sum_eq_zero
    intro k hk
    obtain ⟨i, hi, rfl⟩ := List.mem_map.mp hk
    exact hvalid i hi (of_decide_eq_true (hcount i hi))

theorem inferReplayPlanId_ne_empty {items : List BatchItem}
    (h : ∀ i ∈ items, i.replay_plan_id ≠ some "") : inferReplayPlanId items ≠ some "" := by
  rw [inferReplayPlanId.eq_def]
  split
  · next plan_id hdedup =>
    have hmem : plan_id ∈ (items.map fun i => i.replay_plan_id).dedup := by
      rw [hdedup]
      exact List.mem_singleton_self _
    obtain ⟨i, hi, rfl⟩ := List.mem_map.mp (List.mem_dedup.mp hmem)
    exact h i hi
  · exact nofun

theorem generated_valid (hvs : VerifiedFrom sha256 s report_id now n fp_ids vs)
    (hdistinct : fp_ids.Nodup) {r : BatchReport} (hid : r.report_id ≠ "")
    (hscope : r.scope_kind = .EXPLICIT_FINGERPRINT_SET)
    (hplan : r.replay_plan_id = inferReplayPlanId r.items)
    (hsummary : r.summary = buildBatchSummary r.items)
    (hitems : r.items = vs.map (itemOf report_id))
    (hrequested : r.requested_fingerprint_ids = fp_ids) : checkAll r.validate = .ok () := by
  have hvalid : ∀ i ∈ r.items, checkAll i.validate = .ok () := by
    rw [hitems]
    intro i hi
    obtain ⟨v, hv, rfl⟩ := List.mem_map.mp hi
    obtain ⟨fp_id, -, k, -, -, hof⟩ := hvs.of_mem hv
    exact itemOf_valid hof
  have hfields : ∀ i ∈ r.items, i.replay_plan_id ≠ some "" ∧
      (i.verification_status = .VALID → i.issue_count = 0) := by
    intro i hi
    have h := hvalid i hi
    simp only [BatchItem.validate, checkAll_require] at h
    exact ⟨h.2.2.2.2.1, h.2.2.2.2.2.1⟩
  have hfps : r.items.map (fun i => i.fingerprint_id) = fp_ids := by
    rw [hitems, List.map_map]
    exact hvs.fingerprint_ids
  have hvids : r.items.map (fun i => i.verification_id) = fp_ids.map (verificationId report_id) := by
    rw [hitems, List.map_map]
    exact hvs.verification_ids
  have hids : r.items.map (fun i => i.item_id) = fp_ids.map (itemId report_id) := by
    rw [← hfps, hitems, List.map_map, List.map_map, List.map_map]
    rfl
  rw [BatchReport.validate, checkAll_append, checkAll_append, checkAll_append]
  refine ⟨⟨⟨checkAll_flatMap.mpr hvalid, ?_⟩, ?_⟩, ?_⟩
  · rw [hsummary]
    exact summary_built fun i hi => (hfields i hi).2
  · simp only [checkAll_require, checkAll_nil, and_true]
    refine ⟨hid, ?_, ?_, hrequested ▸ hdistinct, ?_, ?_, hfps ▸ hdistinct, ?_, ?_⟩
    · rw [hplan]
      exact inferReplayPlanId_ne_empty fun i hi => (hfields i hi).1
    · rw [hrequested]
      intro hempty
      exact (hvs.verifiable "" hempty).fingerprint_trimmed.1 rfl
    · rw [hids]
      exact hdistinct.map fun a b h => itemId_inj h
    · rw [hvids]
      exact hdistinct.map fun a b h => verificationId_inj h
    · rw [hscope]
      exact nofun
    · exact fun _ => hfps.trans hrequested.symm
  · simp only [BatchReport.validateSummary, checkAll_require, checkAll_nil, and_true]
    rw [hsummary]
    exact ⟨rfl, countOf_built r.items, rfl⟩

end Reports

/-! The batch. -/

section Batches

variable (now : ℕ → DateTime) (sha256 : Text → HexDigest) (report_id : String)
  (fp_ids : List String)

/-- Nothing keeps a batch from its report but what is stored under its ids. -/
structure BatchAllowed (s : IntegrityStores) (notes : Option String) : Prop where
  report_named : report_id ≠ ""
  notes_trimmed : ∀ text ∈ notes, Trimmed text.toList
  distinct : fp_ids.Nodup
  verifiable : ∀ fp_id ∈ fp_ids, Verifiable s report_id fp_id

/-- What a batch leaves that ends in a report: a verification of each fingerprint, and the report
on exactly these. -/
structure BatchSaved (notes : Option String) (s t : IntegrityStores) (r : BatchReport)
    (vs : List ReplayArtifactFingerprintVerification) : Prop where
  allowed : BatchAllowed report_id fp_ids s notes
  verifications : VerifiedFrom sha256 s report_id now (s.readings + 1) fp_ids vs
  named : r.report_id = report_id
  requested : r.requested_fingerprint_ids = fp_ids
  items : r.items = vs.map (itemOf report_id)
  accepts : ∀ v ∈ vs, s.verifications.Accepts v
  accepts_report : s.batch_reports.Accepts r
  left : t = { s.savedAt (s.readings + 1 + fp_ids.length) vs with
    batch_reports := s.batch_reports.put r }

/-- What a batch leaves that ends in an error: the verifications of its first fingerprints. -/
structure BatchLeft (s t : IntegrityStores) (done : List String)
    (vs : List ReplayArtifactFingerprintVerification) : Prop where
  first : done <+: fp_ids
  verifications : VerifiedFrom sha256 s report_id now (s.readings + 1) done vs
  accepts : ∀ v ∈ vs, s.verifications.Accepts v
  readings : s.readings + 1 + done.length ≤ t.readings
  left : t = s.savedAt t.readings vs

def BatchEnds (notes : Option String) (s t : IntegrityStores) :
    Except IntegrityError BatchReport → Prop
  | .ok r => ∃ vs, BatchSaved now sha256 report_id fp_ids notes s t r vs
  | .error _ => ∃ done vs, BatchLeft now sha256 report_id fp_ids s t done vs

structure BatchUnclaimed (s : IntegrityStores) : Prop where
  report_new : s.batch_reports.get? report_id = none
  verifications_new : ∀ fp_id ∈ fp_ids,
    s.verifications.get? (verificationId report_id fp_id) = none

def BatchReports (s : IntegrityStores) (notes : Option String) : Prop :=
  ∃ t r, verifyFingerprints now sha256 report_id fp_ids notes s = (t, .ok r)

/-- The clock has moved on at some reading. -/
def LaterFrom (n : ℕ) : Prop := ∀ i < n, ∀ j, n ≤ j → now i < now j

variable {now : ℕ → DateTime} {sha256 : Text → HexDigest} {report_id : String}
  {fp_ids : List String} {s t : IntegrityStores} {notes : Option String}

theorem verifyFingerprints_ends (s : IntegrityStores) :
    BatchEnds now sha256 report_id fp_ids notes s
      (verifyFingerprints now sha256 report_id fp_ids notes s).1
      (verifyFingerprints now sha256 report_id fp_ids notes s).2 := by
  rcases hcall : verifyFingerprints now sha256 report_id fp_ids notes s with ⟨t, e | r⟩
  · rw [verifyFingerprints, buildReport] at hcall
    rcases bind_eq_error.mp hcall with htick | ⟨u, time, htick, h⟩
    · cases htick
    cases htick
    rcases bind_eq_error.mp h with hread | ⟨u, ⟨⟩, hread, h⟩
    · obtain ⟨rfl, -⟩ := reading_eq_error.mp hread
      exact ⟨[], [], List.nil_prefix, .nil _, fun _ h => absurd h List.not_mem_nil,
        Nat.le_refl _, rfl⟩
    obtain ⟨rfl, -⟩ := reading_eq_ok.mp hread
    have hrun := @verifyEach_outcome now sha256 report_id fp_ids (s.savedAt (s.readings + 1) [])
    rcases bind_eq_error.mp h with heach | ⟨u, items, heach, h⟩
    · erw [heach] at hrun
      obtain ⟨done, vs, hdone, hvs, haccepts, rfl⟩ := hrun
      exact ⟨done, vs, hdone, VerifiedFrom.savedAt.mp hvs, haccepts, Nat.le_succ _, rfl⟩
    · erw [heach] at hrun
      obtain ⟨vs, hvs, rfl, haccepts, rfl⟩ := hrun
      -- the run is over, and nothing that fails after it changes what it saved
      have hleft : BatchLeft now sha256 report_id fp_ids s
          ((s.savedAt (s.readings + 1) []).savedAt (s.readings + 1 + fp_ids.length) vs) fp_ids vs :=
        ⟨List.prefix_refl _, VerifiedFrom.savedAt.mp hvs, haccepts, Nat.le_refl _, rfl⟩
      rcases bind_eq_error.mp h with hread | ⟨u, notes', hread, h⟩
      · obtain ⟨rfl, -⟩ := reading_eq_error.mp hread
        exact ⟨fp_ids, vs, hleft⟩
      obtain ⟨rfl, -⟩ := reading_eq_ok.mp hread
      rcases bind_eq_error.mp h with hread | ⟨u, ⟨⟩, hread, h⟩
      · obtain ⟨rfl, -⟩ := reading_eq_error.mp hread
        exact ⟨fp_ids, vs, hleft⟩
      obtain ⟨rfl, -⟩ := reading_eq_ok.mp hread
      rcases bind_eq_error.mp h with hsave | ⟨u, ⟨⟩, -, h⟩
      · obtain ⟨rfl, -⟩ := writing_eq_error.mp hsave
        exact ⟨fp_ids, vs, hleft⟩
      · cases h
  · rw [verifyFingerprints, buildReport] at hcall
    obtain ⟨u, time, htick, h⟩ := bind_eq_ok.mp hcall
    cases htick
    obtain ⟨u, ⟨⟩, hread, h⟩ := bind_eq_ok.mp h
    obtain ⟨rfl, hdistinct⟩ := reading_eq_ok.mp hread
    have hrun := @verifyEach_outcome now sha256 report_id fp_ids (s.savedAt (s.readings + 1) [])
    obtain ⟨u, items, heach, h⟩ := bind_eq_ok.mp h
    erw [heach] at hrun
    obtain ⟨vs, hvs, rfl, haccepts, rfl⟩ := hrun
    have hvs := VerifiedFrom.savedAt.mp hvs
    obtain ⟨u, notes', hread, h⟩ := bind_eq_ok.mp h
    obtain ⟨rfl, hnotes⟩ := reading_eq_ok.mp hread
    obtain ⟨u, ⟨⟩, hread, h⟩ := bind_eq_ok.mp h
    obtain ⟨rfl, hvalid⟩ := reading_eq_ok.mp hread
    obtain ⟨u, ⟨⟩, hsave, h⟩ := bind_eq_ok.mp h
    obtain ⟨d, hd, rfl⟩ := writing_part_eq_ok.mp hsave
    obtain ⟨hreport, rfl⟩ := saved_eq_ok.mp hd
    obtain ⟨rfl, rfl⟩ := pure_eq_ok.mp h
    refine ⟨vs, ⟨?_, ?_, ?_, hvs.verifiable⟩, hvs, rfl, rfl, rfl, haccepts, hreport, rfl⟩
    · rw [BatchReport.validate, checkAll_append, checkAll_append, checkAll_require] at hvalid
      exact hvalid.1.2.1
    · intro text htext
      rw [optionalText_eq_ok, htext] at hnotes
      obtain ⟨trimmed, -, rfl⟩ := Option.map_eq_some_iff.mp hnotes
      exact trimmed.trimmed
    · simpa using hdistinct

theorem BatchReports.saved (h : BatchReports now sha256 report_id fp_ids s notes) :
    ∃ t r vs, BatchSaved now sha256 report_id fp_ids notes s t r vs := by
  obtain ⟨t, r, hcall⟩ := h
  have hends := @verifyFingerprints_ends now sha256 report_id fp_ids notes s
  rw [hcall] at hends
  obtain ⟨vs, hsaved⟩ := hends
  exact ⟨t, r, vs, hsaved⟩

/-- With none of its ids stored, a batch ends in a report unless it fails by itself. -/
theorem batchReports_iff (hnew : BatchUnclaimed report_id fp_ids s) :
    BatchReports now sha256 report_id fp_ids s notes ↔ BatchAllowed report_id fp_ids s notes := by
  constructor
  · intro h
    obtain ⟨t, r, vs, hsaved⟩ := h.saved
    exact hsaved.allowed
  · intro h
    have hdistinct : checkAll [require fp_ids.Nodup
        (IntegrityError.check "duplicate fingerprint_ids in input")] = .ok () := by
      simpa using h.distinct
    have hall : ∀ fp_id ∈ fp_ids, Verifiable (s.savedAt (s.readings + 1) []) report_id fp_id :=
      fun fp_id hmem => ⟨(h.verifiable fp_id hmem).verification_trimmed,
        (h.verifiable fp_id hmem).fingerprint_trimmed, (h.verifiable fp_id hmem).plan_kept⟩
    obtain ⟨t, items, heach⟩ := @verifyEach_total now sha256 (s.savedAt (s.readings + 1) [])
      report_id fp_ids h.distinct hnew.verifications_new hall
    have hrun := @verifyEach_outcome now sha256 report_id fp_ids (s.savedAt (s.readings + 1) [])
    rw [heach] at hrun
    obtain ⟨vs, hvs, rfl, -, rfl⟩ := hrun
    obtain ⟨notes', hnotes⟩ := @optionalText_of_trimmed notes "notes" h.notes_trimmed
    let r : BatchReport := {
      report_id
      scope_kind := .EXPLICIT_FINGERPRINT_SET
      replay_plan_id := inferReplayPlanId (vs.map (itemOf report_id))
      generated_at := now s.readings
      status := .GENERATED
      summary := buildBatchSummary (vs.map (itemOf report_id))
      items := vs.map (itemOf report_id)
      requested_fingerprint_ids := fp_ids
      notes := notes' }
    have hvalid : checkAll r.validate = .ok () :=
      generated_valid hvs h.distinct h.report_named rfl rfl rfl rfl rfl
    have haccepts : s.batch_reports.Accepts r := fun w hw => by
      rw [hnew.report_new] at hw
      cases hw
    refine ⟨{ (s.savedAt (s.readings + 1 + fp_ids.length) vs) with
      batch_reports := s.batch_reports.put r }, r, ?_⟩
    unfold verifyFingerprints buildReport
    exact bind_eq_ok.mpr ⟨_, _, rfl, bind_eq_ok.mpr ⟨_, (), reading_eq_ok.mpr ⟨rfl, hdistinct⟩,
      bind_eq_ok.mpr ⟨_, _, heach, bind_eq_ok.mpr ⟨_, _, reading_eq_ok.mpr ⟨rfl, hnotes⟩,
        bind_eq_ok.mpr ⟨_, (), reading_eq_ok.mpr ⟨rfl, hvalid⟩, bind_eq_ok.mpr ⟨_, (),
          writing_part_eq_ok.mpr ⟨_, saved_eq_ok.mpr ⟨haccepts, rfl⟩, rfl⟩,
          pure_eq_ok.mpr ⟨rfl, rfl⟩⟩⟩⟩⟩⟩⟩

/-! What one batch leaves to another. -/

section Left

variable {n m : ℕ} {done : List String} {vs : List ReplayArtifactFingerprintVerification}

theorem get?_savedAt_of_not_mem (hvs : VerifiedFrom sha256 s report_id now n done vs) {id : String}
    (hid : ∀ fp_id ∈ done, verificationId report_id fp_id ≠ id) :
    (s.savedAt m vs).verifications.get? id = s.verifications.get? id := by
  have hnone : vs.reverse.find? (fun v => v.verification_id.value = id) = none := by
    rw [List.find?_eq_none]
    intro v hv heq
    obtain ⟨fp_id, hmem, i, -, -, hof⟩ := hvs.of_mem (List.mem_reverse.mp hv)
    exact hid fp_id hmem (hof.verification_id ▸ of_decide_eq_true heq)
  rw [IntegrityStores.savedAt, KeyedDict.get?_foldl_last, hnone, Option.none_or]

theorem get?_savedAt_of_mem (hvs : VerifiedFrom sha256 s report_id now n done vs) {fp_id : String}
    (hmem : fp_id ∈ done) :
    ∃ v, (s.savedAt m vs).verifications.get? (verificationId report_id fp_id) = some v ∧
      ∃ i < n + done.length, v.verified_at = now i := by
  rw [IntegrityStores.savedAt, KeyedDict.get?_foldl_last]
  cases hlast : vs.reverse.find? fun v => v.verification_id.value = verificationId report_id fp_id
    with
  | none =>
    obtain ⟨v, hv, i, -, -, hof⟩ := hvs.verification hmem
    rw [List.find?_eq_none] at hlast
    exact absurd (decide_eq_true hof.verification_id) (hlast v (List.mem_reverse.mpr hv))
  | some v =>
    have hv := List.mem_reverse.mp (List.mem_of_find?_eq_some hlast)
    obtain ⟨fp_id', -, i, -, hlt, hof⟩ := hvs.of_mem hv
    exact ⟨v, rfl, i, hlt, hof.verified_at⟩

end Left

/-- A batch leaves the ids of another report alone, where no report id holds a colon. -/
theorem unclaimed_after (hnew : BatchUnclaimed report_id fp_ids s) {report_id' : String}
    {fp_ids' : List String} {notes' : Option String} (hreport : ':' ∉ report_id.toList)
    (hreport' : ':' ∉ report_id'.toList) (hne : report_id' ≠ report_id) :
    BatchUnclaimed report_id fp_ids
      (verifyFingerprints now sha256 report_id' fp_ids' notes' s).1 := by
  have hids : ∀ fp_id' fp_id, verificationId report_id' fp_id' ≠ verificationId report_id fp_id :=
    fun fp_id' fp_id heq => hne (verificationId_separated hreport' hreport heq).1
  have hends := @verifyFingerprints_ends now sha256 report_id' fp_ids' notes' s
  rcases hcall : verifyFingerprints now sha256 report_id' fp_ids' notes' s with ⟨t, e | r⟩
  · rw [hcall] at hends
    obtain ⟨done, vs, hleft⟩ := hends
    rw [hleft.left]
    refine ⟨hnew.report_new, fun fp_id hmem => ?_⟩
    rw [get?_savedAt_of_not_mem hleft.verifications fun fp_id' _ => hids fp_id' fp_id]
    exact hnew.verifications_new fp_id hmem
  · rw [hcall] at hends
    obtain ⟨vs, hsaved⟩ := hends
    rw [hsaved.left]
    have hreports : r.report_id ≠ report_id := hsaved.named ▸ hne
    refine ⟨(s.batch_reports.get?_put_ne hreports).trans hnew.report_new, fun fp_id hmem => ?_⟩
    change (s.savedAt (s.readings + 1 + fp_ids'.length) vs).verifications.get? _ = none
    rw [get?_savedAt_of_not_mem hsaved.verifications fun fp_id' _ => hids fp_id' fp_id]
    exact hnew.verifications_new fp_id hmem

/-- The verifications that a failed batch saved are in the way of every later one. -/
theorem retry_iff {done : List String} {vs : List ReplayArtifactFingerprintVerification}
    (hleft : BatchLeft now sha256 report_id fp_ids s t done vs) {u : IntegrityStores}
    (hverifications : u.verifications = t.verifications)
    (hreports : u.batch_reports = t.batch_reports) (hreadings : t.readings ≤ u.readings)
    (hlater : LaterFrom now u.readings) {fp_ids' : List String} {notes' : Option String}
    (hnew : BatchUnclaimed report_id fp_ids' s)
    (hallowed : BatchAllowed report_id fp_ids' u notes') :
    BatchReports now sha256 report_id fp_ids' u notes' ↔ ∀ fp_id ∈ fp_ids', fp_id ∉ done := by
  have hsaved : u.verifications = (s.savedAt t.readings vs).verifications := by
    rw [hverifications, hleft.left]
    rfl
  constructor
  · intro h fp_id hmem hdone
    obtain ⟨t', r, vs', hreport⟩ := h.saved
    obtain ⟨v', hv', j, hj, -, hof⟩ := hreport.verifications.verification hmem
    obtain ⟨v, hv, i, hi, htime⟩ := @get?_savedAt_of_mem _ _ _ _ _ t.readings _ _
      hleft.verifications _ hdone
    have hsame : v = v' := by
      apply hreport.accepts v' hv' v
      change u.verifications.get? v'.verification_id.value = some v
      rw [hof.verification_id, hsaved]
      exact hv
    -- the two were made at different times
    have hlt : now i < now j := hlater i (by have := hleft.readings; omega) j (by omega)
    rw [← htime, ← hof.verified_at, hsame] at hlt
    exact absurd hlt (lt_irrefl _)
  · intro hdisjoint
    have hunclaimed : BatchUnclaimed report_id fp_ids' u := by
      refine ⟨?_, fun fp_id hmem => ?_⟩
      · rw [hreports, hleft.left]
        exact hnew.report_new
      · have hids : ∀ fp_id' ∈ done,
            verificationId report_id fp_id' ≠ verificationId report_id fp_id := by
          intro fp_id' hdone heq
          rw [verificationId_inj heq] at hdone
          exact hdisjoint fp_id hmem hdone
        rw [hsaved, get?_savedAt_of_not_mem hleft.verifications hids]
        exact hnew.verifications_new fp_id hmem
    exact (batchReports_iff hunclaimed).mpr hallowed

end Batches

/-- A batch that ends in a report leaves a verification of each of its fingerprints and the report
on exactly these; one that ends in an error leaves the reports, and the verifications of its first
fingerprints. With none of its ids stored it ends in a report unless it fails by itself, and a
batch under another report id without a colon stores none of them. After an error, a later batch
under the report id ends in its report exactly when none of its fingerprints was verified. -/
theorem batch_verification (now : ℕ → DateTime) (sha256 : Text → HexDigest) (report_id : String)
    (fp_ids : List String) (notes : Option String) (s : IntegrityStores) :
    BatchEnds now sha256 report_id fp_ids notes s
        (verifyFingerprints now sha256 report_id fp_ids notes s).1
        (verifyFingerprints now sha256 report_id fp_ids notes s).2 ∧
      (BatchUnclaimed report_id fp_ids s →
        (BatchReports now sha256 report_id fp_ids s notes ↔
          BatchAllowed report_id fp_ids s notes) ∧
        ∀ report_id' fp_ids' notes', report_id' ≠ report_id → ':' ∉ report_id.toList →
          ':' ∉ report_id'.toList → BatchUnclaimed report_id fp_ids
            (verifyFingerprints now sha256 report_id' fp_ids' notes' s).1) ∧
      ∀ t e, verifyFingerprints now sha256 report_id fp_ids notes s = (t, .error e) →
        ∃ done vs, BatchLeft now sha256 report_id fp_ids s t done vs ∧
          ∀ u fp_ids' notes', u.verifications = t.verifications →
            u.batch_reports = t.batch_reports → t.readings ≤ u.readings →
            LaterFrom now u.readings → BatchUnclaimed report_id fp_ids' s →
            BatchAllowed report_id fp_ids' u notes' →
            (BatchReports now sha256 report_id fp_ids' u notes' ↔
              ∀ fp_id ∈ fp_ids', fp_id ∉ done) := by
  have hends := @verifyFingerprints_ends now sha256 report_id fp_ids notes s
  refine ⟨hends, fun hnew => ⟨batchReports_iff hnew, fun report_id' fp_ids' notes' hne hreport
    hreport' => unclaimed_after hnew hreport hreport' hne⟩, fun t e hcall => ?_⟩
  rw [hcall] at hends
  obtain ⟨done, vs, hleft⟩ := hends
  refine ⟨done, vs, hleft, fun u fp_ids' notes' hverifications hreports hreadings hlater hnew
    hallowed => ?_⟩
  exact retry_iff hleft hverifications hreports hreadings hlater hnew hallowed

def sampleBatch (notes : Option String) (s : IntegrityStores) :
    IntegrityStores × Except IntegrityError BatchReport :=
  verifyFingerprints sampleClock (fun _ => sampleDigest) "batch-1" ["fp-1"] notes s

/-- A batch that fails for its notes leaves a verification, and with other notes it fails on that,
though it ends in a report from the stores before. -/
theorem failed_batch_in_the_way :
    (sampleBatch (some " x") .empty).2 =
        .error (.check "notes must be a non-empty trimmed string") ∧
      (sampleBatch (some " x") .empty).1.verifications.values ≠ [] ∧
      (sampleBatch none (sampleBatch (some " x") .empty).1).2 =
        .error (.conflict "verification_id" "batch-1:fp-1:verification") ∧
      (sampleBatch none .empty).2.isOk = true := by
  decide +kernel

theorem sampleClock_later : LaterFrom sampleClock 4 := by
  intro i hi j hj
  rw [DateTime.lt_iff]
  simp only [DateTime.micros, sampleClock]
  omega

theorem sampleBatch_left {t : IntegrityStores} {e : IntegrityError}
    (h : sampleBatch (some " x") .empty = (t, .error e)) :
    t.readings < 4 ∧ t.verifications.values ≠ [] := by
  have hleft : (sampleBatch (some " x") .empty).1.readings < 4 ∧
      (sampleBatch (some " x") .empty).1.verifications.values ≠ [] := by
    decide +kernel
  rw [h] at hleft
  exact hleft

theorem sampleAllowed {vs : List ReplayArtifactFingerprintVerification} {fp_id : String}
    (hid : Trimmed fp_id.toList) (hvid : Trimmed (verificationId "batch-1" fp_id).toList) :
    BatchAllowed "batch-1" [fp_id] (IntegrityStores.empty.savedAt 4 vs) none := by
  refine ⟨by decide, nofun, List.nodup_singleton _, fun fp hfp => ?_⟩
  obtain rfl := List.mem_singleton.mp hfp
  exact ⟨hvid, hid, nofun⟩

/-- After the failed batch another fingerprint is verified under its id, and this one is not. -/
theorem other_fingerprint_verified :
    ∃ t e, sampleBatch (some " x") .empty = (t, .error e) ∧
      BatchReports sampleClock (fun _ => sampleDigest) "batch-1" ["fp-2"]
        { t with readings := 4 } none ∧
      ¬ BatchReports sampleClock (fun _ => sampleDigest) "batch-1" ["fp-1"]
        { t with readings := 4 } none := by
  obtain ⟨-, -, hretry⟩ := batch_verification sampleClock (fun _ => sampleDigest) "batch-1"
    ["fp-1"] (some " x") .empty
  have hfails : (sampleBatch (some " x") .empty).2.isOk = false := by decide +kernel
  rcases hcall : sampleBatch (some " x") .empty with ⟨t, e | r⟩
  · obtain ⟨hreadings, hverified⟩ := sampleBatch_left hcall
    obtain ⟨done, vs, hleft, hretry⟩ := hretry t e hcall
    have hstores : { t with readings := 4 } = IntegrityStores.empty.savedAt 4 vs := by
      rw [hleft.left]
      rfl
    have hdone : done = ["fp-1"] := by
      rcases List.prefix_cons_iff.mp hleft.first with rfl | ⟨rest, rfl, hrest⟩
      · have hvs := hleft.verifications
        cases hvs
        rw [hleft.left] at hverified
        exact absurd rfl hverified
      · rw [List.prefix_nil.mp hrest]
    have hnew (fp_id : String) : BatchUnclaimed "batch-1" [fp_id] IntegrityStores.empty :=
      ⟨rfl, fun _ _ => rfl⟩
    have hiff (fp_id : String) (hid : Trimmed fp_id.toList)
        (hvid : Trimmed (verificationId "batch-1" fp_id).toList) :=
      hretry { t with readings := 4 } [fp_id] none rfl rfl (Nat.le_of_lt hreadings)
        sampleClock_later (hnew fp_id) (hstores ▸ sampleAllowed hid hvid)
    rw [hdone] at hiff
    refine ⟨t, e, rfl, ?_, fun h => ?_⟩
    · refine (hiff "fp-2" (by decide +kernel) (by decide +kernel)).mpr ?_
      decide
    · have hnot := (hiff "fp-1" (by decide +kernel) (by decide +kernel)).mp h
      exact hnot "fp-1" List.mem_cons_self List.mem_cons_self
  · rw [hcall] at hfails
    cases hfails

end FuturesBot.Integrity
