import FuturesBot.CapabilityResolution
import FuturesBot.PermissionSafety

/-! What a resolution that is ready says of the stores, and when a resolution gives a decision. -/
namespace FuturesBot.Venues

open JsonText (Json)
open Checks DateTimes Dicts Orders

variable {digests : SourceDigests}

/-! Decisions. -/

theorem VenueCapabilityResolutionDecision.of_eq_ok {d : ResolutionDecisionFields}
    {decision : VenueCapabilityResolutionDecision}
    (h : VenueCapabilityResolutionDecision.of d = .ok decision) :
    decision.toResolutionDecisionFields = d := by
  unfold VenueCapabilityResolutionDecision.of at h
  split at h
  · cases h
    rfl
  · cases h

theorem VenueCapabilityResolutionDecision.of_of_valid {d : ResolutionDecisionFields}
    (h : checkAll d.validate = .ok ()) :
    ∃ decision, VenueCapabilityResolutionDecision.of d = .ok decision := by
  unfold VenueCapabilityResolutionDecision.of
  split
  · exact ⟨_, rfl⟩
  · rename_i message herror
    exact absurd (h.symm.trans herror) (by simp)

theorem not_ready_of {d : ResolutionDecisionFields} {decision : VenueCapabilityResolutionDecision}
    (h : VenueCapabilityResolutionDecision.of d = .ok decision) (hready : d.ready = false) :
    decision.ready ≠ true := by
  rw [VenueCapabilityResolutionDecision.of_eq_ok h, hready]
  exact Bool.false_ne_true

/-- A decision against readiness asks for nothing but a reason, and integers that are written. -/
theorem refusal_ok {d : ResolutionDecisionFields} (hready : d.ready = false)
    (hreason : d.reason ≠ .READY) (hwritten : ∀ n ∈ d.integers, hasShortText n = true) :
    ∃ decision, VenueCapabilityResolutionDecision.of d = .ok decision := by
  apply VenueCapabilityResolutionDecision.of_of_valid
  simpa [ResolutionDecisionFields.validate, requireWritten, hready, hreason] using hwritten

theorem refusal_spec {d : ResolutionDecisionFields} (hready : d.ready = false)
    (hreason : d.reason ≠ .READY) (hwritten : ∀ n ∈ d.integers, hasShortText n = true)
    {P : VenueCapabilityResolutionDecision → Prop} :
    ∃ decision, VenueCapabilityResolutionDecision.of d = .ok decision ∧
      (decision.ready = true → P decision) :=
  (refusal_ok hready hreason hwritten).imp fun _ h => ⟨h, fun hd => absurd hd (not_ready_of h hready)⟩

/-- A decision that is ready asks for all models that it is made on. -/
theorem ready_ok {d : ResolutionDecisionFields} {s : VenueCapabilitySnapshot}
    {r : VenueInstrumentRuleSnapshot} {check : VenueCapabilityFreshnessCheck}
    {f : VenueCapabilityFreshnessDecision} {context : VenueOrderValidationContext}
    (hready : d.ready = true) (hreason : d.reason = .READY) (hsnapshot : d.venue_snapshot = some s)
    (hrules : d.instrument_rules = some r) (hcheck : d.freshness_check = some check)
    (hfreshness : d.freshness_decision = some f)
    (hcontext : d.venue_validation_context = some context)
    (hwritten : ∀ n ∈ d.integers, hasShortText n = true) :
    ∃ decision, VenueCapabilityResolutionDecision.of d = .ok decision := by
  apply VenueCapabilityResolutionDecision.of_of_valid
  simpa [ResolutionDecisionFields.validate, requireWritten, hready, hreason, hsnapshot, hrules,
    hcheck, hfreshness, hcontext] using hwritten

/-! Freshness. -/

theorem firstRejection_mem {checks : List Rejection}
    {found : CapabilityFreshnessDecisionReason × Json} (h : firstRejection checks = some found) :
    found ∈ checks.map (·.2) := by
  unfold firstRejection at h
  induction checks with
  | nil => exact absurd h (by simp [Assets.firstReason])
  | cons c cs ih =>
    rw [List.map_cons, Assets.firstReason] at h
    split at h
    · rw [← Option.some.inj h]
      exact List.mem_cons_self
    · exact List.mem_cons_of_mem _ (ih h)

/-- What a rejection gives as its reason. -/
def Rejects (checks : List Rejection) : Prop :=
  ∀ c ∈ checks, c.2.1 ≠ .FRESH ∧ c.2.1 ≠ .POLICY_DISABLED

theorem identityRejections_reject (check : VenueCapabilityFreshnessCheck) :
    Rejects (identityRejections check) := by
  intro c hc
  simp only [identityRejections, List.mem_append, List.mem_cons, List.not_mem_nil, or_false,
    List.mem_map, List.mem_flatMap] at hc
  rcases hc with (((rfl | rfl) | ⟨v, -, rfl⟩) | ⟨r, -, rfl | rfl⟩) | rfl | rfl | rfl <;> simp

theorem futureRejections_reject (check : VenueCapabilityFreshnessCheck) :
    Rejects (futureRejections check) := by
  intro c hc
  simp only [futureRejections, List.mem_append, List.mem_map] at hc
  rcases hc with ⟨t, -, rfl⟩ | ⟨t, -, rfl⟩ <;> simp [futureRejection]

theorem staleRejections_reject (check : VenueCapabilityFreshnessCheck) :
    Rejects (staleRejections check) := by
  intro c hc
  simp only [staleRejections, List.mem_append, List.mem_map] at hc
  rcases hc with ⟨t, -, rfl⟩ | ⟨t, -, rfl⟩ <;> simp [staleRejection]

theorem Rejects.not_fresh {checks : List Rejection} (h : Rejects checks)
    {reason : CapabilityFreshnessDecisionReason} {details : Json}
    (hfound : firstRejection checks = some (reason, details)) (a b : Option ℕ) :
    (freshnessDecision reason details a b).fresh = false := by
  obtain ⟨c, hc, hcr⟩ := List.mem_map.mp (firstRejection_mem hfound)
  have hreason := h c hc
  rw [hcr] at hreason
  simp [freshnessDecision, hreason.1, hreason.2]

/-- The latest time that the clocks allow is a datetime. -/
def DeadlineInRange (q : VenueCapabilityResolutionRequest) : Prop :=
  q.checked_at.micros + 1000 * q.freshness_policy.max_clock_skew_ms ≤ lastMicros

instance (q : VenueCapabilityResolutionRequest) : Decidable (DeadlineInRange q) :=
  inferInstanceAs (Decidable (_ ≤ _))

theorem freshness_ok {check : VenueCapabilityFreshnessCheck}
    (h : check.checked_at.micros + 1000 * check.policy.max_clock_skew_ms ≤ lastMicros) :
    ∃ f, validateVenueCapabilityFreshness check = .ok f := by
  rw [validateVenueCapabilityFreshness, if_neg (Nat.not_lt.mpr h)]
  split
  · exact ⟨_, rfl⟩
  split
  · exact ⟨_, rfl⟩
  split
  · exact ⟨_, rfl⟩
  simp only
  split
  · exact ⟨_, rfl⟩
  · exact ⟨_, rfl⟩

/-- Snapshots are let through as fresh, or by a policy that is disabled. -/
theorem fresh_reason {check : VenueCapabilityFreshnessCheck}
    {f : VenueCapabilityFreshnessDecision}
    (h : validateVenueCapabilityFreshness check = .ok f) (hfresh : f.fresh = true) :
    if check.policy.mode = .DISABLED then f.reason = .POLICY_DISABLED else f.reason = .FRESH := by
  rw [validateVenueCapabilityFreshness] at h
  split at h
  · rename_i hmode
    rw [if_pos hmode, ← Except.ok.inj h]
    rfl
  rename_i hmode
  rw [if_neg hmode]
  have hrejected {checks : List Rejection} (hchecks : Rejects checks)
      {reason : CapabilityFreshnessDecisionReason} {details : Json}
      (hfound : firstRejection checks = some (reason, details)) (a b : Option ℕ)
      (hf : f = freshnessDecision reason details a b) : f.reason = .FRESH := by
    rw [hf, hchecks.not_fresh hfound] at hfresh
    exact absurd hfresh Bool.false_ne_true
  split at h
  · rename_i hfound
    exact hrejected (identityRejections_reject check) hfound _ _ (Except.ok.inj h).symm
  split at h
  · cases h
  split at h
  · rename_i hfound
    exact hrejected (futureRejections_reject check) hfound _ _ (Except.ok.inj h).symm
  simp only at h
  split at h
  · rename_i hfound
    exact hrejected (staleRejections_reject check) hfound _ _ (Except.ok.inj h).symm
  · rw [← Except.ok.inj h]
    rfl

/-! Provenance. -/

/-- A stored record that a snapshot may be executed on: official, healthy, accepted, and of the
snapshot's own venue and payload. -/
structure IsAuthority (digests : SourceDigests) (actual : SnapshotProvenanceRef)
    (r : VenueCapabilitySourceRecord) : Prop where
  venue : r.descriptor.venue_id = actual.venue_id
  official : r.descriptor.trust = .OFFICIAL
  healthy : r.health_status = .HEALTHY
  accepted : r.accepted_for_execution = true
  payload : actual.source_payload_hash = some (digests.payloadHash r.payload)

/-- A snapshot is backed by a stored record. -/
def Backed (source_records : Option (KeyedDict digests.recordId))
    (actual : SnapshotProvenanceRef) : Prop :=
  ∃ records ∈ source_records, ∃ source_record_id ∈ actual.source_record_id,
    ∃ r ∈ records.get? source_record_id, IsAuthority digests actual r

theorem validateSourceRecordAuthority_eq_none {label : String} {venue_id : TrimmedText}
    {source_payload_hash : HexDigest} {r : VenueCapabilitySourceRecord} :
    @validateSourceRecordAuthority digests label venue_id source_payload_hash r = none
      ↔ r.descriptor.venue_id = venue_id ∧ r.descriptor.trust = .OFFICIAL ∧
        r.health_status = .HEALTHY ∧ r.accepted_for_execution = true ∧
        source_payload_hash = digests.payloadHash r.payload := by
  rw [validateSourceRecordAuthority]
  constructor
  · intro h
    simp only at h
    split_ifs at h with hvenue htrust hhealth haccepted hpayload
    exact ⟨not_not.mp hvenue, not_not.mp htrust, not_not.mp hhealth, by simpa using haccepted,
      not_not.mp hpayload⟩
  · rintro ⟨hvenue, htrust, hhealth, haccepted, hpayload⟩
    simp only [hvenue, htrust, hhealth, haccepted, hpayload, ne_eq, not_true_eq_false, if_false,
      Bool.not_true, Bool.false_eq_true]

theorem validateSnapshotSourceRecord_eq_none {label : String} {actual : SnapshotProvenanceRef}
    {source_records : Option (KeyedDict digests.recordId)} :
    validateSnapshotSourceRecord label actual source_records = none ↔
      Backed source_records actual := by
  rw [validateSnapshotSourceRecord]
  constructor
  · intro h
    split at h
    · rename_i record_id payload_hash hid hpayload
      split at h
      · cases h
      rename_i records
      split at h
      · cases h
      rename_i r hr
      obtain ⟨hvenue, htrust, hhealth, haccepted, hhash⟩ :=
        validateSourceRecordAuthority_eq_none.mp h
      exact ⟨records, rfl, record_id, hid, r, hr,
        ⟨hvenue, htrust, hhealth, haccepted, hhash ▸ hpayload⟩⟩
    · cases h
  · rintro ⟨records, rfl, record_id, hid, r, hr, hauthority⟩
    rw [Option.mem_def] at hid hr
    simp only [hid, hr, hauthority.payload]
    exact validateSourceRecordAuthority_eq_none.mpr ⟨hauthority.venue, hauthority.official,
      hauthority.healthy, hauthority.accepted, rfl⟩

theorem validateRequiredProvenance_eq_none {q : VenueCapabilityResolutionRequest}
    {s : VenueCapabilitySnapshot} {r : VenueInstrumentRuleSnapshot}
    {source_records : Option (KeyedDict digests.recordId)} :
    validateRequiredProvenance q s r source_records = none ↔
      (q.require_official_source_provenance = true →
        Backed source_records s.provenance ∧ Backed source_records r.provenance) := by
  rw [validateRequiredProvenance]
  cases q.require_official_source_provenance with
  | false => simp
  | true => simp [validateSnapshotSourceRecord_eq_none]

/-! Resolutions. -/

variable {q : VenueCapabilityResolutionRequest} {stores : ResolutionStores digests}
  {s : VenueCapabilitySnapshot} {r : VenueInstrumentRuleSnapshot}
  {check : VenueCapabilityFreshnessCheck} {f : VenueCapabilityFreshnessDecision}
  {d : VenueCapabilityResolutionDecision}

/-- The integers of a snapshot and of rules can be written. -/
def Written (s : VenueCapabilitySnapshot) (r : VenueInstrumentRuleSnapshot) : Prop :=
  ∀ n ∈ s.integers ++ r.integers, hasShortText n = true

theorem decision_written {fields : ResolutionDecisionFields}
    (hsnapshot : ∀ v ∈ fields.venue_snapshot, ∀ n ∈ v.integers, hasShortText n = true)
    (hrules : ∀ v ∈ fields.instrument_rules, ∀ n ∈ v.integers, hasShortText n = true)
    (hcheck : ∀ c ∈ fields.freshness_check, ∀ n ∈ c.policy.integers, hasShortText n = true) :
    ∀ n ∈ fields.integers, hasShortText n = true := by
  intro n hn
  simp only [ResolutionDecisionFields.integers, List.mem_append, List.mem_flatMap,
    Option.mem_toList] at hn
  rcases hn with (⟨v, hv, hn⟩ | ⟨v, hv, hn⟩) | ⟨c, hc, hn⟩
  · exact hsnapshot v hv n hn
  · exact hrules v hv n hn
  · exact hcheck c hc n hn

theorem afterFreshness_written (hpolicy : check.policy = q.freshness_policy)
    (hwritten : Written s r) {fields : ResolutionDecisionFields}
    (hsnapshot : fields.venue_snapshot = some s) (hrules : fields.instrument_rules = some r)
    (hcheck : fields.freshness_check = some check) :
    ∀ n ∈ fields.integers, hasShortText n = true := by
  refine decision_written (fun v hv => ?_) (fun v hv => ?_) (fun c hc => ?_)
  · obtain rfl := Option.some.inj (hsnapshot.symm.trans hv)
    exact fun n hn => hwritten n (List.mem_append_left _ hn)
  · obtain rfl := Option.some.inj (hrules.symm.trans hv)
    exact fun n hn => hwritten n (List.mem_append_right _ hn)
  · rw [← Option.some.inj (hcheck.symm.trans hc), hpolicy]
    exact q.written

/-- What the freshness check of the gateway says of the request and the snapshots. -/
theorem freshnessCheck_eq_ok (h : freshnessCheck q s r = .ok check) :
    check.venue_snapshot = some s ∧ check.instrument_rules = some r ∧
      check.policy = q.freshness_policy ∧ check.checked_at = q.checked_at ∧ Written s r ∧
      q.order_intent.venue_id = s.venue_id ∧ q.order_intent.venue_id = r.venue_id ∧
      q.order_intent.instrument_id = r.instrument_id := by
  obtain ⟨hchecks, rfl⟩ := validated_eq_ok.mp h
  obtain ⟨hvenue, hrules, hinstrument, hwritten⟩ := (checkInvariants_ok q s r).mp hchecks
  exact ⟨rfl, rfl, rfl, rfl, hwritten, hvenue.symm, hrules.symm, hinstrument.symm⟩

/-- A context is made of every two snapshots that a freshness check is made of. -/
theorem validationContext_of_check (h : freshnessCheck q s r = .ok check) :
    ∃ context, validationContext q s r = .ok context ∧ context.order_intent = q.order_intent ∧
      context.venue_snapshot = s ∧ context.instrument_rules = r := by
  obtain ⟨-, -, -, -, hwritten, hvenue, hrules, hinstrument⟩ := freshnessCheck_eq_ok h
  exact ⟨_, validated_eq_ok.mpr
    ⟨(contextInvariants_ok q s r).mpr ⟨hvenue, hrules, hinstrument, hwritten⟩, rfl⟩, rfl, rfl, rfl⟩

/-- What is behind a decision that is ready: both latest snapshots, their freshness at the time of
the request, the context of the order, and the provenance that is required. -/
structure Resolves (stores : ResolutionStores digests) (q : VenueCapabilityResolutionRequest)
    (d : VenueCapabilityResolutionDecision) (s : VenueCapabilitySnapshot)
    (r : VenueInstrumentRuleSnapshot) (check : VenueCapabilityFreshnessCheck)
    (f : VenueCapabilityFreshnessDecision) (context : VenueOrderValidationContext) : Prop where
  snapshots : d.venue_snapshot = some s ∧ d.instrument_rules = some r
  latest_venue : stores.venue_snapshots.IsLatest VenueCapabilitySnapshot.capture
    q.order_intent.venue_id s
  latest_rules : stores.instrument_rules.IsLatest VenueInstrumentRuleSnapshot.capture
    (q.order_intent.venue_id, q.order_intent.instrument_id) r
  checked : d.freshness_check = some check ∧ check.venue_snapshot = some s ∧
    check.instrument_rules = some r ∧ check.policy = q.freshness_policy ∧
    check.checked_at = q.checked_at
  decided : d.freshness_decision = some f ∧ validateVenueCapabilityFreshness check = .ok f
  fresh : if q.freshness_policy.mode = .DISABLED then f.reason = .POLICY_DISABLED
    else f.reason = .FRESH
  context : d.venue_validation_context = some context ∧ context.order_intent = q.order_intent ∧
    context.venue_snapshot = s ∧ context.instrument_rules = r
  provenance : q.require_official_source_provenance = true →
    Backed stores.source_records s.provenance ∧ Backed stores.source_records r.provenance

/-- The decision on two snapshots that are fresh is ready exactly when their provenance is the
required one. -/
theorem resolveProvenance_spec (hcheck : freshnessCheck q s r = .ok check) :
    ∃ d, resolveProvenance q stores s r check f = .ok d ∧ (d.ready = true →
      d.venue_snapshot = some s ∧ d.instrument_rules = some r ∧ d.freshness_check = some check ∧
      d.freshness_decision = some f ∧
      (∃ context, d.venue_validation_context = some context ∧
        context.order_intent = q.order_intent ∧ context.venue_snapshot = s ∧
        context.instrument_rules = r) ∧
      (q.require_official_source_provenance = true →
        Backed stores.source_records s.provenance ∧
          Backed stores.source_records r.provenance)) := by
  obtain ⟨-, -, hpolicy, -, hwritten, -⟩ := freshnessCheck_eq_ok hcheck
  rw [resolveProvenance]
  split
  · rename_i failure hfailure
    exact refusal_spec rfl failure.refuses (afterFreshness_written hpolicy hwritten rfl rfl rfl)
  · rename_i hprovenance
    obtain ⟨context, hcontext, hparts⟩ := validationContext_of_check hcheck
    rw [resolveContext, hcontext]
    refine (ready_ok rfl rfl rfl rfl rfl rfl rfl
      (afterFreshness_written hpolicy hwritten rfl rfl rfl)).imp fun d hd => ⟨hd, fun _ => ?_⟩
    rw [VenueCapabilityResolutionDecision.of_eq_ok hd]
    exact ⟨rfl, rfl, rfl, rfl, ⟨context, rfl, hparts⟩,
      validateRequiredProvenance_eq_none.mp hprovenance⟩

/-- The freshness check of a gateway is made of every two snapshots of the order's venue and
instrument whose integers can be written. -/
theorem freshnessCheck_ok (hvenue : s.venue_id = q.order_intent.venue_id)
    (hrules : (r.venue_id, r.instrument_id) =
      (q.order_intent.venue_id, q.order_intent.instrument_id)) (hwritten : Written s r) :
    ∃ check, freshnessCheck q s r = .ok check := by
  obtain ⟨hrvenue, hinstrument⟩ := Prod.mk.inj hrules
  exact ⟨_, validated_eq_ok.mpr
    ⟨(checkInvariants_ok q s r).mpr ⟨hvenue, hrvenue, hinstrument, hwritten⟩, rfl⟩⟩

/-- The latest time that the clocks allow is looked at under a policy that is not disabled. -/
theorem freshness_of_deadline
    (hdeadline : q.freshness_policy.mode ≠ .DISABLED → DeadlineInRange q)
    (hpolicy : check.policy = q.freshness_policy) (hchecked : check.checked_at = q.checked_at) :
    ∃ f, validateVenueCapabilityFreshness check = .ok f := by
  by_cases hmode : q.freshness_policy.mode = .DISABLED
  · rw [validateVenueCapabilityFreshness, hpolicy, if_pos hmode]
    exact ⟨_, rfl⟩
  · apply freshness_ok
    rw [hchecked, hpolicy]
    exact hdeadline hmode

theorem resolveSnapshots_ok (hvenue : s.venue_id = q.order_intent.venue_id)
    (hrules : (r.venue_id, r.instrument_id) =
      (q.order_intent.venue_id, q.order_intent.instrument_id)) (hwritten : Written s r)
    (hdeadline : q.freshness_policy.mode ≠ .DISABLED → DeadlineInRange q) :
    ∃ d, resolveSnapshots q stores s r = .ok d := by
  obtain ⟨check, hcheck⟩ := freshnessCheck_ok hvenue hrules hwritten
  obtain ⟨-, -, hpolicy, hchecked, -⟩ := freshnessCheck_eq_ok hcheck
  obtain ⟨f, hf⟩ := freshness_of_deadline hdeadline hpolicy hchecked
  simp only [resolveSnapshots, hcheck, hf]
  split
  · exact refusal_ok rfl (by simp [afterFreshness, onSnapshots, resolutionDecision])
      (afterFreshness_written hpolicy hwritten rfl rfl rfl)
  · obtain ⟨d, hd, -⟩ := @resolveProvenance_spec _ _ stores _ _ _ f hcheck
    exact ⟨d, hd⟩

/-- The integers of the latest snapshots can be written. -/
structure LatestWritten (stores : ResolutionStores digests) (q : VenueCapabilityResolutionRequest) :
    Prop where
  venue : ∀ s, stores.venue_snapshots.IsLatest VenueCapabilitySnapshot.capture
    q.order_intent.venue_id s → ∀ n ∈ s.integers, hasShortText n = true
  rules : ∀ r, stores.instrument_rules.IsLatest VenueInstrumentRuleSnapshot.capture
    (q.order_intent.venue_id, q.order_intent.instrument_id) r →
      ∀ n ∈ r.integers, hasShortText n = true

theorem resolve_ok (hwritten : LatestWritten stores q)
    (hdeadline : q.freshness_policy.mode ≠ .DISABLED → DeadlineInRange q) :
    ∃ d, resolve q stores = .ok d := by
  rw [resolve]
  simp only
  split
  · refine refusal_ok rfl (by simp [resolutionDecision]) (decision_written ?_ ?_ ?_) <;>
      simp [resolutionDecision]
  rename_i s hs
  have hlatest := ScopedStore.latest_isLatest hs
  split
  · refine refusal_ok rfl (by simp [resolutionDecision]) (decision_written ?_ ?_ ?_)
    · exact fun v hv => Option.some.inj hv ▸ hwritten.venue s hlatest
    · simp [resolutionDecision]
    · simp [resolutionDecision]
  rename_i r hr
  have hrules := ScopedStore.latest_isLatest hr
  refine resolveSnapshots_ok hlatest.in_scope hrules.in_scope (fun n hn => ?_) hdeadline
  rcases List.mem_append.mp hn with hn | hn
  · exact hwritten.venue s hlatest n hn
  · exact hwritten.rules r hrules n hn

theorem resolveSnapshots_ready (h : resolveSnapshots q stores s r = .ok d)
    (hready : d.ready = true)
    (hvenue : stores.venue_snapshots.IsLatest VenueCapabilitySnapshot.capture
      q.order_intent.venue_id s)
    (hrules : stores.instrument_rules.IsLatest VenueInstrumentRuleSnapshot.capture
      (q.order_intent.venue_id, q.order_intent.instrument_id) r) :
    ∃ check f context, Resolves stores q d s r check f context := by
  rw [resolveSnapshots] at h
  split at h
  · exact absurd hready (not_ready_of h rfl)
  rename_i check hcheck
  obtain ⟨hsnapshot, hrule, hpolicy, hchecked, -⟩ := freshnessCheck_eq_ok hcheck
  split at h
  · cases h
  rename_i f hf
  split at h
  · exact absurd hready (not_ready_of h rfl)
  rename_i hfresh
  obtain ⟨d', hd', hfacts⟩ := @resolveProvenance_spec _ _ stores _ _ _ f hcheck
  obtain rfl := Except.ok.inj (h.symm.trans hd')
  obtain ⟨hds, hdr, hdcheck, hdf, ⟨context, hdcontext, hparts⟩, hprovenance⟩ := hfacts hready
  have hreason := fresh_reason hf (by simpa using hfresh)
  rw [hpolicy] at hreason
  exact ⟨check, f, context,
    { snapshots := ⟨hds, hdr⟩
      latest_venue := hvenue
      latest_rules := hrules
      checked := ⟨hdcheck, hsnapshot, hrule, hpolicy, hchecked⟩
      decided := ⟨hdf, hf⟩
      fresh := hreason
      context := ⟨hdcontext, hparts⟩
      provenance := hprovenance }⟩

/-- A request whose latest allowed capture time is a datetime, on latest snapshots whose integers
can be written, is resolved; and a decision that is ready is made on the latest snapshots of the
order's venue and instrument, which are fresh at the time of the request unless the policy is
disabled, and come from official records when that is required. -/
theorem capability_resolution_sound (stores : ResolutionStores digests)
    (q : VenueCapabilityResolutionRequest) :
    (LatestWritten stores q → (q.freshness_policy.mode ≠ .DISABLED → DeadlineInRange q) →
      ∃ d, resolve q stores = .ok d) ∧
    ∀ d, resolve q stores = .ok d → d.ready = true →
      ∃ s r check f context, Resolves stores q d s r check f context := by
  refine ⟨resolve_ok, fun d h hready => ?_⟩
  rw [resolve] at h
  simp only at h
  split at h
  · exact absurd hready (not_ready_of h rfl)
  rename_i s hs
  split at h
  · exact absurd hready (not_ready_of h rfl)
  rename_i r hr
  obtain ⟨check, f, context, hresolves⟩ := resolveSnapshots_ready h hready
    (ScopedStore.latest_isLatest hs) (ScopedStore.latest_isLatest hr)
  exact ⟨s, r, check, f, context, hresolves⟩

/-! An order on snapshots that come from one record, and the policies that it is resolved under. -/

def sampleVenue : VenueCapabilitySnapshot where
  snapshot_id := ⟨"venue-1", by decide⟩
  venue_id := ⟨"BINANCE", .checked evaluates⟩
  trading_status := .ENABLED
  api_trading_enabled := true
  captured_at := sampleTime
  account_tier := none
  supported_margin_assets := [⟨"USDT", .checked evaluates⟩]
  supported_settlement_assets := [⟨"USDT", .checked evaluates⟩]
  supported_position_modes := [.ONE_WAY]
  supports_reduce_only := true
  supports_post_only := true
  supports_close_position := true
  supports_gtd := false
  min_gtd_duration_ms := none
  supports_price_protection := false
  supported_self_trade_prevention_modes := []
  dead_man_switch := {
    capability_id := ⟨"dead-man-1", by decide⟩
    supported := false
    scope_kind := .ACCOUNT
    min_countdown_ms := none
    max_countdown_ms := none
    recommended_heartbeat_ms := none
    positive := by decide
    heartbeat := nofun
    ordered := by simp }
  rate_limit_profile := none
  source_hash := none
  source_record_id := some (sampleSourceDigests.recordId sampleRecord)
  source_payload_hash := some sampleDigest
  has_assets := by simp
  gtd_positive := nofun
  source_paired := rfl

def sampleOrder : OrderIntent :=
  ⟨{ exitIntent.toOrderIntentFields with instrument_id := ⟨"BTCUSDT-PERP", .checked evaluates⟩ },
    by decide⟩

def sampleResolutionStores : ResolutionStores sampleSourceDigests where
  venue_snapshots := ScopedStore.empty.insert sampleVenue rfl
  instrument_rules := ScopedStore.empty.insert (sampleRule ⟨"BTCUSDT", .checked evaluates⟩) rfl
  source_records := some (KeyedDict.empty.put sampleRecord)

/-- A strict policy that allows for a clock skew. -/
def strictPolicy (max_clock_skew_ms : ℕ) : VenueCapabilityFreshnessPolicy where
  policy_id := ⟨"strict", by decide⟩
  mode := .STRICT
  max_venue_snapshot_age_ms := 1000
  max_instrument_rules_age_ms := 1000
  max_clock_skew_ms
  reject_future_snapshots := true
  reject_degraded_source := true
  reject_unknown_source := true
  require_venue_snapshot := true
  require_instrument_rules := true
  positive := by decide
  strict _ := ⟨rfl, rfl, rfl, rfl, rfl⟩

def disabledPolicy : VenueCapabilityFreshnessPolicy :=
  { strictPolicy 0 with mode := .DISABLED, strict := nofun }

def sampleResolutionRequest (freshness_policy : VenueCapabilityFreshnessPolicy)
    (written : ∀ n ∈ freshness_policy.integers, hasShortText n = true) :
    VenueCapabilityResolutionRequest where
  request_id := ⟨"request-1", by decide⟩
  order_intent := sampleOrder
  checked_at := sampleTime
  freshness_policy
  source_health := .HEALTHY
  correlation_id := none
  require_official_source_provenance := true
  written

def strictRequest : VenueCapabilityResolutionRequest :=
  sampleResolutionRequest (strictPolicy 0) (by decide)

def disabledRequest : VenueCapabilityResolutionRequest :=
  sampleResolutionRequest disabledPolicy (by decide)

/-- A clock skew of about ten thousand years. -/
def skewedRequest : VenueCapabilityResolutionRequest :=
  sampleResolutionRequest (strictPolicy (10 ^ 15)) (by decide)

theorem strict_request_resolves : ∃ d, resolve strictRequest sampleResolutionStores = .ok d ∧
    ∃ s r check f context,
      Resolves sampleResolutionStores strictRequest d s r check f context := by
  have hwritten : LatestWritten sampleResolutionStores strictRequest := by
    refine ⟨fun s hs => ?_, fun r hr => ?_⟩
    · obtain rfl := List.mem_singleton.mp hs.stored
      simp [VenueCapabilitySnapshot.integers, sampleVenue]
    · obtain rfl := List.mem_singleton.mp hr.stored
      simp [VenueInstrumentRuleSnapshot.integers, sampleRule]
  have hdeadline : strictRequest.freshness_policy.mode ≠ .DISABLED →
      DeadlineInRange strictRequest := fun _ => by decide +kernel
  obtain ⟨d, hd⟩ := (capability_resolution_sound sampleResolutionStores strictRequest).1
    hwritten hdeadline
  have hready : (resolve strictRequest sampleResolutionStores).map (·.ready) = .ok true := by
    decide +kernel
  rw [hd] at hready
  exact ⟨d, hd, (capability_resolution_sound sampleResolutionStores strictRequest).2 d hd
    (Except.ok.inj hready)⟩

/-- A policy that is disabled lets an order through with no check of freshness, and a clock skew
that goes past the last datetime ends the resolution in an exception. -/
theorem resolution_without_freshness :
    (resolve disabledRequest sampleResolutionStores).map
        (fun d => (d.ready, d.freshness_decision.map (·.reason))) =
      .ok (true, some .POLICY_DISABLED) ∧
    (resolve skewedRequest sampleResolutionStores).map (·.ready) =
      .error (.arithmetic .datetime) := by
  constructor <;> decide +kernel

end FuturesBot.Venues
