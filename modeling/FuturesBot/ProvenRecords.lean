import FuturesBot.EntryPermissions
import Mathlib.Data.List.Sort

/-! The readiness proofs behind the records: every record that a run creates names a stored proof
whose gates have passed, as far as its request requires them. -/
namespace FuturesBot.Execution

open StoreActions StepRuns Orders Venues Checks InMemoryExecutionOrderRecordStore

variable {digests : Digests} {s t : AdmissionStores digests} {request : ExecutionAdmissionRequest}

/-! Proofs that were built. -/

/-- What both builders put into a proof. -/
structure ProofBuilt (digests : Digests) (request : ExecutionAdmissionRequest)
    (permission : OrderIntentPermissionDecision)
    (gate_decision : Option ExecutionCapabilityDecision) (proof : ExecutionReadinessProof) :
    Prop where
  ready : proof.ready = true
  request_id : proof.request_id = digests.requestId request
  gates : ∀ evidence ∈ commonGates request permission gate_decision, evidence ∈ proof.gates

theorem buildOrder_built {order_intent : OrderIntent} {permission : OrderIntentPermissionDecision}
    {gate_decision : Option ExecutionCapabilityDecision} {event_ids : List OrderLifecycleEventId}
    {proof : ExecutionReadinessProof}
    (h : buildOrderExecutionReadinessProof digests request order_intent permission gate_decision
      event_ids = .ok proof) : ProofBuilt digests request permission gate_decision proof := by
  have hfields := ExecutionReadinessProof.of_eq_ok.mp h
  refine ⟨?_, ?_, fun evidence hevidence => ?_⟩
  · rw [hfields]
    rfl
  · rw [hfields]
    rfl
  · rw [hfields, ProofFields.sorted]
    exact (List.mem_insertionSort _).mpr (List.mem_append_left _ hevidence)

theorem buildReplace_built {replace_intent : ReplaceOrderIntent}
    {permission : OrderIntentPermissionDecision}
    {gate_decision : Option ExecutionCapabilityDecision} {event_ids : List OrderLifecycleEventId}
    {proof : ExecutionReadinessProof}
    (h : buildReplaceExecutionReadinessProof digests request replace_intent permission
      gate_decision event_ids = .ok proof) :
    ProofBuilt digests request permission gate_decision proof := by
  have hfields := ExecutionReadinessProof.of_eq_ok.mp h
  refine ⟨?_, ?_, fun evidence hevidence => ?_⟩
  · rw [hfields]
    rfl
  · rw [hfields]
    rfl
  · rw [hfields, ProofFields.sorted]
    exact (List.mem_insertionSort _).mpr (List.mem_append_left _ hevidence)

/-- In a proof that is ready, the gates that are required have passed. -/
theorem required_passed {proof : ExecutionReadinessProof} (hready : proof.ready = true)
    {evidence : ExecutionReadinessGateEvidence} (hevidence : evidence ∈ proof.gates)
    (hrequired : evidence.required = true) : evidence.status = .PASSED := by
  have hvalid := proof.valid
  rw [ProofFields.validateProof, checkAll_append, checkAll_flatMap] at hvalid
  have hchecks := hvalid.2 evidence hevidence
  rw [checkAll_require, checkAll_require] at hchecks
  exact hchecks.2.1 hready hrequired

/-! What a proof says about its order. -/

/-- The gate has passed, and was required. -/
def GatePassed (proof : ExecutionReadinessProof) (gate : ExecutionReadinessGate) : Prop :=
  ∃ evidence ∈ proof.gates, evidence.gate = gate ∧ evidence.required = true ∧
    evidence.status = .PASSED

/-- The evidence of a proof for an order, as far as the request requires it. -/
structure Evident (digests : Digests) (request : ExecutionAdmissionRequest)
    (order_intent : OrderIntent) (proof : ExecutionReadinessProof) : Prop where
  /-- the gate of the venue has passed on a context with this very order -/
  venue : request.require_venue_capability_validation = true →
    ∃ context result, request.venue_validation_context = some context ∧
      digests.sameIntent context.order_intent order_intent = true ∧
      validateOrderAgainstVenueCapabilities context = .ok result ∧ result.valid = true ∧
      ∃ evidence ∈ proof.gates, evidence.gate = .VENUE_CAPABILITY ∧ evidence.required = true ∧
        evidence.status = .PASSED ∧ evidence.reason = some result.reason.value ∧
        evidence.details = result.details
  freshness : request.require_fresh_capability_snapshot = true →
    GatePassed proof .CAPABILITY_FRESHNESS
  /-- the snapshots that were fresh are those the order was validated on -/
  snapshots : request.require_venue_capability_validation = true →
    request.require_fresh_capability_snapshot = true →
    ∃ context freshness_check freshness, request.venue_validation_context = some context ∧
      request.freshness_check = some freshness_check ∧
      freshnessMismatches digests order_intent context freshness_check = [] ∧
      validateVenueCapabilityFreshness freshness_check = .ok freshness ∧ freshness.fresh = true
  provenance : request.source_provenance_required = true → GatePassed proof .SOURCE_PROVENANCE

theorem evident_of_built {order_intent : OrderIntent} {permission : OrderIntentPermissionDecision}
    {gate_decision : Option ExecutionCapabilityDecision} {proof : ExecutionReadinessProof}
    (hcapability : CapabilityPassed digests request order_intent gate_decision)
    (h : ProofBuilt digests request permission gate_decision proof) :
    Evident digests request order_intent proof := by
  refine ⟨fun hvenue => ?_, fun hfresh => ?_, fun hvenue hfresh => ?_, fun hsource => ?_⟩
  · obtain ⟨context, decision, check, hcontext, hcheck, hgate, -, hexecutable⟩ :=
      hcapability.required hvenue
    obtain ⟨result, hresult, hvalid, hreason, hdetails⟩ := hexecutable.validated
    have hintent := hexecutable.intent
    rw [hcheck] at hresult hintent
    have hmem := h.gates (venueCapabilityGate request gate_decision) (by simp [commonGates])
    have hevidence : (venueCapabilityGate request gate_decision).gate = .VENUE_CAPABILITY ∧
        (venueCapabilityGate request gate_decision).required = true ∧
        (venueCapabilityGate request gate_decision).reason = some result.reason.value ∧
        (venueCapabilityGate request gate_decision).details = result.details := by
      simp [venueCapabilityGate, hvenue, hgate, decided, hreason, hdetails]
    obtain ⟨hname, hrequired, hreason', hdetails'⟩ := hevidence
    exact ⟨context, result, hcontext, hintent, hresult, hvalid, _, hmem, hname, hrequired,
      required_passed h.ready hmem hrequired, hreason', hdetails'⟩
  · have hmem := h.gates (capabilityFreshnessGate request gate_decision) (by simp [commonGates])
    have hrequired : (capabilityFreshnessGate request gate_decision).required = true := by
      simp [capabilityFreshnessGate, hfresh, decided]
    refine ⟨_, hmem, ?_, hrequired, required_passed h.ready hmem hrequired⟩
    simp [capabilityFreshnessGate, hfresh, decided]
  · obtain ⟨context, decision, check, hcontext, hcheck, -, -, hexecutable⟩ :=
      hcapability.required hvenue
    have hchecked := hexecutable.fresh
    rw [hcheck] at hchecked
    obtain ⟨freshness_check, freshness, hgiven, hmatch, hdecided, hisfresh, -⟩ := hchecked hfresh
    exact ⟨context, freshness_check, freshness, hcontext, hgiven, hmatch, hdecided, hisfresh⟩
  · have hmem := h.gates (sourceProvenanceGate request) (by simp [commonGates])
    have hrequired : (sourceProvenanceGate request).gate = .SOURCE_PROVENANCE ∧
        (sourceProvenanceGate request).required = true := by
      -- a request that requires provenance says that it was checked
      have hchecked := request.valid.2.1 hsource
      rw [sourceProvenanceGate, if_pos hchecked]
      split
      · simp [decided, hsource]
      · simp [decided]
    exact ⟨_, hmem, hrequired.1, hrequired.2, required_passed h.ready hmem hrequired.2⟩

/-! Records with their proofs. -/

/-- The request creates the record: it is that of its order, or of its replacement. -/
def Creates (request : ExecutionAdmissionRequest) (record : ExecutionOrderRecord) : Prop :=
  request.intent = .order record.order_intent ∨
    ∃ replace_intent, request.intent = .replace replace_intent ∧
      replace_intent.replacement_order = record.order_intent

/-- The record names a stored proof, made for one of the requests, which creates the record. -/
def Proven (requests : List ExecutionAdmissionRequest) (s : AdmissionStores digests)
    (record : ExecutionOrderRecord) : Prop :=
  ∃ request ∈ requests, ∃ proof, Creates request record ∧
    record.readiness_proof_id = some (digests.proofId proof) ∧
    s.proofs.proofs_by_id.get? (digests.proofId proof) = some proof ∧
    proof.request_id = digests.requestId request ∧
    Evident digests request record.order_intent proof

variable {requests : List ExecutionAdmissionRequest} {record : ExecutionOrderRecord}

theorem Proven.mono (h : Proven requests s record)
    (hproofs : ∀ proof_id proof, s.proofs.proofs_by_id.get? proof_id = some proof →
      t.proofs.proofs_by_id.get? proof_id = some proof) : Proven requests t record := by
  obtain ⟨request, hmem, proof, hcreates, hid, hstored, hrest⟩ := h
  exact ⟨request, hmem, proof, hcreates, hid, hproofs _ _ hstored, hrest⟩

/-- A copy keeps the order and the proof of its record. -/
theorem Proven.copy (h : Proven requests s record) (state : OrderLifecycleState)
    (event_id : OrderLifecycleEventId) (updated_at : DateTimes.DateTime) :
    Proven requests s (requestedCopy record state event_id updated_at) := h

/-- The records that are not in the first stores are proven. -/
def NewProven (requests : List ExecutionAdmissionRequest) (s₀ s : AdmissionStores digests) :
    Prop :=
  ∀ record, NewRecord s₀ s record → Proven requests s record

section Step

variable {s₀ u : AdmissionStores digests} {records : InMemoryExecutionOrderRecordStore}

theorem NewProven.kept (h : NewProven requests s₀ s) (hkept : RecordsKept s t) :
    NewProven requests s₀ t := by
  intro record hnew
  have hs : NewRecord s₀ s record := ⟨hnew.1, hkept.records ▸ hnew.2⟩
  exact (h record hs).mono hkept.proofs

/-- A proven record is set. -/
theorem NewProven.upsert (h : NewProven requests s₀ s)
    (hproofs : ∀ proof_id proof, s.proofs.proofs_by_id.get? proof_id = some proof →
      t.proofs.proofs_by_id.get? proof_id = some proof)
    (hupsert : s.records.upsert record = .ok records) (ht : t.records = records)
    (hrecord : s₀.records.get? record.record_id = none → Proven requests t record) :
    NewProven requests s₀ t := by
  intro new hnew
  obtain ⟨hnone, hsome⟩ := hnew
  rw [ht, get?_upsert hupsert] at hsome
  split at hsome
  · obtain rfl := Option.some.inj hsome
    exact hrecord hnone
  · exact (h new ⟨hnone, hsome⟩).mono hproofs

/-- The record of the target of a request is set again. -/
theorem NewProven.upsert_copy (h : NewProven requests s₀ s) {target : ExecutionOrderRecord}
    (hstored : s.records.get? target.record_id = some target)
    (hproofs : ∀ proof_id proof, s.proofs.proofs_by_id.get? proof_id = some proof →
      t.proofs.proofs_by_id.get? proof_id = some proof) {state : OrderLifecycleState}
    {event_id : OrderLifecycleEventId} {updated_at : DateTimes.DateTime}
    (hupsert : s.records.upsert (requestedCopy target state event_id updated_at) = .ok records)
    (ht : t.records = records) : NewProven requests s₀ t := by
  apply h.upsert hproofs hupsert ht
  intro hnone
  have htarget := h target ⟨hnone, hstored⟩
  exact (htarget.copy state event_id updated_at).mono hproofs

theorem outcome_newProven {r : Except AdmissionError ExecutionAdmissionDecision}
    (h : Outcome request s t r) (hrequest : request ∈ requests) (hs : NewProven requests s₀ s) :
    NewProven requests s₀ t := by
  cases h with
  | notAccepted _ haudited => exact hs.kept haudited.kept
  | failed hkept => exact hs.kept hkept
  | @order intent created gate_decision u d hintent _ hcreated hpassed w hstores _ =>
    have hkept : RecordsKept s u := (appendLifecycleEvent_keeps _).of_eq hcreated
    have hput := put_proofs w.proven
    subst hstores
    refine (hs.kept hkept).upsert hput.2 w.recorded rfl fun _ => ?_
    have hbuilt := buildOrder_built w.built
    exact ⟨request, hrequest, w.proof, .inl hintent, rfl, hput.1, hbuilt.request_id,
      evident_of_built hpassed.capability hbuilt⟩
  | cancel _ hallowed w hstores _ =>
    have hstored := resolveTarget_stored hallowed.resolved
    subst hstores
    exact hs.upsert_copy hstored (fun _ _ hp => hp) w.recorded rfl
  | @replace intent target gate_decision d hintent hallowed hpassed w hstores _ =>
    have hstored := resolveTarget_stored hallowed.resolved
    have hput := put_proofs w.proven
    subst hstores
    -- the target first, then the replacement
    have htarget : NewProven requests s₀ w.toReplaceTargetWrites.stores :=
      hs.upsert_copy hstored hput.2 w.target_recorded rfl
    refine htarget.upsert (fun _ _ hp => hp) w.recorded rfl fun _ => ?_
    have hbuilt := buildReplace_built w.built
    exact ⟨request, hrequest, w.proof, .inr ⟨intent, hintent, rfl⟩, rfl, hput.1,
      hbuilt.request_id, evident_of_built hpassed.capability hbuilt⟩
  | replaceFailed _ hallowed _ w hstores =>
    have hstored := resolveTarget_stored hallowed.resolved
    have hput := put_proofs w.proven
    subst hstores
    exact hs.upsert_copy hstored hput.2 w.target_recorded rfl

end Step

/-- Every record that a run of admissions creates is proven. -/
theorem admit_run_records_proven (s : AdmissionStores digests)
    (requests : List ExecutionAdmissionRequest) :
    NewProven requests s (run (fun s request => (admitRequest request s).1) s requests) := by
  refine invariant ?_ ?_ (meets_of_mem (p := fun request => request ∈ requests) (fun _ h => h) s)
  · intro u request hu hrequest
    have hpath := outcome_newProven (admitIntent_outcome request u) hrequest hu
    obtain ⟨decisions, hstores, -⟩ := admit_path request u
    change NewProven requests s (admitRequest request u).1
    rw [hstores]
    exact hpath
  · intro record hnew
    exact absurd hnew (not_newRecord_of_kept rfl)

end FuturesBot.Execution
