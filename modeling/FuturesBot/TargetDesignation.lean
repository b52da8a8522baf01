import FuturesBot.IdempotentAdmission

/-! Which order a cancel or a replace changes: the one its target resolves to, whatever else the
intent says about it. -/
namespace FuturesBot.Execution

open StoreActions StoreActions.Action Orders InMemoryExecutionOrderRecordStore

variable {digests : Digests} {s t : AdmissionStores digests} {request : ExecutionAdmissionRequest}

/-- What a cancel or a replace says about its target. The scope of a replace is that of its
replacement. -/
structure TargetFields where
  client_order_id : Option ClientOrderId
  order_intent_id : Option OrderIntentId
  venue_order_id : Option VenueOrderId
  venue_id : TrimmedText
  instrument_id : TrimmedText
  account_id : Option TrimmedText

def ExecutionIntent.targetFields : ExecutionIntent → Option TargetFields
  | .order _ => none
  | .cancel c => some {
      client_order_id := c.target_client_order_id
      order_intent_id := c.target_order_intent_id
      venue_order_id := c.target_venue_order_id
      venue_id := c.venue_id
      instrument_id := c.instrument_id
      account_id := c.account_id }
  | .replace r => some {
      client_order_id := r.target_client_order_id
      order_intent_id := r.target_order_intent_id
      venue_order_id := r.target_venue_order_id
      venue_id := r.replacement_order.venue_id
      instrument_id := r.replacement_order.instrument_id
      account_id := r.replacement_order.account_id }

/-- Every field that is given is that of the record. -/
structure Designates (digests : Digests) (fields : TargetFields) (target : ExecutionOrderRecord) :
    Prop where
  client : ∀ id ∈ fields.client_order_id, target.client_order_id = id
  intent : ∀ id ∈ fields.order_intent_id, digests.intentId target.order_intent = id
  venue_order : ∀ id ∈ fields.venue_order_id, target.venue_order_id = some id
  venue : target.order_intent.venue_id = fields.venue_id
  instrument : target.order_intent.instrument_id = fields.instrument_id
  account : ∀ id ∈ fields.account_id, target.order_intent.account_id = some id

/-- The record that the fields resolve to. -/
def TargetFields.resolve (fields : TargetFields) (s : AdmissionStores digests) :
    Option ExecutionOrderRecord :=
  resolveTarget s fields.client_order_id fields.order_intent_id

/-- A request on a target is faithful: it is accepted only for a target that all its fields
designate, and otherwise it is refused and leaves the records. -/
structure Faithful (request : ExecutionAdmissionRequest) (fields : TargetFields)
    (s : AdmissionStores digests) : Prop where
  named : ∀ d, (admitRequest request s).2 = .ok d → d.accepted = true →
    ∃ target ∈ fields.resolve s, Designates digests fields target
  untouched : (∀ target ∈ fields.resolve s, ¬ Designates digests fields target) →
    (∀ d, (admitRequest request s).2 = .ok d → d.accepted = false) ∧
      (admitRequest request s).1.records = s.records

/-- The request is let through to the record of its target, which is written. -/
def LetThrough (request : ExecutionAdmissionRequest) (s : AdmissionStores digests)
    (target : ExecutionOrderRecord) : Prop :=
  match request.intent with
  | .order _ => False
  | .cancel intent =>
    CancelAllowed request intent s target ∧ Nonempty (CancelWrites request intent target s)
  | .replace intent =>
    ReplaceAllowed request intent s target ∧ ∃ gate_decision,
      replaceChecks request intent s target = .ok (.inr gate_decision) ∧
        Nonempty (ReplaceTargetWrites request intent (replacePermission request intent target)
          target gate_decision s)

/-! Nothing but an acceptance accepts. -/

theorem reject_accepted {earlier : List OrderLifecycleEventId} {rejection : Rejection}
    {d : ExecutionAdmissionDecision} (h : reject request earlier rejection s = (t, .ok d)) :
    d.accepted = rejection.decision.accepted := by
  obtain ⟨_ | e, fields⟩ := rejection
  · rw [(decision_eq_ok.mp h).2]
  · obtain ⟨u, event, -, h⟩ := bind_eq_ok.mp h
    rw [(decision_eq_ok.mp h).2]

theorem markReconciliation_accepted {scope_id : Option TrimmedText} {base : DecisionFields}
    {d : ExecutionAdmissionDecision}
    (h : markReconciliation request scope_id base s = (t, .ok d)) : d.accepted = base.accepted := by
  obtain ⟨u, _, -, h⟩ := bind_eq_ok.mp h
  rw [(decision_eq_ok.mp h).2]

theorem verdictOutcome_rejection_accepted {event_intent order_intent : OrderIntent}
    {subject : String × JsonText.Json} {base : ExecutionAdmissionDecisionReason → DecisionFields}
    (hbase : ∀ reason, (base reason).accepted = false) {verdict : CapabilityVerdict}
    {rejection : Rejection}
    (h : verdictOutcome digests event_intent order_intent subject base verdict = .inl rejection) :
    rejection.decision.accepted = false := by
  cases verdict with
  | notRequired => exact absurd h (by simp [verdictOutcome])
  | executable decision => exact absurd h (by simp [verdictOutcome])
  | _ =>
    rw [← Sum.inl.inj h]
    exact hbase _

theorem replaceChecks_rejection_accepted {intent : ReplaceOrderIntent}
    {target : ExecutionOrderRecord} {rejection : Rejection}
    (h : replaceChecks request intent s target = .ok (.inl rejection)) :
    rejection.decision.accepted = false := by
  rw [replaceChecks] at h
  split at h
  · rw [← Sum.inl.inj (Except.ok.inj h)]
    rfl
  split at h
  · rw [← Sum.inl.inj (Except.ok.inj h)]
    rfl
  split at h
  · rw [← Sum.inl.inj (Except.ok.inj h)]
    rfl
  cases hverdict : capabilityVerdict digests request intent.replacement_order with
  | error e =>
    rw [hverdict] at h
    exact absurd h (by simp [Except.map])
  | ok verdict =>
    rw [hverdict] at h
    exact verdictOutcome_rejection_accepted (fun _ => rfl) (Except.ok.inj h)

/-! How a cancel and a replace end. -/

/-- The path refuses, and leaves the records. -/
structure Refused (request : ExecutionAdmissionRequest) (s : AdmissionStores digests) : Prop where
  records : (admitIntent request s).1.records = s.records
  accepted : ∀ d, (admitIntent request s).2 = .ok d → d.accepted = false

theorem refused_of {m : AdmissionAction digests ExecutionAdmissionDecision} (hm : Keeps Audited m)
    (haccepted : ∀ t d, m s = (t, .ok d) → d.accepted = false)
    (hpath : admitIntent request s = m s) : Refused request s := by
  constructor
  · rw [hpath]
    exact (hm s).records
  · intro d hd
    rw [hpath] at hd
    exact haccepted _ d (Prod.ext rfl hd)

theorem refused_reject {rejection : Rejection} (h : rejection.decision.accepted = false)
    (hpath : admitIntent request s = reject request [] rejection s) : Refused request s :=
  refused_of (reject_audited request [] rejection) (fun _ _ hd => (reject_accepted hd).trans h)
    hpath

theorem refused_decision {fields : DecisionFields} (h : fields.accepted = false)
    (hpath : admitIntent request s = decision fields s) : Refused request s := by
  refine refused_of (keeps_reading audited_frame _) (fun t d hd => ?_) hpath
  rw [(decision_eq_ok.mp hd).2]
  exact h

theorem refused_markReconciliation {scope_id : Option TrimmedText} {base : DecisionFields}
    (h : base.accepted = false)
    (hpath : admitIntent request s = markReconciliation request scope_id base s) :
    Refused request s :=
  refused_of (markReconciliation_audited request scope_id base)
    (fun _ _ hd => (markReconciliation_accepted hd).trans h) hpath

/-- A cancel is refused, or goes to its target. -/
theorem cancel_path {intent : CancelOrderIntent} (hintent : request.intent = .cancel intent) :
    Refused request s ∨ ∃ target, CancelAllowed request intent s target ∧
      admitIntent request s = acceptCancel request intent target s := by
  have hrun : admitIntent request s = admitCancelIntent request intent s := by
    rw [admitIntent, hintent]
  rw [admitCancelIntent, bind_apply, reading] at hrun
  cases htarget : resolveTarget s intent.target_client_order_id intent.target_order_intent_id with
  | none =>
    rw [htarget] at hrun
    dsimp only at hrun
    left
    split at hrun
    · exact refused_reject rfl hrun
    · exact refused_markReconciliation rfl hrun
  | some target =>
    rw [htarget] at hrun
    dsimp only at hrun
    split at hrun
    · exact .inl (refused_reject rfl hrun)
    rename_i hallowed
    split at hrun
    · exact .inl (refused_decision rfl hrun)
    rename_i hactive
    exact .inr ⟨target, ⟨htarget, by simpa using hallowed, not_not.mp hactive⟩, hrun⟩

/-- A replace is refused, fails in a check, or goes to its target. -/
theorem replace_path {intent : ReplaceOrderIntent} (hintent : request.intent = .replace intent) :
    Refused request s ∨ ∃ target, ReplaceAllowed request intent s target ∧ ∃ gate_decision,
      replaceChecks request intent s target = .ok (.inr gate_decision) ∧
      admitIntent request s = acceptReplace request intent
        (replacePermission request intent target) target gate_decision s := by
  have hrun : admitIntent request s = admitReplaceIntent request intent s := by
    rw [admitIntent, hintent]
  rw [admitReplaceIntent, bind_apply, reading] at hrun
  cases htarget : resolveTarget s intent.target_client_order_id intent.target_order_intent_id with
  | none =>
    rw [htarget] at hrun
    dsimp only at hrun
    left
    split at hrun
    · exact refused_reject rfl hrun
    · exact refused_markReconciliation rfl hrun
  | some target =>
    rw [htarget] at hrun
    dsimp only at hrun
    split at hrun
    · exact .inl (refused_reject rfl hrun)
    rename_i hallowed
    split at hrun
    · exact .inl (refused_decision rfl hrun)
    rename_i hactive
    rw [bind_apply, reading] at hrun
    cases hchecks : replaceChecks request intent s target with
    | error e =>
      rw [hchecks] at hrun
      exact .inl ⟨by rw [hrun], fun d hd => absurd hd (by rw [hrun]; simp)⟩
    | ok checked =>
      rw [hchecks] at hrun
      cases checked with
      | inl rejection =>
        exact .inl (refused_reject (replaceChecks_rejection_accepted hchecks) hrun)
      | inr gate_decision =>
        exact .inr ⟨target, ⟨htarget, by simpa using hallowed, not_not.mp hactive⟩,
          gate_decision, hchecks, hrun⟩

/-- Either nothing is accepted and the records are left, or the request is let through. -/
theorem target_path {fields : TargetFields} (hfields : request.intent.targetFields = some fields) :
    Refused request s ∨ ∃ target ∈ fields.resolve s, LetThrough request s target := by
  cases hintent : request.intent with
  | order intent =>
    rw [hintent] at hfields
    exact absurd hfields (by simp [ExecutionIntent.targetFields])
  | cancel intent =>
    rw [hintent] at hfields
    obtain rfl := Option.some.inj hfields
    rcases cancel_path hintent with hrefused | ⟨target, hallowed, hpath⟩
    · exact .inl hrefused
    · rcases haccept : acceptCancel request intent target s with ⟨t, e | d⟩
      · rw [haccept] at hpath
        have hkept := acceptCancel_error request intent target s t e haccept
        exact .inl ⟨by rw [hpath]; exact hkept.records, fun d hd => absurd hd (by rw [hpath]; simp)⟩
      · obtain ⟨w, -⟩ := acceptCancel_eq_ok.mp haccept
        refine .inr ⟨target, hallowed.resolved, ?_⟩
        rw [LetThrough, hintent]
        exact ⟨hallowed, ⟨w⟩⟩
  | replace intent =>
    rw [hintent] at hfields
    obtain rfl := Option.some.inj hfields
    rcases replace_path hintent with hrefused | ⟨target, hallowed, gate_decision, hchecks, hpath⟩
    · exact .inl hrefused
    · have hthrough (w : ReplaceTargetWrites request intent
          (replacePermission request intent target) target gate_decision s) :
          LetThrough request s target := by
        rw [LetThrough, hintent]
        exact ⟨hallowed, gate_decision, hchecks, ⟨w⟩⟩
      rcases haccept : acceptReplace request intent (replacePermission request intent target)
        target gate_decision s with ⟨t, e | d⟩
      · rw [haccept] at hpath
        rcases acceptReplace_error haccept with hkept | ⟨w, -⟩
        · left
          exact ⟨by rw [hpath]; exact hkept.records, fun d hd => absurd hd (by rw [hpath]; simp)⟩
        · exact .inr ⟨target, hallowed.resolved, hthrough w⟩
      · obtain ⟨w, -⟩ := acceptReplace_eq_ok.mp haccept
        exact .inr ⟨target, hallowed.resolved, hthrough w.toReplaceTargetWrites⟩

/-! A request that is let through writes the record of its target. -/

theorem bind_of_ok {α β : Type} {m : AdmissionAction digests α} {f : α → AdmissionAction digests β}
    {a : α} (h : m s = (t, .ok a)) : (m >>= f) s = f a t := by
  rw [bind_apply, h]

theorem bind_of_error {α β : Type} {m : AdmissionAction digests α}
    {f : α → AdmissionAction digests β} {e : AdmissionError} (h : m s = (t, .error e)) :
    (m >>= f) s = (t, .error e) := by
  rw [bind_apply, h]

theorem cancel_path_allowed {intent : CancelOrderIntent} {target : ExecutionOrderRecord}
    (hintent : request.intent = .cancel intent) (hallowed : CancelAllowed request intent s target) :
    admitIntent request s = acceptCancel request intent target s := by
  rw [admitIntent, hintent]
  dsimp only
  rw [admitCancelIntent, bind_apply, reading, hallowed.resolved]
  dsimp only
  rw [hallowed.allowed]
  simp only [Bool.not_true, Bool.false_eq_true, ↓reduceIte, hallowed.active, not_true_eq_false]

theorem cancel_written {intent : CancelOrderIntent} {target : ExecutionOrderRecord}
    (hintent : request.intent = .cancel intent) (hallowed : CancelAllowed request intent s target)
    (w : CancelWrites request intent target s) :
    (admitIntent request s).1.records.get? target.record_id = some w.record := by
  have hpath := cancel_path_allowed hintent hallowed
  obtain ⟨d, hd⟩ := @decision_of_accepted w.decision rfl rfl
  rw [hpath, acceptCancel_eq_ok.mpr ⟨w, rfl, hd⟩]
  change w.records.get? target.record_id = _
  rw [get?_upsert w.recorded]
  exact if_pos rfl

/-- The writes up to the record of the target go through; what comes after them is the record of
the replacement and the decision. -/
theorem acceptReplace_writes {intent : ReplaceOrderIntent}
    {permission : OrderIntentPermissionDecision} {target : ExecutionOrderRecord}
    {gate_decision : Option ExecutionCapabilityDecision}
    (w : ReplaceTargetWrites request intent permission target gate_decision s) :
    acceptReplace request intent permission target gate_decision s =
      (upsertNewRecord w.record >>= fun _ => decision (acceptedDecision digests
        (replaceDecision digests request intent true .ACCEPTED) w.record gate_decision w.proof
        [digests.eventId w.target_event, digests.eventId w.replacement_event])) w.stores := by
  let journaled : AdmissionStores digests := { s with replaces := w.replaces }
  let requested : AdmissionStores digests :=
    { s with replaces := w.replaces, events := w.target_events }
  let replaced : AdmissionStores digests :=
    { s with replaces := w.replaces, orders := w.orders, events := w.target_events }
  let accepted : AdmissionStores digests :=
    { s with replaces := w.replaces, orders := w.orders, events := w.events }
  let proven : AdmissionStores digests :=
    { s with replaces := w.replaces, orders := w.orders, events := w.events, proofs := w.proofs }
  have htarget : appendLifecycleEvent (replaceRequestedEvent digests request intent target)
      journaled = (requested, .ok w.target_event) :=
    appendLifecycleEvent_eq_ok.mpr ⟨w.target_requested, _, w.target_appended, rfl⟩
  have horder : appendOrderIntent intent.replacement_order requested = (replaced, .ok ()) :=
    appendOrderIntent_eq_ok.mpr ⟨_, w.replacement_journaled, rfl⟩
  have hreplacement : appendLifecycleEvent (replacementAcceptedEvent digests request intent)
      replaced = (accepted, .ok w.replacement_event) :=
    appendLifecycleEvent_eq_ok.mpr ⟨w.replacement_accepted, _, w.replacement_appended, rfl⟩
  have hproof : putProof w.proof accepted = (proven, .ok ()) :=
    putProof_eq_ok.mpr ⟨_, w.proven, rfl⟩
  have hcopy : upsertRecord w.targetRecord proven = (w.stores, .ok ()) :=
    upsertRecord_eq_ok.mpr ⟨_, w.target_recorded, rfl⟩
  rw [acceptReplace, ReplaceTargetWrites.record]
  refine (bind_of_ok (appendReplaceIntent_eq_ok.mpr ⟨_, w.journaled, rfl⟩)).trans ?_
  refine (bind_of_ok htarget).trans ?_
  refine (bind_of_ok horder).trans ?_
  refine (bind_of_ok hreplacement).trans ?_
  refine (bind_of_ok (reading_eq_ok.mpr ⟨rfl, w.built⟩)).trans ?_
  refine (bind_of_ok hproof).trans ?_
  exact bind_of_ok hcopy

theorem replace_path_allowed {intent : ReplaceOrderIntent} {target : ExecutionOrderRecord}
    {gate_decision : Option ExecutionCapabilityDecision}
    (hintent : request.intent = .replace intent)
    (hallowed : ReplaceAllowed request intent s target)
    (hchecks : replaceChecks request intent s target = .ok (.inr gate_decision)) :
    admitIntent request s = acceptReplace request intent (replacePermission request intent target)
      target gate_decision s := by
  rw [admitIntent, hintent]
  dsimp only
  rw [admitReplaceIntent, bind_apply, reading, hallowed.resolved]
  dsimp only
  rw [hallowed.allowed]
  simp only [Bool.not_true, Bool.false_eq_true, ↓reduceIte, hallowed.active, not_true_eq_false]
  rw [bind_apply, reading, hchecks]
  rfl

/-- Once the record of the target is written, the replacement is accepted, or it fails and that
record stays. -/
theorem acceptReplace_written {intent : ReplaceOrderIntent}
    {permission : OrderIntentPermissionDecision} {target : ExecutionOrderRecord}
    {gate_decision : Option ExecutionCapabilityDecision}
    (w : ReplaceTargetWrites request intent permission target gate_decision s) :
    (acceptReplace request intent permission target gate_decision s).1.records.get?
        target.record_id = some w.targetRecord ∨
      ∃ (w : ReplaceWrites request intent permission target gate_decision s)
        (d : ExecutionAdmissionDecision), d.toDecisionFields = w.decision ∧
        acceptReplace request intent permission target gate_decision s = (w.stores, .ok d) := by
  rcases hnew : upsertNewRecord w.record w.stores with ⟨t, e | _⟩
  · -- the record of the replacement is refused
    have hfailed := (acceptReplace_writes w).trans (bind_of_error hnew)
    obtain rfl : w.stores = t := by
      rw [upsertNewRecord] at hnew
      rcases bind_eq_error.mp hnew with h | ⟨u, _, hvalid, h⟩
      · exact (reading_eq_error.mp h).1
      · obtain ⟨rfl, -⟩ := reading_eq_ok.mp hvalid
        exact (writing_eq_error.mp h).1
    left
    rw [hfailed]
    change w.target_records.get? target.record_id = _
    rw [get?_upsert w.target_recorded]
    exact if_pos rfl
  · right
    have haccepted := (acceptReplace_writes w).trans (bind_of_ok hnew)
    obtain ⟨hvalid, records, hrecords, rfl⟩ := upsertNewRecord_eq_ok.mp hnew
    obtain ⟨d, hd⟩ :=
      @decision_of_accepted (ReplaceWrites.mk w records hvalid hrecords).decision rfl rfl
    refine ⟨⟨w, records, hvalid, hrecords⟩, d, hd, haccepted.trans ?_⟩
    rw [ReplaceWrites.decision] at hd
    exact decision_eq_ok.mpr ⟨rfl, hd⟩

/-! The decision that is stored last. -/

/-- Another decision is stored under the id of a decision. -/
def DecisionTaken (s : AdmissionStores digests) (d : ExecutionAdmissionDecision) : Prop :=
  ∃ decisions ∈ s.decisions, ∃ existing ∈ decisions.get? (digests.decisionId d), existing ≠ d

theorem storeDecision_error {d : ExecutionAdmissionDecision} {e : AdmissionError}
    (h : storeDecision d s = (t, .error e)) : DecisionTaken s d := by
  obtain ⟨-, h⟩ := writing_eq_error.mp h
  cases hdecisions : s.decisions with
  | none =>
    rw [hdecisions] at h
    exact absurd h (by simp)
  | some decisions =>
    rw [hdecisions] at h
    refine ⟨decisions, hdecisions, ?_⟩
    simp only [putIdempotent] at h
    cases hexisting : decisions.get? (digests.decisionId d) with
    | none =>
      rw [hexisting] at h
      exact absurd h (by simp [Except.map])
    | some existing =>
      refine ⟨existing, rfl, fun hsame => ?_⟩
      rw [hexisting] at h
      exact absurd h (by simp [Except.map, hsame])

theorem storeDecision_taken {d : ExecutionAdmissionDecision} (h : DecisionTaken s d) :
    ∃ e, storeDecision d s = (s, .error e) := by
  obtain ⟨decisions, hdecisions, existing, hexisting, hne⟩ := h
  refine ⟨.check "execution admission decision id collision", writing_eq_error.mpr ⟨rfl, ?_⟩⟩
  rw [Option.mem_def.mp hdecisions]
  simp [putIdempotent, Option.mem_def.mp hexisting, hne, Except.map]

/-- The replacement writes what is there already, and its decision is refused: another one has its
id. -/
def RefusedRepeat (request : ExecutionAdmissionRequest) (s : AdmissionStores digests)
    (target : ExecutionOrderRecord) : Prop :=
  ∃ intent gate_decision, request.intent = .replace intent ∧
    replaceChecks request intent s target = .ok (.inr gate_decision) ∧
    ∃ (w : ReplaceWrites request intent (replacePermission request intent target) target
        gate_decision s) (d : ExecutionAdmissionDecision),
      d.toDecisionFields = w.decision ∧ w.records = s.records ∧ DecisionTaken s d

theorem admit_of_path_ok {d : ExecutionAdmissionDecision} (h : admitIntent request s = (t, .ok d)) :
    (admitRequest request s).2 = .ok d ∨ DecisionTaken t d := by
  rw [admitRequest, bind_of_ok h, bind_apply]
  rcases hstore : storeDecision d t with ⟨u, e | _⟩
  · exact .inr (storeDecision_error hstore)
  · exact .inl rfl

theorem admit_of_taken {d : ExecutionAdmissionDecision} (h : admitIntent request s = (t, .ok d))
    (htaken : DecisionTaken t d) : ∃ e, (admitRequest request s).2 = .error e := by
  obtain ⟨e, hstore⟩ := storeDecision_taken htaken
  refine ⟨e, ?_⟩
  rw [admitRequest, bind_of_ok h, bind_apply, hstore]

theorem refusedRepeat_admit {target : ExecutionOrderRecord} (hthrough : LetThrough request s target)
    (h : RefusedRepeat request s target) :
    (admitRequest request s).1.records = s.records ∧ ∃ e, (admitRequest request s).2 = .error e := by
  obtain ⟨intent, gate_decision, hintent, hchecks, w, d, hd, hrecords, htaken⟩ := h
  rw [LetThrough, hintent] at hthrough
  have hpath := replace_path_allowed hintent hthrough.1 hchecks
  rw [acceptReplace_eq_ok.mpr ⟨w, rfl, hd⟩] at hpath
  constructor
  · rw [admit_records, hpath]
    exact hrecords
  · exact admit_of_taken hpath htaken

/-! The records after a request that is let through. -/

/-- A request that changes nothing and accepts nothing was turned away, or its decision was. -/
theorem letThrough_untouched {target : ExecutionOrderRecord}
    (hthrough : LetThrough request s target)
    (hrecords : (admitRequest request s).1.records = s.records)
    (haccepted : ∀ d, (admitRequest request s).2 = .ok d → d.accepted = false) :
    RefusedRepeat request s target := by
  rw [admit_records] at hrecords
  cases hintent : request.intent with
  | order intent =>
    rw [LetThrough, hintent] at hthrough
    exact hthrough.elim
  | cancel intent =>
    rw [LetThrough, hintent] at hthrough
    obtain ⟨hallowed, ⟨w⟩⟩ := hthrough
    -- the record of the target is no longer in an active state
    have hstored := resolveTarget_stored hallowed.resolved
    have hwritten := cancel_written hintent hallowed w
    rw [hrecords, hstored] at hwritten
    have hstate : target.lifecycle_state = .CANCEL_REQUESTED := by
      rw [Option.some.inj hwritten]
      rfl
    exact absurd hallowed.active (by rw [hstate]; decide)
  | replace intent =>
    rw [LetThrough, hintent] at hthrough
    obtain ⟨hallowed, gate_decision, hchecks, ⟨w⟩⟩ := hthrough
    have hstored := resolveTarget_stored hallowed.resolved
    have hpath := replace_path_allowed hintent hallowed hchecks
    rcases acceptReplace_written w with hwritten | ⟨w, d, hd, hwritten⟩
    · rw [← hpath, hrecords, hstored] at hwritten
      have hstate : target.lifecycle_state = .REPLACE_REQUESTED := by
        rw [Option.some.inj hwritten]
        rfl
      exact absurd hallowed.active (by rw [hstate]; decide)
    · rw [hwritten] at hpath
      rw [hpath] at hrecords
      rcases admit_of_path_ok hpath with hok | htaken
      · have hno := haccepted d hok
        rw [hd] at hno
        change true = false at hno
        exact absurd hno (by decide)
      · exact ⟨intent, gate_decision, hintent, hchecks, w, d, hd, hrecords, htaken⟩

theorem letThrough_resolved {fields : TargetFields} {target : ExecutionOrderRecord}
    (hfields : request.intent.targetFields = some fields) (h : LetThrough request s target) :
    fields.resolve s = some target := by
  cases hintent : request.intent with
  | order intent =>
    rw [LetThrough, hintent] at h
    exact h.elim
  | cancel intent =>
    rw [LetThrough, hintent] at h
    rw [hintent] at hfields
    obtain rfl := Option.some.inj hfields
    exact h.1.resolved
  | replace intent =>
    rw [LetThrough, hintent] at h
    rw [hintent] at hfields
    obtain rfl := Option.some.inj hfields
    exact h.1.resolved

/-- A request is faithful to its target if and only if it is let through to no other target than
one that all its fields designate, a repeated replacement with a refused decision apart. -/
theorem target_designated_iff (request : ExecutionAdmissionRequest) (s : AdmissionStores digests)
    {fields : TargetFields} (hfields : request.intent.targetFields = some fields) :
    Faithful request fields s ↔ ∀ target, LetThrough request s target →
      Designates digests fields target ∨ RefusedRepeat request s target := by
  constructor
  · intro h target hthrough
    by_cases hdesignated : Designates digests fields target
    · exact .inl hdesignated
    right
    have hother : ∀ other ∈ fields.resolve s, ¬ Designates digests fields other := by
      intro other hresolved
      rw [letThrough_resolved hfields hthrough] at hresolved
      rwa [← Option.some.inj hresolved]
    obtain ⟨haccepted, hrecords⟩ := h.untouched hother
    exact letThrough_untouched hthrough hrecords haccepted
  · intro h
    rcases target_path hfields with hrefused | ⟨target, hresolved, hthrough⟩
    · have haccepted : ∀ d, (admitRequest request s).2 = .ok d → d.accepted = false := by
        intro d hd
        obtain ⟨_, -, hpath⟩ := admit_path request s
        exact hrefused.accepted d (hpath d hd)
      refine ⟨fun d hd htrue => ?_, fun _ => ⟨haccepted, ?_⟩⟩
      · exact absurd htrue (by rw [haccepted d hd]; simp)
      · rw [admit_records]
        exact hrefused.records
    · rcases h target hthrough with hdesignated | hrepeat
      · refine ⟨fun _ _ _ => ⟨target, hresolved, hdesignated⟩, fun hother => ?_⟩
        exact absurd hdesignated (hother target hresolved)
      · obtain ⟨hrecords, e, herror⟩ := refusedRepeat_admit hthrough hrepeat
        have hnone : ∀ d, (admitRequest request s).2 ≠ .ok d := by
          intro d hd
          rw [herror] at hd
          exact absurd hd (by simp)
        exact ⟨fun d hd => absurd hd (hnone d),
          fun _ => ⟨fun d hd => absurd hd (hnone d), hrecords⟩⟩

/-! Cancels after an entry to buy. -/

def cancelRequest (venue_id : TrimmedText) : ExecutionAdmissionRequest :=
  plainRequest (.cancel {
    target_order_intent_id := none
    target_client_order_id := some buyClientId
    target_venue_order_id := none
    venue_id
    instrument_id := ⟨"BTC/USDT", by decide⟩
    account_id := none
    cancel_scope := .SINGLE_ORDER
    cancel_reason := ⟨"operator", .checked evaluates⟩
    created_at := sampleTime
    has_target := fun _ => .inr (.inl rfl) })

def cancelFields (venue_id : TrimmedText) : TargetFields where
  client_order_id := some buyClientId
  order_intent_id := none
  venue_order_id := none
  venue_id
  instrument_id := ⟨"BTC/USDT", by decide⟩
  account_id := none

def buyAdmitted : AdmissionStores sampleDigests :=
  admitAll (.empty sampleDigests false) [buyRequest]

theorem buy_resolved (venue_id : TrimmedText) {target : ExecutionOrderRecord}
    (h : target ∈ (cancelFields venue_id).resolve buyAdmitted) :
    target.client_order_id = buyClientId ∧ target.order_intent = marketEntry .BUY := by
  have hfound : (buyAdmitted.records.getByClientOrderId buyClientId).map
      (fun r => (r.client_order_id, r.order_intent)) = some (buyClientId, marketEntry .BUY) := by
    decide +kernel
  change buyAdmitted.records.getByClientOrderId buyClientId = some target at h
  rw [h] at hfound
  exact Prod.mk.inj (Option.some.inj hfound)

/-- A cancel for another venue is accepted. -/
theorem other_venue_cancelled : ¬ Faithful (cancelRequest ⟨"DERIBIT", by decide⟩)
    (cancelFields ⟨"DERIBIT", by decide⟩) buyAdmitted := by
  intro h
  have haccepted : (admitRequest (cancelRequest ⟨"DERIBIT", by decide⟩) buyAdmitted).2.map
      (·.accepted) = .ok true := by decide +kernel
  cases hd : (admitRequest (cancelRequest ⟨"DERIBIT", by decide⟩) buyAdmitted).2 with
  | error e =>
    rw [hd] at haccepted
    cases haccepted
  | ok d =>
    rw [hd] at haccepted
    obtain ⟨target, hresolved, hdesignated⟩ := h.named d hd (Except.ok.inj haccepted)
    have hvenue := hdesignated.venue
    rw [(buy_resolved _ hresolved).2] at hvenue
    exact absurd hvenue (by decide)

theorem plain_cancel_faithful : Faithful (cancelRequest ⟨"BINANCE", by decide⟩)
    (cancelFields ⟨"BINANCE", by decide⟩) buyAdmitted := by
  refine (target_designated_iff (cancelRequest ⟨"BINANCE", by decide⟩) buyAdmitted rfl).mpr ?_
  intro target hthrough
  have hresolved : (cancelFields ⟨"BINANCE", by decide⟩).resolve buyAdmitted = some target :=
    letThrough_resolved rfl hthrough
  obtain ⟨hclient, hintent⟩ := buy_resolved _ hresolved
  left
  constructor
  · rintro id ⟨⟩
    exact hclient
  · exact nofun
  · exact nofun
  · rw [hintent]
    rfl
  · rw [hintent]
    rfl
  · exact nofun

end FuturesBot.Execution
