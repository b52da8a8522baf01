import FuturesBot.EntryPermissions

/-! The same order again: an order that was accepted is found by its client order id after any
further requests, and its admission is answered from its record. -/
namespace FuturesBot.Execution

open DecimalNumbers Dicts StoreActions StoreActions.Action StepRuns Orders
  InMemoryExecutionOrderRecordStore

variable {digests : Digests} {s t : AdmissionStores digests} {request : ExecutionAdmissionRequest}

/-! Equal intents. -/

theorem sameOption_iff (a b : Option Decimal) :
    sameOption a b = true ↔ a.map (·.value) = b.map (·.value) := by
  cases a with
  | none => cases b <;> simp [sameOption]
  | some a =>
    cases b with
    | none => simp [sameOption]
    | some b => simp [sameOption, Decimal.same_iff]

/-- Two intents that equal a third equal each other. -/
theorem sameIntent_trans {a b c : OrderIntent} (hb : digests.sameIntent a b = true)
    (hc : digests.sameIntent a c = true) : digests.sameIntent b c = true := by
  simp only [Digests.sameIntent, Digests.sameDecimal, Bool.and_eq_true, decide_eq_true_eq,
    sameOption_iff] at hb hc ⊢
  obtain ⟨⟨⟨⟨hid, hfields⟩, hquantity⟩, hlimit⟩, hstop⟩ := hb
  obtain ⟨⟨⟨⟨hid', hfields'⟩, hquantity'⟩, hlimit'⟩, hstop'⟩ := hc
  refine ⟨⟨⟨⟨hid.symm.trans hid', ?_⟩, hquantity.symm.trans hquantity'⟩,
    hlimit.symm.trans hlimit'⟩, hstop.symm.trans hstop'⟩
  -- the fields of `b` are those of `a` but for the numbers
  rw [← hfields]
  exact hfields'

theorem sameIntent_clientOrderId {a b : OrderIntent} (h : digests.sameIntent a b = true) :
    digests.clientOrderId a = digests.clientOrderId b :=
  digests.clientOrderId_inj.mpr (digests.sameIntent_id h)

/-! A record under its client order id. -/

/-- A record that is set is found by its client order id, the others as before. -/
theorem getByClientOrderId_upsert {store store' : InMemoryExecutionOrderRecordStore}
    {record : ExecutionOrderRecord} (h : store.upsert record = .ok store')
    (client_order_id : ClientOrderId) :
    store'.getByClientOrderId client_order_id =
      if record.client_order_id = client_order_id then some record
      else store.getByClientOrderId client_order_id := by
  have hget := get?_upsert h
  obtain ⟨haccepts, rfl⟩ := upsert_eq_ok.mp h
  rw [getByClientOrderId, getByClientOrderId]
  change ((store.record_id_by_client_id.set record.client_order_id record.record_id).get?
    client_order_id).bind _ = _
  rw [Dict.get?_set]
  split
  · rw [Option.bind_some, hget, if_pos rfl]
  · rename_i hne
    cases hid : store.record_id_by_client_id.get? client_order_id with
    | none => rfl
    | some record_id =>
      rw [Option.bind_some, Option.bind_some, hget, if_neg]
      -- the record set would keep the client order id it had
      rintro rfl
      obtain ⟨r, hr, hclient⟩ := (store.bound _ _).mp hid
      exact hne ((haccepts.1 r hr).symm.trans hclient)

theorem record_id_of_upsert {store store' : InMemoryExecutionOrderRecordStore}
    {record existing : ExecutionOrderRecord} (h : store.upsert record = .ok store')
    (hget : store.getByClientOrderId record.client_order_id = some existing) :
    existing.record_id = record.record_id := by
  obtain ⟨haccepts, -⟩ := upsert_eq_ok.mp h
  obtain ⟨hstored, hclient⟩ := get?_of_client hget
  exact haccepts.2 _ ((store.bound _ _).mpr ⟨existing, hstored, hclient⟩)

/-- The target of a request is the record under its client order id. -/
theorem resolveTarget_client {client_order_id : Option ClientOrderId}
    {order_intent_id : Option OrderIntentId} {target : ExecutionOrderRecord}
    (h : resolveTarget s client_order_id order_intent_id = some target) :
    s.records.getByClientOrderId target.client_order_id = some target := by
  rw [resolveTarget.eq_def] at h
  split at h
  · rw [(get?_of_client h).2]
    exact h
  · obtain ⟨intent, -, hget⟩ := Option.bind_eq_some_iff.mp h
    rw [(get?_of_client hget).2]
    exact hget

/-- The order has a record under its client order id, which is the given one. -/
def Recorded (order_intent : OrderIntent) (record_id : ExecutionOrderRecordId)
    (s : AdmissionStores digests) : Prop :=
  ∃ r, s.records.getByClientOrderId (digests.clientOrderId order_intent) = some r ∧
    r.record_id = record_id ∧ digests.sameIntent r.order_intent order_intent = true

section Recorded

variable {order_intent : OrderIntent} {record_id : ExecutionOrderRecordId}

theorem Recorded.kept (h : Recorded order_intent record_id s) (hrecords : t.records = s.records) :
    Recorded order_intent record_id t := by
  rw [Recorded, hrecords]
  exact h

/-- A record is set that is, if it is that of the order, still of the same order. -/
theorem Recorded.upsert (h : Recorded order_intent record_id s) {record : ExecutionOrderRecord}
    {records : InMemoryExecutionOrderRecordStore} (hupsert : s.records.upsert record = .ok records)
    (hrecord : ∀ r, s.records.getByClientOrderId record.client_order_id = some r →
      digests.sameIntent r.order_intent record.order_intent = true)
    (ht : t.records = records) : Recorded order_intent record_id t := by
  obtain ⟨r, hr, hid, hsame⟩ := h
  rw [Recorded, ht, getByClientOrderId_upsert hupsert]
  split
  · rename_i hclient
    rw [← hclient] at hr
    refine ⟨record, rfl, ?_, sameIntent_trans (hrecord r hr) hsame⟩
    rw [← record_id_of_upsert hupsert hr]
    exact hid
  · exact ⟨r, hr, hid, hsame⟩

/-- The record of a target is set again. -/
theorem Recorded.upsert_copy (h : Recorded order_intent record_id s)
    {target : ExecutionOrderRecord} {state : OrderLifecycleState}
    {event_id : OrderLifecycleEventId} {updated_at : DateTimes.DateTime}
    {records : InMemoryExecutionOrderRecordStore}
    (htarget : s.records.getByClientOrderId target.client_order_id = some target)
    (hupsert : s.records.upsert (requestedCopy target state event_id updated_at) = .ok records)
    (ht : t.records = records) : Recorded order_intent record_id t := by
  apply h.upsert hupsert _ ht
  intro r hr
  change s.records.getByClientOrderId target.client_order_id = some r at hr
  rw [htarget] at hr
  obtain rfl := Option.some.inj hr
  exact digests.sameIntent_refl _

theorem outcome_recorded {r : Except AdmissionError ExecutionAdmissionDecision}
    (h : Recorded order_intent record_id s) (houtcome : Outcome request s t r) :
    Recorded order_intent record_id t := by
  cases houtcome with
  | notAccepted _ haudited => exact h.kept haudited.records
  | failed hkept => exact h.kept hkept.records
  | order hintent hnew hcreated _ w hstores _ =>
    have hu := ((appendLifecycleEvent_keeps _).of_eq hcreated).records
    subst hstores
    refine (h.kept hu).upsert w.recorded (fun r hr => ?_) rfl
    -- its client order id was free
    rw [hu] at hr
    exact absurd (hnew.symm.trans hr) (by simp)
  | cancel _ hallowed w hstores _ =>
    subst hstores
    exact h.upsert_copy (resolveTarget_client hallowed.resolved) w.recorded rfl
  | @replace intent target _ _ _ hallowed hpassed w hstores _ =>
    have htarget := resolveTarget_client hallowed.resolved
    have hcopied : Recorded order_intent record_id w.toReplaceTargetWrites.stores :=
      h.upsert_copy htarget w.target_recorded rfl
    subst hstores
    refine hcopied.upsert w.recorded (fun r hr => ?_) rfl
    -- a record under the client order id of the replacement is of an equal order
    change w.target_records.getByClientOrderId
      (digests.clientOrderId intent.replacement_order) = some r at hr
    rw [getByClientOrderId_upsert w.target_recorded] at hr
    split at hr
    · rename_i hclient
      rw [← Option.some.inj hr]
      change target.client_order_id = _ at hclient
      rw [hclient] at htarget
      exact hpassed.unused target htarget
    · exact hpassed.unused r hr
  | replaceFailed _ hallowed _ w hstores =>
    subst hstores
    exact h.upsert_copy (resolveTarget_client hallowed.resolved) w.target_recorded rfl

end Recorded

/-! Runs of admissions. -/

/-- The stores after requests, whatever was decided or failed. -/
def admitAll (s : AdmissionStores digests) (requests : List ExecutionAdmissionRequest) :
    AdmissionStores digests :=
  run (fun s request => (admitRequest request s).1) s requests

theorem admitAll_recorded {order_intent : OrderIntent} {record_id : ExecutionOrderRecordId}
    (h : Recorded order_intent record_id s) (requests : List ExecutionAdmissionRequest) :
    Recorded order_intent record_id (admitAll s requests) := by
  have hstep (s : AdmissionStores digests) (request : ExecutionAdmissionRequest)
      (h : Recorded order_intent record_id s) :
      Recorded order_intent record_id (admitRequest request s).1 :=
    (outcome_recorded h (admitIntent_outcome request s)).kept (admit_records request s)
  exact run_keeps hstep h requests

theorem admitOrderIntent_eq (order_intent : OrderIntent) :
    admitOrderIntent request order_intent s =
      match s.records.getByClientOrderId (digests.clientOrderId order_intent) with
      | some existing => decision (existingOrderDecision digests request order_intent existing) s
      | none => admitNewOrder request order_intent s := by
  rw [admitOrderIntent, bind_apply, reading]
  cases s.records.getByClientOrderId (digests.clientOrderId order_intent) <;> rfl

/-- A rejection accepts nothing. -/
theorem orderChecks_rejection_accepted {order_intent : OrderIntent} {rejection : Rejection}
    (h : orderChecks digests request order_intent = .ok (.inl rejection)) :
    rejection.decision.accepted = false := by
  rw [orderChecks] at h
  split at h
  · rw [← Sum.inl.inj (Except.ok.inj h)]
    rfl
  split at h
  · rw [← Sum.inl.inj (Except.ok.inj h)]
    rfl
  cases hverdict : capabilityVerdict digests request order_intent with
  | error e =>
    rw [hverdict] at h
    exact absurd h (by simp [Except.map])
  | ok verdict =>
    rw [hverdict] at h
    have hrejection := Except.ok.inj h
    cases verdict with
    | notRequired => exact absurd hrejection (by simp [verdictOutcome])
    | executable decision => exact absurd hrejection (by simp [verdictOutcome])
    | _ =>
      rw [← Sum.inl.inj hrejection]
      rfl

/-- A new order is accepted for the reason ACCEPTED only. -/
theorem admitNewOrder_reason {order_intent : OrderIntent} {d : ExecutionAdmissionDecision}
    (h : admitNewOrder request order_intent s = (t, .ok d)) (haccepted : d.accepted = true) :
    d.reason = .ACCEPTED := by
  rw [admitNewOrder] at h
  obtain ⟨u, created, -, h⟩ := bind_eq_ok.mp h
  obtain ⟨v, checked, hread, h⟩ := bind_eq_ok.mp h
  obtain ⟨rfl, hchecks⟩ := reading_eq_ok.mp hread
  cases checked with
  | inl rejection =>
    have hrefused := orderChecks_rejection_accepted hchecks
    obtain ⟨_ | e, fields⟩ := rejection
    · rw [(decision_eq_ok.mp h).2] at haccepted
      exact absurd (hrefused.symm.trans haccepted) (by simp)
    · obtain ⟨w, event, -, h⟩ := bind_eq_ok.mp h
      rw [(decision_eq_ok.mp h).2] at haccepted
      exact absurd (hrefused.symm.trans haccepted) (by simp)
  | inr gate_decision =>
    obtain ⟨w, -, hdecision⟩ := acceptOrder_eq_ok.mp h
    rw [hdecision]
    rfl

/-- An order that is accepted, now or before, has the record that the decision names. -/
theorem accepted_recorded {order_intent : OrderIntent} {d : ExecutionAdmissionDecision}
    (hintent : request.intent = .order order_intent)
    (h : (admitRequest request s).2 = .ok d) (haccepted : d.accepted = true) :
    ∃ record_id, d.record_id = some record_id ∧
      Recorded order_intent record_id (admitRequest request s).1 := by
  obtain ⟨decisions, -, hdecision⟩ := admit_path request s
  have hpath := hdecision d h
  have houtcome := admitIntent_outcome request s
  have hrecords := admit_records request s
  have hrun : admitIntent request s = admitOrderIntent request order_intent s := by
    rw [admitIntent, hintent]
  rw [hpath] at houtcome
  cases hget : s.records.getByClientOrderId (digests.clientOrderId order_intent) with
  | some existing =>
    have hexisting : admitIntent request s =
        decision (existingOrderDecision digests request order_intent existing) s := by
      rw [hrun, admitOrderIntent_eq, hget]
    rw [hexisting] at hpath hrecords
    obtain ⟨-, hfields⟩ := decision_eq_ok.mp (Prod.ext rfl hpath)
    rw [existingOrderDecision] at hfields
    split at hfields
    · rename_i hsame
      have hrecorded : Recorded order_intent existing.record_id s := ⟨existing, hget, rfl, hsame⟩
      exact ⟨existing.record_id, by rw [hfields], hrecorded.kept hrecords⟩
    · rw [hfields] at haccepted
      exact absurd haccepted (by simp [orderDecision, blankDecision])
  | none =>
    have hnew : admitIntent request s = admitNewOrder request order_intent s := by
      rw [hrun, admitOrderIntent_eq, hget]
    have hreason : d.reason = .ACCEPTED := by
      rw [hnew] at hpath
      exact admitNewOrder_reason (Prod.ext rfl hpath) haccepted
    cases houtcome with
    | notAccepted hother _ => exact absurd hreason hother
    | @order intent created gate_decision u _ hintent' _ _ _ w hstores hdecision =>
      obtain rfl : intent = order_intent :=
        ExecutionIntent.order.inj (hintent'.symm.trans hintent)
      refine ⟨w.record.record_id, by rw [hdecision]; rfl, ?_⟩
      refine ⟨w.record, ?_, rfl, digests.sameIntent_refl _⟩
      rw [hrecords, hstores]
      change w.records.getByClientOrderId _ = _
      rw [getByClientOrderId_upsert w.recorded]
      exact if_pos rfl
    | cancel hintent' => exact absurd (hintent'.symm.trans hintent) (by simp)
    | replace hintent' => exact absurd (hintent'.symm.trans hintent) (by simp)

/-- The decision that answers an order from its record. -/
theorem admit_recorded {order_intent : OrderIntent} {record_id : ExecutionOrderRecordId}
    (hintent : request.intent = .order order_intent) (h : Recorded order_intent record_id s) :
    ∃ replay : ExecutionAdmissionDecision, replay.reason = .IDEMPOTENT_REPLAY ∧
      replay.accepted = true ∧ replay.record_id = some record_id ∧
      admitIntent request s = (s, .ok replay) := by
  obtain ⟨existing, hget, rfl, hsame⟩ := h
  have hrun : admitIntent request s =
      decision (existingOrderDecision digests request order_intent existing) s := by
    rw [admitIntent, hintent]
    dsimp only
    rw [admitOrderIntent_eq, hget]
  have hreplay : (existingOrderDecision digests request order_intent existing).reason =
        .IDEMPOTENT_REPLAY ∧
      (existingOrderDecision digests request order_intent existing).accepted = true ∧
      (existingOrderDecision digests request order_intent existing).record_id =
        some existing.record_id := by
    rw [existingOrderDecision, if_pos hsame]
    exact ⟨rfl, rfl, rfl⟩
  obtain ⟨hreason, haccepted, hid⟩ := hreplay
  have hvalid : Checks.checkAll (existingOrderDecision digests request order_intent
      existing).validateDecision = .ok () := by
    simp [DecisionFields.validateDecision, hreason, haccepted]
  refine ⟨⟨_, hvalid⟩, hreason, haccepted, hid, ?_⟩
  rw [hrun]
  exact decision_eq_ok.mpr ⟨rfl, rfl⟩

/-- An order is answered from its record: nothing is written but the decision, which names the
record. It is stored, unless another one is stored under its digest. -/
structure Replayed (request : ExecutionAdmissionRequest) (record_id : ExecutionOrderRecordId)
    (s : AdmissionStores digests) : Prop where
  stores : ∃ decisions, (admitRequest request s).1 = { s with decisions }
  answer : ∃ replay : ExecutionAdmissionDecision, replay.reason = .IDEMPOTENT_REPLAY ∧
    replay.accepted = true ∧ replay.record_id = some record_id ∧
    ((admitRequest request s).2 = .ok replay ∨
      ∃ decisions ∈ s.decisions, ∃ other, decisions.get? (digests.decisionId replay) =
        some other ∧ other ≠ replay)

theorem recorded_replayed {order_intent : OrderIntent} {record_id : ExecutionOrderRecordId}
    (hintent : request.intent = .order order_intent) (h : Recorded order_intent record_id s) :
    Replayed request record_id s := by
  obtain ⟨replay, hreason, haccepted, hid, hpath⟩ := admit_recorded hintent h
  constructor
  · obtain ⟨decisions, hstores, -⟩ := admit_path request s
    refine ⟨decisions, ?_⟩
    rw [hstores, hpath]
  · refine ⟨replay, hreason, haccepted, hid, ?_⟩
    rw [admitRequest, bind_apply, hpath]
    dsimp only
    rw [bind_apply, storeDecision, writing]
    cases hdecisions : s.decisions with
    | none => exact .inl rfl
    | some decisions =>
      dsimp only
      rw [putIdempotent]
      cases hget : decisions.get? (digests.decisionId replay) with
      | none => exact .inl rfl
      | some other =>
        by_cases hsame : other = replay
        · left
          simp only [hsame, decide_true, ↓reduceIte, Except.map]
          rfl
        · exact .inr ⟨decisions, rfl, other, hget, hsame⟩

/-! Client order ids and intents. -/

/-- Every record has the client order id of its intent. -/
def RecordsNamed (s : AdmissionStores digests) : Prop :=
  ∀ record_id record, s.records.get? record_id = some record →
    record.client_order_id = digests.clientOrderId record.order_intent

theorem RecordsNamed.upsert (h : RecordsNamed s) {record : ExecutionOrderRecord}
    {records : InMemoryExecutionOrderRecordStore} (hupsert : s.records.upsert record = .ok records)
    (hrecord : record.client_order_id = digests.clientOrderId record.order_intent)
    (ht : t.records = records) : RecordsNamed t := by
  intro record_id r hr
  rw [ht, get?_upsert hupsert] at hr
  split at hr
  · rw [← Option.some.inj hr]
    exact hrecord
  · exact h record_id r hr

theorem outcome_recordsNamed {r : Except AdmissionError ExecutionAdmissionDecision}
    (h : RecordsNamed s) (houtcome : Outcome request s t r) : RecordsNamed t := by
  have hkept {t : AdmissionStores digests} (hrecords : t.records = s.records) : RecordsNamed t := by
    rw [RecordsNamed, hrecords]
    exact h
  cases houtcome with
  | notAccepted _ haudited => exact hkept haudited.records
  | failed hrecords => exact hkept hrecords.records
  | order _ _ hcreated _ w hstores _ =>
    subst hstores
    have hu := hkept ((appendLifecycleEvent_keeps _).of_eq hcreated).records
    exact hu.upsert w.recorded rfl rfl
  | cancel _ hallowed w hstores _ =>
    have htarget := h _ _ (resolveTarget_stored hallowed.resolved)
    subst hstores
    exact h.upsert w.recorded htarget rfl
  | replace _ hallowed _ w hstores _ =>
    have htarget := h _ _ (resolveTarget_stored hallowed.resolved)
    subst hstores
    have hcopied : RecordsNamed w.toReplaceTargetWrites.stores :=
      h.upsert w.target_recorded htarget rfl
    exact hcopied.upsert w.recorded rfl rfl
  | replaceFailed _ hallowed _ w hstores =>
    have htarget := h _ _ (resolveTarget_stored hallowed.resolved)
    subst hstores
    exact h.upsert w.target_recorded htarget rfl

theorem admitAll_recordsNamed (h : RecordsNamed s) (requests : List ExecutionAdmissionRequest) :
    RecordsNamed (admitAll s requests) := by
  have hstep (s : AdmissionStores digests) (request : ExecutionAdmissionRequest)
      (h : RecordsNamed s) : RecordsNamed (admitRequest request s).1 := by
    have hpath := outcome_recordsNamed h (admitIntent_outcome request s)
    rw [RecordsNamed, admit_records]
    exact hpath
  exact run_keeps hstep h requests

/-- The records map client order ids to intents one to one: each record is found by its client
order id, and two records of one client order id, or of one intent, are the same. -/
structure OneToOne (s : AdmissionStores digests) : Prop where
  found : ∀ record_id record, s.records.get? record_id = some record →
    s.records.getByClientOrderId record.client_order_id = some record
  client : ∀ record_id record record_id' record', s.records.get? record_id = some record →
    s.records.get? record_id' = some record' →
    record.client_order_id = record'.client_order_id → record = record'
  intent : ∀ record_id record record_id' record', s.records.get? record_id = some record →
    s.records.get? record_id' = some record' →
    digests.intentId record.order_intent = digests.intentId record'.order_intent →
    record = record'

theorem RecordsNamed.oneToOne (h : RecordsNamed s) : OneToOne s := by
  have hfound (record_id : ExecutionOrderRecordId) (record : ExecutionOrderRecord)
      (hget : s.records.get? record_id = some record) :
      s.records.getByClientOrderId record.client_order_id = some record := by
    have hid := (s.records.bound record.client_order_id record_id).mpr ⟨record, hget, rfl⟩
    rw [getByClientOrderId, hid]
    exact hget
  have hclient (record_id : ExecutionOrderRecordId) (record : ExecutionOrderRecord)
      (record_id' : ExecutionOrderRecordId) (record' : ExecutionOrderRecord)
      (hget : s.records.get? record_id = some record)
      (hget' : s.records.get? record_id' = some record')
      (hsame : record.client_order_id = record'.client_order_id) : record = record' := by
    have hr := hfound record_id record hget
    rw [hsame, hfound record_id' record' hget'] at hr
    exact (Option.some.inj hr).symm
  refine ⟨hfound, hclient, fun record_id record record_id' record' hget hget' hsame => ?_⟩
  apply hclient record_id record record_id' record' hget hget'
  rw [h _ _ hget, h _ _ hget']
  exact digests.clientOrderId_inj.mpr hsame

/-! The runs from empty stores. -/

/-- Every order of the run that was accepted at its place is answered from its record after the
run. -/
def ReplaysAccepted (digests : Digests) (keepsDecisions : Bool)
    (requests : List ExecutionAdmissionRequest) : Prop :=
  ∀ earlier request later order_intent d, requests = earlier ++ request :: later →
    request.intent = .order order_intent →
    (admitRequest request (admitAll (.empty digests keepsDecisions) earlier)).2 = .ok d →
    d.accepted = true →
    ∃ record_id, d.record_id = some record_id ∧
      Replayed request record_id (admitAll (.empty digests keepsDecisions) requests)

/-- In every run of admissions, accepted orders are answered from their records, and the records
map client order ids to intents one to one. -/
theorem admit_run_idempotent (digests : Digests) (keepsDecisions : Bool)
    (requests : List ExecutionAdmissionRequest) :
    ReplaysAccepted digests keepsDecisions requests ∧
      OneToOne (admitAll (.empty digests keepsDecisions) requests) := by
  constructor
  · rintro earlier request later order_intent d rfl hintent hd haccepted
    obtain ⟨record_id, hid, hrecorded⟩ := accepted_recorded hintent hd haccepted
    refine ⟨record_id, hid, recorded_replayed hintent ?_⟩
    rw [admitAll, run_append, run_cons]
    exact admitAll_recorded hrecorded later
  · have hempty : RecordsNamed (.empty digests keepsDecisions) :=
      fun record_id record h => absurd h (by simp [AdmissionStores.empty, get?,
        InMemoryExecutionOrderRecordStore.empty])
    exact (admitAll_recordsNamed hempty requests).oneToOne

/-! Market entries to buy and to sell, with digests that tell the two orders and the states of
their events apart. -/

instance hexDigits_neZero : NeZero 16 := ⟨by decide⟩

def repeatHex (n : Fin 16) : HexDigest :=
  .ofText (String.ofList (List.replicate 64 (Nat.digitChar n))) (by revert n; decide +kernel)

def stateDigit : OrderLifecycleState → Fin 16
  | .CREATED => 0
  | .ACCEPTED_BY_EXECUTION => 1
  | .CANCEL_REQUESTED => 2
  | .REPLACE_REQUESTED => 3
  | _ => 4

def buyClientId : ClientOrderId := .ofDigest ⟨"coid:", IdHead.checked evaluates⟩ (repeatHex 1)

def buyIntentId : OrderIntentId :=
  .ofDigest ⟨"order-intent:", IdHead.checked evaluates⟩ (repeatHex 1)

def sampleDigests : Digests where
  order_intent o := repeatHex (if o.side = .BUY then 1 else 2)
  cancel_intent _ := repeatHex 0
  replace_intent _ := repeatHex 0
  asset_semantics _ := repeatHex 0
  lifecycle_event e :=
    repeatHex (stateDigit e.next_state + if e.client_order_id = buyClientId then 0 else 8)
  readiness_proof p :=
    repeatHex (if p.replacement_client_order_id.getD p.client_order_id = buyClientId then 1 else 2)
  admission_request _ := repeatHex 0
  admission_decision _ := repeatHex 0
  reconciliation _ _ _ := repeatHex 0
  text t := repeatHex (if t = buyIntentId.value then 1 else 2)

def marketEntry (side : OrderSide) : OrderIntent where
  intent_kind := .ENTRY
  stack_runtime_id := none
  decision_output_id := none
  venue_id := ⟨"BINANCE", .checked evaluates⟩
  instrument_id := ⟨"BTC/USDT", .checked evaluates⟩
  account_id := none
  side
  position_side := .BOTH
  order_type := .MARKET
  time_in_force := none
  quantity := some ⟨⟨false, 1, 0⟩, .refl true⟩
  limit_price := none
  stop_price := none
  reduce_only := false
  post_only := false
  close_position := false
  expires_at := none
  permission_reason := .OK
  created_at := sampleTime
  rationale_hash := none
  valid := by cases side <;> decide

def openPermission : OrderFlowPermission where
  allow_new_entries := true
  allow_entry_order_cancel := true
  allow_exit_orders := true
  allow_reduce_only_orders := true
  allow_exit_order_cancel := true
  allow_emergency_close := true
  allow_reconciliation := true
  guardian_required := false
  manual_intervention_required := false
  reason := .OK

/-- A request that requires no check of the venue. -/
def plainRequest (intent : ExecutionIntent) : ExecutionAdmissionRequest where
  intent
  order_flow_permission := openPermission
  venue_validation_context := none
  freshness_check := none
  require_venue_capability_validation := false
  require_fresh_capability_snapshot := false
  source_provenance_required := false
  source_provenance_checked := false
  source_provenance_passed := false
  source_provenance_reason := none
  source_provenance_details := none
  requested_at := sampleTime
  requested_by := ⟨"operator", .checked evaluates⟩
  correlation_id := none
  valid := ⟨nofun, nofun, nofun⟩

def buyRequest : ExecutionAdmissionRequest := plainRequest (.order (marketEntry .BUY))

theorem buy_replayed : ∃ record_id, Replayed buyRequest record_id
    (admitAll (.empty sampleDigests false) [buyRequest]) := by
  have haccepted : (admitRequest buyRequest (.empty sampleDigests false)).2.map (·.accepted) =
      .ok true := by decide +kernel
  cases hd : (admitRequest buyRequest (.empty sampleDigests false)).2 with
  | error e =>
    rw [hd] at haccepted
    cases haccepted
  | ok d =>
    rw [hd] at haccepted
    obtain ⟨hreplays, -⟩ := admit_run_idempotent sampleDigests false [buyRequest]
    obtain ⟨record_id, -, hreplayed⟩ := hreplays [] buyRequest [] (marketEntry .BUY) d rfl rfl hd
      (Except.ok.inj haccepted)
    exact ⟨record_id, hreplayed⟩

end FuturesBot.Execution
