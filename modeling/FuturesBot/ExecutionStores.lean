import FuturesBot.Dicts
import FuturesBot.ExecutionIds

/-! The stores of the execution manager: the journal of intents, the lifecycle events, the order
records, the reconciliation markers, the readiness proofs and the decisions. -/
namespace FuturesBot.Execution

open Dicts Orders

/-- `_put_idempotent`: an equal value again changes nothing, another one under its key is
refused. -/
def putIdempotent {κ ν : Type} [DecidableEq κ] {key : ν → κ} (same : ν → ν → Bool) (name : String)
    (store : KeyedDict key) (value : ν) : Except AdmissionError (KeyedDict key) :=
  match store.get? (key value) with
  | some existing =>
    if same existing value then .ok store else .error (.check (name ++ " id collision"))
  | none => .ok (store.put value)

/-- The records by their ids, and the ids by the client order ids of the records. -/
structure InMemoryExecutionOrderRecordStore where
  records_by_id : KeyedDict fun r : ExecutionOrderRecord => r.record_id
  record_id_by_client_id : Dict ClientOrderId ExecutionOrderRecordId
  bound : ∀ client_id record_id, record_id_by_client_id.get? client_id = some record_id ↔
    ∃ r, records_by_id.get? record_id = some r ∧ r.client_order_id = client_id

namespace InMemoryExecutionOrderRecordStore

def empty : InMemoryExecutionOrderRecordStore :=
  ⟨.empty, .empty, fun _ _ => ⟨fun h => absurd h (by simp), fun ⟨_, h, _⟩ => absurd h (by simp)⟩⟩

instance : DecidableEq InMemoryExecutionOrderRecordStore := fun a b =>
  decidable_of_iff
    (a.records_by_id = b.records_by_id ∧ a.record_id_by_client_id = b.record_id_by_client_id)
    ⟨fun h => by cases a; cases b; cases h.1; cases h.2; rfl, fun h => h ▸ ⟨rfl, rfl⟩⟩

variable (store : InMemoryExecutionOrderRecordStore)

def get? (record_id : ExecutionOrderRecordId) : Option ExecutionOrderRecord :=
  store.records_by_id.get? record_id

def getByClientOrderId (client_order_id : ClientOrderId) : Option ExecutionOrderRecord :=
  (store.record_id_by_client_id.get? client_order_id).bind store.get?

/-- A record keeps its client order id, and a client order id its record. -/
def Accepts (record : ExecutionOrderRecord) : Prop :=
  (∀ r ∈ store.get? record.record_id, r.client_order_id = record.client_order_id) ∧
    ∀ record_id ∈ store.record_id_by_client_id.get? record.client_order_id,
      record_id = record.record_id

instance (record : ExecutionOrderRecord) : Decidable (store.Accepts record) :=
  inferInstanceAs (Decidable (_ ∧ _))

variable {store}

/-- The store with an accepted record set. -/
def set {record : ExecutionOrderRecord} (h : store.Accepts record) :
    InMemoryExecutionOrderRecordStore where
  records_by_id := store.records_by_id.put record
  record_id_by_client_id :=
    store.record_id_by_client_id.set record.client_order_id record.record_id
  bound client_id record_id := by
    rw [Dict.get?_set, KeyedDict.get?_put]
    by_cases hid : record.record_id = record_id
    · subst hid
      rw [if_pos rfl]
      by_cases hclient : record.client_order_id = client_id
      · rw [if_pos hclient]
        exact ⟨fun _ => ⟨record, rfl, hclient⟩, fun _ => rfl⟩
      · -- no other client order id leads to the record
        rw [if_neg hclient, store.bound]
        constructor
        · rintro ⟨r, hr, hrc⟩
          exact absurd ((h.1 r hr).symm.trans hrc) hclient
        · rintro ⟨r, hr, hrc⟩
          rw [← Option.some.inj hr] at hrc
          exact absurd hrc hclient
    · rw [if_neg hid]
      by_cases hclient : record.client_order_id = client_id
      · subst hclient
        rw [if_pos rfl]
        constructor
        · exact fun heq => absurd (Option.some.inj heq) hid
        · intro hr
          exact absurd (h.2 record_id ((store.bound _ _).mpr hr)).symm hid
      · rw [if_neg hclient]
        exact store.bound client_id record_id

variable (store)

def upsert (record : ExecutionOrderRecord) :
    Except AdmissionError InMemoryExecutionOrderRecordStore :=
  if ∃ r ∈ store.get? record.record_id, r.client_order_id ≠ record.client_order_id then
    .error (.check "record_id is already bound to a different client_order_id")
  else if h : store.Accepts record then .ok (set h)
  else .error (.check "client_order_id is already bound to a different record")

variable {store}

theorem upsert_eq_ok {store' : InMemoryExecutionOrderRecordStore} {record : ExecutionOrderRecord} :
    store.upsert record = .ok store' ↔ ∃ h : store.Accepts record, store' = set h := by
  rw [upsert]
  split
  · rename_i hother
    obtain ⟨r, hr, hne⟩ := hother
    refine ⟨fun h => absurd h (by simp), fun ⟨haccepts, _⟩ => ?_⟩
    exact absurd (haccepts.1 r hr) hne
  · split
    · rename_i haccepts
      exact ⟨fun h => ⟨haccepts, (Except.ok.inj h).symm⟩, fun ⟨_, h⟩ => h ▸ rfl⟩
    · rename_i hrefused
      exact ⟨fun h => absurd h (by simp), fun ⟨haccepts, _⟩ => absurd haccepts hrefused⟩

/-- A record that is set is found by its id, the others as before. -/
theorem get?_upsert {store' : InMemoryExecutionOrderRecordStore} {record : ExecutionOrderRecord}
    (h : store.upsert record = .ok store') (record_id : ExecutionOrderRecordId) :
    store'.get? record_id =
      if record.record_id = record_id then some record else store.get? record_id := by
  obtain ⟨haccepts, rfl⟩ := upsert_eq_ok.mp h
  exact KeyedDict.get?_put _ _ _

theorem record_id_of_get? {record_id : ExecutionOrderRecordId} {record : ExecutionOrderRecord}
    (h : store.get? record_id = some record) : record.record_id = record_id := by
  have hkey := KeyedDict.key_of_get? h
  exact hkey

/-- A record found by its client order id is found by its own id. -/
theorem get?_of_client {client_order_id : ClientOrderId} {record : ExecutionOrderRecord}
    (h : store.getByClientOrderId client_order_id = some record) :
    store.get? record.record_id = some record ∧ record.client_order_id = client_order_id := by
  obtain ⟨record_id, hid, hget⟩ := Option.bind_eq_some_iff.mp h
  obtain ⟨r, hr, hclient⟩ := (store.bound _ _).mp hid
  have hr' : store.get? record_id = some r := hr
  rw [hget] at hr'
  obtain rfl := Option.some.inj hr'
  rw [record_id_of_get? hget]
  exact ⟨hget, hclient⟩

end InMemoryExecutionOrderRecordStore

/-- The proofs by their ids, and the ids by the client order ids they are bound to. -/
structure InMemoryExecutionReadinessProofStore (digests : Digests) where
  proofs_by_id : KeyedDict digests.proofId
  proof_id_by_client_id : Dict ClientOrderId ExecutionReadinessProofId

namespace InMemoryExecutionReadinessProofStore

variable {digests : Digests}

def empty : InMemoryExecutionReadinessProofStore digests := ⟨.empty, .empty⟩

instance : DecidableEq (InMemoryExecutionReadinessProofStore digests) := fun a b =>
  decidable_of_iff
    (a.proofs_by_id = b.proofs_by_id ∧ a.proof_id_by_client_id = b.proof_id_by_client_id)
    ⟨fun h => by cases a; cases b; cases h.1; cases h.2; rfl, fun h => h ▸ ⟨rfl, rfl⟩⟩

/-- The client order id a proof is bound to. -/
def boundClientId (proof : ExecutionReadinessProof) : ClientOrderId :=
  proof.replacement_client_order_id.getD proof.client_order_id

def put (store : InMemoryExecutionReadinessProofStore digests) (proof : ExecutionReadinessProof) :
    Except AdmissionError (InMemoryExecutionReadinessProofStore digests) :=
  match store.proofs_by_id.get? (digests.proofId proof) with
  | some existing =>
    if existing ≠ proof then .error (.check "execution readiness proof id collision")
    else .ok store
  | none =>
    if ∃ proof_id ∈ store.proof_id_by_client_id.get? (boundClientId proof),
        proof_id ≠ digests.proofId proof then
      .error (.check "client_order_id is already bound to a different readiness proof")
    else
      .ok ⟨store.proofs_by_id.put proof,
        store.proof_id_by_client_id.set (boundClientId proof) (digests.proofId proof)⟩

end InMemoryExecutionReadinessProofStore

/-- The stores a coordinator is built over; that of the decisions may be left out. -/
structure AdmissionStores (digests : Digests) where
  orders : KeyedDict digests.intentId
  cancels : KeyedDict digests.cancelIntentId
  replaces : KeyedDict digests.replaceIntentId
  events : KeyedDict digests.eventId
  records : InMemoryExecutionOrderRecordStore
  reconciliation : KeyedDict fun m : ExecutionReconciliationMarker => m.reconciliation_id
  proofs : InMemoryExecutionReadinessProofStore digests
  decisions : Option (KeyedDict digests.decisionId)
  deriving DecidableEq

def AdmissionStores.empty (digests : Digests) (keepsDecisions : Bool) :
    AdmissionStores digests where
  orders := .empty
  cancels := .empty
  replaces := .empty
  events := .empty
  records := .empty
  reconciliation := .empty
  proofs := .empty
  decisions := if keepsDecisions then some .empty else none

end FuturesBot.Execution
