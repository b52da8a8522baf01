import FuturesBot.ReplayReachable

/-! The texts whose digests are the ids of receipts and outputs. Where the digests of these texts
do not collide, an id tells what it stands for. -/
namespace FuturesBot.Replay

open JsonText (Json)
open TextLines Dicts Checks

theorem sortKeys_of_sorted {members : List (String × Json)}
    (hvalues : JsonText.sortKeysMembers members = members)
    (hkeys : (members.map (·.1)).Pairwise (· ≤ ·)) :
    JsonText.sortKeys (.obj members) = .obj members := by
  rw [JsonText.sortKeys, hvalues]
  congr 1
  exact List.Pairwise.insertionSort_eq (List.pairwise_map.mp hkeys)

theorem canonicalText_injective {v w : Json} (hv : JsonText.sortKeys v = v)
    (hw : JsonText.sortKeys w = w)
    (h : encodeUtf8 (canonicalJson v) = encodeUtf8 (canonicalJson w)) : v = w := by
  have htext := encodeUtf8_injective h
  rw [canonicalJson, canonicalJson, hv, hw] at htext
  exact JsonText.encode_injective htext

/-! Receipts. -/

def receiptText (context : ReplayDispatchContext) : Bytes :=
  encodeUtf8 (canonicalJson
    (receiptJson context.run_id context.event_order_index context.event_id))

theorem sortKeys_receiptJson (run_id : TrimmedText) (event_order_index : ℕ)
    (event_id : TrimmedText) : JsonText.sortKeys (receiptJson run_id event_order_index event_id) =
      receiptJson run_id event_order_index event_id := by
  apply sortKeys_of_sorted rfl
  change ["event_id", "event_order_index", "run_id"].Pairwise (· ≤ ·)
  decide

theorem receiptText_injective {a b : ReplayDispatchContext} (h : receiptText a = receiptText b) :
    a.run_id = b.run_id ∧ a.event_order_index = b.event_order_index ∧ a.event_id = b.event_id := by
  have hjson := canonicalText_injective (sortKeys_receiptJson _ _ _) (sortKeys_receiptJson _ _ _) h
  simp only [receiptJson, Json.obj.injEq, List.cons.injEq, Prod.mk.injEq, Json.str.injEq,
    Json.int.injEq, true_and, and_true] at hjson
  obtain ⟨hevent, hindex, hrun⟩ := hjson
  exact ⟨TrimmedText.ext hrun, Int.ofNat.inj hindex, TrimmedText.ext hevent⟩

/-! Outputs. -/

def outputText (r : ReplayOutputFields) : Bytes :=
  encodeUtf8 (canonicalJson (outputJson r.context r.handler_id r.handler_version
    r.handler_output_index r.output_kind r.payload_sha256))

def payloadText (r : ReplayOutputFields) : Bytes := encodeUtf8 r.canonical_payload.toList

theorem sortKeys_outputJson (r : ReplayOutputFields) :
    JsonText.sortKeys (outputJson r.context r.handler_id r.handler_version r.handler_output_index
        r.output_kind r.payload_sha256) =
      outputJson r.context r.handler_id r.handler_version r.handler_output_index r.output_kind
        r.payload_sha256 := by
  apply sortKeys_of_sorted rfl
  change ["event_id", "event_order_index", "handler_id", "handler_output_index",
    "handler_version", "output_kind", "payload_sha256", "run_id"].Pairwise (· ≤ ·)
  decide

/-- What the id of an output depends on. -/
structure SameOutput (a b : ReplayOutputFields) : Prop where
  run_id : a.context.run_id = b.context.run_id
  event_order_index : a.context.event_order_index = b.context.event_order_index
  handler_id : a.handler_id = b.handler_id
  handler_version : a.handler_version = b.handler_version
  handler_output_index : a.handler_output_index = b.handler_output_index
  output_kind : a.output_kind = b.output_kind
  payload_sha256 : a.payload_sha256 = b.payload_sha256

theorem HexDigest.ext {a b : HexDigest} (h : a.value = b.value) : a = b := by
  cases a
  cases b
  cases h
  rfl

theorem outputText_injective {a b : ReplayOutputFields} (h : outputText a = outputText b) :
    SameOutput a b := by
  have hjson := canonicalText_injective (sortKeys_outputJson a) (sortKeys_outputJson b) h
  simp only [outputJson, Json.obj.injEq, List.cons.injEq, Prod.mk.injEq, Json.str.injEq,
    Json.int.injEq, true_and, and_true] at hjson
  obtain ⟨-, hindex, hhandler, houtput, hversion, hkind, hpayload, hrun⟩ := hjson
  exact ⟨TrimmedText.ext hrun, Int.ofNat.inj hindex, TrimmedText.ext hhandler,
    TrimmedText.ext hversion, Int.ofNat.inj houtput, TrimmedText.ext hkind,
    HexDigest.ext hpayload⟩

/-! Digests that do not collide. -/

variable {env : Env}

theorem ReplayEventDispatchReceipt.receipt_id_text (r : ReplayEventDispatchReceipt env) :
    r.receipt_id = env.sha256 (receiptText r.context) := r.receipt_id_eq

theorem ReplayEventOutputRecord.ids (r : ReplayEventOutputRecord env) :
    r.dispatch_receipt_id = r.context.receiptId env ∧
      r.payload_sha256 = env.sha256 (payloadText r.toReplayOutputFields) ∧
      r.output_record_id = env.sha256 (outputText r.toReplayOutputFields) := by
  have h := r.valid
  simp only [ReplayOutputFields.validateOutputRecord, checkAll_require, checkAll_nil,
    and_true] at h
  exact ⟨h.2.1, h.2.2.1, h.2.2.2⟩

theorem ReplayEventOutputRecord.ext {r w : ReplayEventOutputRecord env}
    (h : r.toReplayOutputFields = w.toReplayOutputFields) : r = w := by
  cases r
  cases w
  cases h
  rfl

/-- The output of an event of a run is told by its id. -/
theorem output_eq_of_id {texts : Set Bytes} (hinj : Set.InjOn env.sha256 texts)
    {r w : ReplayEventOutputRecord env} (hr : outputText r.toReplayOutputFields ∈ texts)
    (hw : outputText w.toReplayOutputFields ∈ texts)
    (hr' : payloadText r.toReplayOutputFields ∈ texts)
    (hw' : payloadText w.toReplayOutputFields ∈ texts)
    (hcontext : r.context.run_id = w.context.run_id →
      r.context.event_order_index = w.context.event_order_index → r.context = w.context)
    (h : r.output_record_id = w.output_record_id) : r = w := by
  obtain ⟨hreceipt, hpayload, hid⟩ := r.ids
  obtain ⟨hreceipt', hpayload', hid'⟩ := w.ids
  have hsame := outputText_injective (hinj hr hw (by rw [← hid, ← hid', h]))
  have heq := hcontext hsame.run_id hsame.event_order_index
  have htext : payloadText r.toReplayOutputFields = payloadText w.toReplayOutputFields :=
    hinj hr' hw' (by rw [← hpayload, ← hpayload', hsame.payload_sha256])
  have hcanonical : r.canonical_payload = w.canonical_payload :=
    String.toList_injective (encodeUtf8_injective htext)
  apply ReplayEventOutputRecord.ext
  have hfields : ∀ a b : ReplayOutputFields, a.output_record_id = b.output_record_id →
      a.dispatch_receipt_id = b.dispatch_receipt_id → a.context = b.context → SameOutput a b →
      a.canonical_payload = b.canonical_payload → a = b := by
    rintro ⟨⟩ ⟨⟩ h1 h2 h3 h4 h5
    simp only [ReplayOutputFields.mk.injEq]
    exact ⟨h1, h2, h3, h4.handler_id, h4.handler_version, h4.handler_output_index, h4.output_kind,
      h5, h4.payload_sha256⟩
  exact hfields _ _ h (by rw [hreceipt, hreceipt', heq]) heq hsame hcanonical

end FuturesBot.Replay
