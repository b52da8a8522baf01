import FuturesBot.ReplayDecisionCodec
import FuturesBot.ReplayDispatching

/-! Decisions decoded from output records: the payload of a record decodes to an envelope exactly
when it is the canonical text of that envelope and the record names the same event. -/
namespace FuturesBot.Decisions

open JsonText (Json Text)
open JsonCodec TextLines DateTimes DecimalNumbers Checks
open Replay (canonicalJson outputJsonValue outputJsonItems outputJsonMembers
  canonicalOutputPayload ReplayHandlerOutputProposal ReplayEventOutputRecord
  ReplayDispatchContext ReplayDispatchHandlerDescriptor)

/-! Values that payloads may hold, sorted or not. -/

theorem outputJsonItems_iff {items : List Json} :
    outputJsonItems items = true ↔ ∀ v ∈ items, outputJsonValue v = true := by
  induction items with
  | nil => simp [outputJsonItems]
  | cons v items ih => rw [outputJsonItems, Bool.and_eq_true, ih, List.forall_mem_cons]

theorem outputJsonMembers_iff {members : List (String × Json)} :
    outputJsonMembers members = true ↔
      ∀ kv ∈ members, Trimmed kv.1.toList ∧ outputJsonValue kv.2 = true := by
  induction members with
  | nil => simp [outputJsonMembers]
  | cons kv members ih =>
    rw [outputJsonMembers, Bool.and_eq_true, Bool.and_eq_true, decide_eq_true_eq, ih,
      List.forall_mem_cons]

theorem outputJsonValue_obj {members : List (String × Json)} :
    outputJsonValue (.obj members) = true ↔ (members.map (·.1)).Nodup ∧
      ∀ kv ∈ members, Trimmed kv.1.toList ∧ outputJsonValue kv.2 = true := by
  rw [outputJsonValue, Bool.and_eq_true, decide_eq_true_eq, outputJsonMembers_iff]

theorem outputJsonValue_sortKeys {v : Json} (h : outputJsonValue v = true) :
    outputJsonValue (JsonText.sortKeys v) = true := by
  induction v using Json.induction with
  | hnull => exact h
  | hbool b => exact h
  | hint n => exact h
  | hfloat f => exact h
  | hstr s => exact h
  | harr items ih =>
    rw [outputJsonValue, outputJsonItems_iff] at h
    rw [JsonText.sortKeys_arr, outputJsonValue, outputJsonItems_iff, List.forall_mem_map]
    exact fun v hv => ih v hv (h v hv)
  | hobj members ih =>
    rw [outputJsonValue_obj] at h
    obtain ⟨hnames, hmembers⟩ := h
    rw [JsonText.sortKeys_obj, outputJsonValue_obj]
    refine ⟨(JsonText.sortedMembers_names members).nodup_iff.mpr hnames, fun kv hkv => ?_⟩
    obtain ⟨m, hm, rfl⟩ := JsonText.mem_sortedMembers.mp hkv
    exact ⟨(hmembers m hm).1, ih m hm (hmembers m hm).2⟩

/-! Codecs whose values survive the canonical text. -/

variable {α β : Type}

/-- The codec reads its values sorted, and writes what a payload may hold, nested at most `n`
deep. -/
structure Canonical (c : Codec α) (n : ℕ) : Prop where
  sorted : c.ReadsSorted
  allowed : ∀ a, outputJsonValue (c.dump a) = true
  depth : ∀ a, (c.dump a).depth ≤ n

namespace Canonical

variable {c : Codec α} {n : ℕ}

/-- A codec that writes texts. -/
theorem of_text {write : α → String} (h : ∀ a, c.dump a = .str (write a)) : Canonical c n where
  sorted a := by
    have hread := c.load_dump a
    rw [h a] at hread ⊢
    exact hread
  allowed a := by
    rw [h a]
    rfl
  depth a := by
    rw [h a]
    exact Nat.zero_le n

/-- A codec that writes a value object with one text. -/
theorem of_valueText {write : α → String} (h : ∀ a, c.dump a = .obj [("value", .str (write a))]) :
    Canonical c (n + 1) where
  sorted a := by
    have hread := c.load_dump a
    rw [h a] at hread ⊢
    exact hread
  allowed a := by
    have hname : Trimmed "value".toList := by decide
    rw [h a, outputJsonValue_obj, List.forall_mem_singleton]
    exact ⟨List.nodup_singleton _, hname, rfl⟩
  depth a := by
    rw [h a]
    exact Nat.succ_le_succ (Nat.zero_le n)

theorem refine (h : Canonical c n) {check : α → Option β} {forget : β → α}
    {hcheck : ∀ b, check (forget b) = some b} : Canonical (c.refine check forget hcheck) n :=
  ⟨h.sorted.refine, fun b => h.allowed (forget b), fun b => h.depth (forget b)⟩

theorem where_ (h : Canonical c n) {P : α → Prop} [DecidablePred P] :
    Canonical (c.where_ P) n := h.refine

theorem optional (h : Canonical c n) {hnull : ∀ a, c.dump a ≠ .null} :
    Canonical (c.optional hnull) n where
  sorted := h.sorted.optional
  allowed
    | none => rfl
    | some a => h.allowed a
  depth
    | none => Nat.zero_le n
    | some a => h.depth a

theorem list (h : Canonical c n) : Canonical c.list (n + 1) where
  sorted := h.sorted.list
  allowed as := by
    change outputJsonValue (.arr (as.map c.dump)) = true
    rw [outputJsonValue, outputJsonItems_iff, List.forall_mem_map]
    exact fun a _ => h.allowed a
  depth as := by
    change (Json.arr (as.map c.dump)).depth ≤ n + 1
    rw [Json.depth]
    apply Nat.succ_le_succ
    rw [JsonText.itemsDepth_le, List.forall_mem_map]
    exact fun a _ => h.depth a

end Canonical

theorem dumpRow_canonical {fs : List Field} {n : ℕ} (h : ∀ f ∈ fs, Canonical f.codec n)
    (r : Row fs) : ∀ kv ∈ dumpRow fs r, outputJsonValue kv.2 = true ∧ kv.2.depth ≤ n := by
  induction fs with
  | nil => exact List.forall_mem_nil _
  | cons f fs ih =>
    obtain ⟨v, r⟩ := r
    obtain ⟨hf, hfs⟩ := List.forall_mem_cons.mp h
    exact List.forall_mem_cons.mpr ⟨⟨hf.allowed v, hf.depth v⟩, ih hfs r⟩

theorem Canonical.record {fs : List Field} {hnd : (fieldNames fs).Nodup} {toRow : β → Row fs}
    {ofRow : Row fs → Option β} {hrow : ∀ b, ofRow (toRow b) = some b} {n : ℕ}
    (hnames : ∀ name ∈ fieldNames fs, Trimmed name.toList)
    (h : ∀ f ∈ fs, Canonical f.codec n) :
    Canonical (record fs hnd toRow ofRow hrow) (n + 1) where
  sorted := record_readsSorted fun f hf => (h f hf).sorted
  allowed b := by
    change outputJsonValue (.obj (dumpRow fs (toRow b))) = true
    rw [outputJsonValue_obj, dumpRow_names]
    refine ⟨hnd, fun kv hkv => ⟨hnames kv.1 ?_, (dumpRow_canonical h (toRow b) kv hkv).1⟩⟩
    rw [← dumpRow_names fs (toRow b)]
    exact List.mem_map_of_mem hkv
  depth b := by
    change (Json.obj (dumpRow fs (toRow b))).depth ≤ n + 1
    rw [Json.depth]
    apply Nat.succ_le_succ
    rw [JsonText.membersDepth_le]
    exact fun kv hkv => (dumpRow_canonical h (toRow b) kv hkv).2

/-! The codecs of the models. -/

section Models

variable {n : ℕ}

theorem enumCodec_canonical {values : List α} {name : α → String}
    {h : ∀ a, values.find? (fun v => name v = name a) = some a} :
    Canonical (enumCodec values name h) n := .of_text fun _ => rfl

theorem trimmedText_canonical : Canonical trimmedText n := .of_text fun _ => rfl

theorem instant_canonical (r : Readers) : Canonical r.instant n := .of_text fun _ => rfl

theorem decimal_canonical (r : Readers) : Canonical r.decimalCodec n := .of_text fun _ => rfl

theorem digestText_canonical (head : IdHead) : Canonical (digestText head) n :=
  .of_text fun _ => rfl

theorem digestId_canonical (head : IdHead) : Canonical (digestId head) (n + 1) :=
  .of_valueText fun _ => rfl

theorem domainId_canonical : Canonical domainId (n + 1) := .of_valueText fun _ => rfl

theorem instrument_canonical : Canonical instrument (n + 1) := .of_valueText fun _ => rfl

theorem marginAsset_canonical : Canonical marginAsset (n + 1) := .of_valueText fun _ => rfl

theorem optionalInstrument_canonical : Canonical optionalInstrument (n + 1) where
  sorted
    | none => rfl
    | some i => optionalInstrument.load_dump (some i)
  allowed
    | none => rfl
    | some i => (instrument_canonical (n := n)).allowed i
  depth
    | none => Nat.zero_le _
    | some i => (instrument_canonical (n := n)).depth i

theorem schemaVersion_canonical {version : ℕ} (h : (JsonText.natText version).length ≤ 4300) :
    Canonical (schemaVersion version) n where
  sorted _ := (schemaVersion version).load_dump ()
  allowed _ := decide_eq_true h
  depth _ := Nat.zero_le n

theorem index_canonical : Canonical index n where
  sorted := count_readsSorted.where_
  allowed i := decide_eq_true i.property
  depth _ := Nat.zero_le n

theorem eventKinds_canonical {P : List Replay.ReplayInputKind → Prop} [DecidablePred P] :
    Canonical (replayInputKind.list.where_ P) (n + 1) := enumCodec_canonical.list.where_

theorem proposedMargin_canonical (r : Readers) : Canonical r.proposedMargin (n + 2) := by
  have hnames : ∀ name ∈ fieldNames r.proposedMarginFields, Trimmed name.toList := by
    change ∀ name ∈ ["asset", "amount"], Trimmed name.toList
    decide
  apply Canonical.record hnames
  simp only [Readers.proposedMarginFields, List.forall_mem_cons]
  exact ⟨marginAsset_canonical, decimal_canonical r, List.forall_mem_nil _⟩

theorem decisionIntent_canonical (r : Readers) : Canonical r.decisionIntent (n + 3) := by
  have hnames : ∀ name ∈ fieldNames r.decisionIntentFields, Trimmed name.toList := by
    change ∀ name ∈ fieldNames Readers.plain.decisionIntentFields, Trimmed name.toList
    decide
  apply Canonical.record hnames
  simp only [Readers.decisionIntentFields, List.forall_mem_cons]
  exact ⟨domainId_canonical, domainId_canonical, instrument_canonical, enumCodec_canonical,
    enumCodec_canonical, enumCodec_canonical, trimmedText_canonical, instant_canonical r,
    (instant_canonical r).optional, (proposedMargin_canonical r).optional,
    (decimal_canonical r).where_.optional, (decimal_canonical r).where_.optional,
    trimmedText_canonical.list.where_, enumCodec_canonical, List.forall_mem_nil _⟩

theorem noTradeDecision_canonical (r : Readers) : Canonical r.noTradeDecision (n + 2) := by
  have hnames : ∀ name ∈ fieldNames r.noTradeDecisionFields, Trimmed name.toList := by
    change ∀ name ∈ fieldNames Readers.plain.noTradeDecisionFields, Trimmed name.toList
    decide
  apply Canonical.record hnames
  simp only [Readers.noTradeDecisionFields, List.forall_mem_cons]
  exact ⟨domainId_canonical, domainId_canonical, optionalInstrument_canonical,
    enumCodec_canonical, trimmedText_canonical, instant_canonical r,
    enumCodec_canonical.list.where_, (decimal_canonical r).where_.optional,
    trimmedText_canonical.optional, List.forall_mem_nil _⟩

theorem stackDescriptor_canonical : Canonical stackDescriptor (n + 2) := by
  apply Canonical.record (by decide)
  simp only [List.forall_mem_cons]
  exact ⟨trimmedText_canonical, trimmedText_canonical, domainId_canonical, enumCodec_canonical,
    eventKinds_canonical, List.forall_mem_nil _⟩

theorem schemaVersion_one_canonical : Canonical (schemaVersion 1) n :=
  schemaVersion_canonical (by decide)

theorem marketLookupDescriptor_canonical : Canonical marketLookupDescriptor (n + 2) := by
  apply Canonical.record (by decide)
  simp only [List.forall_mem_cons]
  exact ⟨schemaVersion_one_canonical, digestId_canonical _, trimmedText_canonical,
    trimmedText_canonical, digestText_canonical _, digestText_canonical _, eventKinds_canonical,
    List.forall_mem_nil _⟩

theorem evidenceLookupDescriptor_canonical : Canonical evidenceLookupDescriptor (n + 2) := by
  apply Canonical.record (by decide)
  simp only [List.forall_mem_cons]
  exact ⟨schemaVersion_one_canonical, digestId_canonical _, trimmedText_canonical,
    trimmedText_canonical, digestText_canonical _, digestText_canonical _,
    digestText_canonical _, eventKinds_canonical, List.forall_mem_nil _⟩

theorem marketReference_canonical (r : Readers) (env : Env) :
    Canonical (r.marketReference env) (n + 2) := by
  have hnames : ∀ name ∈ fieldNames r.marketReferenceFields, Trimmed name.toList := by
    change ∀ name ∈ fieldNames Readers.plain.marketReferenceFields, Trimmed name.toList
    decide
  apply Canonical.record hnames
  simp only [Readers.marketReferenceFields, List.forall_mem_cons]
  exact ⟨schemaVersion_one_canonical, digestId_canonical _, digestId_canonical _,
    trimmedText_canonical, trimmedText_canonical, trimmedText_canonical, trimmedText_canonical,
    trimmedText_canonical, trimmedText_canonical, trimmedText_canonical, index_canonical,
    instant_canonical r, enumCodec_canonical, digestId_canonical _, digestText_canonical _,
    digestText_canonical _, digestId_canonical _, digestId_canonical _, digestId_canonical _,
    digestId_canonical _, digestText_canonical _, List.forall_mem_nil _⟩

theorem evidenceReference_canonical (env : Env) : Canonical (evidenceReference env) (n + 2) := by
  apply Canonical.record (by decide)
  simp only [List.forall_mem_cons]
  exact ⟨schemaVersion_one_canonical, digestText_canonical _, digestId_canonical _,
    digestText_canonical _, digestText_canonical _, digestId_canonical _, digestId_canonical _,
    digestId_canonical _, List.forall_mem_nil _⟩

theorem envelope_canonical (r : Readers) (env : Env) : Canonical (r.envelope env) 4 := by
  have hnames : ∀ name ∈ fieldNames (r.envelopeFields env), Trimmed name.toList := by
    change ∀ name ∈ ["schema_version", "run_id", "manifest_id", "replay_plan_id", "timeline_id",
      "timeline_fingerprint_id", "dispatcher_fingerprint", "event_id", "event_order_index",
      "event_time", "event_kind", "stack_descriptor", "market_lookup_descriptor",
      "evidence_lookup_descriptor", "market_context_reference", "evidence_context_reference",
      "decision_index", "decision_kind", "decision_intent", "no_trade_decision"],
      Trimmed name.toList
    decide
  apply Canonical.record hnames
  simp only [Readers.envelopeFields, List.forall_mem_cons]
  exact ⟨schemaVersion_canonical (by decide), trimmedText_canonical, trimmedText_canonical,
    trimmedText_canonical, trimmedText_canonical, trimmedText_canonical, trimmedText_canonical,
    trimmedText_canonical, index_canonical, instant_canonical r, enumCodec_canonical,
    stackDescriptor_canonical, marketLookupDescriptor_canonical,
    evidenceLookupDescriptor_canonical, marketReference_canonical r env,
    evidenceReference_canonical env, index_canonical, enumCodec_canonical,
    (decisionIntent_canonical r).optional, (noTradeDecision_canonical r).optional,
    List.forall_mem_nil _⟩

end Models

/-! The payload of an envelope. -/

variable {env : Env} (r : Readers) (e : ReplayDecisionOutputEnvelope env)

theorem parse_canonicalPayload : env.parseJson (canonicalPayload env r e).toList =
    some (JsonText.sortKeys ((r.envelope env).dump e)) := by
  have hdepth : (JsonText.sortKeys ((r.envelope env).dump e)).depth ≤ env.jsonDepth := by
    have hdump := JsonText.depth_sortKeys_le ((envelope_canonical r env).depth e)
    have hmin := env.depth_min
    omega
  rw [canonicalPayload, String.toList_ofList, canonicalJson, env.parseJson_encode, if_pos hdepth]

/-- The canonical text is read as the envelope it was written for. -/
theorem load_canonicalPayload :
    (env.parseJson (canonicalPayload env r e).toList).bind (r.envelope env).load = some e := by
  rw [parse_canonicalPayload, Option.bind_some, (envelope_canonical r env).sorted]

theorem canonicalPayload_valid : canonicalOutputPayload env (canonicalPayload env r e) = true := by
  obtain ⟨members, hdump⟩ : ∃ members, (r.envelope env).dump e = .obj members := ⟨_, rfl⟩
  have hallowed := outputJsonValue_sortKeys ((envelope_canonical r env).allowed e)
  have htext : (canonicalPayload env r e).toList =
      canonicalJson (JsonText.sortKeys ((r.envelope env).dump e)) := by
    rw [canonicalPayload, String.toList_ofList, canonicalJson, canonicalJson,
      JsonText.sortKeys_sortKeys]
  have hparse := parse_canonicalPayload r e
  rw [hdump, JsonText.sortKeys_obj] at hallowed htext hparse
  -- a canonical text opens and closes with a brace
  have htrimmed : Trimmed (canonicalPayload env r e).toList := by
    obtain ⟨body, hbody⟩ := JsonText.encode_obj_last (JsonText.sortedMembers members)
    have hplain : (canonicalPayload env r e).toList = body ++ ['}'] := by
      rw [canonicalPayload, String.toList_ofList, canonicalJson, hdump, JsonText.sortKeys_obj,
        hbody]
    have hopen : (canonicalPayload env r e).toList.head? = some '{' := by
      rw [canonicalPayload, String.toList_ofList, canonicalJson, hdump, JsonText.sortKeys_obj]
      rfl
    have hclose : (canonicalPayload env r e).toList.getLast? = some '}' := by
      rw [hplain, List.getLast?_concat]
    exact trimmed_of_ends hopen hclose (by decide) (by decide)
  rw [canonicalOutputPayload, decide_eq_true htrimmed, Bool.true_and, hparse]
  dsimp only
  rw [hallowed, htext, Bool.true_and, decide_eq_true_eq]

theorem decisionKind_trimmed (kind : ReplayDecisionOutputKind) : Trimmed kind.value.toList := by
  cases kind <;> decide

def proposalOf : ReplayHandlerOutputProposal env where
  output_kind := ⟨e.decision_kind.value, decisionKind_trimmed e.decision_kind⟩
  canonical_payload := canonicalPayload env r e
  canonical := canonicalPayload_valid r e

theorem buildReplayDecisionOutputProposal_eq :
    buildReplayDecisionOutputProposal env r e = .ok (proposalOf r e) := by
  have hkind : TrimmedText.of e.decision_kind.value =
      some ⟨e.decision_kind.value, decisionKind_trimmed e.decision_kind⟩ :=
    dif_pos (decisionKind_trimmed e.decision_kind)
  rw [buildReplayDecisionOutputProposal, (r.envelope env).load_dump]
  dsimp only
  rw [ReplayHandlerOutputProposal.of, hkind]
  dsimp only
  rw [dif_pos (canonicalPayload_valid r e)]
  rfl

/-! Records of an envelope. -/

variable {r e}

/-- The context names the event that the envelope is about. -/
structure ContextOf (e : ReplayDecisionOutputEnvelope env) (context : ReplayDispatchContext) :
    Prop where
  run_id : e.run_id = context.run_id
  manifest_id : e.manifest_id = context.manifest_id
  replay_plan_id : e.replay_plan_id = context.replay_plan_id
  timeline_id : e.timeline_id = context.timeline_id
  timeline_fingerprint_id : e.timeline_fingerprint_id = context.timeline_fingerprint_id
  dispatcher_fingerprint : e.dispatcher_fingerprint.value =
    digestName Heads.dispatcher context.dispatcher_fingerprint
  event_id : e.event_id = context.event_id
  event_order_index : e.event_order_index.val = context.event_order_index
  event_time : e.event_time = context.event_time
  event_kind : e.event_kind = context.event_kind

/-- The handler is the one whose decision the envelope carries. -/
structure HandlerOf (e : ReplayDecisionOutputEnvelope env) (handler_id handler_version : TrimmedText) :
    Prop where
  handler_id : handler_id.value = digestName Heads.decisionHandler e.handlerFingerprint
  handler_version : handler_version = e.stack_descriptor.stack_version

/-- The record is about the event, the handler and the decision of the envelope. -/
structure Identifies (e : ReplayDecisionOutputEnvelope env) (record : ReplayEventOutputRecord env) :
    Prop where
  context : ContextOf e record.context
  handler : HandlerOf e record.handler_id record.handler_version
  handler_output_index : record.handler_output_index = e.decision_index.val
  output_kind : record.output_kind.value = e.decision_kind.value

theorem identityChecks_ok {record : ReplayEventOutputRecord env} :
    checkAll (identityChecks env e record) = .ok () ↔ ContextOf e record.context := by
  simp only [identityChecks, checkAll_require, checkAll_nil, and_true]
  constructor
  · rintro ⟨h1, h2, h3, h4, h5, h6, h7, h8, h9, h10⟩
    exact ⟨h1, h2, h3, h4, h5, h6, h7, h8, h9, h10⟩
  · rintro ⟨h1, h2, h3, h4, h5, h6, h7, h8, h9, h10⟩
    exact ⟨h1, h2, h3, h4, h5, h6, h7, h8, h9, h10⟩

theorem handlerChecks_ok {record : ReplayEventOutputRecord env} {kind : ReplayDecisionOutputKind} :
    checkAll (handlerChecks env e record kind) = .ok () ↔
      HandlerOf e record.handler_id record.handler_version ∧
        record.handler_output_index = e.decision_index.val ∧ kind = e.decision_kind := by
  simp only [handlerChecks, checkAll_require, checkAll_nil, and_true]
  constructor
  · rintro ⟨hid, hversion, hindex, hkind⟩
    exact ⟨⟨hid, hversion⟩, hindex, hkind⟩
  · rintro ⟨⟨hid, hversion⟩, hindex, hkind⟩
    exact ⟨hid, hversion, hindex, hkind⟩

theorem ReplayDecisionOutputKind.of_eq_some {value : String} {kind : ReplayDecisionOutputKind} :
    ReplayDecisionOutputKind.of value = some kind ↔ value = kind.value := by
  constructor
  · intro h
    have hfound := List.find?_some h
    exact (of_decide_eq_true hfound).symm
  · rintro rfl
    cases kind <;> decide

/-- A record decodes to an envelope exactly when its payload is the envelope's canonical text and
it is about the same event, handler and decision. -/
theorem decode_eq_ok {record : ReplayEventOutputRecord env} :
    decodeReplayDecisionOutputRecord env r record = .ok e ↔
      record.canonical_payload = canonicalPayload env r e ∧ Identifies e record := by
  rw [decodeReplayDecisionOutputRecord]
  constructor
  · intro h
    split at h
    · cases h
    · rename_i kind hkind
      split at h
      · cases h
      · rename_i envelope hload
        obtain ⟨⟨⟩, hchecks, h⟩ := bind_eq_ok.mp h
        obtain ⟨proposal, hproposal, h⟩ := bind_eq_ok.mp h
        obtain ⟨⟨⟩, hsame, h⟩ := bind_eq_ok.mp h
        obtain rfl := Except.ok.inj h
        rw [buildReplayDecisionOutputProposal_eq] at hproposal
        obtain rfl := Except.ok.inj hproposal
        obtain ⟨hcontext, hhandler⟩ := checkAll_append.mp hchecks
        obtain ⟨hhandler, hindex, hkind'⟩ := handlerChecks_ok.mp hhandler
        simp only [checkAll_require, checkAll_nil, and_true] at hsame
        have hvalue := ReplayDecisionOutputKind.of_eq_some.mp hkind
        refine ⟨hsame.2, identityChecks_ok.mp hcontext, hhandler, hindex, ?_⟩
        rw [hvalue, hkind']
  · rintro ⟨hpayload, hcontext, hhandler, hindex, hkind⟩
    rw [ReplayDecisionOutputKind.of_eq_some.mpr hkind]
    dsimp only
    rw [hpayload, load_canonicalPayload]
    dsimp only
    have hchecks : checkAll (identityChecks env e record ++
        handlerChecks env e record e.decision_kind) = .ok () :=
      checkAll_append.mpr ⟨identityChecks_ok.mpr hcontext,
        handlerChecks_ok.mpr ⟨hhandler, hindex, rfl⟩⟩
    have hsame : record.output_kind = (proposalOf r e).output_kind := TrimmedText.ext hkind
    rw [hchecks, buildReplayDecisionOutputProposal_eq]
    refine bind_eq_ok.mpr ⟨(), rfl, bind_eq_ok.mpr ⟨proposalOf r e, rfl, ?_⟩⟩
    refine bind_eq_ok.mpr ⟨(), ?_, rfl⟩
    simp only [checkAll_require, checkAll_nil, and_true]
    exact ⟨hsame, rfl⟩

/-- The encoding of an envelope decodes to it from the record that its handler's output becomes;
and what decodes at all is the canonical encoding of what it decodes to. -/
theorem decision_output_round_trip (env : Env) (r : Readers) :
    (∀ e : ReplayDecisionOutputEnvelope env, ∃ proposal,
      buildReplayDecisionOutputProposal env r e = .ok proposal ∧
        ∀ (context : ReplayDispatchContext) (descriptor : ReplayDispatchHandlerDescriptor),
          ContextOf e context → HandlerOf e descriptor.handler_id descriptor.handler_version →
            decodeReplayDecisionOutputRecord env r (Replay.outputRecord context descriptor
              e.decision_index.val proposal) = .ok e) ∧
    (∀ (record : ReplayEventOutputRecord env) (e : ReplayDecisionOutputEnvelope env),
      decodeReplayDecisionOutputRecord env r record = .ok e ↔
        record.canonical_payload = canonicalPayload env r e ∧ Identifies e record) ∧
    ∀ (record : ReplayEventOutputRecord env) (e : ReplayDecisionOutputEnvelope env),
      decodeReplayDecisionOutputRecord env r record = .ok e →
        ∃ proposal, buildReplayDecisionOutputProposal env r e = .ok proposal ∧
          proposal.canonical_payload = record.canonical_payload := by
  refine ⟨fun e => ⟨proposalOf r e, buildReplayDecisionOutputProposal_eq r e, ?_⟩,
    fun record e => decode_eq_ok, fun record e h => ?_⟩
  · intro context descriptor hcontext hhandler
    exact decode_eq_ok.mpr ⟨rfl, hcontext, hhandler, rfl, rfl⟩
  · have hpayload := (decode_eq_ok.mp h).1
    exact ⟨proposalOf r e, buildReplayDecisionOutputProposal_eq r e, hpayload.symm⟩

end FuturesBot.Decisions
