import FuturesBot.AppendOnly
import FuturesBot.ReplayMarketData

/-! The adapter that turns the events of a replay timeline into market observations, and into
the frame that each of them leaves. -/
namespace FuturesBot.Market

open TextLines DateTimes DecimalNumbers Checks Dicts KeySorting Selections
open Replay (ReplayInputKind ReplayInstrumentRef ReplayTimeline ReplayTimelineEvent)

/-! The canonical bindings: one for each key, and one meaning for each id. -/

theorem bindingOrder_inj {b c : ReplayMarketDataBinding} (h : bindingOrder b = bindingOrder c) :
    replay_market_binding_key b = replay_market_binding_key c := by
  simp only [bindingOrder, toLex_inj, Prod.mk.injEq] at h
  exact ofLex_inj.mp (Prod.ext h.1 h.2.1)

/-- The bindings of the tables hold what the tables say of their ids. -/
structure BindingTables.Sound (t : BindingTables) : Prop where
  ids : ∀ b ∈ t.by_key.values, t.by_binding_id.Holds id b
  sources : ∀ b ∈ t.by_key.values, t.by_source_id.Holds id b.source
  instruments : ∀ b ∈ t.by_key.values, t.by_instrument_id.Holds id b.venue_instrument

theorem BindingTables.empty_sound : BindingTables.empty.Sound where
  ids _ hb := absurd hb List.not_mem_nil
  sources _ hb := absurd hb List.not_mem_nil
  instruments _ hb := absurd hb List.not_mem_nil

/-- What adding a binding does: nothing when it is there, and otherwise it is put into all four
tables, each of which admits it. -/
theorem BindingTables.add_cases {t u : BindingTables} {b : ReplayMarketDataBinding}
    (h : t.add b = .ok u) :
    (t.by_key.get? (replay_market_binding_key b) = some b ∧ u = t) ∨
      (t.by_key.get? (replay_market_binding_key b) = none ∧ u.by_key = t.by_key.put b ∧
        t.by_binding_id.putEqual id b = some u.by_binding_id ∧
        t.by_source_id.putEqual id b.source = some u.by_source_id ∧
        t.by_instrument_id.putEqual id b.venue_instrument = some u.by_instrument_id) := by
  unfold BindingTables.add at h
  split at h
  · rename_i existing hget
    split_ifs at h with hne
    · rw [not_not] at hne
      cases h
      exact .inl ⟨hne ▸ hget, rfl⟩
  · rename_i hget
    split at h
    · cases h
    · rename_i by_binding_id hid
      split at h
      · cases h
      · rename_i by_source_id hsource
        split at h
        · cases h
        · rename_i by_instrument_id hinstrument
          cases h
          exact .inr ⟨hget, rfl, hid, hsource, hinstrument⟩

theorem BindingTables.add_sound {t u : BindingTables} {b : ReplayMarketDataBinding}
    (h : t.add b = .ok u) (ht : t.Sound) : u.Sound := by
  obtain ⟨-, rfl⟩ | ⟨-, hkey, hid, hsource, hinstrument⟩ := BindingTables.add_cases h
  · exact ht
  · have hvalues : ∀ c ∈ u.by_key.values, c = b ∨ c ∈ t.by_key.values := by
      intro c hc
      rw [hkey] at hc
      exact (KeyedDict.mem_values_put.mp hc).imp id And.right
    refine ⟨fun c hc => ?_, fun c hc => ?_, fun c hc => ?_⟩
    · rcases hvalues c hc with rfl | hold
      · exact KeyedDict.putEqual_holds hid
      · exact (ht.ids c hold).mono (KeyedDict.putEqual_extends hid)
    · rcases hvalues c hc with rfl | hold
      · exact KeyedDict.putEqual_holds hsource
      · exact (ht.sources c hold).mono (KeyedDict.putEqual_extends hsource)
    · rcases hvalues c hc with rfl | hold
      · exact KeyedDict.putEqual_holds hinstrument
      · exact (ht.instruments c hold).mono (KeyedDict.putEqual_extends hinstrument)

theorem foldlM_add_sound {bs : List ReplayMarketDataBinding} {t u : BindingTables}
    (h : bs.foldlM BindingTables.add t = .ok u) (ht : t.Sound) : u.Sound := by
  induction bs generalizing t with
  | nil =>
    cases h
    exact ht
  | cons b bs ih =>
    rw [List.foldlM_cons] at h
    obtain ⟨v, hadd, hrest⟩ := bind_eq_ok.mp h
    exact ih hrest (BindingTables.add_sound hadd ht)

/-- Canonical bindings: sorted, one for each key, and one meaning for each id. -/
structure CanonicalBindings (bs : List ReplayMarketDataBinding) : Prop where
  keys : (bs.map replay_market_binding_key).Nodup
  sorted : SortedBy bindingOrder bs
  ids : KeyedDict.Consistent bindingId id bs
  sources : KeyedDict.Consistent sourceKey id (bs.map (·.source))
  instruments : KeyedDict.Consistent instrumentKey id (bs.map (·.venue_instrument))

theorem canonical_of_validate {bs cs : List ReplayMarketDataBinding}
    (h : validate_replay_market_data_bindings bs = .ok cs) : CanonicalBindings cs := by
  obtain ⟨t, hfold, rfl⟩ := map_eq_ok.mp h
  have hsound := foldlM_add_sound hfold BindingTables.empty_sound
  have hmem : ∀ {b}, b ∈ sortBy bindingOrder t.by_key.values → b ∈ t.by_key.values :=
    (mem_sortBy bindingOrder).mp
  refine ⟨?_, sortBy_sorted _ _, fun b hb c hc hkey => ?_, ?_, ?_⟩
  · exact ((sortBy_perm _ _).map _).nodup_iff.mpr t.by_key.values_keys_nodup
  · exact (hsound.ids b (hmem hb)).unique (hsound.ids c (hmem hc)) hkey
  · intro s hs u hu hkey
    obtain ⟨b, hb, rfl⟩ := List.mem_map.mp hs
    obtain ⟨c, hc, rfl⟩ := List.mem_map.mp hu
    exact (hsound.sources b (hmem hb)).unique (hsound.sources c (hmem hc)) hkey
  · intro i hi j hj hkey
    obtain ⟨b, hb, rfl⟩ := List.mem_map.mp hi
    obtain ⟨c, hc, rfl⟩ := List.mem_map.mp hj
    exact (hsound.instruments b (hmem hb)).unique (hsound.instruments c (hmem hc)) hkey

/-- Bindings that the tables admit and that agree among themselves are added one by one. -/
theorem foldlM_add_ok {bs : List ReplayMarketDataBinding} {t : BindingTables}
    (hkeys : (bs.map replay_market_binding_key).Nodup)
    (hnew : ∀ b ∈ bs, t.by_key.get? (replay_market_binding_key b) = none)
    (hids : (∀ b ∈ bs, t.by_binding_id.Admits id b) ∧ KeyedDict.Consistent bindingId id bs)
    (hsources : (∀ b ∈ bs, t.by_source_id.Admits id b.source) ∧
      KeyedDict.Consistent sourceKey id (bs.map (·.source)))
    (hinstruments : (∀ b ∈ bs, t.by_instrument_id.Admits id b.venue_instrument) ∧
      KeyedDict.Consistent instrumentKey id (bs.map (·.venue_instrument))) :
    ∃ u, bs.foldlM BindingTables.add t = .ok u ∧ u.by_key.values = t.by_key.values ++ bs := by
  induction bs generalizing t with
  | nil => exact ⟨t, rfl, (List.append_nil _).symm⟩
  | cons b bs ih =>
    rw [List.map_cons, List.nodup_cons] at hkeys
    have htail : ∀ {c}, c ∈ bs → c ∈ b :: bs := List.mem_cons_of_mem b
    obtain ⟨ids, hid⟩ := (hids.1 b List.mem_cons_self).put
    obtain ⟨sources, hsource⟩ := (hsources.1 b List.mem_cons_self).put
    obtain ⟨instruments, hinstrument⟩ := (hinstruments.1 b List.mem_cons_self).put
    have hfresh : ∀ c ∈ bs,
        (t.by_key.put b).get? (replay_market_binding_key c) = none := by
      intro c hc
      have hne : replay_market_binding_key b ≠ replay_market_binding_key c := by
        intro heq
        rw [heq] at hkeys
        exact hkeys.1 (List.mem_map_of_mem hc)
      rw [KeyedDict.get?_put_ne _ hne]
      exact hnew c (htail hc)
    have hadd : t.add b = .ok ⟨t.by_key.put b, ids, sources, instruments⟩ := by
      unfold BindingTables.add
      rw [hnew b List.mem_cons_self]
      simp only [hid, hsource, hinstrument]
    obtain ⟨u, hfold, hvalues⟩ := ih (t := ⟨t.by_key.put b, ids, sources, instruments⟩) hkeys.2
      hfresh
      ⟨fun c hc => (hids.1 c (htail hc)).after hid (hids.2 b List.mem_cons_self c (htail hc)),
        fun c hc d hd => hids.2 c (htail hc) d (htail hd)⟩
      ⟨fun c hc => (hsources.1 c (htail hc)).after hsource
          (hsources.2 _ (List.mem_map_of_mem List.mem_cons_self) _
            (List.mem_map_of_mem (htail hc))),
        fun c hc d hd => hsources.2 c (List.mem_cons_of_mem _ hc) d (List.mem_cons_of_mem _ hd)⟩
      ⟨fun c hc => (hinstruments.1 c (htail hc)).after hinstrument
          (hinstruments.2 _ (List.mem_map_of_mem List.mem_cons_self) _
            (List.mem_map_of_mem (htail hc))),
        fun c hc d hd =>
          hinstruments.2 c (List.mem_cons_of_mem _ hc) d (List.mem_cons_of_mem _ hd)⟩
    refine ⟨u, ?_, ?_⟩
    · rw [List.foldlM_cons]
      exact bind_eq_ok.mpr ⟨_, hadd, hfold⟩
    · rw [hvalues, KeyedDict.put_of_new (hnew b List.mem_cons_self), List.append_assoc,
        List.singleton_append]

/-- Checking canonical bindings again changes nothing. -/
theorem validate_canonical {bs : List ReplayMarketDataBinding} (h : CanonicalBindings bs) :
    validate_replay_market_data_bindings bs = .ok bs := by
  have hadmits : ∀ {κ ν : Type} [DecidableEq κ] {key : ν → κ} (v : ν),
      (KeyedDict.empty : KeyedDict key).Admits id v := fun v w hw => absurd hw (by simp)
  obtain ⟨t, hfold, hvalues⟩ := foldlM_add_ok (t := BindingTables.empty) h.keys (fun _ _ => rfl)
    ⟨fun b _ => hadmits b, h.ids⟩ ⟨fun b _ => hadmits b.source, h.sources⟩
    ⟨fun b _ => hadmits b.venue_instrument, h.instruments⟩
  have hnil : BindingTables.empty.by_key.values = [] := rfl
  rw [hnil, List.nil_append] at hvalues
  rw [validate_replay_market_data_bindings, hfold, Except.map, hvalues,
    (sortBy_eq_self bindingOrder).mpr h.sorted]

def build_replay_market_adapter_authority (descriptor : ReplayMarketAdapterDescriptor)
    (bindings : List ReplayMarketDataBinding) : Except MarketError ReplayMarketAdapterAuthority :=
  match h : validate_replay_market_data_bindings bindings with
  | .error e => .error e
  | .ok canonical =>
    if hne : canonical = [] then
      .error (.check "adapter authority bindings must be non-empty")
    else .ok ⟨descriptor, canonical, hne, validate_canonical (canonical_of_validate h)⟩

/-! The record of an event. -/

def validate_replay_event_record_consistency (event : ReplayTimelineEvent)
    (record : PayloadRecord) : Except MarketError Unit :=
  checkAll [
    require (event.record_id = record.record_id)
      (.check "replay event record_id must match input record"),
    require (event.kind = record.kind) (.check "replay event kind must match input record"),
    require (event.instrument = record.instrument)
      (.check "replay event instrument must match input record"),
    require (event.event_time = record.event_time)
      (.check "replay event event_time must match input record"),
    require (event.source_sequence = record.source_sequence)
      (.check "replay event source_sequence must match input record"),
    require (event.content_hash = record.content_hash)
      (.check "replay event content_hash must match input record")]

def resolve_replay_input_record (event : ReplayTimelineEvent) (input_batches : List PayloadBatch) :
    Except MarketError PayloadRecord :=
  if ¬ (input_batches.map fun b => b.batch_id).Nodup then
    .error (.check "duplicate replay input batch ID")
  else
    match input_batches.find? fun b => b.batch_id = event.batch_id with
    | none => .error (.check "event batch_id does not identify an input batch")
    | some batch =>
      if batch.input_dataset_id ≠ event.input_dataset_id then
        .error (.check "batch input_dataset_id must match event input_dataset_id")
      else if batch.validation_status ≠ .VALIDATED then
        .error (.check "input batch must be VALIDATED")
      else
        match batch.records.filter fun r => r.record_id = event.record_id with
        | [] => .error (.check "event record_id does not identify an input record")
        | [record] =>
          match validate_replay_event_record_consistency event record with
          | .error e => .error e
          | .ok () => .ok record
        | _ => .error (.check "event record_id identifies multiple input records")

/-! The observation of an event. -/

def payloadItem (payload : Dict String PayloadItem) (key : String) : PayloadItem :=
  (payload.get? key).getD .null

/-- `_decimal_field`, with the check of the model that takes the decimal. -/
def decimalField (payload : Dict String PayloadItem) (key : String) : Except MarketError Decimal :=
  match payloadItem payload key with
  | .decimal d => .ok d
  | _ => .error (.check ("payload field '" ++ key ++ "' must be Decimal"))

/-- `_positive_decimal`. -/
def positiveDecimalOf (field_name : String) (d : Decimal) : Except MarketError PositiveDecimal :=
  if h : d.positive = true then .ok ⟨d, h⟩
  else .error (.check (field_name ++ " must be strictly positive"))

/-- `_optional_text`. -/
def optionalText (payload : Dict String PayloadItem) (key : String) :
    Except MarketError (Option TrimmedText) :=
  let refused := .error
    (.check ("payload field '" ++ key ++ "' must be a non-empty trimmed string"))
  match payloadItem payload key with
  | .null => .ok none
  | .text s =>
    match TrimmedText.of s with
    | some t => .ok (some t)
    | none => refused
  | _ => refused

/-- `_aggressor_side`. -/
def aggressorSide : PayloadItem → Except MarketError AggressorSide
  | .null => .ok .UNKNOWN
  | .text "buy" => .ok .BUY
  | .text "sell" => .ok .SELL
  | _ => .error (.check "trade side must be 'buy' or 'sell' when present")

/-- `_market_payload_for_record`. -/
def marketPayloadForRecord (event : ReplayTimelineEvent) (record : PayloadRecord)
    (binding : ReplayMarketDataBinding) : Except MarketError MarketObservationPayload :=
  match record.kind with
  | .TRADE => do
    let trade_id ← optionalText record.payload "trade_id"
    let price ← decimalField record.payload "price"
    let quantity ← decimalField record.payload "quantity"
    let aggressor_side ← aggressorSide (payloadItem record.payload "side")
    let price ← positiveDecimalOf "trade payload decimal" price
    let quantity ← positiveDecimalOf "trade payload decimal" quantity
    .ok (.trade (trade_id.getD event.event_id) price quantity aggressor_side)
  | .ORDER_BOOK_TOP => do
    let bid_price ← decimalField record.payload "bid_price"
    let bid_quantity ← decimalField record.payload "bid_size"
    let ask_price ← decimalField record.payload "ask_price"
    let ask_quantity ← decimalField record.payload "ask_size"
    let bid_price ← positiveDecimalOf "top-of-book payload decimal" bid_price
    let bid_quantity ← positiveDecimalOf "top-of-book payload decimal" bid_quantity
    let ask_price ← positiveDecimalOf "top-of-book payload decimal" ask_price
    let ask_quantity ← positiveDecimalOf "top-of-book payload decimal" ask_quantity
    if h : Decimal.lt ask_price.1 bid_price.1 = false then
      .ok (.topOfBook bid_price bid_quantity ask_price ask_quantity binding.quote_semantics h)
    else .error (.check "top-of-book bid_price must be <= ask_price")
  | .MARK_PRICE => do
    let price ← decimalField record.payload "price"
    let price ← positiveDecimalOf "mark price" price
    .ok (.markPrice price)
  | .INDEX_PRICE => do
    let price ← decimalField record.payload "price"
    let price ← positiveDecimalOf "index price" price
    .ok (.indexPrice price)
  | _ => .error (.check "unsupported replay input kind for market observation projection")

/-- `validate_sha256_prefixed`. -/
def sha256Prefixed (value : String) : Except MarketError HexDigest :=
  let digits := value.toList.drop 7
  if h : "sha256:".toList.isPrefixOf value.toList = true ∧ digits.length = 64 ∧
      (digits.all fun c => c.isDigit || ('a' ≤ c && c ≤ 'f')) = true then
    .ok {
      value := String.ofList digits
      hex := by
        rw [String.toList_ofList]
        refine ⟨h.2.1, fun c hc => ?_⟩
        have hchar := List.all_eq_true.mp h.2.2 c hc
        simpa using hchar }
  else .error (.check "value must match sha256:<64 lowercase hex>")

variable (digests : ReplayMarketDigests)

/-- `_raw_payload_sha256`. -/
def rawPayloadSha256 (event : ReplayTimelineEvent) (record : PayloadRecord) :
    ReplayMarketPayloadHashPolicy → Except MarketError HexDigest
  | .REQUIRE_SUPPLIED_SHA256 =>
    match record.content_hash with
    | none => .error (.check "content_hash is required by payload hash policy")
    | some content_hash => sha256Prefixed content_hash.value
  | .CANONICAL_REPLAY_RECORD =>
    .ok (digests.raw_payload event.batch_id event.input_dataset_id record)

/-- The source of a binding is not a venue of its own. -/
theorem ReplayMarketDataBinding.direct (b : ReplayMarketDataBinding) :
    DirectVenueMatches b.source b.venue_instrument := by
  intro h
  rcases b.replayed with hkind | hkind
  · exact absurd (hkind.symm.trans h) (by decide)
  · exact absurd (hkind.symm.trans h) (by decide)

def project_replay_record_to_market_observation (timeline_id : TrimmedText)
    (event : ReplayTimelineEvent) (record : PayloadRecord)
    (binding_authority : ReplayMarketBindingAuthority) :
    Except MarketError (ReplayMarketObservationProjection digests) := do
  let binding := binding_authority.binding
  let descriptor := binding_authority.descriptor
  validate_replay_event_record_consistency event record
  checkAll [
    require (event.input_dataset_id = binding.input_dataset_id)
      (.check "event input_dataset_id must match replay market binding"),
    require (record.instrument = binding.replay_instrument)
      (.check "record instrument must match replay market binding"),
    require (event.kind ∈ descriptor.supported_input_kinds)
      (.check "event kind is not supported by replay market adapter")]
  let payload ← marketPayloadForRecord event record binding
  let raw_payload_sha256 ← rawPayloadSha256 digests event record descriptor.payload_hash_policy
  let observation : NormalizedMarketObservation := {
    source := binding.source
    instrument := binding.venue_instrument
    provenance := {
      source_event_id := event.event_id
      source_event_time := some record.event_time
      engine_time := none
      received_at := record.event_time
      received_monotonic_ns := 0
      source_sequence := some record.source_sequence
      connection_id :=
        digests.build_replay_market_connection_id event.input_dataset_id binding_authority
      reconnect_generation := 0
      raw_payload_sha256 }
    payload
    direct := binding.direct }
  let projection : ObservationProjectionFields := {
    timeline_id
    event_id := event.event_id
    event_order_index := event.order_index
    event_time := event.event_time
    batch_id := event.batch_id
    input_dataset_id := event.input_dataset_id
    record_id := event.record_id
    event_kind := event.kind
    binding_authority
    observation }
  checkAll (projection.validateObservationKind ++ projection.validateProjectionBinding ++
    projection.validateObservationProvenance digests)
  ReplayMarketObservationProjection.of digests projection

/-! The frames of a timeline. -/

/-- The projections made so far, and those of each logical instrument. -/
structure Projected where
  accumulated : Accumulated (ReplayMarketObservationProjection digests)
  observation_projections : List (ReplayMarketObservationProjection digests)
  frame_projections : List (ReplayMarketFrameProjection digests)

def Projected.empty : Projected digests := ⟨Dict.empty, [], []⟩

/-- One event: an event of another kind is passed over. -/
def projectEvent (timeline_id : TrimmedText) (input_batches : List PayloadBatch)
    (authority : ReplayMarketAdapterAuthority) (s : Projected digests)
    (event : ReplayTimelineEvent) : Except MarketError (Projected digests) :=
  if event.kind ∉ authority.descriptor.supported_input_kinds then .ok s
  else do
    let record ← resolve_replay_input_record event input_batches
    let key := instrumentBindingKey event.input_dataset_id record.instrument
    -- a later binding of one key replaces an earlier one
    match authority.bindings.reverse.find? fun b => replay_market_binding_key b = key with
    | none => .error (.check "no replay market binding matches supported event")
    | some binding =>
      let projection ← project_replay_record_to_market_observation digests timeline_id event record
        ⟨authority.descriptor, binding⟩
      let logical := projection.observation.instrument.logical_instrument
      let accumulated := s.accumulated.add logical projection
      let frame ← build_cross_venue_market_frame digests.toMarketDigests logical event.event_time
        (((accumulated.of logical).filter fun item =>
          item.event_order_index ≤ event.order_index).map fun item => item.observation) []
      let frame_projection ← ReplayMarketFrameProjection.of digests {
        timeline_id
        event_id := event.event_id
        event_order_index := event.order_index
        event_time := event.event_time
        triggering_observation_projection_id := projection.projection_id
        triggering_observation_id := digests.observation_id projection.observation
        frame }
      .ok ⟨accumulated, s.observation_projections ++ [projection],
        s.frame_projections ++ [frame_projection]⟩

def build_replay_market_frame_timeline (replay_timeline : ReplayTimeline)
    (input_batches : List PayloadBatch) (descriptor : ReplayMarketAdapterDescriptor)
    (bindings : List ReplayMarketDataBinding) :
    Except MarketError (ReplayMarketFrameTimeline digests) := do
  checkAll [
    require (replay_timeline.status = .BUILT ∨ replay_timeline.status = .VALIDATED)
      (.check "replay timeline must be BUILT or VALIDATED")]
  let adapter_authority ← build_replay_market_adapter_authority descriptor bindings
  let projected ← replay_timeline.events.foldlM
    (projectEvent digests replay_timeline.timeline_id input_batches adapter_authority)
    (Projected.empty digests)
  ReplayMarketFrameTimeline.of digests {
    replay_timeline_id := replay_timeline.timeline_id
    replay_plan_id := replay_timeline.replay_plan_id
    adapter_authority
    observation_projections := projected.observation_projections
    frame_projections := projected.frame_projections }

end FuturesBot.Market
