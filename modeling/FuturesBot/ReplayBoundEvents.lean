import FuturesBot.ReplayLookAhead

/-! The observation of one event of a replay: what the adapter needs to make it. -/
namespace FuturesBot.Market

open TextLines DateTimes DecimalNumbers Checks Dicts KeySorting Selections
open Replay (ReplayInputKind ReplayInstrumentRef ReplayTimeline ReplayTimelineEvent)

/-- The observation of an event, as the loop over the events makes it. -/
def eventObservation (digests : ReplayMarketDigests) (timeline_id : TrimmedText)
    (input_batches : List PayloadBatch) (authority : ReplayMarketAdapterAuthority)
    (event : ReplayTimelineEvent) : Except MarketError (ReplayMarketObservationProjection digests) :=
  do
    let record ← resolve_replay_input_record event input_batches
    match authority.bindings.reverse.find? fun b => replay_market_binding_key b =
        instrumentBindingKey event.input_dataset_id record.instrument with
    | none => .error (.check "no replay market binding matches supported event")
    | some binding =>
      project_replay_record_to_market_observation digests timeline_id event record
        ⟨authority.descriptor, binding⟩

variable {digests : ReplayMarketDigests} {timeline_id : TrimmedText}
  {input_batches : List PayloadBatch} {authority : ReplayMarketAdapterAuthority}
  {event : ReplayTimelineEvent} {record : PayloadRecord} {binding : ReplayMarketDataBinding}

/-- The record that an event was made of. -/
structure RecordOf (event : ReplayTimelineEvent) (record : PayloadRecord) : Prop where
  record_id : event.record_id = record.record_id
  kind : event.kind = record.kind
  instrument : event.instrument = record.instrument
  event_time : event.event_time = record.event_time
  source_sequence : event.source_sequence = record.source_sequence
  content_hash : event.content_hash = record.content_hash

theorem consistency_iff :
    validate_replay_event_record_consistency event record = .ok () ↔ RecordOf event record := by
  simp only [validate_replay_event_record_consistency, checkAll_require, checkAll_nil, and_true]
  constructor
  · rintro ⟨h1, h2, h3, h4, h5, h6⟩
    exact ⟨h1, h2, h3, h4, h5, h6⟩
  · intro h
    exact ⟨h.record_id, h.kind, h.instrument, h.event_time, h.source_sequence, h.content_hash⟩

/-- An event with a validated batch that has its record, a binding of its instrument, and a
payload of the shape that its kind asks for. -/
structure BoundEvent (digests : ReplayMarketDigests) (input_batches : List PayloadBatch)
    (authority : ReplayMarketAdapterAuthority) (event : ReplayTimelineEvent)
    (record : PayloadRecord) (binding : ReplayMarketDataBinding) : Prop where
  batch : ∃ batch ∈ input_batches, batch.batch_id = event.batch_id ∧
    batch.input_dataset_id = event.input_dataset_id ∧ batch.validation_status = .VALIDATED ∧
      record ∈ batch.records
  record_of : RecordOf event record
  bound : binding ∈ authority.bindings
  dataset : binding.input_dataset_id = event.input_dataset_id
  instrument : binding.replay_instrument = event.instrument
  payload : ∃ payload, marketPayloadForRecord event record binding = .ok payload
  hashed : ∃ raw, rawPayloadSha256 digests event record
    authority.descriptor.payload_hash_policy = .ok raw

theorem BoundEvent.resolved (hbatches : (input_batches.map fun b => b.batch_id).Nodup)
    (h : BoundEvent digests input_batches authority event record binding) :
    resolve_replay_input_record event input_batches = .ok record := by
  obtain ⟨batch, hbatch, hid, hdataset, hvalidated, hrecord⟩ := h.batch
  have hfind : (input_batches.find? fun b => b.batch_id = event.batch_id) = some batch := by
    cases hfound : input_batches.find? fun b => b.batch_id = event.batch_id with
    | none =>
      have hnot := List.find?_eq_none.mp hfound batch hbatch
      exact absurd (decide_eq_true hid) hnot
    | some other =>
      have hother : other.batch_id = event.batch_id := by simpa using List.find?_some hfound
      have hmem := List.mem_of_find?_eq_some hfound
      exact congrArg some
        (List.inj_on_of_nodup_map hbatches hmem hbatch (hother.trans hid.symm))
  have hfilter : (batch.records.filter fun r => r.record_id = event.record_id) = [record] := by
    -- the ids of the records of a batch are unique
    have hsame : ∀ r ∈ batch.records, r.record_id = event.record_id ↔ r = record := by
      intro r hr
      constructor
      · intro heq
        exact List.inj_on_of_nodup_map batch.unique_ids hr hrecord
          (heq.trans h.record_of.record_id)
      · rintro rfl
        exact h.record_of.record_id.symm
    have hnodup : (batch.records.filter fun r => r.record_id = event.record_id).Nodup :=
      (List.Nodup.of_map _ batch.unique_ids).filter _
    refine List.perm_singleton.mp ((List.perm_ext_iff_of_nodup hnodup
      (List.nodup_singleton record)).mpr fun r => ?_)
    rw [List.mem_filter, List.mem_singleton, decide_eq_true_eq]
    constructor
    · rintro ⟨hr, heq⟩
      exact (hsame r hr).mp heq
    · rintro rfl
      exact ⟨hrecord, h.record_of.record_id.symm⟩
  rw [resolve_replay_input_record, if_neg (not_not.mpr hbatches), hfind]
  simp only [hdataset, hvalidated, ne_eq, not_true_eq_false, if_false, hfilter]
  rw [consistency_iff.mpr h.record_of]

/-- The first binding met under the key of an event is the one of its instrument. -/
theorem BoundEvent.found
    (h : BoundEvent digests input_batches authority event record binding) :
    (authority.bindings.reverse.find? fun b => replay_market_binding_key b =
      instrumentBindingKey event.input_dataset_id record.instrument) = some binding := by
  have hkey : replay_market_binding_key binding =
      instrumentBindingKey event.input_dataset_id record.instrument := by
    rw [replay_market_binding_key, h.dataset, h.instrument, h.record_of.instrument]
  have hkeys := (canonical_of_validate authority.canonical).keys
  cases hfound : authority.bindings.reverse.find? fun b => replay_market_binding_key b =
      instrumentBindingKey event.input_dataset_id record.instrument with
  | none =>
    have hnot := List.find?_eq_none.mp hfound binding (List.mem_reverse.mpr h.bound)
    exact absurd (decide_eq_true hkey) hnot
  | some other =>
    have hother : replay_market_binding_key other =
        instrumentBindingKey event.input_dataset_id record.instrument := by
      simpa using List.find?_some hfound
    have hmem := List.mem_reverse.mp (List.mem_of_find?_eq_some hfound)
    exact congrArg some (List.inj_on_of_nodup_map hkeys hmem h.bound (hother.trans hkey.symm))

/-- A payload is of the kind that its event is observed as. -/
theorem payload_kind {payload : MarketObservationPayload}
    (h : marketPayloadForRecord event record binding = .ok payload) :
    observationKind record.kind = some payload.kind := by
  unfold marketPayloadForRecord at h
  split at h
  · next hkind =>
    obtain ⟨_, -, h⟩ := bind_eq_ok.mp h
    obtain ⟨_, -, h⟩ := bind_eq_ok.mp h
    obtain ⟨_, -, h⟩ := bind_eq_ok.mp h
    obtain ⟨_, -, h⟩ := bind_eq_ok.mp h
    obtain ⟨_, -, h⟩ := bind_eq_ok.mp h
    obtain ⟨_, -, h⟩ := bind_eq_ok.mp h
    cases h
    rw [hkind]
    rfl
  · next hkind =>
    obtain ⟨_, -, h⟩ := bind_eq_ok.mp h
    obtain ⟨_, -, h⟩ := bind_eq_ok.mp h
    obtain ⟨_, -, h⟩ := bind_eq_ok.mp h
    obtain ⟨_, -, h⟩ := bind_eq_ok.mp h
    obtain ⟨_, -, h⟩ := bind_eq_ok.mp h
    obtain ⟨_, -, h⟩ := bind_eq_ok.mp h
    obtain ⟨_, -, h⟩ := bind_eq_ok.mp h
    obtain ⟨_, -, h⟩ := bind_eq_ok.mp h
    split_ifs at h
    cases h
    rw [hkind]
    rfl
  · next hkind =>
    obtain ⟨_, -, h⟩ := bind_eq_ok.mp h
    obtain ⟨_, -, h⟩ := bind_eq_ok.mp h
    cases h
    rw [hkind]
    rfl
  · next hkind =>
    obtain ⟨_, -, h⟩ := bind_eq_ok.mp h
    obtain ⟨_, -, h⟩ := bind_eq_ok.mp h
    cases h
    rw [hkind]
    rfl
  · cases h

/-- The observation of an event, with the number and the binding of the event. -/
structure ObservedAs (digests : ReplayMarketDigests) (timeline_id : TrimmedText)
    (input_batches : List PayloadBatch) (authority : ReplayMarketAdapterAuthority)
    (event : ReplayTimelineEvent) (o : ReplayMarketObservationProjection digests) : Prop where
  made : eventObservation digests timeline_id input_batches authority event = .ok o
  observation : ObservationOf timeline_id authority event o
  sequence_eq : o.observation.provenance.source_sequence = some event.source_sequence
  instrument_eq : o.binding_authority.binding.replay_instrument = event.instrument

/-- A bound event of a supported kind is observed. -/
theorem BoundEvent.observed (hbatches : (input_batches.map fun b => b.batch_id).Nodup)
    (hkind : event.kind ∈ authority.descriptor.supported_input_kinds)
    (h : BoundEvent digests input_batches authority event record binding) :
    ∃ o, ObservedAs digests timeline_id input_batches authority event o := by
  obtain ⟨payload, hpayload⟩ := h.payload
  obtain ⟨raw, hraw⟩ := h.hashed
  have hobserved : observationKind event.kind = some payload.kind := by
    rw [h.record_of.kind]
    exact payload_kind hpayload
  let p : ObservationProjectionFields := {
    timeline_id
    event_id := event.event_id
    event_order_index := event.order_index
    event_time := event.event_time
    batch_id := event.batch_id
    input_dataset_id := event.input_dataset_id
    record_id := event.record_id
    event_kind := event.kind
    binding_authority := ⟨authority.descriptor, binding⟩
    observation := {
      source := binding.source
      instrument := binding.venue_instrument
      provenance := {
        source_event_id := event.event_id
        source_event_time := some record.event_time
        engine_time := none
        received_at := record.event_time
        received_monotonic_ns := 0
        source_sequence := some record.source_sequence
        connection_id := digests.build_replay_market_connection_id event.input_dataset_id
          ⟨authority.descriptor, binding⟩
        reconnect_generation := 0
        raw_payload_sha256 := raw }
      payload
      direct := binding.direct } }
  have hkinds : checkAll p.validateObservationKind = .ok () := by
    simp [ObservationProjectionFields.validateObservationKind, p, hobserved]
  have hdescriptor : checkAll p.validateProjectionDescriptor = .ok () := by
    simp only [ObservationProjectionFields.validateProjectionDescriptor, checkAll_require,
      checkAll_nil, and_true]
    exact hkind
  have hbinding : checkAll p.validateProjectionBinding = .ok () := by
    simp [ObservationProjectionFields.validateProjectionBinding, p, h.dataset]
  have hprovenance : checkAll (p.validateObservationProvenance digests) = .ok () := by
    simp [ObservationProjectionFields.validateObservationProvenance, p, binding.replayed,
      h.record_of.event_time]
  have hvalid : checkAll (p.validate digests) = .ok () := by
    rw [ObservationProjectionFields.validate, checkAll_append, checkAll_append, checkAll_append]
    exact ⟨⟨⟨hkinds, hdescriptor⟩, hbinding⟩, hprovenance⟩
  have hproject : project_replay_record_to_market_observation digests timeline_id event record
      ⟨authority.descriptor, binding⟩ = .ok ⟨p, hvalid⟩ := by
    rw [project_replay_record_to_market_observation]
    refine bind_eq_ok.mpr ⟨(), consistency_iff.mpr h.record_of, bind_eq_ok.mpr ⟨(), ?_,
      bind_eq_ok.mpr ⟨payload, hpayload, bind_eq_ok.mpr ⟨raw, hraw, bind_eq_ok.mpr ⟨(), ?_,
        observation_of_eq_ok.mpr ⟨hvalid, rfl⟩⟩⟩⟩⟩⟩
    · simp only [checkAll_require, checkAll_nil, and_true]
      exact ⟨h.dataset.symm, h.record_of.instrument.symm.trans h.instrument.symm, hkind⟩
    · rw [checkAll_append, checkAll_append]
      exact ⟨⟨hkinds, hbinding⟩, hprovenance⟩
  refine ⟨⟨p, hvalid⟩, ?_, observationOf_of_project h.found hproject,
    congrArg some h.record_of.source_sequence.symm, h.instrument⟩
  rw [eventObservation]
  refine bind_eq_ok.mpr ⟨record, h.resolved hbatches, ?_⟩
  simp only [h.found]
  exact hproject

end FuturesBot.Market
