import FuturesBot.FrameSelection
import FuturesBot.ReplayMarketAdapter

/-! The frames of a replay do not look ahead: each one is made of the observations up to its
event, and is the same whatever follows. -/
namespace FuturesBot.Market

open TextLines DateTimes DecimalNumbers Checks Dicts KeySorting Selections
open Replay (ReplayInputKind ReplayInstrumentRef ReplayTimeline ReplayTimelineEvent)

section Accumulated

variable {α : Type}

theorem Accumulated.of_add (a : Accumulated α) (i j : InstrumentSymbol) (x : α) :
    (a.add i x).of j = if i = j then a.of j ++ [x] else a.of j := by
  rw [Accumulated.of, Accumulated.add, Dict.get?_set]
  split
  · rename_i h
    subst h
    rfl
  · rfl

end Accumulated

variable {digests : ReplayMarketDigests}

abbrev ReplayMarketObservationProjection.logical
    (o : ReplayMarketObservationProjection digests) : InstrumentSymbol :=
  o.observation.instrument.logical_instrument

/-! What is made of one event. -/

theorem observation_of_eq_ok {p : ObservationProjectionFields}
    {o : ReplayMarketObservationProjection digests} :
    ReplayMarketObservationProjection.of digests p = .ok o ↔
      checkAll (p.validate digests) = .ok () ∧ o.toObservationProjectionFields = p := by
  rw [ReplayMarketObservationProjection.of, validated_eq_ok]
  constructor
  · rintro ⟨h, rfl⟩
    exact ⟨h, rfl⟩
  · rintro ⟨h, rfl⟩
    exact ⟨h, rfl⟩

theorem frame_projection_of_eq_ok {p : FrameProjectionFields}
    {f : ReplayMarketFrameProjection digests} :
    ReplayMarketFrameProjection.of digests p = .ok f ↔
      checkAll (p.validate digests) = .ok () ∧ f.toFrameProjectionFields = p := by
  rw [ReplayMarketFrameProjection.of, validated_eq_ok]
  constructor
  · rintro ⟨h, rfl⟩
    exact ⟨h, rfl⟩
  · rintro ⟨h, rfl⟩
    exact ⟨h, rfl⟩

theorem frame_timeline_of_eq_ok {p : FrameTimelineFields digests}
    {t : ReplayMarketFrameTimeline digests} :
    ReplayMarketFrameTimeline.of digests p = .ok t ↔
      p.validateSemantics = .ok () ∧ t.toFrameTimelineFields = p := by
  rw [ReplayMarketFrameTimeline.of, validated_eq_ok]
  constructor
  · rintro ⟨h, rfl⟩
    exact ⟨h, rfl⟩
  · rintro ⟨h, rfl⟩
    exact ⟨h, rfl⟩

/-- The observation projected from an event. -/
structure ObservationOf (timeline_id : TrimmedText) (authority : ReplayMarketAdapterAuthority)
    (event : ReplayTimelineEvent) (o : ReplayMarketObservationProjection digests) : Prop where
  timeline_id_eq : o.timeline_id = timeline_id
  event_id_eq : o.event_id = event.event_id
  order_index_eq : o.event_order_index = event.order_index
  event_time_eq : o.event_time = event.event_time
  batch_id_eq : o.batch_id = event.batch_id
  input_dataset_id_eq : o.input_dataset_id = event.input_dataset_id
  record_id_eq : o.record_id = event.record_id
  event_kind_eq : o.event_kind = event.kind
  descriptor_eq : o.binding_authority.descriptor = authority.descriptor
  bound : (authority.bindings.reverse.find? fun b =>
    replay_market_binding_key b = replay_market_binding_key o.binding_authority.binding) =
      some o.binding_authority.binding

/-- The frame that an event leaves: it is built of the observations so far, the event's among
them. -/
structure FrameOf (timeline_id : TrimmedText)
    (before : List (ReplayMarketObservationProjection digests))
    (o : ReplayMarketObservationProjection digests) (f : ReplayMarketFrameProjection digests) :
    Prop where
  timeline_id_eq : f.timeline_id = timeline_id
  event_id_eq : f.event_id = o.event_id
  order_index_eq : f.event_order_index = o.event_order_index
  event_time_eq : f.event_time = o.event_time
  projection_eq : f.triggering_observation_projection_id = o.projection_id
  observation_eq : f.triggering_observation_id = digests.observation_id o.observation
  built : build_cross_venue_market_frame digests.toMarketDigests o.logical o.event_time
    ((((before ++ [o]).filter fun p => p.logical = o.logical).filter fun p =>
      p.event_order_index ≤ o.event_order_index).map fun p => p.observation) [] = .ok f.frame

theorem project_eq_ok {timeline_id : TrimmedText} {event : ReplayTimelineEvent}
    {record : PayloadRecord} {a : ReplayMarketBindingAuthority}
    {o : ReplayMarketObservationProjection digests}
    (h : project_replay_record_to_market_observation digests timeline_id event record a = .ok o) :
    o.timeline_id = timeline_id ∧ o.event_id = event.event_id ∧
      o.event_order_index = event.order_index ∧ o.event_time = event.event_time ∧
      o.batch_id = event.batch_id ∧ o.input_dataset_id = event.input_dataset_id ∧
      o.record_id = event.record_id ∧ o.event_kind = event.kind ∧ o.binding_authority = a ∧
      event.input_dataset_id = a.binding.input_dataset_id ∧
      record.instrument = a.binding.replay_instrument := by
  rw [project_replay_record_to_market_observation] at h
  obtain ⟨-, -, h⟩ := bind_eq_ok.mp h
  obtain ⟨⟨⟩, hchecks, h⟩ := bind_eq_ok.mp h
  obtain ⟨payload, -, h⟩ := bind_eq_ok.mp h
  obtain ⟨raw, -, h⟩ := bind_eq_ok.mp h
  obtain ⟨⟨⟩, -, h⟩ := bind_eq_ok.mp h
  obtain ⟨-, hfields⟩ := observation_of_eq_ok.mp h
  simp only [checkAll_require] at hchecks
  rw [hfields]
  exact ⟨rfl, rfl, rfl, rfl, rfl, rfl, rfl, rfl, rfl, hchecks.1, hchecks.2.1⟩

section Events

variable {timeline_id : TrimmedText} {input_batches : List PayloadBatch}
  {authority : ReplayMarketAdapterAuthority} {s t : Projected digests}
  {event : ReplayTimelineEvent} {events : List ReplayTimelineEvent}

theorem observationOf_of_project {record : PayloadRecord} {binding : ReplayMarketDataBinding}
    {o : ReplayMarketObservationProjection digests}
    (hbound : (authority.bindings.reverse.find? fun b => replay_market_binding_key b =
      instrumentBindingKey event.input_dataset_id record.instrument) = some binding)
    (h : project_replay_record_to_market_observation digests timeline_id event record
      ⟨authority.descriptor, binding⟩ = .ok o) :
    ObservationOf timeline_id authority event o := by
  obtain ⟨h1, h2, h3, h4, h5, h6, h7, h8, hauthority, hdataset, hinstrument⟩ := project_eq_ok h
  refine ⟨h1, h2, h3, h4, h5, h6, h7, h8, ?_, ?_⟩
  · rw [hauthority]
  · rw [hauthority]
    have hkey : replay_market_binding_key binding =
        instrumentBindingKey event.input_dataset_id record.instrument := by
      rw [replay_market_binding_key, hdataset, hinstrument]
    rw [hkey]
    exact hbound

/-- What an event does: nothing when its kind is not projected, and otherwise it adds one
observation and the frame of the observations so far. -/
theorem projectEvent_cases
    (h : projectEvent digests timeline_id input_batches authority s event = .ok t) :
    (event.kind ∉ authority.descriptor.supported_input_kinds ∧ t = s) ∨
      (event.kind ∈ authority.descriptor.supported_input_kinds ∧
        ∃ o f, ObservationOf timeline_id authority event o ∧
          t = ⟨s.accumulated.add o.logical o, s.observation_projections ++ [o],
            s.frame_projections ++ [f]⟩ ∧
          f.timeline_id = timeline_id ∧ f.event_id = event.event_id ∧
          f.event_order_index = event.order_index ∧ f.event_time = event.event_time ∧
          f.triggering_observation_projection_id = o.projection_id ∧
          f.triggering_observation_id = digests.observation_id o.observation ∧
          build_cross_venue_market_frame digests.toMarketDigests o.logical event.event_time
            ((((s.accumulated.of o.logical) ++ [o]).filter fun item =>
              item.event_order_index ≤ event.order_index).map fun item => item.observation) [] =
                .ok f.frame) := by
  unfold projectEvent at h
  split_ifs at h with hkind
  · obtain ⟨record, -, h⟩ := bind_eq_ok.mp h
    simp only at h
    split at h
    · cases h
    · rename_i binding hbinding
      obtain ⟨o, hproject, h⟩ := bind_eq_ok.mp h
      obtain ⟨frame, hframe, h⟩ := bind_eq_ok.mp h
      obtain ⟨f, hf, h⟩ := bind_eq_ok.mp h
      obtain ⟨-, hfields⟩ := frame_projection_of_eq_ok.mp hf
      rw [Accumulated.of_add, if_pos rfl] at hframe
      refine .inr ⟨hkind, o, f, observationOf_of_project hbinding hproject,
        (Except.ok.inj h).symm, ?_⟩
      rw [hfields]
      exact ⟨rfl, rfl, rfl, rfl, rfl, rfl, hframe⟩
  · exact .inl ⟨hkind, (Except.ok.inj h).symm⟩

/-! The projections after any events. -/

def supportedEvents (authority : ReplayMarketAdapterAuthority)
    (events : List ReplayTimelineEvent) : List ReplayTimelineEvent :=
  events.filter fun e => e.kind ∈ authority.descriptor.supported_input_kinds

/-- One observation and one frame for each event that is projected, in the order of the
events. -/
structure ProjectedOf (timeline_id : TrimmedText) (authority : ReplayMarketAdapterAuthority)
    (events : List ReplayTimelineEvent) (s : Projected digests) : Prop where
  observations : List.Forall₂ (ObservationOf timeline_id authority)
    (supportedEvents authority events) s.observation_projections
  same_length : s.frame_projections.length = s.observation_projections.length
  accumulated : ∀ i, s.accumulated.of i = s.observation_projections.filter fun p => p.logical = i
  frames : ∀ before o after, s.observation_projections = before ++ o :: after →
    ∃ f, s.frame_projections[before.length]? = some f ∧ FrameOf timeline_id before o f

theorem ProjectedOf.empty : ProjectedOf timeline_id authority [] (Projected.empty digests) where
  observations := List.Forall₂.nil
  same_length := rfl
  accumulated _ := rfl
  frames before o after h := absurd h.symm (by simp [Projected.empty])

theorem supportedEvents_append (authority : ReplayMarketAdapterAuthority)
    (events rest : List ReplayTimelineEvent) :
    supportedEvents authority (events ++ rest) =
      supportedEvents authority events ++ supportedEvents authority rest :=
  List.filter_append events rest

theorem projectEvent_keeps (hs : ProjectedOf timeline_id authority events s)
    (h : projectEvent digests timeline_id input_batches authority s event = .ok t) :
    ProjectedOf timeline_id authority (events ++ [event]) t := by
  obtain ⟨hkind, rfl⟩ | ⟨hkind, o, f, ho, rfl, h1, h2, h3, h4, h5, h6, hbuilt⟩ :=
    projectEvent_cases h
  · -- an event that is passed over
    have hsame : supportedEvents authority (events ++ [event]) =
        supportedEvents authority events := by
      rw [supportedEvents_append, supportedEvents, supportedEvents,
        List.filter_singleton]
      simp [hkind]
    exact ⟨hsame ▸ hs.observations, hs.same_length, hs.accumulated, hs.frames⟩
  · have hadded : supportedEvents authority (events ++ [event]) =
        supportedEvents authority events ++ [event] := by
      rw [supportedEvents_append]
      simp [supportedEvents, hkind]
    refine ⟨?_, ?_, fun i => ?_, fun before o' after hsplit => ?_⟩
    · rw [hadded]
      exact List.rel_append hs.observations (List.Forall₂.cons ho List.Forall₂.nil)
    · simp only [List.length_append, hs.same_length, List.length_singleton]
    · rw [Accumulated.of_add, hs.accumulated, List.filter_append]
      by_cases hi : o.logical = i
      · simp [hi]
      · simp [hi]
    · rcases List.eq_nil_or_concat' after with rfl | ⟨after', last, rfl⟩
      · -- the new observation itself
        obtain ⟨hbefore, hlast⟩ := List.append_inj' hsplit rfl
        obtain rfl := List.cons.inj hlast |>.1
        subst hbefore
        refine ⟨f, ?_, ⟨h1, h2.trans ho.event_id_eq.symm, h3.trans ho.order_index_eq.symm,
          h4.trans ho.event_time_eq.symm, h5, h6, ?_⟩⟩
        · rw [← hs.same_length, List.getElem?_concat_length]
        · rw [hs.accumulated] at hbuilt
          rw [List.filter_append, ho.event_time_eq, ho.order_index_eq]
          simpa using hbuilt
      · -- an earlier one, whose frame stays where it is
        have hsplit' : s.observation_projections = before ++ o' :: after' := by
          have hconcat : s.observation_projections ++ [o] = (before ++ o' :: after') ++ [last] := by
            simp only at hsplit
            rw [hsplit, List.append_assoc, List.cons_append]
          exact (List.append_inj' hconcat rfl).1
        obtain ⟨f', hget, hf'⟩ := hs.frames before o' after' hsplit'
        refine ⟨f', ?_, hf'⟩
        have hlt : before.length < s.frame_projections.length :=
          (List.getElem?_eq_some_iff.mp hget).1
        rw [List.getElem?_append_left hlt]
        exact hget

theorem foldlM_project_keeps {rest : List ReplayTimelineEvent}
    (hs : ProjectedOf timeline_id authority events s)
    (h : rest.foldlM (projectEvent digests timeline_id input_batches authority) s = .ok t) :
    ProjectedOf timeline_id authority (events ++ rest) t := by
  induction rest generalizing events s with
  | nil =>
    cases h
    rw [List.append_nil]
    exact hs
  | cons e es ih =>
    rw [List.foldlM_cons] at h
    obtain ⟨u, hstep, hrest⟩ := bind_eq_ok.mp h
    have hnext := ih (projectEvent_keeps hs hstep) hrest
    rwa [List.append_assoc, List.singleton_append] at hnext

end Events

/-! What a frame holds of the observations up to its event. -/

theorem exists_last_split {α : Type} {P : α → Prop} {l : List α} (h : ∃ x ∈ l, P x) :
    ∃ pre x post, l = pre ++ x :: post ∧ P x ∧ ∀ z ∈ post, ¬ P z := by
  induction l with
  | nil =>
    obtain ⟨x, hx, -⟩ := h
    exact absurd hx List.not_mem_nil
  | cons a as ih =>
    by_cases hlater : ∃ x ∈ as, P x
    · obtain ⟨pre, x, post, rfl, hx, hpost⟩ := ih hlater
      exact ⟨a :: pre, x, post, rfl, hx, hpost⟩
    · obtain ⟨x, hx, hP⟩ := h
      rcases List.mem_cons.mp hx with rfl | hx
      · exact ⟨[], x, as, rfl, hP, fun z hz hPz => hlater ⟨z, hz, hPz⟩⟩
      · exact absurd ⟨x, hx, hP⟩ hlater

/-- A frame holds what the streams of its observations select. -/
theorem mem_frame_iff {market : MarketDigests} {i : InstrumentSymbol} {as_of : DateTime}
    {observations : List NormalizedMarketObservation} {frame : CrossVenueMarketFrame}
    (h : build_cross_venue_market_frame market i as_of observations [] = .ok frame)
    {x : NormalizedMarketObservation} :
    x ∈ frame.observations ↔
      runUp (observationReplaces market) none
        (stream observation_stream_key (observation_stream_key x) observations) =
          .ok (some x) := by
  obtain ⟨-, selected, health, hselected, -, hframe⟩ := build_eq_ok_iff.mp h
  have hobservations : frame.observations = sortBy observation_stream_key selected.values :=
    congrArg FrameFields.observations hframe
  rw [hobservations, mem_sortBy, KeyedDict.mem_values]
  have hrun := (selectLatest_ok hselected).2 (observation_stream_key x)
  rw [KeyedDict.get?_empty] at hrun
  rw [hrun, Except.ok.injEq]

theorem mem_of_mem_frame {market : MarketDigests} {i : InstrumentSymbol} {as_of : DateTime}
    {observations : List NormalizedMarketObservation} {frame : CrossVenueMarketFrame}
    (h : build_cross_venue_market_frame market i as_of observations [] = .ok frame)
    {x : NormalizedMarketObservation} (hx : x ∈ frame.observations) : x ∈ observations := by
  have hrun := (mem_frame_iff h).mp hx
  cases hl : stream observation_stream_key (observation_stream_key x) observations with
  | nil =>
    rw [hl, runUp] at hrun
    exact absurd hrun (by simp)
  | cons c cs =>
    rw [hl] at hrun
    obtain ⟨b, hb, hbx⟩ := runUp_some_mem hrun
    rw [Option.some.inj hbx]
    exact (mem_stream.mp (hl ▸ hb)).1

section Latest

variable {timeline_id : TrimmedText} {authority : ReplayMarketAdapterAuthority}
  {s : Projected digests} {events : List ReplayTimelineEvent}
  {before after pre post : List (ReplayMarketObservationProjection digests)}
  {o p : ReplayMarketObservationProjection digests}

/-- The observations of one logical instrument. -/
def observationsOf (i : InstrumentSymbol)
    (ps : List (ReplayMarketObservationProjection digests)) : List NormalizedMarketObservation :=
  (ps.filter fun p => p.logical = i).map fun p => p.observation

theorem observationsOf_append (i : InstrumentSymbol)
    (ps qs : List (ReplayMarketObservationProjection digests)) :
    observationsOf i (ps ++ qs) = observationsOf i ps ++ observationsOf i qs := by
  rw [observationsOf, List.filter_append, List.map_append]
  rfl

theorem mem_observationsOf {i : InstrumentSymbol} {x : NormalizedMarketObservation}
    {ps : List (ReplayMarketObservationProjection digests)} :
    x ∈ observationsOf i ps ↔ ∃ p ∈ ps, p.logical = i ∧ p.observation = x := by
  simp only [observationsOf, List.mem_map, List.mem_filter, decide_eq_true_eq, and_assoc]

/-- The order of the events is the order of their indexes. -/
def InOrder (ps : List (ReplayMarketObservationProjection digests)) : Prop :=
  ps.Pairwise fun p q => p.event_order_index < q.event_order_index

/-- In event order, a frame is built of all observations so far of its logical instrument. -/
theorem FrameOf.built_of_all {f : ReplayMarketFrameProjection digests}
    (hf : FrameOf timeline_id before o f) (horder : InOrder (before ++ o :: after)) :
    build_cross_venue_market_frame digests.toMarketDigests o.logical o.event_time
      (observationsOf o.logical (before ++ [o])) [] = .ok f.frame := by
  have hall : ((before ++ [o]).filter fun p => p.logical = o.logical).filter
      (fun p => p.event_order_index ≤ o.event_order_index) =
        (before ++ [o]).filter fun p => p.logical = o.logical := by
    refine List.filter_eq_self.mpr fun p hp => decide_eq_true ?_
    rcases List.mem_append.mp (List.mem_of_mem_filter hp) with hp | hp
    · have hlt := (List.pairwise_append.mp horder).2.2 p hp o List.mem_cons_self
      omega
    · rw [List.mem_singleton.mp hp]
  have hbuilt := hf.built
  rw [hall] at hbuilt
  exact hbuilt

/-- The frame of an event selects the event's own observation in its stream. -/
theorem selects_own (hs : ProjectedOf timeline_id authority events s)
    (horder : InOrder s.observation_projections)
    (hinj : Set.InjOn digests.observation_id
      {x | ∃ p ∈ s.observation_projections, p.observation = x})
    (hsplit : s.observation_projections = before ++ o :: after) :
    runUp (observationReplaces digests.toMarketDigests) none
      (stream observation_stream_key (observation_stream_key o.observation)
        (observationsOf o.logical (before ++ [o]))) = .ok (some o.observation) := by
  obtain ⟨f, -, hf⟩ := hs.frames before o after hsplit
  have hbuilt := hf.built_of_all (hsplit ▸ horder)
  have hvalid := f.valid
  rw [FrameProjectionFields.validate, checkAll_require, checkAll_require] at hvalid
  obtain ⟨x, hx, hid⟩ := hvalid.2.1
  rw [hf.observation_eq] at hid
  -- no other observation has the id of the event's own
  have hxmem : x ∈ {x | ∃ p ∈ s.observation_projections, p.observation = x} := by
    obtain ⟨p, hp, -, hpx⟩ := mem_observationsOf.mp (mem_of_mem_frame hbuilt hx)
    refine ⟨p, ?_, hpx⟩
    rw [hsplit]
    rcases List.mem_append.mp hp with hp | hp
    · exact List.mem_append_left _ hp
    · rw [List.mem_singleton.mp hp]
      exact List.mem_append_right _ List.mem_cons_self
  have hself : o.observation ∈ {x | ∃ p ∈ s.observation_projections, p.observation = x} :=
    ⟨o, hsplit ▸ List.mem_append_right _ List.mem_cons_self, rfl⟩
  rw [hinj hxmem hself hid] at hx
  exact (mem_frame_iff hbuilt).mp hx

/-- An observation that no later one of its stream follows is what the stream selects. -/
theorem selects_last (hs : ProjectedOf timeline_id authority events s)
    (horder : InOrder s.observation_projections)
    (hinj : Set.InjOn digests.observation_id
      {x | ∃ p ∈ s.observation_projections, p.observation = x})
    (hsplit : s.observation_projections = (pre ++ p :: post) ++ after) {i : InstrumentSymbol}
    (hlogical : p.logical = i)
    (hlast : ∀ q ∈ post, q.logical = i →
      observation_stream_key q.observation ≠ observation_stream_key p.observation) :
    runUp (observationReplaces digests.toMarketDigests) none
      (stream observation_stream_key (observation_stream_key p.observation)
        (observationsOf i (pre ++ p :: post))) = .ok (some p.observation) := by
  subst hlogical
  have hrest : stream observation_stream_key (observation_stream_key p.observation)
      (observationsOf p.logical post) = [] := by
    refine List.eq_nil_iff_forall_not_mem.mpr fun x hx => ?_
    obtain ⟨hmem, hkey⟩ := mem_stream.mp hx
    obtain ⟨q, hq, hqi, rfl⟩ := mem_observationsOf.mp hmem
    exact hlast q hq hqi hkey
  have hsame : stream observation_stream_key (observation_stream_key p.observation)
      (observationsOf p.logical (pre ++ p :: post)) =
        stream observation_stream_key (observation_stream_key p.observation)
          (observationsOf p.logical (pre ++ [p])) := by
    have hconcat : pre ++ p :: post = (pre ++ [p]) ++ post := by
      rw [List.append_assoc, List.singleton_append]
    rw [hconcat, observationsOf_append, stream, List.filter_append]
    change _ ++ stream _ _ (observationsOf p.logical post) = _
    rw [hrest, List.append_nil]
    rfl
  have hown : s.observation_projections = pre ++ p :: (post ++ after) := by
    rw [hsplit, List.append_assoc, List.cons_append]
  rw [hsame]
  exact selects_own hs horder hinj hown

/-- A frame holds, of each stream of its instrument, the last observation so far and no other. -/
theorem mem_frame_iff_last (hs : ProjectedOf timeline_id authority events s)
    (horder : InOrder s.observation_projections)
    (hinj : Set.InjOn digests.observation_id
      {x | ∃ p ∈ s.observation_projections, p.observation = x})
    (hsplit : s.observation_projections = before ++ o :: after)
    {f : ReplayMarketFrameProjection digests} (hf : FrameOf timeline_id before o f)
    {x : NormalizedMarketObservation} :
    x ∈ f.frame.observations ↔
      ∃ pre p post, before ++ [o] = pre ++ p :: post ∧ p.observation = x ∧
        p.logical = o.logical ∧ ∀ q ∈ post, q.logical = o.logical →
          observation_stream_key q.observation ≠ observation_stream_key x := by
  have hbuilt := hf.built_of_all (hsplit ▸ horder)
  have hall : s.observation_projections = (before ++ [o]) ++ after := by
    rw [hsplit, List.append_assoc, List.singleton_append]
  rw [mem_frame_iff hbuilt]
  constructor
  · intro hrun
    have hx := mem_of_mem_frame hbuilt ((mem_frame_iff hbuilt).mpr hrun)
    obtain ⟨q, hq, hqi, hqx⟩ := mem_observationsOf.mp hx
    obtain ⟨pre, p, post, hconcat, ⟨hpi, hpx⟩, hlast⟩ := exists_last_split
      (P := fun p => p.logical = o.logical ∧
        observation_stream_key p.observation = observation_stream_key x)
      ⟨q, hq, hqi, hqx ▸ rfl⟩
    have hselected := selects_last hs horder hinj (hconcat ▸ hall) hpi
      fun q hq hqi hkey => hlast q hq ⟨hqi, hkey.trans hpx⟩
    rw [← hconcat, hpx, hrun, Except.ok.injEq, Option.some.injEq] at hselected
    exact ⟨pre, p, post, hconcat, hselected.symm, hpi, fun q hq hqi hkey =>
      hlast q hq ⟨hqi, hkey⟩⟩
  · rintro ⟨pre, p, post, hconcat, rfl, hpi, hlast⟩
    rw [hconcat]
    exact selects_last hs horder hinj (hconcat ▸ hall) hpi hlast

end Latest

/-! The same events under another timeline id. -/

section Retimed

variable {timeline_id timeline_id' : TrimmedText} {input_batches : List PayloadBatch}
  {authority : ReplayMarketAdapterAuthority} {s t s' : Projected digests}
  {event : ReplayTimelineEvent} {events : List ReplayTimelineEvent}

/-- The observation of the same event in another timeline. -/
def retime (timeline_id : TrimmedText) (o : ReplayMarketObservationProjection digests) :
    ReplayMarketObservationProjection digests :=
  ⟨{ o.toObservationProjectionFields with timeline_id }, o.valid⟩

/-- The frame of the same event in another timeline. -/
def retimeFrame (timeline_id : TrimmedText) (o : ReplayMarketObservationProjection digests)
    (f : ReplayMarketFrameProjection digests) : ReplayMarketFrameProjection digests :=
  ⟨{ f.toFrameProjectionFields with
      timeline_id
      triggering_observation_projection_id := (retime timeline_id o).projection_id }, f.valid⟩

theorem retime_fields (o : ReplayMarketObservationProjection digests) :
    (retime timeline_id o).toObservationProjectionFields =
      { o.toObservationProjectionFields with timeline_id } := rfl

theorem retimeFrame_fields (o : ReplayMarketObservationProjection digests)
    (f : ReplayMarketFrameProjection digests) :
    (retimeFrame timeline_id o f).toFrameProjectionFields =
      { f.toFrameProjectionFields with
        timeline_id
        triggering_observation_projection_id := (retime timeline_id o).projection_id } := rfl

/-- What two timelines with the same events project. -/
structure Retimed (timeline_id : TrimmedText) (s s' : Projected digests) : Prop where
  accumulated : ∀ i, s'.accumulated.of i = (s.accumulated.of i).map (retime timeline_id)
  observations : s'.observation_projections = s.observation_projections.map (retime timeline_id)
  frames : s'.frame_projections =
    List.zipWith (retimeFrame timeline_id) s.observation_projections s.frame_projections
  same_length : s.frame_projections.length = s.observation_projections.length

theorem Retimed.empty : Retimed timeline_id (Projected.empty digests) (Projected.empty digests) :=
  ⟨fun _ => rfl, rfl, rfl, rfl⟩

theorem project_retimed {record : PayloadRecord} {a : ReplayMarketBindingAuthority}
    {o : ReplayMarketObservationProjection digests}
    (h : project_replay_record_to_market_observation digests timeline_id event record a = .ok o) :
    project_replay_record_to_market_observation digests timeline_id' event record a =
      .ok (retime timeline_id' o) := by
  rw [project_replay_record_to_market_observation] at h ⊢
  obtain ⟨⟨⟩, hconsistent, h⟩ := bind_eq_ok.mp h
  obtain ⟨⟨⟩, hchecks, h⟩ := bind_eq_ok.mp h
  obtain ⟨payload, hpayload, h⟩ := bind_eq_ok.mp h
  obtain ⟨raw, hraw, h⟩ := bind_eq_ok.mp h
  obtain ⟨⟨⟩, hown, h⟩ := bind_eq_ok.mp h
  obtain ⟨hvalid, hfields⟩ := observation_of_eq_ok.mp h
  -- no check reads the id of the timeline
  refine bind_eq_ok.mpr ⟨_, hconsistent, bind_eq_ok.mpr ⟨_, hchecks, bind_eq_ok.mpr ⟨_, hpayload,
    bind_eq_ok.mpr ⟨_, hraw, bind_eq_ok.mpr ⟨_, hown, observation_of_eq_ok.mpr ⟨hvalid, ?_⟩⟩⟩⟩⟩⟩
  rw [retime_fields, hfields]

theorem projectEvent_retimed (hs : Retimed timeline_id' s s')
    (h : projectEvent digests timeline_id input_batches authority s event = .ok t) :
    ∃ t', projectEvent digests timeline_id' input_batches authority s' event = .ok t' ∧
      Retimed timeline_id' t t' := by
  unfold projectEvent at h ⊢
  by_cases hkind : event.kind ∈ authority.descriptor.supported_input_kinds
  · rw [if_neg (not_not.mpr hkind)] at h ⊢
    obtain ⟨record, hrecord, h⟩ := bind_eq_ok.mp h
    simp only at h
    split at h
    · cases h
    · rename_i binding hbinding
      obtain ⟨o, hproject, h⟩ := bind_eq_ok.mp h
      obtain ⟨frame, hframe, h⟩ := bind_eq_ok.mp h
      obtain ⟨f, hf, h⟩ := bind_eq_ok.mp h
      obtain ⟨hvalid, hfields⟩ := frame_projection_of_eq_ok.mp hf
      cases h
      have hproject' : project_replay_record_to_market_observation digests timeline_id' event record
          ⟨authority.descriptor, binding⟩ = .ok (retime timeline_id' o) := project_retimed hproject
      have hinputs : (((s'.accumulated.add o.logical (retime timeline_id' o)).of o.logical).filter
          fun item => item.event_order_index ≤ event.order_index).map
            (fun item => item.observation) =
          (((s.accumulated.add o.logical o).of o.logical).filter
            fun item => item.event_order_index ≤ event.order_index).map
              fun item => item.observation := by
        rw [Accumulated.of_add, Accumulated.of_add, if_pos rfl, if_pos rfl, hs.accumulated]
        have hmap : (s.accumulated.of o.logical).map (retime timeline_id') ++
            [retime timeline_id' o] =
              (s.accumulated.of o.logical ++ [o]).map (retime timeline_id') := by
          rw [List.map_append, List.map_singleton]
        rw [hmap, List.filter_map, List.map_map]
        rfl
      have hframe' : build_cross_venue_market_frame digests.toMarketDigests
          (retime timeline_id' o).logical event.event_time
          ((((s'.accumulated.add o.logical (retime timeline_id' o)).of o.logical).filter
            fun item => item.event_order_index ≤ event.order_index).map
              fun item => item.observation) [] = .ok frame := by
        rw [hinputs]
        exact hframe
      refine ⟨⟨s'.accumulated.add o.logical (retime timeline_id' o),
        s'.observation_projections ++ [retime timeline_id' o],
        s'.frame_projections ++ [retimeFrame timeline_id' o f]⟩, ?_, ?_, ?_, ?_, ?_⟩
      · refine bind_eq_ok.mpr ⟨record, hrecord, ?_⟩
        simp only [hbinding]
        refine bind_eq_ok.mpr ⟨_, hproject', bind_eq_ok.mpr ⟨frame, hframe', bind_eq_ok.mpr
          ⟨retimeFrame timeline_id' o f, frame_projection_of_eq_ok.mpr ⟨hvalid, ?_⟩, rfl⟩⟩⟩
        rw [retimeFrame_fields, hfields]
        rfl
      · intro i
        rw [Accumulated.of_add, Accumulated.of_add, hs.accumulated]
        split
        · rw [List.map_append, List.map_singleton]
        · rfl
      · rw [hs.observations, List.map_append, List.map_singleton]
      · rw [hs.frames, List.zipWith_append hs.same_length.symm]
        rfl
      · simp only [List.length_append, hs.same_length, List.length_singleton]
  · rw [if_pos hkind] at h ⊢
    cases h
    exact ⟨s', rfl, hs⟩

theorem foldlM_project_retimed (hs : Retimed timeline_id' s s')
    (h : events.foldlM (projectEvent digests timeline_id input_batches authority) s = .ok t) :
    ∃ t', events.foldlM (projectEvent digests timeline_id' input_batches authority) s' = .ok t' ∧
      Retimed timeline_id' t t' := by
  induction events generalizing s s' with
  | nil =>
    cases h
    exact ⟨s', rfl, hs⟩
  | cons e es ih =>
    rw [List.foldlM_cons] at h
    obtain ⟨u, hstep, hrest⟩ := bind_eq_ok.mp h
    obtain ⟨u', hstep', hu⟩ := projectEvent_retimed hs hstep
    obtain ⟨t', hrest', ht⟩ := ih hu hrest
    refine ⟨t', ?_, ht⟩
    rw [List.foldlM_cons]
    exact bind_eq_ok.mpr ⟨u', hstep', hrest'⟩

/-- What was projected stays, whatever follows. -/
theorem foldlM_project_extends
    (h : events.foldlM (projectEvent digests timeline_id input_batches authority) s = .ok t) :
    s.observation_projections <+: t.observation_projections ∧
      s.frame_projections <+: t.frame_projections := by
  induction events generalizing s with
  | nil =>
    cases h
    exact ⟨List.prefix_refl _, List.prefix_refl _⟩
  | cons e es ih =>
    rw [List.foldlM_cons] at h
    obtain ⟨u, hstep, hrest⟩ := bind_eq_ok.mp h
    obtain ⟨hobs, hframes⟩ := ih hrest
    obtain ⟨-, rfl⟩ | ⟨-, o, f, -, rfl, -⟩ := projectEvent_cases hstep
    · exact ⟨hobs, hframes⟩
    · exact ⟨(List.prefix_append _ _).trans hobs, (List.prefix_append _ _).trans hframes⟩

end Retimed

/-! The frames are recomputed from the observations alone. -/

section Semantics

variable {timeline_id : TrimmedText} {authority : ReplayMarketAdapterAuthority}
  {s : Projected digests} {events : List ReplayTimelineEvent}
  {before after : List (ReplayMarketObservationProjection digests)}
  {o : ReplayMarketObservationProjection digests} {f : ReplayMarketFrameProjection digests}

theorem ProjectedOf.observation (hs : ProjectedOf timeline_id authority events s)
    (ho : o ∈ s.observation_projections) :
    ∃ event ∈ events, ObservationOf timeline_id authority event o := by
  obtain ⟨event, hevent, hof⟩ : ∃ event ∈ supportedEvents authority events,
      ObservationOf timeline_id authority event o := by
    obtain ⟨i, hi, rfl⟩ := List.mem_iff_getElem.mp ho
    have hlen := hs.observations.length_eq
    exact ⟨_, List.getElem_mem (hlen ▸ hi), hs.observations.get (hlen ▸ hi) hi⟩
  exact ⟨event, List.mem_of_mem_filter hevent, hof⟩

/-- The binding of an observation is the only one of the authority with its id. -/
theorem ObservationOf.bound_by_id {event : ReplayTimelineEvent}
    (ho : ObservationOf timeline_id authority event o) :
    (authority.bindings.reverse.find? fun b =>
      bindingId b = bindingId o.binding_authority.binding) = some o.binding_authority.binding := by
  have hmem : o.binding_authority.binding ∈ authority.bindings :=
    List.mem_reverse.mp (List.mem_of_find?_eq_some ho.bound)
  cases hfind : authority.bindings.reverse.find? fun b =>
      bindingId b = bindingId o.binding_authority.binding with
  | none =>
    have hnot := List.find?_eq_none.mp hfind _ (List.mem_reverse.mpr hmem)
    exact absurd (decide_eq_true rfl) hnot
  | some b =>
    have hb := List.mem_reverse.mp (List.mem_of_find?_eq_some hfind)
    have hid : bindingId b = bindingId o.binding_authority.binding := by
      simpa using List.find?_some hfind
    exact congrArg some
      ((canonical_of_validate authority.canonical).ids b hb _ hmem hid)

/-- What a frame is built of is what it tells. -/
theorem frame_members {market : MarketDigests} {i : InstrumentSymbol} {as_of : DateTime}
    {observations : List NormalizedMarketObservation} {frame : CrossVenueMarketFrame}
    (h : build_cross_venue_market_frame market i as_of observations [] = .ok frame) :
    frame.as_of = as_of ∧ frame.logical_instrument = i ∧ frame.source_health = [] ∧
      select_latest_market_observations market i as_of observations = .ok frame.observations := by
  obtain ⟨-, selected, health, hselected, hhealth, hframe⟩ := build_eq_ok_iff.mp h
  have hnone : health = KeyedDict.empty := (Except.ok.inj hhealth).symm
  subst hnone
  rw [hframe]
  refine ⟨rfl, rfl, rfl, ?_⟩
  rw [select_latest_market_observations, hselected]
  rfl

theorem pairChecks_pass {replay_plan_id : TrimmedText}
    {observation_projections : List (ReplayMarketObservationProjection digests)}
    {frame_projections : List (ReplayMarketFrameProjection digests)} {event : ReplayTimelineEvent}
    (ho : ObservationOf timeline_id authority event o) (hf : FrameOf timeline_id before o f) :
    checkAll (FrameTimelineFields.pairChecks ⟨timeline_id, replay_plan_id, authority,
      observation_projections, frame_projections⟩ o f) = .ok () := by
  obtain ⟨hasof, hlogical, hhealth, -⟩ := frame_members hf.built
  simp only [FrameTimelineFields.pairChecks, checkAll_require, checkAll_nil, and_true]
  refine ⟨ho.timeline_id_eq, hf.timeline_id_eq, ho.descriptor_eq, ?_, ho.bound_by_id, ho.bound,
    hf.timeline_id_eq.trans ho.timeline_id_eq.symm, hf.projection_eq, hf.observation_eq,
    hf.order_index_eq, hf.event_id_eq, hf.event_time_eq, hasof, hlogical, hhealth⟩
  rw [ho.bound_by_id]
  simp

/-- Going on from the observations before, the frames are what is recomputed. -/
theorem recompute_pass {replay_plan_id : TrimmedText}
    {observation_projections : List (ReplayMarketObservationProjection digests)}
    {frame_projections : List (ReplayMarketFrameProjection digests)}
    (hs : ProjectedOf timeline_id authority events s) (horder : InOrder s.observation_projections)
    (hsplit : s.observation_projections = before ++ after)
    {accumulated : Accumulated NormalizedMarketObservation}
    (haccumulated : ∀ i, accumulated.of i = observationsOf i before) :
    FrameTimelineFields.recompute ⟨timeline_id, replay_plan_id, authority,
      observation_projections, frame_projections⟩ accumulated
        (after.zip (s.frame_projections.drop before.length)) = .ok () := by
  induction after generalizing before accumulated with
  | nil => rfl
  | cons o after ih =>
    obtain ⟨f, hget, hf⟩ := hs.frames before o after hsplit
    obtain ⟨hlt, hat⟩ := List.getElem?_eq_some_iff.mp hget
    obtain ⟨event, -, ho⟩ := hs.observation (o := o)
      (hsplit ▸ List.mem_append_right _ List.mem_cons_self)
    rw [List.drop_eq_getElem_cons hlt, hat, List.zip_cons_cons, FrameTimelineFields.recompute]
    -- what is accumulated is what the frame was built of
    have hsofar : (accumulated.add o.logical o.observation).of o.logical =
        observationsOf o.logical (before ++ [o]) := by
      rw [Accumulated.of_add, if_pos rfl, haccumulated, observationsOf_append]
      simp [observationsOf]
    obtain ⟨-, -, -, hselect⟩ := frame_members (hf.built_of_all (hsplit ▸ horder))
    have hvalid := f.valid
    rw [FrameProjectionFields.validate, checkAll_require, checkAll_require] at hvalid
    have hchecks : checkAll [
        require (f.frame.observations = f.frame.observations)
          (.check "frame observations must equal replay-order cumulative state"),
        require (∃ x ∈ f.frame.observations,
            digests.observation_id x = f.triggering_observation_id)
          (MarketError.check "triggering observation ID must exist in expected frame")] =
        .ok () := by
      rw [checkAll_require, checkAll_require]
      exact ⟨rfl, hvalid.2.1, checkAll_nil⟩
    refine bind_eq_ok.mpr ⟨(), pairChecks_pass ho hf, bind_eq_ok.mpr ⟨f.frame.observations, ?_,
      bind_eq_ok.mpr ⟨(), hchecks, ?_⟩⟩⟩
    · rw [hsofar]
      exact hselect
    · have hsplit' : s.observation_projections = (before ++ [o]) ++ after := by
        rw [hsplit, List.append_assoc, List.singleton_append]
      have haccumulated' : ∀ i, (accumulated.add o.logical o.observation).of i =
          observationsOf i (before ++ [o]) := by
        intro i
        rw [Accumulated.of_add, observationsOf_append, haccumulated]
        by_cases hi : o.logical = i
        · simp [hi, observationsOf]
        · simp [hi, observationsOf]
      have hnext := ih hsplit' haccumulated'
      rwa [List.length_append, List.length_singleton] at hnext

/-- Projections that are made event by event are accepted unless two of their ids collide. -/
theorem semantics_iff {replay_plan_id : TrimmedText}
    (hs : ProjectedOf timeline_id authority events s) (horder : InOrder s.observation_projections) :
    FrameTimelineFields.validateSemantics ⟨timeline_id, replay_plan_id, authority,
        s.observation_projections, s.frame_projections⟩ = .ok () ↔
      (s.observation_projections.map fun p => p.projection_id).Nodup ∧
        (s.frame_projections.map fun p => p.projection_id).Nodup := by
  have hindexes : (s.observation_projections.map fun p => p.event_order_index).Pairwise (· < ·) :=
    List.pairwise_map.mpr horder
  have hsorted : (s.observation_projections.map fun p => p.event_order_index) =
      sortBy id (s.observation_projections.map fun p => p.event_order_index) :=
    ((sortBy_eq_self id).mpr (hindexes.imp fun h => Nat.le_of_lt h)).symm
  have hnodup : (s.observation_projections.map fun p => p.event_order_index).Nodup :=
    hindexes.imp fun h => Nat.ne_of_lt h
  have hrecompute : FrameTimelineFields.recompute ⟨timeline_id, replay_plan_id, authority,
      s.observation_projections, s.frame_projections⟩ Dict.empty
        (s.observation_projections.zip (s.frame_projections.drop 0)) = .ok () :=
    recompute_pass hs horder (List.nil_append _).symm fun _ => rfl
  rw [List.drop_zero] at hrecompute
  rw [FrameTimelineFields.validateSemantics]
  constructor
  · intro h
    obtain ⟨⟨⟩, hchecks, -⟩ := bind_eq_ok.mp h
    simp only [checkAll_require] at hchecks
    exact ⟨hchecks.2.1, hchecks.2.2.1⟩
  · rintro ⟨hobs, hframes⟩
    refine bind_eq_ok.mpr ⟨(), ?_, hrecompute⟩
    simp only [checkAll_require, checkAll_nil, and_true]
    exact ⟨hs.same_length.symm, hobs, hframes, hsorted, hnodup⟩

end Semantics

end FuturesBot.Market
