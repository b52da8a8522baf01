import FuturesBot.ReplayFrameOrder

/-! The frames of a timeline are built exactly when its observations are in sequence. -/
namespace FuturesBot.Market

open TextLines DateTimes DecimalNumbers Checks Dicts KeySorting Selections
open Replay (ReplayInputKind ReplayInstrumentRef ReplayTimeline ReplayTimelineEvent)

variable {digests : ReplayMarketDigests} {timeline_id : TrimmedText}
  {input_batches : List PayloadBatch} {authority : ReplayMarketAdapterAuthority}

/-! One event. -/

section Step

variable {events : List ReplayTimelineEvent} {event : ReplayTimelineEvent}
  {s t : Projected digests} {o : ReplayMarketObservationProjection digests}

/-- In event order nothing that is accumulated is left out of the frame. -/
theorem accumulated_observations (hs : ProjectedOf timeline_id authority events s)
    (horder : InOrder (s.observation_projections ++ [o])) :
    (((s.accumulated.add o.logical o).of o.logical).filter fun item =>
        item.event_order_index ≤ o.event_order_index).map (fun item => item.observation) =
      observationsOf o.logical (s.observation_projections ++ [o]) := by
  have hall : ((s.accumulated.add o.logical o).of o.logical).filter
      (fun item => item.event_order_index ≤ o.event_order_index) =
        (s.accumulated.add o.logical o).of o.logical := by
    refine List.filter_eq_self.mpr fun p hp => decide_eq_true ?_
    rw [Accumulated.of_add, if_pos rfl, hs.accumulated, List.mem_append] at hp
    rcases hp with hp | hp
    · exact Nat.le_of_lt ((List.pairwise_append.mp horder).2.2 p (List.mem_of_mem_filter hp) o
        (List.mem_singleton_self o))
    · rw [List.mem_singleton.mp hp]
  rw [hall, Accumulated.of_add, if_pos rfl, hs.accumulated, observationsOf_append]
  simp [observationsOf]

/-- What is left of an event once its observation is made: its frame. -/
theorem projectEvent_of_made (hkind : event.kind ∈ authority.descriptor.supported_input_kinds)
    (hmade : eventObservation digests timeline_id input_batches authority event = .ok o) :
    projectEvent digests timeline_id input_batches authority s event = (do
      let frame ← build_cross_venue_market_frame digests.toMarketDigests o.logical event.event_time
        ((((s.accumulated.add o.logical o).of o.logical).filter fun item =>
          item.event_order_index ≤ event.order_index).map fun item => item.observation) []
      let frame_projection ← ReplayMarketFrameProjection.of digests {
        timeline_id
        event_id := event.event_id
        event_order_index := event.order_index
        event_time := event.event_time
        triggering_observation_projection_id := o.projection_id
        triggering_observation_id := digests.observation_id o.observation
        frame }
      .ok ⟨s.accumulated.add o.logical o, s.observation_projections ++ [o],
        s.frame_projections ++ [frame_projection]⟩) := by
  rw [eventObservation] at hmade
  obtain ⟨record, hrecord, hmade⟩ := bind_eq_ok.mp hmade
  split at hmade
  · cases hmade
  · next binding hbinding =>
    unfold projectEvent
    rw [if_neg (not_not.mpr hkind), hrecord]
    simp only [bind, Except.bind, hbinding, hmade]

/-- An observed event is projected exactly when its observation is in turn. -/
theorem projectEvent_iff (hkind : event.kind ∈ authority.descriptor.supported_input_kinds)
    (hobserved : ObservedAs digests timeline_id input_batches authority event o)
    (h : OneMore timeline_id authority events event s o) :
    (∃ t, projectEvent digests timeline_id input_batches authority s event = .ok t) ↔
      InTurn s.observation_projections o := by
  have hof := h.observation
  rw [projectEvent_of_made hkind hobserved.made, ← h.frame_iff, ← hof.event_time_eq,
    ← hof.order_index_eq, accumulated_observations h.projected h.order]
  constructor
  · rintro ⟨t, ht⟩
    obtain ⟨frame, hframe, ht⟩ := bind_eq_ok.mp ht
    obtain ⟨f, hf, -⟩ := bind_eq_ok.mp ht
    obtain ⟨hvalid, -⟩ := frame_projection_of_eq_ok.mp hf
    rw [FrameProjectionFields.validate, checkAll_require, checkAll_require] at hvalid
    exact ⟨frame, hframe, hvalid.2.1⟩
  · rintro ⟨frame, hframe, htriggering⟩
    have hvalid : checkAll (FrameProjectionFields.validate digests {
        timeline_id
        event_id := event.event_id
        event_order_index := o.event_order_index
        event_time := o.event_time
        triggering_observation_projection_id := o.projection_id
        triggering_observation_id := digests.observation_id o.observation
        frame }) = .ok () := by
      rw [FrameProjectionFields.validate, checkAll_require, checkAll_require]
      exact ⟨(frame_members hframe).1, htriggering, checkAll_nil⟩
    let f : ReplayMarketFrameProjection digests := ⟨_, hvalid⟩
    have hf := (@frame_projection_of_eq_ok _ _ f).mpr ⟨hvalid, rfl⟩
    exact ⟨_, bind_eq_ok.mpr ⟨frame, hframe, bind_eq_ok.mpr ⟨f, hf, rfl⟩⟩⟩

theorem projected_observations (hkind : event.kind ∈ authority.descriptor.supported_input_kinds)
    (hmade : eventObservation digests timeline_id input_batches authority event = .ok o)
    (h : projectEvent digests timeline_id input_batches authority s event = .ok t) :
    t.observation_projections = s.observation_projections ++ [o] := by
  rw [projectEvent_of_made hkind hmade] at h
  obtain ⟨frame, -, h⟩ := bind_eq_ok.mp h
  obtain ⟨f, -, h⟩ := bind_eq_ok.mp h
  cases h
  rfl

end Step

/-! All events. -/

section Run

variable {events : List ReplayTimelineEvent} {event : ReplayTimelineEvent}
  {os : List (ReplayMarketObservationProjection digests)}
  {o : ReplayMarketObservationProjection digests}

/-- The observations of some events, which the digests keep apart. -/
structure Observed (timeline_id : TrimmedText) (input_batches : List PayloadBatch)
    (authority : ReplayMarketAdapterAuthority) (events : List ReplayTimelineEvent)
    (os : List (ReplayMarketObservationProjection digests)) : Prop where
  observed : List.Forall₂ (ObservedAs digests timeline_id input_batches authority)
    (supportedEvents authority events) os
  order : InOrder os
  ids : (os.map fun o => digests.observation_id o.observation).Nodup
  connections : ∀ p ∈ os, ∀ o ∈ os, p.observation.provenance.connection_id =
    o.observation.provenance.connection_id → p.binding = o.binding

theorem supportedEvents_concat (events : List ReplayTimelineEvent) :
    supportedEvents authority (events ++ [event]) =
      if event.kind ∈ authority.descriptor.supported_input_kinds then
        supportedEvents authority events ++ [event]
      else supportedEvents authority events := by
  rw [supportedEvents_append]
  split_ifs with hkind
  · simp [supportedEvents, hkind]
  · simp [supportedEvents, hkind]

/-- The observations of the events before the last. -/
theorem Observed.init (hkind : event.kind ∈ authority.descriptor.supported_input_kinds)
    (h : Observed timeline_id input_batches authority (events ++ [event]) os) :
    ∃ before o, os = before ++ [o] ∧
      Observed timeline_id input_batches authority events before ∧
      ObservedAs digests timeline_id input_batches authority event o := by
  have hall := h.observed
  rw [supportedEvents_concat, if_pos hkind] at hall
  obtain ⟨before, o, rfl, hbefore, ho⟩ := forall₂_concat hall
  refine ⟨before, o, rfl, ⟨hbefore, (List.pairwise_append.mp h.order).1, ?_, ?_⟩, ho⟩
  · have hids := h.ids
    rw [List.map_append] at hids
    exact hids.of_append_left
  · intro p hp q hq
    exact h.connections p (List.mem_append_left _ hp) q (List.mem_append_left _ hq)

/-- The events of some observations are all projected exactly when these are in sequence, and
leave them. -/
theorem project_iff (h : Observed timeline_id input_batches authority events os) :
    ((∃ s, events.foldlM (projectEvent digests timeline_id input_batches authority)
      (Projected.empty digests) = .ok s) ↔ InSequence os) ∧
    ∀ s, events.foldlM (projectEvent digests timeline_id input_batches authority)
      (Projected.empty digests) = .ok s → s.observation_projections = os := by
  induction events using List.reverseRecOn generalizing os with
  | nil =>
    obtain rfl := List.forall₂_nil_left_iff.mp h.observed
    refine ⟨⟨fun _ => ?_, fun _ => ⟨_, rfl⟩⟩, fun s hs => ?_⟩
    · intro before o after hsplit
      exact absurd hsplit (by simp)
    · cases hs
      rfl
  | append_singleton events event ih =>
    -- all events are projected when those before the last are and then the last is
    have hfold (t : Projected digests) :
        (events ++ [event]).foldlM (projectEvent digests timeline_id input_batches authority)
          (Projected.empty digests) = .ok t ↔
        ∃ s, events.foldlM (projectEvent digests timeline_id input_batches authority)
            (Projected.empty digests) = .ok s ∧
          projectEvent digests timeline_id input_batches authority s event = .ok t := by
      rw [List.foldlM_append, bind_eq_ok]
      refine exists_congr fun s => and_congr_right fun _ => ?_
      rw [List.foldlM_cons, bind_eq_ok]
      constructor
      · rintro ⟨u, hu, hlast⟩
        cases hlast
        exact hu
      · exact fun hu => ⟨t, hu, rfl⟩
    by_cases hkind : event.kind ∈ authority.descriptor.supported_input_kinds
    · obtain ⟨before, o, rfl, hbefore, ho⟩ := h.init hkind
      obtain ⟨hbuilt, hleft⟩ := ih hbefore
      have hone (s : Projected digests)
          (hs : events.foldlM (projectEvent digests timeline_id input_batches authority)
            (Projected.empty digests) = .ok s) :
          OneMore timeline_id authority events event s o := by
        have hprojected := foldlM_project_keeps ProjectedOf.empty hs
        rw [List.nil_append] at hprojected
        refine ⟨hprojected, ho.observation, ?_, ?_, ?_⟩
        · rw [hleft s hs]
          exact h.order
        · rw [hleft s hs]
          exact h.ids
        · rw [hleft s hs]
          intro p hp
          exact h.connections p (List.mem_append_left _ hp) o
            (List.mem_append_right _ (List.mem_singleton_self o))
      refine ⟨?_, fun t ht => ?_⟩
      · rw [InSequence, forall_split_concat]
        constructor
        · rintro ⟨t, ht⟩
          obtain ⟨s, hs, hlast⟩ := (hfold t).mp ht
          have hturn := (projectEvent_iff hkind ho (hone s hs)).mp ⟨t, hlast⟩
          rw [hleft s hs] at hturn
          exact ⟨hbuilt.mp ⟨s, hs⟩, hturn⟩
        · rintro ⟨hsequence, hturn⟩
          obtain ⟨s, hs⟩ := hbuilt.mpr hsequence
          rw [← hleft s hs] at hturn
          obtain ⟨t, hlast⟩ := (projectEvent_iff hkind ho (hone s hs)).mpr hturn
          exact ⟨t, (hfold t).mpr ⟨s, hs, hlast⟩⟩
      · obtain ⟨s, hs, hlast⟩ := (hfold t).mp ht
        rw [projected_observations hkind ho.made hlast, hleft s hs]
    · -- an event of another kind is passed over
      have hsame : Observed timeline_id input_batches authority events os := by
        have hall := h.observed
        rw [supportedEvents_concat, if_neg hkind] at hall
        exact ⟨hall, h.order, h.ids, h.connections⟩
      have hpassed (s : Projected digests) :
          projectEvent digests timeline_id input_batches authority s event = .ok s := by
        rw [projectEvent, if_pos hkind]
      have hfold' (t : Projected digests) :
          (events ++ [event]).foldlM (projectEvent digests timeline_id input_batches authority)
            (Projected.empty digests) = .ok t ↔
          events.foldlM (projectEvent digests timeline_id input_batches authority)
            (Projected.empty digests) = .ok t := by
        rw [hfold]
        constructor
        · rintro ⟨s, hs, hlast⟩
          rw [hpassed, Except.ok.injEq] at hlast
          exact hlast ▸ hs
        · exact fun hs => ⟨t, hs, hpassed t⟩
      simp only [hfold']
      exact ih hsame

theorem forall₂_of_exists {α β : Type} {R : α → β → Prop} {l : List α}
    (h : ∀ a ∈ l, ∃ b, R a b) : ∃ m, List.Forall₂ R l m := by
  induction l with
  | nil => exact ⟨[], .nil⟩
  | cons a l ih =>
    obtain ⟨b, hb⟩ := h a List.mem_cons_self
    obtain ⟨m, hm⟩ := ih fun c hc => h c (List.mem_cons_of_mem a hc)
    exact ⟨b :: m, .cons hb hm⟩

theorem observed_in_order {r : ReplayTimeline}
    (h : List.Forall₂ (ObservedAs digests r.timeline_id input_batches authority)
      (supportedEvents authority r.events) os) : InOrder os := by
  have hevents : (supportedEvents authority r.events).Pairwise fun e e' =>
      e.order_index < e'.order_index := (events_in_order r).sublist List.filter_sublist
  have hindexes := List.pairwise_map.mpr hevents
  rw [← observed_indexes (h.imp fun _ _ ho => ho.observation)] at hindexes
  exact List.pairwise_map.mp hindexes

theorem observed_event_ids (h : List.Forall₂ (ObservedAs digests timeline_id input_batches authority)
    events os) : os.map (fun o => o.event_id) = events.map fun e => e.event_id := by
  induction h with
  | nil => rfl
  | cons ho _ ih => rw [List.map_cons, List.map_cons, ho.observation.event_id_eq, ih]

end Run

theorem ProjectedOf.frame_event_ids {events : List ReplayTimelineEvent} {s : Projected digests}
    (hs : ProjectedOf timeline_id authority events s) :
    s.frame_projections.map (fun f => f.event_id) =
      s.observation_projections.map fun o => o.event_id := by
  refine List.ext_getElem (by rw [List.length_map, List.length_map, hs.same_length]) ?_
  intro i hi hi'
  rw [List.length_map] at hi hi'
  have hsplit : s.observation_projections = s.observation_projections.take i ++
      s.observation_projections[i] :: s.observation_projections.drop (i + 1) := by
    rw [← List.drop_eq_getElem_cons hi', List.take_append_drop]
  obtain ⟨f, hget, hof⟩ := hs.frames _ _ _ hsplit
  rw [List.length_take_of_le (Nat.le_of_lt hi'), List.getElem?_eq_getElem hi] at hget
  cases hget
  rw [List.getElem_map, List.getElem_map, hof.event_id_eq]

/-- Of projections that the digests keep apart the frames have ids of their own. -/
theorem NoCollisions.frame_ids {events : List ReplayTimelineEvent} {s : Projected digests}
    (hs : ProjectedOf timeline_id authority events s) (horder : InOrder s.observation_projections)
    (h : NoCollisions timeline_id s.observation_projections) :
    (s.frame_projections.map fun f => f.projection_id).Nodup := by
  have hindexes : (s.frame_projections.map fun f => f.event_order_index).Pairwise (· < ·) := by
    rw [hs.frame_indexes]
    exact List.pairwise_map.mpr horder
  have hframes := List.pairwise_map.mp hindexes
  refine List.pairwise_map.mpr (hframes.imp_of_mem fun {f g} hf hg hlt hid => ?_)
  obtain ⟨before, p, after, hsplit, hof⟩ := hs.frame_of_mem hf
  obtain ⟨before', o, after', hsplit', hof'⟩ := hs.frame_of_mem hg
  have hsame := h.frames before p after before' o after' f g hsplit hsplit' hof hof' hid
  rw [hof.order_index_eq, hof'.order_index_eq, hsame] at hlt
  exact Nat.lt_irrefl _ hlt

/-- A timeline that may be used, each of whose supported events is bound, has one observation for
each of these events. Unless digests of its projections collide, its frames are built exactly when
these observations are in sequence: in each logical instrument no event is from before another
that comes first, and in each stream every event follows the last one, by its number under the
same binding and by its time under another. Then there is one frame for each of these events. -/
theorem frames_built_iff (digests : ReplayMarketDigests) {r : ReplayTimeline}
    {input_batches : List PayloadBatch} {descriptor : ReplayMarketAdapterDescriptor}
    {bindings : List ReplayMarketDataBinding} {authority : ReplayMarketAdapterAuthority}
    (hstatus : r.status = .BUILT ∨ r.status = .VALIDATED)
    (hbatches : (input_batches.map fun b => b.batch_id).Nodup)
    (hauthority : build_replay_market_adapter_authority descriptor bindings = .ok authority)
    (hbound : ∀ event ∈ supportedEvents authority r.events,
      ∃ record binding, BoundEvent digests input_batches authority event record binding) :
    ∃ os, List.Forall₂ (ObservedAs digests r.timeline_id input_batches authority)
        (supportedEvents authority r.events) os ∧
      (NoCollisions r.timeline_id os →
        ((∃ timeline, build_replay_market_frame_timeline digests r input_batches descriptor
          bindings = .ok timeline) ↔ InSequence os) ∧
        ∀ timeline, build_replay_market_frame_timeline digests r input_batches descriptor
            bindings = .ok timeline →
          timeline.observation_projections = os ∧
            timeline.frame_projections.map (fun f => f.event_id) =
              (supportedEvents authority r.events).map fun e => e.event_id) := by
  have hobserved : ∀ event ∈ supportedEvents authority r.events,
      ∃ o, ObservedAs digests r.timeline_id input_batches authority event o := by
    intro event hevent
    obtain ⟨record, binding, h⟩ := hbound event hevent
    exact h.observed hbatches (of_decide_eq_true (List.mem_filter.mp hevent).2)
  obtain ⟨os, hos⟩ := forall₂_of_exists hobserved
  refine ⟨os, hos, fun hdigests => ?_⟩
  obtain ⟨hbuilt, hleft⟩ := project_iff
    ⟨hos, observed_in_order hos, hdigests.observations, hdigests.connections⟩
  refine ⟨?_, fun timeline h => ?_⟩
  · rw [← hbuilt]
    constructor
    · rintro ⟨timeline, h⟩
      obtain ⟨s, hsame, hproject, -⟩ := timeline_eq_ok h
      rw [hauthority, Except.ok.injEq] at hsame
      exact ⟨s, hsame ▸ hproject⟩
    · rintro ⟨s, hproject⟩
      have hs := foldlM_project_keeps ProjectedOf.empty hproject
      rw [List.nil_append] at hs
      have hobs := hleft s hproject
      have hdigests' : NoCollisions r.timeline_id s.observation_projections := hobs ▸ hdigests
      have hvalid := (@semantics_iff _ _ _ s _ r.replay_plan_id hs hs.inOrder).mpr
        ⟨hdigests'.projections, hdigests'.frame_ids hs hs.inOrder⟩
      rw [build_replay_market_frame_timeline]
      refine ⟨⟨_, hvalid⟩, bind_eq_ok.mpr ⟨(), ?_, bind_eq_ok.mpr ⟨authority, hauthority,
        bind_eq_ok.mpr ⟨s, hproject, frame_timeline_of_eq_ok.mpr ⟨hvalid, rfl⟩⟩⟩⟩⟩
      rw [checkAll_require]
      exact ⟨hstatus, checkAll_nil⟩
  · obtain ⟨s, hsame, hproject, hobs, hframes⟩ := timeline_eq_ok h
    rw [hauthority, Except.ok.injEq] at hsame
    rw [← hsame] at hproject
    have hs := foldlM_project_keeps ProjectedOf.empty hproject
    rw [List.nil_append] at hs
    refine ⟨hobs.trans (hleft s hproject), ?_⟩
    rw [hframes, hs.frame_event_ids, hleft s hproject, observed_event_ids hos]

/-! Two trades of one stream, in sequence and not. -/

def sampleAuthority : ReplayMarketAdapterAuthority where
  descriptor := sampleDescriptor
  bindings := [sampleBinding]
  nonempty := List.cons_ne_nil _ _
  canonical := rfl

theorem sampleAuthority_built :
    build_replay_market_adapter_authority sampleDescriptor [sampleBinding] =
      .ok sampleAuthority := rfl

/-- A trade of the sample batch is bound. -/
theorem sampleTrade_bound (digests : ReplayMarketDigests) {input_batches : List PayloadBatch}
    {batch : PayloadBatch} (hbatch : batch ∈ input_batches) (hdataset : batch.input_dataset_id =
      sampleBinding.input_dataset_id) (hvalidated : batch.validation_status = .VALIDATED)
    {event : ReplayTimelineEvent} {sequence : ℕ} (hid : batch.batch_id = event.batch_id)
    (hmem : sampleTrade event.record_id sequence ∈ batch.records)
    (hevent : event.input_dataset_id = sampleBinding.input_dataset_id)
    (hrecord : RecordOf event (sampleTrade event.record_id sequence)) :
    BoundEvent digests input_batches sampleAuthority event (sampleTrade event.record_id sequence)
      sampleBinding where
  batch := ⟨batch, hbatch, hid, hdataset.trans hevent.symm, hvalidated, hmem⟩
  record_of := hrecord
  bound := List.mem_singleton_self _
  dataset := hevent.symm
  instrument := hrecord.instrument.symm
  payload := ⟨_, rfl⟩
  hashed := ⟨_, rfl⟩

theorem twoEvents_bound (digests : ReplayMarketDigests) :
    ∀ event ∈ supportedEvents sampleAuthority Replay.twoEvents.events, ∃ record binding,
      BoundEvent digests [sampleTrades] sampleAuthority event record binding := by
  intro event hevent
  have hmem := List.mem_of_mem_filter hevent
  rcases List.mem_pair.mp hmem with rfl | rfl
  · exact ⟨_, _, sampleTrade_bound digests (List.mem_singleton_self _) rfl rfl rfl
      List.mem_cons_self rfl ⟨rfl, rfl, rfl, rfl, rfl, rfl⟩⟩
  · exact ⟨_, _, sampleTrade_bound digests (List.mem_singleton_self _) rfl rfl rfl
      (List.mem_cons_of_mem _ List.mem_cons_self) rfl ⟨rfl, rfl, rfl, rfl, rfl, rfl⟩⟩

/-- The sample digests keep apart two observations of the first and the next event. -/
theorem sampleDigests_apart {timeline_id : TrimmedText} {event event' : ReplayTimelineEvent}
    {o o' : ReplayMarketObservationProjection sampleReplayDigests}
    (h : ObservedAs sampleReplayDigests timeline_id input_batches sampleAuthority event o)
    (h' : ObservedAs sampleReplayDigests timeline_id input_batches sampleAuthority event' o')
    (hindex : event.order_index = 0) (hindex' : event'.order_index = 1)
    (hsequence : event.source_sequence = 0) (hsequence' : event'.source_sequence = 1) :
    NoCollisions timeline_id [o, o'] := by
  have h0 : o.event_order_index = 0 := h.observation.order_index_eq.trans hindex
  have h1 : o'.event_order_index = 1 := h'.observation.order_index_eq.trans hindex'
  have hfirst : o.observation.provenance.source_sequence = some 0 :=
    h.sequence_eq.trans (congrArg some hsequence)
  have hnext : o'.observation.provenance.source_sequence = some 1 :=
    h'.sequence_eq.trans (congrArg some hsequence')
  have hbinding : ∀ p ∈ [o, o'], p.binding = sampleBinding := by
    intro p hp
    rcases List.mem_pair.mp hp with rfl | rfl
    · exact List.mem_singleton.mp h.observation.binding_mem
    · exact List.mem_singleton.mp h'.observation.binding_mem
  refine ⟨?_, ?_, fun p hp q hq _ => (hbinding p hp).trans (hbinding q hq).symm, ?_⟩
  · have hne : o.projection_id ≠ o'.projection_id := by
      rw [ReplayMarketObservationProjection.projection_id,
        ReplayMarketObservationProjection.projection_id,
        ReplayMarketDigests.observation_projection_id,
        ReplayMarketDigests.observation_projection_id]
      simp only [sampleReplayDigests, h0, h1]
      decide
    simpa using hne
  · have hne : sampleReplayDigests.observation_id o.observation ≠
        sampleReplayDigests.observation_id o'.observation := by
      rw [MarketDigests.observation_id, MarketDigests.observation_id]
      simp only [sampleReplayDigests, hfirst, hnext]
      decide
    simpa using hne
  · intro before p after before' q after' f g hsplit hsplit' hf hg hid
    have hp : p ∈ [o, o'] := hsplit ▸ List.mem_append_right _ List.mem_cons_self
    have hq : q ∈ [o, o'] := hsplit' ▸ List.mem_append_right _ List.mem_cons_self
    have hsame : f.event_order_index = 0 ↔ g.event_order_index = 0 := by
      rw [ReplayMarketFrameProjection.projection_id, ReplayMarketFrameProjection.projection_id,
        ReplayMarketDigests.frame_projection_id, ReplayMarketDigests.frame_projection_id] at hid
      simp only [sampleReplayDigests] at hid
      split_ifs at hid with hf0 hg0 hg0
      · exact iff_of_true hf0 hg0
      · exact absurd hid (by decide)
      · exact absurd hid (by decide)
      · exact iff_of_false hf0 hg0
    rw [hf.order_index_eq, hg.order_index_eq] at hsame
    rcases List.mem_pair.mp hp with rfl | rfl
    · rcases List.mem_pair.mp hq with rfl | rfl
      · rfl
      · exact absurd (hsame.mp h0) (by omega)
    · rcases List.mem_pair.mp hq with rfl | rfl
      · exact absurd (hsame.mpr h0) (by omega)
      · rfl

/-- The observations of two trades of one time, the first and the next, have frames. -/
theorem twoEvents_in_sequence : ∃ timeline, sampleFrames Replay.twoEvents = .ok timeline ∧
    timeline.frame_projections.map (fun f => f.event_id.value) = ["a:1", "a:2"] := by
  obtain ⟨os, hos, hbuilds⟩ := @frames_built_iff sampleReplayDigests Replay.twoEvents
    [sampleTrades] sampleDescriptor [sampleBinding] sampleAuthority (.inl rfl)
    (List.nodup_singleton _) sampleAuthority_built (twoEvents_bound sampleReplayDigests)
  have hevents : supportedEvents sampleAuthority Replay.twoEvents.events =
      Replay.twoEvents.events := rfl
  rw [hevents] at hos hbuilds
  obtain ⟨o, os', ho, hos', rfl⟩ := List.forall₂_cons_left_iff.mp hos
  obtain ⟨o', os'', ho', hnil, rfl⟩ := List.forall₂_cons_left_iff.mp hos'
  obtain rfl := List.forall₂_nil_left_iff.mp hnil
  obtain ⟨hiff, hleft⟩ := hbuilds (sampleDigests_apart ho ho' rfl rfl rfl rfl)
  have hsequence : InSequence [o, o'] := by
    have hturn : InTurn [o] o' := by
      have hb : o.binding = o'.binding :=
        (List.mem_singleton.mp ho.observation.binding_mem).trans
          (List.mem_singleton.mp ho'.observation.binding_mem).symm
      refine ⟨fun p hp _ => ?_, fun pre p mid hsplit _ _ => ?_⟩
      · rw [List.mem_singleton.mp hp, ho.observation.event_time_eq, ho'.observation.event_time_eq]
        exact le_refl _
      · have hp : p ∈ [o] := hsplit ▸ List.mem_append_right _ List.mem_cons_self
        rw [List.mem_singleton.mp hp, Follows, if_pos hb]
        rw [ReplayMarketObservationProjection.sequence,
          ReplayMarketObservationProjection.sequence, ho.sequence_eq, ho'.sequence_eq]
        exact Nat.zero_lt_one
    have hconcat : [o, o'] = ([] ++ [o]) ++ [o'] := rfl
    rw [hconcat, InSequence, forall_split_concat, forall_split_concat]
    refine ⟨⟨?_, ?_⟩, hturn⟩
    · intro before p after hsplit
      exact absurd hsplit (by simp)
    · exact ⟨fun p hp => absurd hp List.not_mem_nil, fun pre p mid hsplit =>
        absurd hsplit (by simp)⟩
  obtain ⟨timeline, hbuilt⟩ := hiff.mpr hsequence
  refine ⟨timeline, hbuilt, ?_⟩
  have hids := congrArg (List.map fun t : TrimmedText => t.value) (hleft timeline hbuilt).2
  rw [List.map_map] at hids
  exact hids

/-! Two trades of one time and one number in two batches. -/

/-- The event that is made of the only trade of a batch. -/
def onlyTradeEvent (event_id batch_id record_id : TrimmedText) (order_index : ℕ) :
    ReplayTimelineEvent where
  event_id
  batch_id
  input_dataset_id := ⟨"dataset-1", .checked evaluates⟩
  record_id
  kind := .TRADE
  instrument := Replay.sampleInstrument
  event_time := sampleTime
  source_sequence := 0
  order_index
  content_hash := none

/-- The timeline of two trades of one time and one number. -/
def equalTrades : ReplayTimeline where
  toReplayTimelineFields := Replay.sampleTimelineFields ["a", "c"] ["dataset-1"]
    [onlyTradeEvent ⟨"a:b", .checked evaluates⟩ ⟨"a", .checked evaluates⟩ ⟨"b", by decide⟩ 0,
      onlyTradeEvent ⟨"c:d", by decide⟩ ⟨"c", .checked evaluates⟩ ⟨"d", by decide⟩ 1]
  valid := by decide +kernel

def onlyTrade (batch_id record_id : TrimmedText) : PayloadBatch where
  batch_id
  input_dataset_id := ⟨"dataset-1", .checked evaluates⟩
  validation_status := .VALIDATED
  records := [sampleTrade record_id 0]
  unique_ids := List.nodup_singleton _

def equalTradeBatches : List PayloadBatch :=
  [onlyTrade ⟨"a", .checked evaluates⟩ ⟨"b", by decide⟩,
    onlyTrade ⟨"c", .checked evaluates⟩ ⟨"d", by decide⟩]

/-- Digests that tell the observations of the two trades apart. -/
def equalTradeDigests : ReplayMarketDigests :=
  { sampleReplayDigests with
    observation := fun o =>
      if o.provenance.source_event_id.value = "a:b" then sampleHexDigest '0' (.refl true)
      else sampleHexDigest '1' (.refl true) }

theorem equalTrades_built :
    ((Replay.sampleBuilder Replay.twoBatches).buildTimeline
      (Replay.sampleRequest Replay.twoBatches)).2 = .ok equalTrades := by
  have hbuilt : ((Replay.sampleBuilder Replay.twoBatches).buildTimeline
      (Replay.sampleRequest Replay.twoBatches)).2.toOption = some equalTrades := by
    decide +kernel
  generalize ((Replay.sampleBuilder Replay.twoBatches).buildTimeline
    (Replay.sampleRequest Replay.twoBatches)).2 = result at hbuilt ⊢
  cases result with
  | error e => cases hbuilt
  | ok timeline => rw [Option.some.inj hbuilt]

theorem equalTrades_bound (digests : ReplayMarketDigests) :
    ∀ event ∈ supportedEvents sampleAuthority equalTrades.events, ∃ record binding,
      BoundEvent digests equalTradeBatches sampleAuthority event record binding := by
  intro event hevent
  have hmem := List.mem_of_mem_filter hevent
  rcases List.mem_pair.mp hmem with rfl | rfl
  · exact ⟨_, _, sampleTrade_bound digests List.mem_cons_self rfl rfl rfl
      (List.mem_singleton_self _) rfl ⟨rfl, rfl, rfl, rfl, rfl, rfl⟩⟩
  · exact ⟨_, _, sampleTrade_bound digests (List.mem_cons_of_mem _ List.mem_cons_self) rfl rfl rfl
      (List.mem_singleton_self _) rfl ⟨rfl, rfl, rfl, rfl, rfl, rfl⟩⟩

/-- The second of two bound trades of one time and one number leaves the timeline that was built
without frames. -/
theorem equal_sequences_have_no_frames :
    ¬ ∀ (digests : ReplayMarketDigests) (builder : Replay.LocalReplayTimelineBuilder)
      (request : Replay.TimelineRequest) (r : ReplayTimeline) (input_batches : List PayloadBatch)
      (descriptor : ReplayMarketAdapterDescriptor) (bindings : List ReplayMarketDataBinding)
      (authority : ReplayMarketAdapterAuthority),
      (builder.buildTimeline request).2 = .ok r → r.status = .BUILT ∨ r.status = .VALIDATED →
      (input_batches.map fun b => b.batch_id).Nodup →
      build_replay_market_adapter_authority descriptor bindings = .ok authority →
      (∀ event ∈ supportedEvents authority r.events,
        ∃ record binding, BoundEvent digests input_batches authority event record binding) →
      ∃ timeline, build_replay_market_frame_timeline digests r input_batches descriptor bindings =
        .ok timeline := by
  intro h
  obtain ⟨timeline, hbuilt⟩ := h equalTradeDigests _ _ equalTrades equalTradeBatches
    sampleDescriptor [sampleBinding] sampleAuthority equalTrades_built (.inl rfl) (by decide)
    sampleAuthority_built (equalTrades_bound equalTradeDigests)
  have hnone : (build_replay_market_frame_timeline equalTradeDigests equalTrades
      equalTradeBatches sampleDescriptor [sampleBinding]).toOption.isNone = true := by
    decide +kernel
  rw [hbuilt] at hnone
  cases hnone

end FuturesBot.Market
