import FuturesBot.ReplayMarketFrames
import FuturesBot.ReplayStateMachine

/-! What a replay timeline's frames depend on: the events up to theirs. -/
namespace FuturesBot.Market

open TextLines DateTimes DecimalNumbers Checks Dicts KeySorting Selections
open Replay (ReplayInputKind ReplayInstrumentRef ReplayTimeline ReplayTimelineEvent)

section Lists

variable {α : Type} {l before after : List α} {o : α} {index : α → ℕ}

theorem filter_lt_append {k : ℕ} (hbefore : ∀ a ∈ before, index a < k)
    (hafter : ∀ a ∈ after, k ≤ index a) :
    (before ++ after).filter (fun a => index a < k) = before := by
  have hall : before.filter (fun a => index a < k) = before :=
    List.filter_eq_self.mpr fun a ha => decide_eq_true (hbefore a ha)
  have hnone : after.filter (fun a => index a < k) = [] := by
    refine List.filter_eq_nil_iff.mpr fun a ha hlt => ?_
    have hle := hafter a ha
    have hlt' := of_decide_eq_true hlt
    omega
  rw [List.filter_append, hall, hnone, List.append_nil]

/-- In index order, the elements up to one are those of no greater index. -/
theorem upTo_of_order (horder : (before ++ o :: after).Pairwise fun a b => index a < index b) :
    (∀ a ∈ before ++ [o], index a ≤ index o) ∧ ∀ a ∈ after, index o < index a := by
  obtain ⟨-, hrest, hlater⟩ := List.pairwise_append.mp horder
  refine ⟨fun a ha => ?_, (List.pairwise_cons.mp hrest).1⟩
  rcases List.mem_append.mp ha with hb | hb
  · exact Nat.le_of_lt (hlater a hb o List.mem_cons_self)
  · rw [List.mem_singleton.mp hb]

theorem filter_upTo {P : α → Prop} [DecidablePred P]
    (horder : (before ++ o :: after).Pairwise fun a b => index a < index b) :
    (before ++ o :: after).filter (fun a => P a ∧ index a ≤ index o) =
      (before ++ [o]).filter fun a => P a := by
  obtain ⟨hupto, hlater⟩ := upTo_of_order horder
  have hsplit : before ++ o :: after = (before ++ [o]) ++ after := by
    rw [List.append_assoc, List.singleton_append]
  have hnone : after.filter (fun a => P a ∧ index a ≤ index o) = [] := by
    refine List.filter_eq_nil_iff.mpr fun a ha h => ?_
    have hle := (of_decide_eq_true h).2
    have hlt := hlater a ha
    omega
  rw [hsplit, List.filter_append, hnone, List.append_nil]
  refine List.filter_congr fun a ha => ?_
  simp only [hupto a ha, and_true]

/-- In index order, what stands after an element up to another is what has an index between. -/
theorem exists_split_iff {P : α → Prop} {Q : α → α → Prop}
    (horder : (before ++ o :: after).Pairwise fun a b => index a < index b) :
    (∃ pre p post, before ++ [o] = pre ++ p :: post ∧ P p ∧ ∀ q ∈ post, Q q p) ↔
      ∃ p ∈ before ++ o :: after, index p ≤ index o ∧ P p ∧
        ∀ q ∈ before ++ o :: after, index p < index q → index q ≤ index o → Q q p := by
  obtain ⟨hupto, hlater⟩ := upTo_of_order horder
  have hsplit : before ++ o :: after = (before ++ [o]) ++ after := by
    rw [List.append_assoc, List.singleton_append]
  rw [hsplit] at horder ⊢
  have hfirst : ∀ a ∈ (before ++ [o]) ++ after, index a ≤ index o → a ∈ before ++ [o] := by
    intro a ha hle
    rcases List.mem_append.mp ha with hb | hb
    · exact hb
    · have hlt := hlater a hb
      omega
  constructor
  · rintro ⟨pre, p, post, heq, hp, hpost⟩
    have hmem : p ∈ before ++ [o] := heq ▸ List.mem_append_right _ List.mem_cons_self
    refine ⟨p, List.mem_append_left _ hmem, hupto p hmem, hp, fun q hq hlt hle => ?_⟩
    have hq' := hfirst q hq hle
    have hsorted := (List.pairwise_append.mp horder).1
    rw [heq] at hq' hsorted
    rcases List.mem_append.mp hq' with hpre | hrest
    · have hgt := (List.pairwise_append.mp hsorted).2.2 q hpre p List.mem_cons_self
      omega
    · rcases List.mem_cons.mp hrest with rfl | hin
      · omega
      · exact hpost q hin
  · rintro ⟨p, hp, hle, hP, hQ⟩
    obtain ⟨pre, post, heq⟩ := List.append_of_mem (hfirst p hp hle)
    refine ⟨pre, p, post, heq, hP, fun q hq => ?_⟩
    have hmem : q ∈ before ++ [o] :=
      heq ▸ List.mem_append_right _ (List.mem_cons_of_mem p hq)
    have hsorted := (List.pairwise_append.mp horder).1
    rw [heq] at hsorted
    have hafter := (upTo_of_order hsorted).2 q hq
    exact hQ q (List.mem_append_left _ hmem) hafter (hupto q hmem)

end Lists

variable {digests : ReplayMarketDigests}

section Run

variable {timeline_id : TrimmedText} {input_batches : List PayloadBatch}
  {authority : ReplayMarketAdapterAuthority} {s t : Projected digests}
  {events : List ReplayTimelineEvent}

/-- Every frame is the frame of an observation at its place. -/
theorem ProjectedOf.frame_of_mem (hs : ProjectedOf timeline_id authority events s)
    {f : ReplayMarketFrameProjection digests} (hf : f ∈ s.frame_projections) :
    ∃ before o after, s.observation_projections = before ++ o :: after ∧
      FrameOf timeline_id before o f := by
  obtain ⟨i, hi, rfl⟩ := List.mem_iff_getElem.mp hf
  have hlt : i < s.observation_projections.length := hs.same_length ▸ hi
  have hsplit : s.observation_projections = s.observation_projections.take i ++
      s.observation_projections[i] :: s.observation_projections.drop (i + 1) := by
    rw [← List.drop_eq_getElem_cons hlt, List.take_append_drop]
  obtain ⟨f, hget, hof⟩ := hs.frames _ _ _ hsplit
  rw [List.length_take_of_le (Nat.le_of_lt hlt), List.getElem?_eq_getElem hi] at hget
  cases hget
  exact ⟨_, _, _, hsplit, hof⟩

theorem observed_indexes {observations : List (ReplayMarketObservationProjection digests)}
    (h : List.Forall₂ (ObservationOf timeline_id authority) events observations) :
    observations.map (fun o => o.event_order_index) = events.map fun e => e.order_index := by
  induction h with
  | nil => rfl
  | cons ho _ ih => rw [List.map_cons, List.map_cons, ho.order_index_eq, ih]

theorem ProjectedOf.frame_indexes (hs : ProjectedOf timeline_id authority events s) :
    s.frame_projections.map (fun f => f.event_order_index) =
      s.observation_projections.map fun o => o.event_order_index := by
  refine List.ext_getElem (by rw [List.length_map, List.length_map, hs.same_length]) ?_
  intro i hi hi'
  rw [List.length_map] at hi hi'
  have hsplit : s.observation_projections = s.observation_projections.take i ++
      s.observation_projections[i] :: s.observation_projections.drop (i + 1) := by
    rw [← List.drop_eq_getElem_cons hi', List.take_append_drop]
  obtain ⟨f, hget, hof⟩ := hs.frames _ _ _ hsplit
  rw [List.length_take_of_le (Nat.le_of_lt hi'), List.getElem?_eq_getElem hi] at hget
  cases hget
  rw [List.getElem_map, List.getElem_map, hof.order_index_eq]

end Run

/-! The events of a timeline stand at their indexes. -/

theorem events_in_order (r : ReplayTimeline) :
    r.events.Pairwise fun e e' => e.order_index < e'.order_index := by
  have hrange : (r.events.map fun e => e.order_index).Pairwise (· < ·) := by
    rw [r.indexed]
    exact List.pairwise_lt_range
  exact List.pairwise_map.mp hrange

theorem order_index_lt_of_take (r : ReplayTimeline) {k : ℕ} {e : ReplayTimelineEvent}
    (h : e ∈ r.events.take k) : e.order_index < k := by
  obtain ⟨i, hi, rfl⟩ := List.mem_iff_getElem.mp h
  rw [List.length_take] at hi
  rw [List.getElem_take, r.order_index_eq (List.getElem?_eq_getElem (by omega))]
  omega

theorem le_order_index_of_drop (r : ReplayTimeline) {k : ℕ} {e : ReplayTimelineEvent}
    (h : e ∈ r.events.drop k) : k ≤ e.order_index := by
  obtain ⟨i, hi, rfl⟩ := List.mem_iff_getElem.mp h
  rw [List.length_drop] at hi
  rw [List.getElem_drop, r.order_index_eq (List.getElem?_eq_getElem (by omega))]
  omega

theorem ProjectedOf.inOrder {r : ReplayTimeline} {authority : ReplayMarketAdapterAuthority}
    {s : Projected digests} (hs : ProjectedOf r.timeline_id authority r.events s) :
    InOrder s.observation_projections := by
  have hevents : (supportedEvents authority r.events).Pairwise fun e e' =>
      e.order_index < e'.order_index := (events_in_order r).sublist List.filter_sublist
  have hindexes := List.pairwise_map.mpr hevents
  rw [← observed_indexes hs.observations] at hindexes
  exact List.pairwise_map.mp hindexes

/-! The projections of the first events of a timeline. -/

namespace ReplayMarketFrameTimeline

variable (timeline : ReplayMarketFrameTimeline digests)

def observationsBefore (k : ℕ) : List (ReplayMarketObservationProjection digests) :=
  timeline.observation_projections.filter fun o => o.event_order_index < k

def framesBefore (k : ℕ) : List (ReplayMarketFrameProjection digests) :=
  timeline.frame_projections.filter fun f => f.event_order_index < k

end ReplayMarketFrameTimeline

section First

variable {r : ReplayTimeline} {input_batches : List PayloadBatch}
  {authority : ReplayMarketAdapterAuthority} {s : Projected digests}

/-- The first events alone make the projections that have their indexes. -/
theorem project_first
    (h : r.events.foldlM (projectEvent digests r.timeline_id input_batches authority)
      (Projected.empty digests) = .ok s) (k : ℕ) :
    ∃ u, (r.events.take k).foldlM (projectEvent digests r.timeline_id input_batches authority)
        (Projected.empty digests) = .ok u ∧
      s.observation_projections.filter (fun o => o.event_order_index < k) =
        u.observation_projections ∧
      s.frame_projections.filter (fun f => f.event_order_index < k) = u.frame_projections := by
  have hs := foldlM_project_keeps ProjectedOf.empty h
  rw [← List.take_append_drop k r.events, List.foldlM_append] at h
  obtain ⟨u, hfirst, hrest⟩ := bind_eq_ok.mp h
  have hu := foldlM_project_keeps ProjectedOf.empty hfirst
  obtain ⟨⟨observations, hobs⟩, ⟨frames, hframes⟩⟩ := foldlM_project_extends hrest
  rw [List.nil_append] at hs hu
  -- the events after the first make what is added
  have hadded : List.Forall₂ (ObservationOf r.timeline_id authority)
      (supportedEvents authority (r.events.drop k)) observations := by
    have hall := hs.observations
    rw [← hobs] at hall
    have hdrop := List.forall₂_drop_append _ _ _ hall
    rwa [← List.take_append_drop k r.events, supportedEvents_append,
      ← hu.observations.length_eq, List.drop_left] at hdrop
  have hlater : ∀ o ∈ observations, k ≤ o.event_order_index := by
    intro o ho
    obtain ⟨i, hi, rfl⟩ := List.mem_iff_getElem.mp ho
    have hof := hadded.get (hadded.length_eq ▸ hi) hi
    rw [List.get_eq_getElem, List.get_eq_getElem] at hof
    rw [hof.order_index_eq]
    exact le_order_index_of_drop r (List.mem_of_mem_filter (List.getElem_mem _))
  have hearlier : ∀ o ∈ u.observation_projections, o.event_order_index < k := by
    intro o ho
    obtain ⟨event, hevent, hof⟩ := hu.observation ho
    rw [hof.order_index_eq]
    exact order_index_lt_of_take r hevent
  have hindexes : frames.map (fun f => f.event_order_index) =
      observations.map fun o => o.event_order_index := by
    have hall := hs.frame_indexes
    rw [← hobs, ← hframes, List.map_append, List.map_append, hu.frame_indexes] at hall
    exact List.append_cancel_left hall
  refine ⟨u, hfirst, ?_, ?_⟩
  · rw [← hobs]
    exact filter_lt_append hearlier hlater
  · rw [← hframes]
    refine filter_lt_append (fun f hf => ?_) fun f hf => ?_
    · obtain ⟨o, ho, heq⟩ := List.mem_map.mp
        (hu.frame_indexes ▸ List.mem_map_of_mem hf : f.event_order_index ∈ _)
      exact heq ▸ hearlier o ho
    · obtain ⟨o, ho, heq⟩ := List.mem_map.mp
        (hindexes ▸ List.mem_map_of_mem hf : f.event_order_index ∈ _)
      exact heq ▸ hlater o ho

end First

theorem timeline_eq_ok {r : ReplayTimeline} {input_batches : List PayloadBatch}
    {descriptor : ReplayMarketAdapterDescriptor} {bindings : List ReplayMarketDataBinding}
    {timeline : ReplayMarketFrameTimeline digests}
    (h : build_replay_market_frame_timeline digests r input_batches descriptor bindings =
      .ok timeline) :
    ∃ s, build_replay_market_adapter_authority descriptor bindings =
        .ok timeline.adapter_authority ∧
      r.events.foldlM (projectEvent digests r.timeline_id input_batches timeline.adapter_authority)
        (Projected.empty digests) = .ok s ∧
      timeline.observation_projections = s.observation_projections ∧
      timeline.frame_projections = s.frame_projections := by
  rw [build_replay_market_frame_timeline] at h
  obtain ⟨-, -, h⟩ := bind_eq_ok.mp h
  obtain ⟨authority, hauthority, h⟩ := bind_eq_ok.mp h
  obtain ⟨s, hproject, h⟩ := bind_eq_ok.mp h
  obtain ⟨-, hfields⟩ := frame_timeline_of_eq_ok.mp h
  refine ⟨s, ?_, ?_, ?_, ?_⟩
  · rw [hfields]
    exact hauthority
  · rw [hfields]
    exact hproject
  · rw [hfields]
  · rw [hfields]

/-- The projections of the first events of two timelines that share them, built from the same
batches and bindings: they differ in the id of their timeline and in what is made of it. -/
structure SameFirst (r r' : ReplayTimeline) (timeline timeline' : ReplayMarketFrameTimeline digests)
    (k : ℕ) : Prop where
  observations : timeline'.observationsBefore k =
    (timeline.observationsBefore k).map (retime r'.timeline_id)
  frames : timeline'.framesBefore k = List.zipWith (retimeFrame r'.timeline_id)
    (timeline.observationsBefore k) (timeline.framesBefore k)
  same_id : r.timeline_id = r'.timeline_id →
    timeline.observationsBefore k = timeline'.observationsBefore k ∧
      timeline.framesBefore k = timeline'.framesBefore k

theorem same_first {r r' : ReplayTimeline} {input_batches : List PayloadBatch}
    {descriptor : ReplayMarketAdapterDescriptor} {bindings : List ReplayMarketDataBinding}
    {timeline timeline' : ReplayMarketFrameTimeline digests} {k : ℕ}
    (h : build_replay_market_frame_timeline digests r input_batches descriptor bindings =
      .ok timeline)
    (h' : build_replay_market_frame_timeline digests r' input_batches descriptor bindings =
      .ok timeline')
    (hfirst : r.events.take k = r'.events.take k) : SameFirst r r' timeline timeline' k := by
  obtain ⟨s, hauthority, hproject, hobs, hframes⟩ := timeline_eq_ok h
  obtain ⟨s', hauthority', hproject', hobs', hframes'⟩ := timeline_eq_ok h'
  rw [hauthority, Except.ok.injEq] at hauthority'
  rw [← hauthority'] at hproject'
  obtain ⟨u, hu, huobs, huframes⟩ := project_first hproject k
  obtain ⟨u', hu', huobs', huframes'⟩ := project_first hproject' k
  have hobserved : timeline.observationsBefore k = u.observation_projections := by
    rw [ReplayMarketFrameTimeline.observationsBefore, hobs, huobs]
  have hframed : timeline.framesBefore k = u.frame_projections := by
    rw [ReplayMarketFrameTimeline.framesBefore, hframes, huframes]
  have hobserved' : timeline'.observationsBefore k = u'.observation_projections := by
    rw [ReplayMarketFrameTimeline.observationsBefore, hobs', huobs']
  have hframed' : timeline'.framesBefore k = u'.frame_projections := by
    rw [ReplayMarketFrameTimeline.framesBefore, hframes', huframes']
  -- the first events of the second timeline are those of the first under its own id
  have hempty : Retimed r'.timeline_id (Projected.empty digests) (Projected.empty digests) :=
    Retimed.empty
  obtain ⟨v, hv, hretimed⟩ := foldlM_project_retimed hempty hu
  rw [hfirst, hu', Except.ok.injEq] at hv
  subst hv
  refine ⟨?_, ?_, fun hid => ?_⟩
  · rw [hobserved', hobserved, hretimed.observations]
  · rw [hframed', hframed, hobserved, hretimed.frames]
  · rw [hid, hfirst, hu', Except.ok.injEq] at hu
    rw [hobserved, hobserved', hframed, hframed', hu]
    exact ⟨rfl, rfl⟩

/-! What the frames of a timeline hold. -/

namespace ReplayMarketFrameTimeline

variable (timeline : ReplayMarketFrameTimeline digests) (f : ReplayMarketFrameProjection digests)

/-- The observations of a frame's instrument up to the frame's event, in the order of the
events. -/
def observationsUpTo : List NormalizedMarketObservation :=
  (timeline.observation_projections.filter fun o =>
    o.logical = f.frame.logical_instrument ∧ o.event_order_index ≤ f.event_order_index).map
      fun o => o.observation

/-- An observation of a frame's instrument up to the frame's event that no later one of its stream
follows up to that event. -/
def LatestUpTo (x : NormalizedMarketObservation) : Prop :=
  ∃ p ∈ timeline.observation_projections, p.event_order_index ≤ f.event_order_index ∧
    (p.observation = x ∧ p.logical = f.frame.logical_instrument) ∧
      ∀ q ∈ timeline.observation_projections, p.event_order_index < q.event_order_index →
        q.event_order_index ≤ f.event_order_index → q.logical = f.frame.logical_instrument →
          observation_stream_key q.observation ≠ observation_stream_key p.observation

end ReplayMarketFrameTimeline

/-- One observation and one frame for each event of a kind that is projected, and in every frame
the latest observations of the streams of its instrument. -/
structure FramesOf (r : ReplayTimeline) (timeline : ReplayMarketFrameTimeline digests) : Prop where
  observations : List.Forall₂ (ObservationOf r.timeline_id timeline.adapter_authority)
    (supportedEvents timeline.adapter_authority r.events) timeline.observation_projections
  frame_events : timeline.frame_projections.map (fun f => f.event_order_index) =
    (supportedEvents timeline.adapter_authority r.events).map fun e => e.order_index
  selected : ∀ f ∈ timeline.frame_projections,
    select_latest_market_observations digests.toMarketDigests f.frame.logical_instrument
      f.event_time (timeline.observationsUpTo f) = .ok f.frame.observations
  latest : ∀ f ∈ timeline.frame_projections, ∀ x,
    x ∈ f.frame.observations ↔ timeline.LatestUpTo f x

theorem frames_of_timeline {r : ReplayTimeline} {input_batches : List PayloadBatch}
    {descriptor : ReplayMarketAdapterDescriptor} {bindings : List ReplayMarketDataBinding}
    {timeline : ReplayMarketFrameTimeline digests}
    (h : build_replay_market_frame_timeline digests r input_batches descriptor bindings =
      .ok timeline)
    (hinj : Set.InjOn digests.observation_id
      {x | ∃ p ∈ timeline.observation_projections, p.observation = x}) :
    FramesOf r timeline := by
  obtain ⟨s, -, hproject, hobs, hframes⟩ := timeline_eq_ok h
  have hs := foldlM_project_keeps ProjectedOf.empty hproject
  rw [List.nil_append] at hs
  rw [hobs] at hinj
  have hindexes := observed_indexes hs.observations
  refine ⟨hobs ▸ hs.observations, ?_, fun f hf => ?_, fun f hf x => ?_⟩
  · rw [hframes, hs.frame_indexes, hindexes]
  · rw [hframes] at hf
    obtain ⟨before, o, after, hsplit, hof⟩ := hs.frame_of_mem hf
    have horder : InOrder (before ++ o :: after) := hsplit ▸ hs.inOrder
    obtain ⟨-, hlogical, -, hselect⟩ := frame_members (hof.built_of_all horder)
    have hupto : timeline.observationsUpTo f = observationsOf o.logical (before ++ [o]) := by
      rw [ReplayMarketFrameTimeline.observationsUpTo, hobs, hsplit, hlogical, hof.order_index_eq,
        filter_upTo horder]
      rfl
    rw [hupto, hlogical, hof.event_time_eq]
    exact hselect
  · rw [hframes] at hf
    obtain ⟨before, o, after, hsplit, hof⟩ := hs.frame_of_mem hf
    have horder : InOrder (before ++ o :: after) := hsplit ▸ hs.inOrder
    obtain ⟨-, hlogical, -, -⟩ := frame_members (hof.built_of_all horder)
    rw [mem_frame_iff_last hs hs.inOrder hinj hsplit hof, ReplayMarketFrameTimeline.LatestUpTo,
      hobs, hlogical, hof.order_index_eq, hsplit, ← exists_split_iff horder]
    constructor
    · rintro ⟨pre, p, post, heq, rfl, hp, hlast⟩
      exact ⟨pre, p, post, heq, ⟨rfl, hp⟩, hlast⟩
    · rintro ⟨pre, p, post, heq, ⟨rfl, hp⟩, hlast⟩
      exact ⟨pre, p, post, heq, rfl, hp, hlast⟩

/-- The frames of a replay do not look ahead, hold the latest of their streams, and pass the check
that recomputes them. -/
theorem frames_without_look_ahead (digests : ReplayMarketDigests)
    (input_batches : List PayloadBatch) (descriptor : ReplayMarketAdapterDescriptor)
    (bindings : List ReplayMarketDataBinding) :
    (∀ (r r' : ReplayTimeline) (timeline timeline' : ReplayMarketFrameTimeline digests) (k : ℕ),
      build_replay_market_frame_timeline digests r input_batches descriptor bindings =
          .ok timeline →
        build_replay_market_frame_timeline digests r' input_batches descriptor bindings =
            .ok timeline' →
          r.events.take k = r'.events.take k → SameFirst r r' timeline timeline' k) ∧
    (∀ (r : ReplayTimeline) (timeline : ReplayMarketFrameTimeline digests),
      build_replay_market_frame_timeline digests r input_batches descriptor bindings =
          .ok timeline →
        timeline.validateSemantics = .ok () ∧
          (Set.InjOn digests.observation_id
              {x | ∃ p ∈ timeline.observation_projections, p.observation = x} →
            FramesOf r timeline)) ∧
    (∀ (r : ReplayTimeline) (authority : ReplayMarketAdapterAuthority) (s : Projected digests),
      build_replay_market_adapter_authority descriptor bindings = .ok authority →
        r.events.foldlM (projectEvent digests r.timeline_id input_batches authority)
            (Projected.empty digests) = .ok s →
          (FrameTimelineFields.validateSemantics ⟨r.timeline_id, r.replay_plan_id, authority,
              s.observation_projections, s.frame_projections⟩ = .ok () ↔
            (s.observation_projections.map fun p => p.projection_id).Nodup ∧
              (s.frame_projections.map fun p => p.projection_id).Nodup)) := by
  refine ⟨fun r r' timeline timeline' k h h' hfirst => same_first h h' hfirst,
    fun r timeline h => ⟨timeline.valid, fun hinj => frames_of_timeline h hinj⟩,
    fun r authority s _ hproject => ?_⟩
  have hs := foldlM_project_keeps ProjectedOf.empty hproject
  rw [List.nil_append] at hs
  exact semantics_iff hs hs.inOrder

/-! Two trades of one stream, replayed in two timelines. -/

def sampleDescriptor : ReplayMarketAdapterDescriptor where
  adapter_id := ⟨⟨"adapter-1", by decide⟩, by decide⟩
  adapter_version := ⟨⟨"1", .checked evaluates⟩, by decide⟩
  supported_input_kinds := [.TRADE]
  timestamp_policy := .EVENT_TIME_AS_SOURCE_AND_RECEIVED
  payload_hash_policy := .CANONICAL_REPLAY_RECORD
  nonempty := by decide
  unique := List.nodup_singleton _
  sorted := List.pairwise_singleton _ _
  supported := by decide

def sampleBinding : ReplayMarketDataBinding where
  binding_id := ⟨"binding-1", by decide⟩
  input_dataset_id := ⟨"dataset-1", by decide⟩
  replay_instrument := Replay.sampleInstrument
  source := sampleSource
  venue_instrument := sampleInstrument
  quote_semantics := .INDICATIVE
  binding_version := ⟨⟨"1", .checked evaluates⟩, by decide⟩
  replayed := .inl rfl
  symbol := rfl
  venue := by decide
  settlement := by decide
  quote := by decide

/-- The record of a sample event: a trade of one unit. -/
def sampleTrade (event_id : TrimmedText) (sequence : ℕ) : PayloadRecord where
  record_id := event_id
  kind := .TRADE
  instrument := Replay.sampleInstrument
  event_time := sampleTime
  source_sequence := sequence
  content_hash := none
  payload := (Dict.empty.set "price" (.decimal ⟨false, 43000, 0⟩)).set "quantity"
    (.decimal ⟨false, 1, 0⟩)

def sampleTrades : PayloadBatch where
  batch_id := ⟨"a", .checked evaluates⟩
  input_dataset_id := ⟨"dataset-1", by decide⟩
  validation_status := .VALIDATED
  records := [sampleTrade ⟨"a:1", .checked evaluates⟩ 0, sampleTrade ⟨"a:2", .checked evaluates⟩ 1]
  unique_ids := by decide

def sampleReplayDigests : ReplayMarketDigests where
  observation o :=
    if o.provenance.source_sequence = some 0 then sampleHexDigest '0' (.refl true)
    else sampleHexDigest '1' (.refl true)
  health _ := sampleHexDigest '2' (.refl true)
  frame _ := sampleHexDigest '3' (.refl true)
  binding_authority _ := sampleHexDigest '4' (.refl true)
  connection _ _ _ _ _ := sampleHexDigest '5' (.refl true)
  raw_payload _ _ _ := sampleHexDigest '6' (.refl true)
  observation_projection p :=
    if p.event_order_index = 0 then sampleHexDigest '7' (.refl true)
    else sampleHexDigest '8' (.refl true)
  frame_projection p :=
    if p.event_order_index = 0 then sampleHexDigest '7' (.refl true)
    else sampleHexDigest '8' (.refl true)

/-- The timeline of the same two events under another id. -/
def twoEventsAgain : ReplayTimeline where
  toReplayTimelineFields := { Replay.twoEvents.toReplayTimelineFields with
    timeline_id := ⟨"timeline-2", by decide⟩ }
  valid := Replay.twoEvents.valid

def sampleFrames (r : ReplayTimeline) :
    Except MarketError (ReplayMarketFrameTimeline sampleReplayDigests) :=
  build_replay_market_frame_timeline sampleReplayDigests r [sampleTrades] sampleDescriptor
    [sampleBinding]

/-- The frames of the two trades are built, and their observations keep their ids apart. -/
theorem sampleFrames_built (r : ReplayTimeline) (h : r = Replay.twoEvents ∨ r = twoEventsAgain) :
    ∃ timeline, sampleFrames r = .ok timeline ∧
      (∀ p ∈ timeline.observation_projections, ∀ q ∈ timeline.observation_projections,
        sampleReplayDigests.observation_id p.observation =
          sampleReplayDigests.observation_id q.observation → p.observation = q.observation) ∧
      (timeline.observationsBefore 1).map (fun o => o.timeline_id) = [r.timeline_id] := by
  have hbuilt : (match sampleFrames r with
      | .error _ => false
      | .ok timeline => decide (∀ p ∈ timeline.observation_projections,
          ∀ q ∈ timeline.observation_projections,
            sampleReplayDigests.observation_id p.observation =
              sampleReplayDigests.observation_id q.observation → p.observation = q.observation) &&
          decide ((timeline.observationsBefore 1).map (fun o => o.timeline_id) =
            [r.timeline_id])) = true := by
    rcases h with rfl | rfl
    · decide +kernel
    · decide +kernel
  cases hframes : sampleFrames r with
  | error e =>
    rw [hframes] at hbuilt
    cases hbuilt
  | ok timeline =>
    rw [hframes] at hbuilt
    simp only [Bool.and_eq_true, decide_eq_true_eq] at hbuilt
    exact ⟨timeline, rfl, hbuilt⟩

theorem sampleFrames_without_look_ahead :
    ∃ timeline timeline', sampleFrames Replay.twoEvents = .ok timeline ∧
      sampleFrames twoEventsAgain = .ok timeline' ∧
      SameFirst Replay.twoEvents twoEventsAgain timeline timeline' 1 ∧
      FramesOf Replay.twoEvents timeline := by
  obtain ⟨timeline, hbuilt, hinj, -⟩ := sampleFrames_built Replay.twoEvents (.inl rfl)
  obtain ⟨timeline', hbuilt', -, -⟩ := sampleFrames_built twoEventsAgain (.inr rfl)
  obtain ⟨hsame, hframes, -⟩ := frames_without_look_ahead sampleReplayDigests [sampleTrades]
    sampleDescriptor [sampleBinding]
  refine ⟨timeline, timeline', hbuilt, hbuilt',
    hsame _ _ timeline timeline' 1 hbuilt hbuilt' rfl, (hframes _ timeline hbuilt).2 ?_⟩
  rintro x ⟨p, hp, rfl⟩ y ⟨q, hq, rfl⟩ hid
  exact hinj p hp q hq hid

/-- Two timelines with the same events do not have equal projections: these name their timeline. -/
theorem projections_name_their_timeline :
    ¬ ∀ (r r' : ReplayTimeline)
      (timeline timeline' : ReplayMarketFrameTimeline sampleReplayDigests) (k : ℕ),
      sampleFrames r = .ok timeline → sampleFrames r' = .ok timeline' →
        r.replay_plan_id = r'.replay_plan_id → r.events.take k = r'.events.take k →
          timeline.observationsBefore k = timeline'.observationsBefore k ∧
            timeline.framesBefore k = timeline'.framesBefore k := by
  intro h
  obtain ⟨timeline, hbuilt, -, hname⟩ := sampleFrames_built Replay.twoEvents (.inl rfl)
  obtain ⟨timeline', hbuilt', -, hname'⟩ := sampleFrames_built twoEventsAgain (.inr rfl)
  obtain ⟨hsame, -⟩ := h _ _ timeline timeline' 1 hbuilt hbuilt' rfl rfl
  rw [hsame, hname'] at hname
  exact absurd hname (by decide)

end FuturesBot.Market
