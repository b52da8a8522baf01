import FuturesBot.ReplayBoundEvents
import FuturesBot.TimelineBuilding

/-! For which orders of its events the frames of a replay can be built: in each logical instrument
no event goes back in time, and in each stream every event follows the one before it. -/
namespace FuturesBot.Market

open TextLines DateTimes DecimalNumbers Checks Dicts KeySorting Selections
open Replay (ReplayInputKind ReplayInstrumentRef ReplayTimeline ReplayTimelineEvent)

/-! Lists that grow at their end. -/

section Concat

variable {α β : Type}

theorem forall_split_concat {Q : List α → α → Prop} {l : List α} {a : α} :
    (∀ before b after, l ++ [a] = before ++ b :: after → Q before b) ↔
      (∀ before b after, l = before ++ b :: after → Q before b) ∧ Q l a := by
  constructor
  · intro h
    refine ⟨fun before b after hsplit => h before b (after ++ [a]) ?_, h l a [] rfl⟩
    rw [hsplit, List.append_assoc, List.cons_append]
  · rintro ⟨hbefore, hlast⟩ before b after hsplit
    rcases List.eq_nil_or_concat' after with rfl | ⟨after', last, rfl⟩
    · obtain ⟨rfl, hb⟩ := List.append_inj' hsplit rfl
      rw [← (List.cons.inj hb).1]
      exact hlast
    · refine hbefore before b after' ?_
      have hconcat : l ++ [a] = (before ++ b :: after') ++ [last] := by
        rw [hsplit, List.append_assoc, List.cons_append]
      exact (List.append_inj' hconcat rfl).1

theorem forall₂_concat {R : α → β → Prop} {l : List α} {a : α} {m : List β}
    (h : List.Forall₂ R (l ++ [a]) m) :
    ∃ m' b, m = m' ++ [b] ∧ List.Forall₂ R l m' ∧ R a b := by
  induction l generalizing m with
  | nil =>
    obtain ⟨b, m', hb, hnil, rfl⟩ := List.forall₂_cons_left_iff.mp h
    obtain rfl := List.forall₂_nil_left_iff.mp hnil
    exact ⟨[], b, rfl, .nil, hb⟩
  | cons c l ih =>
    obtain ⟨d, m', hd, hrest, rfl⟩ := List.forall₂_cons_left_iff.mp h
    obtain ⟨m'', b, rfl, hl, hb⟩ := ih hrest
    exact ⟨d :: m'', b, rfl, .cons hd hl, hb⟩

end Concat

/-- A candidate at the end is set against what the others select. -/
theorem runUp_concat {α ε : Type} {replaces : α → α → Except ε Bool} {l : List α} {a : α}
    {current r : Option α} (h : runUp replaces current l = .ok r) :
    runUp replaces current (l ++ [a]) = runUp replaces r [a] := by
  induction l generalizing current with
  | nil =>
    rw [runUp] at h
    cases h
    rfl
  | cons b l ih =>
    cases current with
    | none =>
      rw [runUp] at h
      rw [List.cons_append, runUp]
      exact ih h
    | some c =>
      rw [runUp] at h
      rw [List.cons_append, runUp]
      split at h
      · exact ih h
      · exact ih h
      · cases h

variable {digests : ReplayMarketDigests} {timeline_id : TrimmedText}
  {input_batches : List PayloadBatch} {authority : ReplayMarketAdapterAuthority}

/-! What the checks of an observation say of it. -/

namespace ReplayMarketObservationProjection

variable (o : ReplayMarketObservationProjection digests)

abbrev binding : ReplayMarketDataBinding := o.binding_authority.binding

/-- The number of the event: every observation has one. -/
abbrev sequence : ℕ := o.observation.provenance.source_sequence.getD 0

theorem own_checks : checkAll (o.validateProjectionBinding) = .ok () ∧
    checkAll (o.validateObservationProvenance digests) = .ok () := by
  have hvalid := o.valid
  rw [ObservationProjectionFields.validate, checkAll_append, checkAll_append] at hvalid
  exact ⟨hvalid.1.2, hvalid.2⟩

theorem source_eq : o.observation.source = o.binding.source := by
  have h := o.own_checks.1
  simp only [ObservationProjectionFields.validateProjectionBinding, checkAll_require] at h
  exact h.2.1

theorem instrument_eq : o.observation.instrument = o.binding.venue_instrument := by
  have h := o.own_checks.1
  simp only [ObservationProjectionFields.validateProjectionBinding, checkAll_require] at h
  exact h.2.2.1

theorem dataset_eq : o.binding.input_dataset_id = o.input_dataset_id := by
  have h := o.own_checks.1
  simp only [ObservationProjectionFields.validateProjectionBinding, checkAll_require] at h
  exact h.1

theorem received_eq : o.observation.provenance.received_at = o.event_time := by
  have h := o.own_checks.2
  simp only [ObservationProjectionFields.validateObservationProvenance, checkAll_require] at h
  exact h.2.2.2.1

theorem sequence_some : o.observation.provenance.source_sequence = some o.sequence := by
  have h := o.own_checks.2
  simp only [ObservationProjectionFields.validateObservationProvenance, checkAll_require] at h
  obtain ⟨n, hn⟩ := Option.ne_none_iff_exists'.mp h.2.2.2.2.2.2.1
  rw [sequence, hn, Option.getD_some]

theorem generation_eq : o.observation.provenance.reconnect_generation = 0 := by
  have h := o.own_checks.2
  simp only [ObservationProjectionFields.validateObservationProvenance, checkAll_require] at h
  exact h.2.2.2.2.2.2.2.1

theorem connection_eq : o.observation.provenance.connection_id =
    digests.build_replay_market_connection_id o.binding.input_dataset_id o.binding_authority := by
  have h := o.own_checks.2
  simp only [ObservationProjectionFields.validateObservationProvenance, checkAll_require] at h
  rw [o.dataset_eq]
  exact h.2.2.2.2.2.2.2.2.1

end ReplayMarketObservationProjection

/-! The order of observations. -/

section Order

variable (p o : ReplayMarketObservationProjection digests)

def SameStream : Prop :=
  observation_stream_key p.observation = observation_stream_key o.observation

instance : Decidable (SameStream p o) := inferInstanceAs (Decidable (_ = _))

/-- What takes the place of another observation of its stream: under the same binding one of a
higher number, under another binding one of a later time. -/
def Follows : Prop :=
  if p.binding = o.binding then p.sequence < o.sequence else p.event_time < o.event_time

end Order

/-- An observation is not from before any other of its logical instrument, and follows the last of
its stream. -/
structure InTurn (before : List (ReplayMarketObservationProjection digests))
    (o : ReplayMarketObservationProjection digests) : Prop where
  times : ∀ p ∈ before, p.logical = o.logical → p.event_time ≤ o.event_time
  follows : ∀ pre p mid, before = pre ++ p :: mid → SameStream p o →
    (∀ q ∈ mid, ¬ SameStream q o) → Follows p o

def InSequence (os : List (ReplayMarketObservationProjection digests)) : Prop :=
  ∀ before o after, os = before ++ o :: after → InTurn before o

/-- The digests keep apart what is made of the events of one timeline. -/
structure NoCollisions (timeline_id : TrimmedText)
    (os : List (ReplayMarketObservationProjection digests)) : Prop where
  projections : (os.map fun o => o.projection_id).Nodup
  observations : (os.map fun o => digests.observation_id o.observation).Nodup
  connections : ∀ p ∈ os, ∀ o ∈ os, p.observation.provenance.connection_id =
    o.observation.provenance.connection_id → p.binding = o.binding
  frames : ∀ before p after before' o after' f g, os = before ++ p :: after →
    os = before' ++ o :: after' → FrameOf timeline_id before p f →
      FrameOf timeline_id before' o g → f.projection_id = g.projection_id → p = o

theorem follows_iff {p o : ReplayMarketObservationProjection digests}
    (hids : digests.observation_id o.observation ≠ digests.observation_id p.observation)
    (hdescriptor : p.binding_authority.descriptor = o.binding_authority.descriptor)
    (hconnections : p.observation.provenance.connection_id =
      o.observation.provenance.connection_id → p.binding = o.binding) :
    observationReplaces digests.toMarketDigests o.observation p.observation = .ok true ↔
      Follows p o := by
  have hsession : SameSession o.observation.provenance p.observation.provenance ↔
      p.binding = o.binding := by
    rw [SameSession, o.generation_eq, p.generation_eq]
    constructor
    · exact fun h => hconnections h.1.symm
    · intro h
      have hsame : p.binding_authority = o.binding_authority := by
        cases hp : p.binding_authority
        cases ho : o.binding_authority
        simp only [hp, ho, ReplayMarketObservationProjection.binding] at hdescriptor h
        rw [hdescriptor, h]
      refine ⟨?_, rfl⟩
      rw [o.connection_eq, p.connection_eq, h, hsame]
  rw [observationReplaces, compareMarketObservations, if_neg hids, compareProvenance, Follows]
  by_cases hbinding : p.binding = o.binding
  · rw [if_pos (hsession.mpr hbinding), if_pos hbinding, o.sequence_some, p.sequence_some]
    simp only
    split_ifs with hlater hearlier
    · simp [Except.map, hlater]
    · simp [Except.map, hlater]
    · simp [Except.map, hlater]
  · rw [if_neg (fun h => hbinding (hsession.mp h)), if_neg hbinding, o.received_eq, p.received_eq]
    split_ifs with hlater hearlier
    · simp [Except.map, hlater]
    · simp [Except.map, hlater]
    · simp [Except.map, hlater]

/-! One more observation. -/

section Step

variable {events : List ReplayTimelineEvent} {event event' : ReplayTimelineEvent}
  {s t : Projected digests} {p o : ReplayMarketObservationProjection digests}

theorem ObservationOf.binding_mem (h : ObservationOf timeline_id authority event o) :
    o.binding ∈ authority.bindings :=
  List.mem_reverse.mp (List.mem_of_find?_eq_some h.bound)

/-- Within an authority the instrument of a stream is one. -/
theorem SameStream.logical_eq (h : SameStream p o)
    (hp : ObservationOf timeline_id authority event p)
    (ho : ObservationOf timeline_id authority event' o) : p.logical = o.logical := by
  have hid : p.observation.instrument.venue_instrument_id.value =
      o.observation.instrument.venue_instrument_id.value :=
    congrArg (fun k => (ofLex (ofLex k).2).1) h
  rw [p.instrument_eq, o.instrument_eq] at hid
  have hsame := (canonical_of_validate authority.canonical).instruments
    _ (List.mem_map_of_mem hp.binding_mem) _ (List.mem_map_of_mem ho.binding_mem) hid
  rw [ReplayMarketObservationProjection.logical, ReplayMarketObservationProjection.logical,
    p.instrument_eq, o.instrument_eq]
  exact congrArg VenueInstrumentRef.logical_instrument hsame

/-- Observations under canonical bindings agree on their sources and instruments. -/
theorem authority_of_bound {os : List (ReplayMarketObservationProjection digests)}
    (h : ∀ o ∈ os, o.binding ∈ authority.bindings) (i : InstrumentSymbol) :
    validate_market_frame_authority_consistency (observationsOf i os) [] = .ok () := by
  have hcanonical := canonical_of_validate authority.canonical
  have hbound : ∀ x ∈ observationsOf i os, ∃ b ∈ authority.bindings,
      x.source = b.source ∧ x.instrument = b.venue_instrument := by
    intro x hx
    obtain ⟨o, ho, -, rfl⟩ := mem_observationsOf.mp hx
    exact ⟨o.binding, h o ho, o.source_eq, o.instrument_eq⟩
  rw [authority_iff]
  constructor
  · intro v hv w hw hkey
    simp only [sourcesOf, List.map_nil, List.append_nil] at hv hw
    obtain ⟨x, hx, rfl⟩ := List.mem_map.mp hv
    obtain ⟨y, hy, rfl⟩ := List.mem_map.mp hw
    obtain ⟨b, hb, hsource, -⟩ := hbound x hx
    obtain ⟨c, hc, hsource', -⟩ := hbound y hy
    rw [hsource, hsource'] at hkey ⊢
    exact hcanonical.sources _ (List.mem_map_of_mem hb) _ (List.mem_map_of_mem hc) hkey
  · intro v hv w hw hkey
    simp only [instrumentsOf, List.filterMap_nil, List.append_nil] at hv hw
    obtain ⟨x, hx, rfl⟩ := List.mem_map.mp hv
    obtain ⟨y, hy, rfl⟩ := List.mem_map.mp hw
    obtain ⟨b, hb, -, hinstrument⟩ := hbound x hx
    obtain ⟨c, hc, -, hinstrument'⟩ := hbound y hy
    rw [hinstrument, hinstrument'] at hkey ⊢
    exact hcanonical.instruments _ (List.mem_map_of_mem hb) _ (List.mem_map_of_mem hc) hkey

theorem stream_concat {ps : List (ReplayMarketObservationProjection digests)}
    (i : InstrumentSymbol) (k : StreamKey) :
    stream observation_stream_key k (observationsOf i (ps ++ [o])) =
      stream observation_stream_key k (observationsOf i ps) ++
        if o.logical = i ∧ observation_stream_key o.observation = k then [o.observation]
        else [] := by
  rw [observationsOf_append, stream, List.filter_append]
  congr 1
  by_cases hi : o.logical = i
  · by_cases hk : observation_stream_key o.observation = k
    · simp [observationsOf, hi, hk]
    · simp [observationsOf, hi, hk]
  · simp [observationsOf, hi]

/-- What the observations so far select in a stream: nothing when it is empty, else its last. -/
theorem stream_selected (hs : ProjectedOf timeline_id authority events s)
    (horder : InOrder s.observation_projections)
    (hinj : Set.InjOn digests.observation_id
      {x | ∃ p ∈ s.observation_projections, p.observation = x})
    (i : InstrumentSymbol) (k : StreamKey) :
    (runUp (observationReplaces digests.toMarketDigests) none
        (stream observation_stream_key k (observationsOf i s.observation_projections)) =
          .ok none) ∨
      ∃ pre p mid, s.observation_projections = pre ++ p :: mid ∧
        (p.logical = i ∧ observation_stream_key p.observation = k) ∧
        (∀ q ∈ mid, ¬ (q.logical = i ∧ observation_stream_key q.observation = k)) ∧
        runUp (observationReplaces digests.toMarketDigests) none
          (stream observation_stream_key k (observationsOf i s.observation_projections)) =
            .ok (some p.observation) := by
  by_cases hany : ∃ p ∈ s.observation_projections,
      p.logical = i ∧ observation_stream_key p.observation = k
  · obtain ⟨pre, p, mid, hsplit, ⟨hi, rfl⟩, hlast⟩ := exists_last_split hany
    refine .inr ⟨pre, p, mid, hsplit, ⟨hi, rfl⟩, hlast, ?_⟩
    have hsplit' : s.observation_projections = (pre ++ p :: mid) ++ [] := by
      rw [hsplit, List.append_nil]
    have hselected := selects_last hs horder hinj hsplit' hi
      fun q hq hqi hkey => hlast q hq ⟨hqi, hkey⟩
    rwa [← hsplit] at hselected
  · refine .inl ?_
    have hempty : stream observation_stream_key k
        (observationsOf i s.observation_projections) = [] := by
      refine List.eq_nil_iff_forall_not_mem.mpr fun x hx => ?_
      obtain ⟨hmem, hkey⟩ := mem_stream.mp hx
      obtain ⟨p, hp, hi, rfl⟩ := mem_observationsOf.mp hmem
      exact hany ⟨p, hp, hi, hkey⟩
    rw [hempty, runUp]

/-- What is known of the observations so far and of one more. -/
structure OneMore (timeline_id : TrimmedText) (authority : ReplayMarketAdapterAuthority)
    (events : List ReplayTimelineEvent) (event : ReplayTimelineEvent) (s : Projected digests)
    (o : ReplayMarketObservationProjection digests) : Prop where
  projected : ProjectedOf timeline_id authority events s
  observation : ObservationOf timeline_id authority event o
  order : InOrder (s.observation_projections ++ [o])
  ids : ((s.observation_projections ++ [o]).map fun p =>
    digests.observation_id p.observation).Nodup
  connections : ∀ p ∈ s.observation_projections, p.observation.provenance.connection_id =
    o.observation.provenance.connection_id → p.binding = o.binding

namespace OneMore

theorem inOrder (h : OneMore timeline_id authority events event s o) :
    InOrder s.observation_projections := (List.pairwise_append.mp h.order).1

theorem injOn (h : OneMore timeline_id authority events event s o) :
    Set.InjOn digests.observation_id
      {x | ∃ p ∈ s.observation_projections, p.observation = x} := by
  rintro x ⟨p, hp, rfl⟩ y ⟨q, hq, rfl⟩ hid
  exact congrArg (fun p => p.observation) (List.inj_on_of_nodup_map h.ids
    (List.mem_append_left _ hp) (List.mem_append_left _ hq) hid)

theorem id_ne (h : OneMore timeline_id authority events event s o)
    (hp : p ∈ s.observation_projections) :
    digests.observation_id o.observation ≠ digests.observation_id p.observation := by
  intro hid
  have hnodup := h.ids
  rw [List.map_append, List.map_singleton] at hnodup
  have hdisjoint := List.disjoint_of_nodup_append hnodup
  exact hdisjoint (List.mem_map_of_mem hp) (hid ▸ List.mem_singleton_self _)

theorem replaces_iff (h : OneMore timeline_id authority events event s o)
    (hp : p ∈ s.observation_projections) :
    observationReplaces digests.toMarketDigests o.observation p.observation = .ok true ↔
      Follows p o := by
  obtain ⟨event', -, hof⟩ := h.projected.observation hp
  refine follows_iff (h.id_ne hp) ?_ (h.connections p hp)
  rw [hof.descriptor_eq, h.observation.descriptor_eq]

/-- The frame of one more observation can be built and has it exactly when it is in turn. -/
theorem frame_iff (h : OneMore timeline_id authority events event s o) :
    (∃ frame, build_cross_venue_market_frame digests.toMarketDigests o.logical o.event_time
        (observationsOf o.logical (s.observation_projections ++ [o])) [] = .ok frame ∧
      ∃ x ∈ frame.observations,
        digests.observation_id x = digests.observation_id o.observation) ↔
      InTurn s.observation_projections o := by
  constructor
  · rintro ⟨frame, hframe, x, hx, hid⟩
    obtain ⟨-, selected, health, hselected, -, -⟩ := build_eq_ok_iff.mp hframe
    refine ⟨fun p hp hlogical => ?_, fun pre p mid hsplit hsame hmid => ?_⟩
    · have hcheck := (selectLatest_ok hselected).1 p.observation
        (mem_observationsOf.mpr ⟨p, List.mem_append_left _ hp, hlogical, rfl⟩)
      simp only [checkObservation, checkAll_require] at hcheck
      rw [p.received_eq] at hcheck
      exact Nat.not_lt.mp hcheck.2.1
    · have hp : p ∈ s.observation_projections := by
        rw [hsplit]
        exact List.mem_append_right _ List.mem_cons_self
      obtain ⟨event', -, hof⟩ := h.projected.observation hp
      have hlogical := hsame.logical_eq hof h.observation
      -- the frame holds the observation itself
      obtain ⟨q, hq, -, rfl⟩ := mem_observationsOf.mp (mem_of_mem_frame hframe hx)
      obtain rfl := List.inj_on_of_nodup_map h.ids hq
        (List.mem_append_right _ (List.mem_singleton_self o)) hid
      have hrun := (mem_frame_iff hframe).mp hx
      rw [stream_concat, if_pos ⟨rfl, rfl⟩] at hrun
      have hsplit' : s.observation_projections = (pre ++ p :: mid) ++ [] := by
        rw [hsplit, List.append_nil]
      have hlast := selects_last h.projected h.inOrder h.injOn hsplit' hlogical
        fun r hr _ hkey => hmid r hr (hkey.trans hsame)
      rw [← hsplit, hsame] at hlast
      rw [runUp_concat hlast, runUp] at hrun
      rw [← h.replaces_iff hp]
      split at hrun
      · next hreplaced => exact hreplaced
      · rw [runUp, Except.ok.injEq, Option.some.injEq] at hrun
        exact absurd (congrArg digests.observation_id hrun) (h.id_ne hp).symm
      · cases hrun
  · intro hturn
    have hchecks : ∀ x ∈ observationsOf o.logical (s.observation_projections ++ [o]),
        checkObservation o.logical o.event_time x = .ok () := by
      intro x hx
      obtain ⟨p, hp, hlogical, rfl⟩ := mem_observationsOf.mp hx
      have htime : p.event_time ≤ o.event_time := by
        rcases List.mem_append.mp hp with hp | hp
        · exact hturn.times p hp hlogical
        · rw [List.mem_singleton.mp hp]
      simp only [checkObservation, checkAll_require, checkAll_nil, and_true]
      refine ⟨hlogical, ?_⟩
      rw [p.received_eq]
      exact Nat.not_lt.mpr htime
    -- every stream goes through, and the observation's own selects it
    have hown (r : Option NormalizedMarketObservation)
        (hr : runUp (observationReplaces digests.toMarketDigests) none
          (stream observation_stream_key (observation_stream_key o.observation)
            (observationsOf o.logical s.observation_projections)) = .ok r)
        (hreplaced : ∀ c, r = some c →
          observationReplaces digests.toMarketDigests o.observation c = .ok true) :
        runUp (observationReplaces digests.toMarketDigests) none
          (stream observation_stream_key (observation_stream_key o.observation)
            (observationsOf o.logical (s.observation_projections ++ [o]))) =
              .ok (some o.observation) := by
      rw [stream_concat, if_pos ⟨rfl, rfl⟩, runUp_concat hr]
      cases r with
      | none => rw [runUp, runUp]
      | some c => rw [runUp, hreplaced c rfl, runUp]
    have hselected : runUp (observationReplaces digests.toMarketDigests) none
        (stream observation_stream_key (observation_stream_key o.observation)
          (observationsOf o.logical (s.observation_projections ++ [o]))) =
            .ok (some o.observation) := by
      rcases stream_selected h.projected h.inOrder h.injOn o.logical
        (observation_stream_key o.observation) with hnone |
          ⟨pre, p, mid, hsplit, ⟨hlogical, hkey⟩, hmid, hrun⟩
      · exact hown none hnone fun c hc => absurd hc (by simp)
      · refine hown _ hrun fun c hc => ?_
        obtain rfl := Option.some.inj hc
        have hp : p ∈ s.observation_projections := by
          rw [hsplit]
          exact List.mem_append_right _ List.mem_cons_self
        refine (h.replaces_iff hp).mpr (hturn.follows pre p mid hsplit hkey fun q hq hsame => ?_)
        have hq' : q ∈ s.observation_projections := by
          rw [hsplit]
          exact List.mem_append_right _ (List.mem_cons_of_mem _ hq)
        obtain ⟨event', -, hof⟩ := h.projected.observation hq'
        exact hmid q hq ⟨hsame.logical_eq hof h.observation, hsame⟩
    have hstreams : ∀ k, ∃ r, runUp (observationReplaces digests.toMarketDigests)
        ((KeyedDict.empty : KeyedDict observation_stream_key).get? k)
        (stream observation_stream_key k
          (observationsOf o.logical (s.observation_projections ++ [o]))) = .ok r := by
      intro k
      rw [KeyedDict.get?_empty]
      by_cases hk : observation_stream_key o.observation = k
      · exact ⟨_, hk ▸ hselected⟩
      · rw [stream_concat, if_neg fun hboth => hk hboth.2, List.append_nil]
        rcases stream_selected h.projected h.inOrder h.injOn o.logical k with hnone |
          ⟨_, p, _, _, _, _, hrun⟩
        · exact ⟨_, hnone⟩
        · exact ⟨_, hrun⟩
    obtain ⟨selected, hselect⟩ := selectLatest_of_runUp hchecks hstreams
    have hauthority : validate_market_frame_authority_consistency
        (observationsOf o.logical (s.observation_projections ++ [o])) [] = .ok () := by
      refine @authority_of_bound _ authority _ (fun p hp => ?_) _
      rcases List.mem_append.mp hp with hp | hp
      · obtain ⟨event', -, hof⟩ := h.projected.observation hp
        exact hof.binding_mem
      · rw [List.mem_singleton.mp hp]
        exact h.observation.binding_mem
    have hvalid := frame_of_selection hauthority hselect
      (rfl : selectLatest (checkHealth o.logical o.event_time)
        (healthReplaces digests.toMarketDigests) KeyedDict.empty [] = .ok KeyedDict.empty)
    have hframe : build_cross_venue_market_frame digests.toMarketDigests o.logical o.event_time
        (observationsOf o.logical (s.observation_projections ++ [o])) [] = .ok ⟨_, hvalid⟩ :=
      build_eq_ok_iff.mpr ⟨hauthority, selected, KeyedDict.empty, hselect, rfl, rfl⟩
    exact ⟨_, hframe, o.observation, (mem_frame_iff hframe).mpr hselected, rfl⟩

end OneMore

end Step

end FuturesBot.Market
