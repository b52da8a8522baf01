import FuturesBot.BindingAgreement
import FuturesBot.ReplayLookAhead
import FuturesBot.ReplayLookup

/-! A lookup returns what was built for an event, and nothing for any other event. -/
namespace FuturesBot.Market

open TextLines DateTimes Checks Dicts KeySorting
open Replay (ReplayInputKind ReplayTimeline ReplayTimelineEvent ReplayDispatchContext)

variable {digests : ReplayLookupDigests}

/-! The projections of one event. -/

section Pairs

variable {timeline_id : TrimmedText} {kinds : List ReplayInputKind}
  {o : ReplayMarketObservationProjection digests.toReplayMarketDigests}
  {f : ReplayMarketFrameProjection digests.toReplayMarketDigests}

/-- What the two projections of an event share. -/
structure PairOf (timeline_id : TrimmedText) (kinds : List ReplayInputKind)
    (o : ReplayMarketObservationProjection digests.toReplayMarketDigests)
    (f : ReplayMarketFrameProjection digests.toReplayMarketDigests) : Prop where
  timeline_eq : o.timeline_id = timeline_id
  frame_timeline_eq : f.timeline_id = timeline_id
  event_id_eq : o.event_id = f.event_id
  order_index_eq : o.event_order_index = f.event_order_index
  event_time_eq : o.event_time = f.event_time
  projection_eq : f.triggering_observation_projection_id = o.projection_id
  observation_eq : f.triggering_observation_id = digests.observation_id o.observation
  as_of_eq : f.frame.as_of = o.event_time
  kind_mem : o.event_kind ∈ kinds
  kind_ne : observationKind o.event_kind ≠ none

theorem pairOf_frame {authority : ReplayMarketAdapterAuthority} {event : ReplayTimelineEvent}
    {before : List (ReplayMarketObservationProjection digests.toReplayMarketDigests)}
    (ho : ObservationOf timeline_id authority event o)
    (hkind : event.kind ∈ authority.descriptor.supported_input_kinds)
    (hf : FrameOf timeline_id before o f) :
    PairOf timeline_id authority.descriptor.supported_input_kinds o f where
  timeline_eq := ho.timeline_id_eq
  frame_timeline_eq := hf.timeline_id_eq
  event_id_eq := hf.event_id_eq.symm
  order_index_eq := hf.order_index_eq.symm
  event_time_eq := hf.event_time_eq.symm
  projection_eq := hf.projection_eq
  observation_eq := hf.observation_eq
  as_of_eq := (frame_members hf.built).1
  kind_mem := ho.event_kind_eq ▸ hkind
  kind_ne := ho.event_kind_eq ▸ authority.descriptor.supported _ hkind

theorem descriptor_kinds_ok (d : ReplayMarketAdapterDescriptor) :
    checkAll (projectionKindChecks d.supported_input_kinds) = .ok () := by
  simp only [projectionKindChecks, checkAll_require, checkAll_nil, and_true]
  exact ⟨d.nonempty, d.unique, ((sortBy_eq_self _).mpr d.sorted).symm, d.supported⟩

theorem single_kind_ok {kind : ReplayInputKind} (h : observationKind kind ≠ none) :
    checkAll (projectionKindChecks [kind]) = .ok () := by
  simp only [projectionKindChecks, checkAll_require, checkAll_nil, and_true]
  refine ⟨List.cons_ne_nil _ _, List.nodup_singleton _, rfl, fun k hk => ?_⟩
  rw [List.mem_singleton.mp hk]
  exact h

theorem PairOf.checked (h : PairOf timeline_id kinds o f)
    (hkinds : checkAll (projectionKindChecks kinds) = .ok ()) :
    checkAll (projectionPairChecks digests timeline_id kinds o f) = .ok () := by
  rw [projectionPairChecks, checkAll_append]
  refine ⟨hkinds, ?_⟩
  simp only [checkAll_require, checkAll_nil, and_true]
  exact ⟨h.timeline_eq, h.frame_timeline_eq, h.event_id_eq, h.order_index_eq, h.event_time_eq,
    h.projection_eq, h.observation_eq, h.as_of_eq, h.kind_mem⟩

theorem PairOf.alone (h : PairOf timeline_id kinds o f) :
    PairOf timeline_id [o.event_kind] o f :=
  { h with kind_mem := List.mem_singleton_self _ }

end Pairs

/-! The entries of a timeline. -/

section Entries

variable (t : FrameTimelineFields digests.toReplayMarketDigests)

def entryOf (o : ReplayMarketObservationProjection digests.toReplayMarketDigests)
    (f : ReplayMarketFrameProjection digests.toReplayMarketDigests) :
    ReplayMarketFrameLookupEntry where
  market_timeline_id := digests.market_timeline_id t
  replay_timeline_id := t.replay_timeline_id
  replay_plan_id := t.replay_plan_id
  adapter_fingerprint := digests.adapter_fingerprint t.adapter_authority
  event_id := o.event_id
  event_order_index := o.event_order_index
  event_time := o.event_time
  event_kind := o.event_kind
  observation_projection_id := o.projection_id
  frame_projection_id := f.projection_id
  frame_id := digests.frame_id f.frame.toFrameFields
  triggering_observation_id := f.triggering_observation_id
  binding_authority_fingerprint := digests.binding_authority_fingerprint o.binding_authority

def projectionsOf : List (LookupProjection digests) :=
  (t.observation_projections.zip t.frame_projections).map fun pair =>
    ⟨entryOf t pair.1 pair.2, pair.1, pair.2⟩

def authorityOf : LookupAuthorityFields where
  market_timeline_id := digests.market_timeline_id t
  replay_timeline_id := t.replay_timeline_id
  replay_plan_id := t.replay_plan_id
  adapter_fingerprint := digests.adapter_fingerprint t.adapter_authority
  supported_event_kinds := t.adapter_authority.descriptor.supported_input_kinds
  entries := (projectionsOf t).map fun p => p.entry

/-- What is known of the projections of a timeline that was built. -/
structure Paired (t : FrameTimelineFields digests.toReplayMarketDigests) : Prop where
  pairs : ∀ p ∈ projectionsOf t, PairOf t.replay_timeline_id
    t.adapter_authority.descriptor.supported_input_kinds p.observation_projection
      p.frame_projection
  order : (projectionsOf t).Pairwise fun p q =>
    p.observation_projection.event_order_index < q.observation_projection.event_order_index
  event_ids : ((projectionsOf t).map fun p => p.observation_projection.event_id).Nodup
  observation_ids : ((projectionsOf t).map fun p => p.observation_projection.projection_id).Nodup
  frame_ids : ((projectionsOf t).map fun p => p.frame_projection.projection_id).Nodup

variable {t}

theorem entry_of_mem {p : LookupProjection digests} (hp : p ∈ projectionsOf t) :
    p.entry = entryOf t p.observation_projection p.frame_projection := by
  obtain ⟨pair, -, rfl⟩ := List.mem_map.mp hp
  rfl

theorem entries_built (h : Paired t) :
    buildAll (fun pair => build_replay_market_frame_lookup_entry digests
      (digests.market_timeline_id t) t.replay_timeline_id t.replay_plan_id
      (digests.adapter_fingerprint t.adapter_authority) pair.1 pair.2)
        (t.observation_projections.zip t.frame_projections) = .ok (authorityOf t).entries := by
  rw [buildAll_eq_ok, authorityOf, projectionsOf, List.map_map, List.forall₂_map_right_iff,
    List.forall₂_same]
  intro pair hpair
  have hmem : (⟨entryOf t pair.1 pair.2, pair.1, pair.2⟩ : LookupProjection digests) ∈
      projectionsOf t := List.mem_map_of_mem hpair
  have hpairs := (h.pairs _ hmem).alone
  rw [build_replay_market_frame_lookup_entry]
  exact bind_eq_ok.mpr ⟨(), hpairs.checked (single_kind_ok hpairs.kind_ne), rfl⟩

/-- What is different in two entries of one authority. -/
structure Apart (digests : ReplayLookupDigests) (s e : ReplayMarketFrameLookupEntry) : Prop where
  entry_id : digests.entry_id s ≠ digests.entry_id e
  event_id : s.event_id ≠ e.event_id
  order_index : s.event_order_index ≠ e.event_order_index
  observation_id : s.observation_projection_id ≠ e.observation_projection_id
  frame_id : s.frame_projection_id ≠ e.frame_projection_id

theorem entryChecks_iff {seen : List ReplayMarketFrameLookupEntry} {p : LookupProjection digests}
    (h : Paired t) (hp : p ∈ projectionsOf t) :
    checkAll ((authorityOf t).entryChecks digests seen p.entry) = .ok () ↔
      ∀ s ∈ seen, Apart digests s p.entry := by
  rw [entry_of_mem hp]
  simp only [LookupAuthorityFields.entryChecks, checkAll_require, checkAll_nil, and_true]
  constructor
  · rintro ⟨-, -, -, -, -, hentry, -, hevent, hindex, hobservation, hframe⟩ s hs
    exact ⟨hentry s hs, hevent s hs, hindex s hs, hobservation s hs, hframe s hs⟩
  · intro hapart
    refine ⟨rfl, rfl, rfl, rfl, (h.pairs p hp).kind_mem, fun s hs => (hapart s hs).entry_id,
      fun s hs heq => (hapart s hs).event_id (congrArg Prod.fst heq),
      fun s hs => (hapart s hs).event_id, fun s hs => (hapart s hs).order_index,
      fun s hs => (hapart s hs).observation_id, fun s hs => (hapart s hs).frame_id⟩

theorem checkEntries_iff (seen : List ReplayMarketFrameLookupEntry)
    {ps : List (LookupProjection digests)} (h : Paired t) (hps : ∀ p ∈ ps, p ∈ projectionsOf t) :
    (authorityOf t).checkEntries digests seen (ps.map fun p => p.entry) = .ok () ↔
      (∀ s ∈ seen, ∀ p ∈ ps, Apart digests s p.entry) ∧
        ps.Pairwise fun p q => Apart digests p.entry q.entry := by
  induction ps generalizing seen with
  | nil => simp [LookupAuthorityFields.checkEntries]
  | cons p ps ih =>
    have htail : ∀ q ∈ ps, q ∈ projectionsOf t := fun q hq => hps q (List.mem_cons_of_mem p hq)
    rw [List.map_cons, LookupAuthorityFields.checkEntries, bind_eq_ok, List.pairwise_cons]
    constructor
    · rintro ⟨⟨⟩, hfirst, hrest⟩
      rw [entryChecks_iff h (hps p List.mem_cons_self)] at hfirst
      obtain ⟨hseen, hpairwise⟩ := (ih _ htail).mp hrest
      refine ⟨fun s hs q hq => ?_, fun q hq => ?_, hpairwise⟩
      · rcases List.mem_cons.mp hq with rfl | hq
        · exact hfirst s hs
        · exact hseen s (List.mem_append_left _ hs) q hq
      · exact hseen p.entry (List.mem_append_right _ (List.mem_singleton_self _)) q hq
    · rintro ⟨hseen, hfirst, hpairwise⟩
      refine ⟨(), (entryChecks_iff h (hps p List.mem_cons_self)).mpr fun s hs =>
        hseen s hs p List.mem_cons_self, (ih _ htail).mpr ⟨fun s hs q hq => ?_, hpairwise⟩⟩
      rcases List.mem_append.mp hs with hs | hs
      · exact hseen s hs q (List.mem_cons_of_mem p hq)
      · rw [List.mem_singleton.mp hs]
        exact hfirst q hq

/-- The entries of a timeline that was built are kept apart by all but the digests of their own
ids. -/
theorem apart_iff (h : Paired t) :
    ((projectionsOf t).Pairwise fun p q => Apart digests p.entry q.entry) ↔
      ((authorityOf t).entries.map digests.entry_id).Nodup := by
  rw [authorityOf, List.map_map, List.Nodup, List.pairwise_map]
  constructor
  · exact fun hall => hall.imp fun hapart => hapart.entry_id
  · intro hids
    have hevents := List.pairwise_map.mp h.event_ids
    have hobservations := List.pairwise_map.mp h.observation_ids
    have hframes := List.pairwise_map.mp h.frame_ids
    have hall := hids.and (h.order.and (hevents.and (hobservations.and hframes)))
    refine hall.imp_of_mem fun {p q} hp hq hpq => ?_
    obtain ⟨hid, hindex, hevent, hobservation, hframe⟩ := hpq
    change digests.entry_id p.entry ≠ digests.entry_id q.entry at hid
    rw [entry_of_mem hp, entry_of_mem hq] at hid ⊢
    exact ⟨hid, hevent, Nat.ne_of_lt hindex, hobservation, hframe⟩

theorem validate_authority_iff (h : Paired t) :
    (authorityOf t).validate digests = .ok () ↔
      projectionsOf t ≠ [] ∧ ((authorityOf t).entries.map digests.entry_id).Nodup := by
  have hsorted : SortedBy LookupAuthorityFields.entryOrder (authorityOf t).entries := by
    refine List.pairwise_map.mpr (h.order.imp_of_mem fun {p q} hp hq hlt => ?_)
    rw [entry_of_mem hp, entry_of_mem hq]
    exact Prod.Lex.toLex_le_toLex.mpr (.inl hlt)
  have hentries : (authorityOf t).entries ≠ [] ↔ projectionsOf t ≠ [] := by
    rw [authorityOf, ne_eq, List.map_eq_nil_iff]
  have hcheck := checkEntries_iff [] h fun p hp => hp
  rw [apart_iff h] at hcheck
  rw [LookupAuthorityFields.validate, ← hentries]
  constructor
  · intro hvalid
    obtain ⟨⟨⟩, hfirst, hvalid⟩ := bind_eq_ok.mp hvalid
    obtain ⟨⟨⟩, hloop, -⟩ := bind_eq_ok.mp hvalid
    rw [checkAll_append, checkAll_require] at hfirst
    exact ⟨hfirst.2.1, (hcheck.mp hloop).2⟩
  · rintro ⟨hne, hids⟩
    refine bind_eq_ok.mpr ⟨(), ?_, bind_eq_ok.mpr ⟨(), hcheck.mpr ⟨by simp, hids⟩, ?_⟩⟩
    · rw [checkAll_append, checkAll_require]
      exact ⟨descriptor_kinds_ok _, hne, checkAll_nil⟩
    · rw [checkAll_require]
      exact ⟨hsorted, checkAll_nil⟩

end Entries

/-! The index of a timeline. -/

section Index

variable {t : FrameTimelineFields digests.toReplayMarketDigests}
  (valid : (authorityOf t).validate digests = .ok ())

def eventKeyOf (p : LookupProjection digests) : EventKey :=
  (p.observation_projection.event_id, p.observation_projection.event_order_index)

/-- What a lookup tells of the timeline that it was built of. -/
def descriptorOf : ReplayMarketFrameLookupDescriptor :=
  build_replay_market_frame_lookup_descriptor ⟨authorityOf t, valid⟩

theorem result_valid (h : Paired t) {p : LookupProjection digests} (hp : p ∈ projectionsOf t) :
    checkAll (LookupResultFields.validate ⟨descriptorOf valid, p.entry, p.observation_projection,
      p.frame_projection⟩) = .ok () := by
  have hpair := h.pairs p hp
  rw [LookupResultFields.validate, checkAll_append, checkAll_append]
  refine ⟨⟨?_, ?_⟩, hpair.checked (descriptor_kinds_ok _)⟩
  · rw [entry_of_mem hp]
    simp only [checkAll_require, checkAll_nil, and_true]
    exact ⟨rfl, rfl, rfl, rfl⟩
  · rw [entry_of_mem hp]
    simp only [entryPairChecks, checkAll_require, checkAll_nil, and_true]
    exact ⟨hpair.timeline_eq.symm, hpair.frame_timeline_eq.symm, rfl, rfl, rfl, rfl, rfl, rfl, rfl,
      rfl, rfl⟩

theorem member_of_authority (h : Paired t) {p : LookupProjection digests}
    (hp : p ∈ projectionsOf t) :
    validate_replay_market_frame_lookup_membership digests ⟨authorityOf t, valid⟩
      ⟨_, result_valid valid h hp⟩ = .ok () := by
  have hids := ((validate_authority_iff h).mp valid).2
  have hmem : p.entry ∈ (authorityOf t).entries := List.mem_map_of_mem hp
  have hfind : ((authorityOf t).entries.reverse.find? fun e =>
      digests.entry_id e = digests.entry_id p.entry) = some p.entry := by
    cases hfound : (authorityOf t).entries.reverse.find? fun e =>
        digests.entry_id e = digests.entry_id p.entry with
    | none =>
      have hnot := List.find?_eq_none.mp hfound p.entry (List.mem_reverse.mpr hmem)
      exact absurd (decide_eq_true rfl) hnot
    | some other =>
      have hother : digests.entry_id other = digests.entry_id p.entry := by
        simpa using List.find?_some hfound
      have hmem' := List.mem_reverse.mp (List.mem_of_find?_eq_some hfound)
      exact congrArg some (List.inj_on_of_nodup_map hids hmem' hmem hother)
  rw [validate_replay_market_frame_lookup_membership]
  split_ifs with hne
  · exact absurd rfl hne
  · simp only [hfind, ne_eq, not_true_eq_false, if_false]
    exact result_valid valid h hp

theorem indexProjection_ok (h : Paired t) {p : LookupProjection digests}
    (hp : p ∈ projectionsOf t) {d : Dict EventKey (LookupProjection digests)}
    (hnew : d.get? (eventKeyOf p) = none) :
    indexProjection digests ⟨authorityOf t, valid⟩ d p = .ok (d.set (eventKeyOf p) p) := by
  have hresult := result_valid valid h hp
  have hfree : d.get? (p.observation_projection.event_id,
      p.observation_projection.event_order_index) = none := hnew
  rw [indexProjection]
  refine bind_eq_ok.mpr ⟨⟨_, hresult⟩, validated_eq_ok.mpr ⟨hresult, rfl⟩,
    bind_eq_ok.mpr ⟨(), member_of_authority valid h hp, ?_⟩⟩
  simp only [hfree]
  rfl

/-- All projections are indexed: under the key of an event stand the projections of it. -/
theorem indexed (h : Paired t) (done : List (LookupProjection digests))
    {ps : List (LookupProjection digests)}
    {d : Dict EventKey (LookupProjection digests)} (hps : ∀ p ∈ ps, p ∈ projectionsOf t)
    (hkeys : ((done ++ ps).map eventKeyOf).Nodup)
    (hdone : ∀ k p, d.get? k = some p ↔ p ∈ done ∧ eventKeyOf p = k) :
    ∃ d', ps.foldlM (indexProjection digests ⟨authorityOf t, valid⟩) d = .ok d' ∧
      ∀ k p, d'.get? k = some p ↔ p ∈ done ++ ps ∧ eventKeyOf p = k := by
  induction ps generalizing done d with
  | nil =>
    refine ⟨d, rfl, fun k p => ?_⟩
    rw [List.append_nil]
    exact hdone k p
  | cons p ps ih =>
    have hnew : d.get? (eventKeyOf p) = none := by
      cases hget : d.get? (eventKeyOf p) with
      | none => rfl
      | some q =>
        obtain ⟨hq, hkey⟩ := (hdone _ q).mp hget
        rw [List.map_append, List.map_cons] at hkeys
        have hdisjoint := List.disjoint_of_nodup_append hkeys
        exact absurd (hkey ▸ List.mem_map_of_mem hq)
          fun hin => hdisjoint hin List.mem_cons_self
    have hstep := indexProjection_ok valid h (hps p List.mem_cons_self) hnew
    have hsplit : done ++ p :: ps = (done ++ [p]) ++ ps := by
      rw [List.append_assoc, List.singleton_append]
    rw [hsplit] at hkeys ⊢
    have hset : ∀ k q, (d.set (eventKeyOf p) p).get? k = some q ↔
        q ∈ done ++ [p] ∧ eventKeyOf q = k := by
      intro k q
      rw [Dict.get?_set]
      split_ifs with hk
      · rw [List.mem_append, List.mem_singleton]
        constructor
        · intro hq
          rw [← Option.some.inj hq]
          exact ⟨.inr rfl, hk⟩
        · rintro ⟨hq | rfl, hkq⟩
          · exact absurd ((hdone k q).mpr ⟨hq, hkq⟩) (by rw [← hk, hnew]; simp)
          · rfl
      · rw [hdone, List.mem_append, List.mem_singleton]
        constructor
        · exact fun ⟨hq, hkq⟩ => ⟨.inl hq, hkq⟩
        · rintro ⟨hq | rfl, hkq⟩
          · exact ⟨hq, hkq⟩
          · exact absurd hkq hk
    obtain ⟨d', hrest, hd'⟩ :=
      ih (done ++ [p]) (fun q hq => hps q (List.mem_cons_of_mem p hq)) hkeys hset
    rw [List.foldlM_cons]
    exact ⟨d', bind_eq_ok.mpr ⟨_, hstep, hrest⟩, hd'⟩

theorem Paired.keys_nodup (h : Paired t) : ((projectionsOf t).map eventKeyOf).Nodup := by
  refine List.Nodup.of_map Prod.fst ?_
  rw [List.map_map]
  exact h.event_ids

end Index

/-! The timelines that were built. -/

section Built

variable {r : ReplayTimeline} {input_batches : List PayloadBatch}
  {descriptor : ReplayMarketAdapterDescriptor} {bindings : List ReplayMarketDataBinding}
  {timeline : ReplayMarketFrameTimeline digests.toReplayMarketDigests}

theorem timeline_ids (h : build_replay_market_frame_timeline digests.toReplayMarketDigests r
    input_batches descriptor bindings = .ok timeline) :
    timeline.replay_timeline_id = r.timeline_id ∧ timeline.replay_plan_id = r.replay_plan_id := by
  rw [build_replay_market_frame_timeline] at h
  obtain ⟨-, -, h⟩ := bind_eq_ok.mp h
  obtain ⟨_, -, h⟩ := bind_eq_ok.mp h
  obtain ⟨_, -, h⟩ := bind_eq_ok.mp h
  obtain ⟨-, hfields⟩ := frame_timeline_of_eq_ok.mp h
  rw [hfields]
  exact ⟨rfl, rfl⟩

/-- The projections that were built for an event of a timeline: those at its place among the
supported events. -/
def BuiltFor (r : ReplayTimeline)
    (timeline : ReplayMarketFrameTimeline digests.toReplayMarketDigests)
    (event : ReplayTimelineEvent)
    (o : ReplayMarketObservationProjection digests.toReplayMarketDigests)
    (f : ReplayMarketFrameProjection digests.toReplayMarketDigests) : Prop :=
  ∃ i : ℕ, (supportedEvents timeline.adapter_authority r.events)[i]? = some event ∧
    timeline.observation_projections[i]? = some o ∧ timeline.frame_projections[i]? = some f

/-- The projections at one place belong to the event at that place. -/
theorem BuiltFor.projected (h : build_replay_market_frame_timeline digests.toReplayMarketDigests r
    input_batches descriptor bindings = .ok timeline) {event : ReplayTimelineEvent}
    {o : ReplayMarketObservationProjection digests.toReplayMarketDigests}
    {f : ReplayMarketFrameProjection digests.toReplayMarketDigests}
    (hbuilt : BuiltFor r timeline event o f) :
    ObservationOf r.timeline_id timeline.adapter_authority event o ∧
      ∃ before, FrameOf r.timeline_id before o f := by
  obtain ⟨i, hevent, ho, hf⟩ := hbuilt
  obtain ⟨s, -, hproject, hobs, hframes⟩ := timeline_eq_ok h
  have hs := foldlM_project_keeps ProjectedOf.empty hproject
  rw [List.nil_append] at hs
  rw [hobs] at ho
  rw [hframes] at hf
  obtain ⟨hi, rfl⟩ := List.getElem?_eq_some_iff.mp hevent
  obtain ⟨hi', rfl⟩ := List.getElem?_eq_some_iff.mp ho
  refine ⟨hs.observations.get hi hi', s.observation_projections.take i, ?_⟩
  have hsplit : s.observation_projections = s.observation_projections.take i ++
      s.observation_projections[i] :: s.observation_projections.drop (i + 1) := by
    rw [← List.drop_eq_getElem_cons hi', List.take_append_drop]
  obtain ⟨g, hget, hof⟩ := hs.frames _ _ _ hsplit
  rw [List.length_take_of_le (Nat.le_of_lt hi'), hf] at hget
  cases hget
  exact hof

theorem timeline_lengths (h : build_replay_market_frame_timeline digests.toReplayMarketDigests r
    input_batches descriptor bindings = .ok timeline) :
    timeline.observation_projections.length =
        (supportedEvents timeline.adapter_authority r.events).length ∧
      timeline.frame_projections.length = timeline.observation_projections.length := by
  obtain ⟨s, -, hproject, hobs, hframes⟩ := timeline_eq_ok h
  have hs := foldlM_project_keeps ProjectedOf.empty hproject
  rw [List.nil_append] at hs
  rw [hobs, hframes]
  exact ⟨hs.observations.length_eq.symm, hs.same_length⟩

theorem builtFor_of_event (h : build_replay_market_frame_timeline digests.toReplayMarketDigests r
    input_batches descriptor bindings = .ok timeline) {event : ReplayTimelineEvent}
    (hevent : event ∈ supportedEvents timeline.adapter_authority r.events) :
    ∃ o f, BuiltFor r timeline event o f := by
  obtain ⟨hobs, hframes⟩ := timeline_lengths h
  obtain ⟨i, hi, rfl⟩ := List.mem_iff_getElem.mp hevent
  have hi' : i < timeline.observation_projections.length := hobs ▸ hi
  have hi'' : i < timeline.frame_projections.length := hframes ▸ hi'
  exact ⟨_, _, i, List.getElem?_eq_getElem hi, List.getElem?_eq_getElem hi',
    List.getElem?_eq_getElem hi''⟩

theorem mem_projectionsOf (h : build_replay_market_frame_timeline digests.toReplayMarketDigests r
    input_batches descriptor bindings = .ok timeline) {p : LookupProjection digests} :
    p ∈ projectionsOf timeline.toFrameTimelineFields ↔
      p.entry = entryOf timeline.toFrameTimelineFields p.observation_projection
        p.frame_projection ∧
      ∃ event, BuiltFor r timeline event p.observation_projection p.frame_projection := by
  obtain ⟨hobs, hframes⟩ := timeline_lengths h
  constructor
  · intro hp
    refine ⟨entry_of_mem hp, ?_⟩
    obtain ⟨pair, hpair, rfl⟩ := List.mem_map.mp hp
    obtain ⟨i, hi, rfl⟩ := List.mem_iff_getElem.mp hpair
    rw [List.length_zip, lt_min_iff] at hi
    have hevent : i < (supportedEvents timeline.adapter_authority r.events).length := hobs ▸ hi.1
    rw [List.getElem_zip]
    exact ⟨_, i, List.getElem?_eq_getElem hevent, List.getElem?_eq_getElem hi.1,
      List.getElem?_eq_getElem hi.2⟩
  · rintro ⟨hentry, event, i, -, ho, hf⟩
    have hzip : (timeline.observation_projections.zip timeline.frame_projections)[i]? =
        some (p.observation_projection, p.frame_projection) := by
      rw [List.getElem?_zip_eq_some]
      exact ⟨ho, hf⟩
    refine List.mem_map.mpr ⟨_, List.mem_of_getElem? hzip, ?_⟩
    rw [← hentry]

theorem paired_of_built (h : build_replay_market_frame_timeline digests.toReplayMarketDigests r
    input_batches descriptor bindings = .ok timeline) :
    Paired timeline.toFrameTimelineFields := by
  obtain ⟨s, -, hproject, hobs, hframes⟩ := timeline_eq_ok h
  have hs := foldlM_project_keeps ProjectedOf.empty hproject
  rw [List.nil_append] at hs
  obtain ⟨-, hlength⟩ := timeline_lengths h
  have hobserved : (projectionsOf timeline.toFrameTimelineFields).map
      (fun p => p.observation_projection) = timeline.observation_projections := by
    rw [projectionsOf, List.map_map]
    exact List.map_fst_zip (le_of_eq hlength.symm)
  have hframed : (projectionsOf timeline.toFrameTimelineFields).map
      (fun p => p.frame_projection) = timeline.frame_projections := by
    rw [projectionsOf, List.map_map]
    exact List.map_snd_zip (le_of_eq hlength)
  have hvalid := timeline.valid
  rw [FrameTimelineFields.validateSemantics] at hvalid
  obtain ⟨⟨⟩, hchecks, -⟩ := bind_eq_ok.mp hvalid
  simp only [checkAll_require] at hchecks
  refine ⟨fun p hp => ?_, ?_, ?_, ?_, ?_⟩
  · obtain ⟨-, event, hbuilt⟩ := (mem_projectionsOf h).mp hp
    obtain ⟨hof, before, hframe⟩ := hbuilt.projected h
    obtain ⟨i, hevent, -⟩ := hbuilt
    have hmem := List.mem_of_getElem? hevent
    rw [(timeline_ids h).1]
    exact pairOf_frame hof (of_decide_eq_true (List.mem_filter.mp hmem).2) hframe
  · have horder := hs.inOrder
    rw [← hobs, ← hobserved, InOrder, List.pairwise_map] at horder
    exact horder
  · have hids : (r.events.map fun e => e.event_id).Nodup := by
      have hunique := r.valid
      simp only [Replay.ReplayTimelineFields.validateTimeline, checkAll_append,
        Replay.ReplayTimelineFields.validateUniqueIds, checkAll_require] at hunique
      exact hunique.1.1.2.2.2.1
    have hevents : timeline.observation_projections.map (fun o => o.event_id) =
        (supportedEvents timeline.adapter_authority r.events).map fun e => e.event_id := by
      refine List.ext_getElem ?_ fun i hi hi' => ?_
      · rw [List.length_map, List.length_map, (timeline_lengths h).1]
      · rw [List.length_map] at hi hi'
        rw [List.getElem_map, List.getElem_map]
        have hi'' : i < timeline.frame_projections.length := hlength ▸ hi
        exact (BuiltFor.projected h ⟨i, List.getElem?_eq_getElem hi',
          List.getElem?_eq_getElem hi, List.getElem?_eq_getElem hi''⟩).1.event_id_eq
    have hmap : (projectionsOf timeline.toFrameTimelineFields).map
        (fun p => p.observation_projection.event_id) =
          timeline.observation_projections.map fun o => o.event_id := by
      rw [← hobserved, List.map_map]
      rfl
    rw [hmap, hevents]
    exact hids.sublist (List.filter_sublist.map _)
  · have hmap : (projectionsOf timeline.toFrameTimelineFields).map
        (fun p => p.observation_projection.projection_id) =
          timeline.observation_projections.map fun o => o.projection_id := by
      rw [← hobserved, List.map_map]
      rfl
    rw [hmap]
    exact hchecks.2.1
  · have hmap : (projectionsOf timeline.toFrameTimelineFields).map
        (fun p => p.frame_projection.projection_id) =
          timeline.frame_projections.map fun f => f.projection_id := by
      rw [← hframed, List.map_map]
      rfl
    rw [hmap]
    exact hchecks.2.2.1

end Built

/-! Lookups. -/

section Lookups

variable {timeline : ReplayMarketFrameTimeline digests.toReplayMarketDigests}
  {l : LocalReplayMarketFrameLookup digests}

theorem build_authority_eq (h : Paired timeline.toFrameTimelineFields) :
    build_replay_market_frame_lookup_authority digests timeline =
      ReplayMarketFrameLookupAuthority.of digests (authorityOf timeline.toFrameTimelineFields) := by
  rw [build_replay_market_frame_lookup_authority]
  simp only [entries_built h]
  rfl

theorem entered_eq (t : FrameTimelineFields digests.toReplayMarketDigests) :
    List.zipWith (fun e pair => (⟨e, pair.1, pair.2⟩ : LookupProjection digests))
      (authorityOf t).entries (t.observation_projections.zip t.frame_projections) =
        projectionsOf t := by
  rw [authorityOf, projectionsOf, List.map_map, List.zipWith_map_left, List.zipWith_self]
  rfl

/-- A lookup is built exactly when its authority is valid, and indexes the projections. -/
theorem lookup_of_eq_ok (h : Paired timeline.toFrameTimelineFields) :
    LocalReplayMarketFrameLookup.of digests timeline = .ok l →
      ∃ valid : (authorityOf timeline.toFrameTimelineFields).validate digests = .ok (),
        l.descriptor = descriptorOf valid ∧ ∀ k p, l.projections.get? k = some p ↔
          p ∈ projectionsOf timeline.toFrameTimelineFields ∧ eventKeyOf p = k := by
  intro hl
  rw [LocalReplayMarketFrameLookup.of, build_authority_eq h] at hl
  obtain ⟨authority, hauthority, hl⟩ := bind_eq_ok.mp hl
  obtain ⟨valid, rfl⟩ := validated_eq_ok.mp hauthority
  obtain ⟨d, hfold, hl⟩ := bind_eq_ok.mp hl
  rw [entered_eq] at hfold
  obtain ⟨d', hfold', hd'⟩ := indexed valid h [] (d := Dict.empty)
    (fun p hp => hp) h.keys_nodup fun k p => by simp
  rw [hfold, Except.ok.injEq] at hfold'
  cases hl
  exact ⟨valid, rfl, hfold' ▸ hd'⟩

theorem lookup_built_iff (h : Paired timeline.toFrameTimelineFields) :
    (∃ l, LocalReplayMarketFrameLookup.of digests timeline = .ok l) ↔
      (authorityOf timeline.toFrameTimelineFields).validate digests = .ok () := by
  constructor
  · rintro ⟨l, hl⟩
    obtain ⟨valid, -⟩ := lookup_of_eq_ok h hl
    exact valid
  · intro valid
    obtain ⟨d, hfold, -⟩ := indexed valid h [] (d := Dict.empty)
      (fun p hp => hp) h.keys_nodup fun k p => by simp
    rw [LocalReplayMarketFrameLookup.of, build_authority_eq h]
    refine ⟨_, bind_eq_ok.mpr ⟨_, validated_eq_ok.mpr ⟨valid, rfl⟩, bind_eq_ok.mpr ⟨d, ?_, rfl⟩⟩⟩
    rw [entered_eq]
    exact hfold

/-- The events of one id, place, time and kind. -/
structure SameEvent (event built : ReplayTimelineEvent) : Prop where
  event_id : event.event_id = built.event_id
  order_index : event.order_index = built.order_index
  event_time : event.event_time = built.event_time
  kind : event.kind = built.kind

/-- The context of the dispatch of an event of a timeline. -/
structure ContextOf (timeline_id replay_plan_id : TrimmedText) (context : ReplayDispatchContext)
    (event : ReplayTimelineEvent) : Prop where
  event_id : context.event_id = event.event_id
  order_index : context.event_order_index = event.order_index
  event_time : context.event_time = event.event_time
  kind : context.event_kind = event.kind
  timeline_id : context.timeline_id = timeline_id
  replay_plan_id : context.replay_plan_id = replay_plan_id

/-- A lookup returns the projections whose observation has the id, the place, the time and the kind
of the event. -/
theorem lookup_eq_ok (h : Paired timeline.toFrameTimelineFields)
    (hl : LocalReplayMarketFrameLookup.of digests timeline = .ok l)
    {context : ReplayDispatchContext} {event : ReplayTimelineEvent}
    {fields : LookupResultFields digests} :
    (∃ result, l.lookup context event = .ok result ∧ result.toLookupResultFields = fields) ↔
      ContextOf timeline.replay_timeline_id timeline.replay_plan_id context event ∧
        ∃ p ∈ projectionsOf timeline.toFrameTimelineFields,
          p.observation_projection.event_id = event.event_id ∧
          p.observation_projection.event_order_index = event.order_index ∧
          p.observation_projection.event_time = event.event_time ∧
          p.observation_projection.event_kind = event.kind ∧
          fields = ⟨l.descriptor, p.entry, p.observation_projection, p.frame_projection⟩ := by
  obtain ⟨valid, hdescriptor, hindex⟩ := lookup_of_eq_ok h hl
  rw [LocalReplayMarketFrameLookup.lookup, hdescriptor]
  constructor
  · rintro ⟨result, hlookup, rfl⟩
    obtain ⟨⟨⟩, hcontext, hlookup⟩ := bind_eq_ok.mp hlookup
    simp only [LocalReplayMarketFrameLookup.contextMatches, checkAll_append,
      checkAll_require] at hcontext
    obtain ⟨⟨h1, h2, h3, h4, -⟩, h5, h6, -⟩ := hcontext
    refine ⟨⟨h1, h2, h3, h4, h5, h6⟩, ?_⟩
    split at hlookup
    · cases hlookup
    · next p hget =>
      obtain ⟨⟨⟩, hchecks, hresult⟩ := bind_eq_ok.mp hlookup
      simp only [checkAll_require] at hchecks
      obtain ⟨hvalid, rfl⟩ := validated_eq_ok.mp hresult
      exact ⟨p, ((hindex _ p).mp hget).1, hchecks.1, hchecks.2.1, hchecks.2.2.1, hchecks.2.2.2.1,
        rfl⟩
  · rintro ⟨hcontext, p, hp, hid, horder, htime, hkind, rfl⟩
    have hget : l.projections.get? (event.event_id, event.order_index) = some p :=
      (hindex _ p).mpr ⟨hp, Prod.ext hid horder⟩
    have hsupported : event.kind ∈ (descriptorOf valid).supported_event_kinds :=
      hkind ▸ (h.pairs p hp).kind_mem
    refine ⟨⟨_, result_valid valid h hp⟩, bind_eq_ok.mpr ⟨(), ?_, ?_⟩, rfl⟩
    · simp only [LocalReplayMarketFrameLookup.contextMatches, checkAll_append, checkAll_require,
        checkAll_nil, and_true]
      exact ⟨⟨hcontext.event_id, hcontext.order_index, hcontext.event_time, hcontext.kind⟩,
        hcontext.timeline_id, hcontext.replay_plan_id, hsupported⟩
    · simp only [hget]
      refine bind_eq_ok.mpr ⟨(), ?_, ?_⟩
      · simp only [checkAll_require, checkAll_nil, and_true]
        exact ⟨hid, horder, htime, hkind⟩
      · exact validated_eq_ok.mpr ⟨result_valid valid h hp, rfl⟩

end Lookups

/-! The round trip. -/

/-- What two adapters say of the same bindings in another order. -/
structure SameAuthority (digests : ReplayLookupDigests) (descriptor : ReplayMarketAdapterDescriptor)
    (bindings bindings' : List ReplayMarketDataBinding) : Prop where
  taken : (∃ a, build_replay_market_adapter_authority descriptor bindings = .ok a) ↔
    ∃ a, build_replay_market_adapter_authority descriptor bindings' = .ok a
  same : ∀ a a', build_replay_market_adapter_authority descriptor bindings = .ok a →
    build_replay_market_adapter_authority descriptor bindings' = .ok a' →
      a.bindings = a'.bindings ∧ digests.adapter_fingerprint a = digests.adapter_fingerprint a'

/-- What a lookup over the frames of a timeline returns. -/
structure LooksUp (digests : ReplayLookupDigests) (r : ReplayTimeline)
    (timeline : ReplayMarketFrameTimeline digests.toReplayMarketDigests) : Prop where
  /-- It can be built once an event is supported, unless digests of entries collide. -/
  built : (∃ l, LocalReplayMarketFrameLookup.of digests timeline = .ok l) ↔
    supportedEvents timeline.adapter_authority r.events ≠ [] ∧
      ((authorityOf timeline.toFrameTimelineFields).entries.map digests.entry_id).Nodup
  /-- Every supported event has its projections. -/
  projected : ∀ event ∈ supportedEvents timeline.adapter_authority r.events,
    ∃ o f, BuiltFor r timeline event o f
  /-- They are of this event. -/
  made_for : ∀ event o f, BuiltFor r timeline event o f →
    ObservationOf r.timeline_id timeline.adapter_authority event o ∧
      ∃ before, FrameOf r.timeline_id before o f
  /-- It returns the projections of the event that is asked for, and nothing else. -/
  returns : ∀ l, LocalReplayMarketFrameLookup.of digests timeline = .ok l →
    ∀ context event fields,
      (∃ result, l.lookup context event = .ok result ∧ result.toLookupResultFields = fields) ↔
        ContextOf r.timeline_id r.replay_plan_id context event ∧
          ∃ built o f, BuiltFor r timeline built o f ∧ SameEvent event built ∧
            fields = ⟨l.descriptor, entryOf timeline.toFrameTimelineFields o f, o, f⟩

/-- The authority of an adapter does not depend on the order of its bindings, and a lookup over the
frames that were built with it returns for an event in its own context the projections that were
built for it, and refuses every other event and context. -/
theorem lookup_round_trip (digests : ReplayLookupDigests) :
    (∀ descriptor bindings bindings', bindings.Perm bindings' →
      SameAuthority digests descriptor bindings bindings') ∧
    ∀ r input_batches descriptor bindings timeline,
      build_replay_market_frame_timeline digests.toReplayMarketDigests r input_batches descriptor
        bindings = .ok timeline → LooksUp digests r timeline := by
  constructor
  · intro descriptor bindings bindings' hperm
    refine ⟨exists_congr fun a => adapter_authority_perm descriptor hperm a,
      fun a a' ha ha' => ?_⟩
    rw [adapter_authority_perm descriptor hperm a, ha', Except.ok.injEq] at ha
    rw [ha]
    exact ⟨rfl, rfl⟩
  · intro r input_batches descriptor bindings timeline h
    have hpaired := paired_of_built h
    obtain ⟨hid, hplan⟩ := timeline_ids h
    obtain ⟨hobs, hframes⟩ := timeline_lengths h
    refine ⟨?_, fun event hevent => builtFor_of_event h hevent,
      fun event o f hbuilt => hbuilt.projected h, fun l hl context event fields => ?_⟩
    · have hempty : projectionsOf timeline.toFrameTimelineFields ≠ [] ↔
          supportedEvents timeline.adapter_authority r.events ≠ [] := by
        have hlength : (projectionsOf timeline.toFrameTimelineFields).length =
            (supportedEvents timeline.adapter_authority r.events).length := by
          rw [projectionsOf, List.length_map, List.length_zip, hframes, hobs, min_self]
        rw [← List.length_pos_iff, ← List.length_pos_iff, hlength]
      rw [lookup_built_iff hpaired, validate_authority_iff hpaired, hempty]
    · rw [lookup_eq_ok hpaired hl, hid, hplan]
      refine and_congr_right fun _ => ?_
      constructor
      · rintro ⟨p, hp, hevent, horder, htime, hkind, hresult⟩
        obtain ⟨hentry, built, hbuilt⟩ := (mem_projectionsOf h).mp hp
        obtain ⟨hof, -⟩ := hbuilt.projected h
        refine ⟨built, _, _, hbuilt, ⟨?_, ?_, ?_, ?_⟩, hentry ▸ hresult⟩
        · rw [← hevent, hof.event_id_eq]
        · rw [← horder, hof.order_index_eq]
        · rw [← htime, hof.event_time_eq]
        · rw [← hkind, hof.event_kind_eq]
      · rintro ⟨built, o, f, hbuilt, hsame, hresult⟩
        obtain ⟨hof, -⟩ := hbuilt.projected h
        have hp := (mem_projectionsOf h (p := ⟨entryOf _ o f, o, f⟩)).mpr ⟨rfl, built, hbuilt⟩
        exact ⟨_, hp, hof.event_id_eq.trans hsame.event_id.symm,
          hof.order_index_eq.trans hsame.order_index.symm,
          hof.event_time_eq.trans hsame.event_time.symm,
          hof.event_kind_eq.trans hsame.kind.symm, hresult⟩

/-! The frames of two trades looked up. -/

def sampleLookupDigests : ReplayLookupDigests where
  toReplayMarketDigests := sampleReplayDigests
  adapter _ _ := sampleHexDigest '0' (.refl true)
  frame_timeline _ := sampleHexDigest '1' (.refl true)
  lookup_entry e :=
    if e.event_order_index = 0 then sampleHexDigest '2' (.refl true)
    else sampleHexDigest '3' (.refl true)
  lookup_authority _ := sampleHexDigest '4' (.refl true)

def sampleContext (event : ReplayTimelineEvent) : ReplayDispatchContext where
  run_id := ⟨"run-1", .checked evaluates⟩
  manifest_id := ⟨"manifest-1", .checked evaluates⟩
  replay_plan_id := Replay.twoEvents.replay_plan_id
  timeline_id := Replay.twoEvents.timeline_id
  timeline_fingerprint_id := ⟨"fingerprint-1", .checked evaluates⟩
  dispatcher_fingerprint := sampleHexDigest '5' (.refl true)
  event_id := event.event_id
  event_order_index := event.order_index
  event_time := event.event_time
  event_kind := event.kind

/-- Each of the two trades is found in its own context, and not at another place. -/
theorem sampleLookup_returns : ∃ timeline, sampleFrames Replay.twoEvents = .ok timeline ∧
    ∃ l, LocalReplayMarketFrameLookup.of sampleLookupDigests timeline = .ok l ∧
      ∀ event ∈ Replay.twoEvents.events,
        (∃ result, l.lookup (sampleContext event) event = .ok result ∧
          result.observation_projection.event_id = event.event_id) ∧
        ∀ result, l.lookup (sampleContext { event with order_index := 2 })
          { event with order_index := 2 } ≠ .ok result := by
  have hids : (match sampleFrames Replay.twoEvents with
      | .error _ => false
      | .ok timeline => decide
        ((@authorityOf sampleLookupDigests timeline.toFrameTimelineFields).entries.map
          sampleLookupDigests.entry_id).Nodup &&
        decide (timeline.adapter_authority.descriptor = sampleDescriptor)) = true := by
    decide +kernel
  obtain ⟨timeline, hbuilt, -⟩ := sampleFrames_built Replay.twoEvents (.inl rfl)
  rw [hbuilt] at hids
  simp only [Bool.and_eq_true, decide_eq_true_eq] at hids
  have hlooks := (lookup_round_trip sampleLookupDigests).2 Replay.twoEvents [sampleTrades]
    sampleDescriptor [sampleBinding] timeline hbuilt
  have hevents : supportedEvents timeline.adapter_authority Replay.twoEvents.events =
      Replay.twoEvents.events := by
    rw [supportedEvents, hids.2]
    rfl
  have hne : supportedEvents timeline.adapter_authority Replay.twoEvents.events ≠ [] := by
    rw [hevents]
    exact List.cons_ne_nil _ _
  obtain ⟨l, hl⟩ := hlooks.built.mpr ⟨hne, hids.1⟩
  refine ⟨timeline, hbuilt, l, hl, fun event hevent => ⟨?_, fun result hresult => ?_⟩⟩
  · have hsupported : event ∈ supportedEvents timeline.adapter_authority
        Replay.twoEvents.events := by
      rw [hevents]
      exact hevent
    obtain ⟨o, f, hfor⟩ := hlooks.projected event hsupported
    obtain ⟨result, hresult, hfields⟩ := (hlooks.returns l hl (sampleContext event) event _).mpr
      ⟨⟨rfl, rfl, rfl, rfl, rfl, rfl⟩, event, o, f, hfor, ⟨rfl, rfl, rfl, rfl⟩, rfl⟩
    refine ⟨result, hresult, ?_⟩
    rw [hfields]
    exact (hlooks.made_for event o f hfor).1.event_id_eq
  · obtain ⟨-, built, o, f, ⟨i, hi, -⟩, hsame, -⟩ :=
      (hlooks.returns l hl _ _ _).mp ⟨result, hresult, rfl⟩
    rw [hevents] at hi
    have hplace : 2 = built.order_index := hsame.order_index
    rcases List.mem_pair.mp (List.mem_of_getElem? hi) with rfl | rfl
    · exact absurd hplace (by decide)
    · exact absurd hplace (by decide)

end FuturesBot.Market
