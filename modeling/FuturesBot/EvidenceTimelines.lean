import FuturesBot.EvidenceDerivation
import FuturesBot.ReplayEvidence
import FuturesBot.ReplayLookupRoundTrip

/-! The evidence of a timeline of frames: one projection for each event, made of the frame of this
event alone. -/
namespace FuturesBot.Market

open TextLines DateTimes Checks Dicts KeySorting
open Replay (ReplayInputKind ReplayTimeline ReplayTimelineEvent)

/-! The frames of the events of one timeline. -/

section Frames

variable {digests : ReplayLookupDigests} {r : ReplayTimeline} {input_batches : List PayloadBatch}
  {descriptor : ReplayMarketAdapterDescriptor} {bindings : List ReplayMarketDataBinding}
  {timeline : ReplayMarketFrameTimeline digests.toReplayMarketDigests}

/-- The ids of the observations of a timeline tell these apart. -/
def ObservationsApart (timeline : ReplayMarketFrameTimeline digests.toReplayMarketDigests) :
    Prop :=
  ∀ p ∈ timeline.observation_projections, ∀ q ∈ timeline.observation_projections,
    digests.observation_id p.observation = digests.observation_id q.observation →
      p.observation = q.observation

/-- The frame at a place holds observations of the events up to this place, its own among them. -/
structure FrameAt (timeline : ReplayMarketFrameTimeline digests.toReplayMarketDigests) (i : ℕ)
    (o : ReplayMarketObservationProjection digests.toReplayMarketDigests)
    (f : ReplayMarketFrameProjection digests.toReplayMarketDigests) : Prop where
  own : ObservationsApart timeline → o.observation ∈ f.frame.observations
  earlier : ∀ x ∈ f.frame.observations, ∃ j ≤ i, ∃ p,
    timeline.observation_projections[j]? = some p ∧ p.observation = x

theorem frame_at (h : build_replay_market_frame_timeline digests.toReplayMarketDigests r
    input_batches descriptor bindings = .ok timeline) {i : ℕ}
    {o : ReplayMarketObservationProjection digests.toReplayMarketDigests}
    {f : ReplayMarketFrameProjection digests.toReplayMarketDigests}
    (ho : timeline.observation_projections[i]? = some o)
    (hf : timeline.frame_projections[i]? = some f) : FrameAt timeline i o f := by
  obtain ⟨s, -, hproject, hobs, hframes⟩ := timeline_eq_ok h
  have hs := foldlM_project_keeps ProjectedOf.empty hproject
  rw [List.nil_append] at hs
  have ho' := ho
  rw [hobs] at ho'
  rw [hframes] at hf
  obtain ⟨hi, rfl⟩ := List.getElem?_eq_some_iff.mp ho'
  have hsplit : s.observation_projections = s.observation_projections.take i ++
      s.observation_projections[i] :: s.observation_projections.drop (i + 1) := by
    rw [← List.drop_eq_getElem_cons hi, List.take_append_drop]
  obtain ⟨g, hget, hof⟩ := hs.frames _ _ _ hsplit
  rw [List.length_take_of_le (Nat.le_of_lt hi), hf] at hget
  cases hget
  have hbuilt := hof.built_of_all (hsplit ▸ hs.inOrder)
  constructor
  · intro hapart
    have hinj : Set.InjOn digests.observation_id
        {x | ∃ p ∈ s.observation_projections, p.observation = x} := by
      rintro _ ⟨p, hp, rfl⟩ _ ⟨q, hq, rfl⟩ hid
      exact hapart p (hobs ▸ hp) q (hobs ▸ hq) hid
    exact (mem_frame_iff hbuilt).mpr (selects_own hs hs.inOrder hinj hsplit)
  · intro x hx
    obtain ⟨p, hp, -, hpx⟩ := mem_observationsOf.mp (mem_of_mem_frame hbuilt hx)
    rw [← List.take_succ_eq_append_getElem hi] at hp
    obtain ⟨j, hj, hjp⟩ := List.mem_iff_getElem.mp hp
    rw [List.length_take, lt_min_iff] at hj
    refine ⟨j, by omega, p, ?_, hpx⟩
    rw [hobs, List.getElem?_eq_getElem hj.2, ← hjp, List.getElem_take]

/-- The observations of a timeline name events of their own. -/
theorem source_event_ids_nodup (h : build_replay_market_frame_timeline
    digests.toReplayMarketDigests r input_batches descriptor bindings = .ok timeline) :
    (timeline.observation_projections.map fun o =>
      o.observation.provenance.source_event_id).Nodup := by
  have hpaired := paired_of_built h
  obtain ⟨-, hlength⟩ := timeline_lengths h
  have hobserved : (projectionsOf timeline.toFrameTimelineFields).map
      (fun p => p.observation_projection) = timeline.observation_projections := by
    rw [projectionsOf, List.map_map]
    exact List.map_fst_zip (le_of_eq hlength.symm)
  have hevent (o : ReplayMarketObservationProjection digests.toReplayMarketDigests) :
      o.observation.provenance.source_event_id = o.event_id := by
    have hvalid := o.valid
    simp only [ObservationProjectionFields.validate, checkAll_append,
      ObservationProjectionFields.validateObservationProvenance, checkAll_require] at hvalid
    exact hvalid.2.2.1
  have hids := hpaired.event_ids
  rw [← hobserved, List.map_map]
  simp only [Function.comp_def, hevent]
  exact hids

/-- The frames of two events differ: the later one holds the observation of an event that the
earlier one does not know. -/
theorem frames_apart (h : build_replay_market_frame_timeline digests.toReplayMarketDigests r
    input_batches descriptor bindings = .ok timeline) (hapart : ObservationsApart timeline) :
    timeline.frame_projections.Pairwise fun f g => f.frame ≠ g.frame := by
  obtain ⟨-, hlength⟩ := timeline_lengths h
  rw [List.pairwise_iff_getElem]
  intro i k hi hk hik hsame
  have hi' : i < timeline.observation_projections.length := hlength ▸ hi
  have hk' : k < timeline.observation_projections.length := hlength ▸ hk
  have hfirst := frame_at h (List.getElem?_eq_getElem hi') (List.getElem?_eq_getElem hi)
  have hsecond := frame_at h (List.getElem?_eq_getElem hk') (List.getElem?_eq_getElem hk)
  obtain ⟨j, hj, p, hp, hpx⟩ := hfirst.earlier _ (hsame ▸ hsecond.own hapart)
  obtain ⟨hj', rfl⟩ := List.getElem?_eq_some_iff.mp hp
  -- the observation at place `j` would name the event at place `k`
  have hids := List.pairwise_map.mp (source_event_ids_nodup h)
  have hne := List.pairwise_iff_getElem.mp hids j k hj' hk' (by omega)
  exact hne (congrArg (fun x => x.provenance.source_event_id) hpx)

end Frames

/-! The evidence of one event. -/

section Evidence

variable {digests : ReplayEvidenceDigests} {port : MarketEvidenceBuilderPort digests.toEvidenceDigests}

/-- The ids of the items tell apart what a frame tells. -/
def ItemIdsApart (digests : EvidenceDigests) (frame : CrossVenueMarketFrame) : Prop :=
  ((toldItems digests frame.observations frame.source_health).map digests.evidence_item_id).Nodup

theorem set_made {evidence : EvidenceDigests} {frame : CrossVenueMarketFrame}
    {builder : MarketEvidenceBuilderDescriptor}
    (h : ItemsApart evidence frame.observations frame.source_health) :
    ∃ items set, derive_market_evidence_items evidence builder frame = .ok items ∧
      build_market_evidence_set evidence builder frame items = .ok set ∧
      set.source_frame = frame := by
  obtain ⟨items, hitems⟩ : ∃ items, derive_market_evidence_items evidence builder frame =
      .ok items := derive_of_apart h
  have hown : ∀ a ∈ items, ∀ b ∈ items, evidence.evidence_item_id a.toEvidenceItemFields =
      evidence.evidence_item_id b.toEvidenceItemFields → a = b :=
    fun a ha b hb hid => List.inj_on_of_nodup_map (derived_ids_nodup hitems) ha hb hid
  have hexact := (exactItems_iff hitems hown).mpr rfl
  obtain ⟨set, hset⟩ := (set_iff hitems hown _).mpr ⟨rfl, rfl⟩
  obtain ⟨hvalid, rfl⟩ := validated_eq_ok.mp hset
  exact ⟨items, _, hitems, bind_eq_ok.mpr ⟨_, bind_eq_ok.mpr ⟨(), hexact, rfl⟩, hset⟩, rfl⟩

/-- A set that was built tells its builder and its frame. -/
theorem set_members {evidence : EvidenceDigests} {frame : CrossVenueMarketFrame}
    {builder : MarketEvidenceBuilderDescriptor} {items : List MarketEvidenceItem}
    {set : MarketEvidenceSet evidence}
    (h : build_market_evidence_set evidence builder frame items = .ok set) :
    set.builder = builder ∧ set.source_frame = frame ∧ set.items = items := by
  obtain ⟨_, -, h⟩ := bind_eq_ok.mp h
  obtain ⟨hvalid, rfl⟩ := validated_eq_ok.mp h
  exact ⟨rfl, rfl, rfl⟩

theorem projection_built_iff {p : EvidenceProjectionFields digests.toFrameEvidenceDigests}
    {q : ReplayMarketEvidenceProjection digests.toFrameEvidenceDigests} :
    build_replay_market_evidence_projection digests.toFrameEvidenceDigests p = .ok q ↔
      q.toEvidenceProjectionFields = p := by
  rw [build_replay_market_evidence_projection, validated_eq_ok]
  constructor
  · rintro ⟨h, rfl⟩
    rfl
  · rintro rfl
    exact ⟨q.valid, rfl⟩

/-- What is made of the frame of an event. -/
structure EvidenceMade (port : MarketEvidenceBuilderPort digests.toEvidenceDigests)
    (lookup_descriptor : ReplayMarketFrameLookupDescriptor) (entry : ReplayMarketFrameLookupEntry)
    (f : ReplayMarketFrameProjection digests.toReplayMarketDigests)
    (q : ReplayMarketEvidenceProjection digests.toFrameEvidenceDigests) : Prop where
  descriptor_eq : q.market_lookup_descriptor = lookup_descriptor
  entry_eq : q.market_lookup_entry = entry
  frame_eq : q.market_frame_projection = f
  builder_eq : q.evidence_set.builder = port.descriptor
  built : port.build f.frame = .ok q.evidence_set

theorem projectEvidence_iff {lookup_descriptor : ReplayMarketFrameLookupDescriptor}
    {entry : ReplayMarketFrameLookupEntry}
    {f : ReplayMarketFrameProjection digests.toReplayMarketDigests}
    {q : ReplayMarketEvidenceProjection digests.toFrameEvidenceDigests} :
    projectEvidence digests port lookup_descriptor entry f = .ok q ↔
      EvidenceMade port lookup_descriptor entry f q := by
  rw [projectEvidence]
  constructor
  · intro h
    obtain ⟨set, hset, h⟩ := bind_eq_ok.mp h
    obtain ⟨⟨⟩, hbuilder, h⟩ := bind_eq_ok.mp h
    rw [projection_built_iff] at h
    rw [checkAll_require] at hbuilder
    obtain rfl : q.evidence_set = set := congrArg EvidenceProjectionFields.evidence_set h
    exact ⟨congrArg EvidenceProjectionFields.market_lookup_descriptor h,
      congrArg EvidenceProjectionFields.market_lookup_entry h,
      congrArg EvidenceProjectionFields.market_frame_projection h, hbuilder.1, hset⟩
  · rintro ⟨rfl, rfl, rfl, hbuilder, hset⟩
    refine bind_eq_ok.mpr ⟨_, hset, bind_eq_ok.mpr ⟨(), ?_, projection_built_iff.mpr rfl⟩⟩
    rw [checkAll_require]
    exact ⟨hbuilder, checkAll_nil⟩

/-- What the checks of a projection give. -/
structure ProjectionOf (q : EvidenceProjectionFields digests.toFrameEvidenceDigests) : Prop where
  frame_projection_eq : q.market_lookup_entry.frame_projection_id =
    q.market_frame_projection.projection_id
  source_frame_eq : q.evidence_set.source_frame = q.market_frame_projection.frame
  kind_mem : q.market_lookup_entry.event_kind ∈ q.market_lookup_descriptor.supported_event_kinds

theorem projection_of (q : ReplayMarketEvidenceProjection digests.toFrameEvidenceDigests) :
    ProjectionOf q.toEvidenceProjectionFields := by
  obtain ⟨⟨⟩, -, hvalid⟩ := bind_eq_ok.mp q.valid
  obtain ⟨kind, -, hvalid⟩ := bind_eq_ok.mp hvalid
  simp only [checkAll_require] at hvalid
  exact ⟨hvalid.2.1, hvalid.2.2.2.2.2.2.2.2.2.1, hvalid.2.2.2.2.2.2.2.2.1⟩

/-- The frame of an event says of which kind the event is, when the ids of its observations tell
these apart. -/
theorem trigger_kind {o : ReplayMarketObservationProjection digests.toReplayMarketDigests}
    {f : ReplayMarketFrameProjection digests.toReplayMarketDigests}
    (htrigger : f.triggering_observation_id = digests.observation_id o.observation)
    (hown : o.observation ∈ f.frame.observations)
    (hids : ∀ x ∈ f.frame.observations,
      digests.observation_id x = digests.observation_id o.observation → x = o.observation) :
    eventKindFromFrameProjection digests.toFrameEvidenceDigests f =
      .ok o.observation.payload.kind := by
  rw [eventKindFromFrameProjection, htrigger]
  cases hfound : f.frame.observations.find? fun x =>
      digests.observation_id x = digests.observation_id o.observation with
  | none =>
    have hnot := List.find?_eq_none.mp hfound o.observation hown
    exact absurd (decide_eq_true rfl) hnot
  | some x =>
    have hx := hids x (List.mem_of_find?_eq_some hfound) (by simpa using List.find?_some hfound)
    rw [hx]

theorem event_kind_eq (o : ReplayMarketObservationProjection digests.toReplayMarketDigests) :
    observationKind o.event_kind = some o.observation.payload.kind := by
  have hvalid := o.valid
  simp only [ObservationProjectionFields.validate, checkAll_append,
    ObservationProjectionFields.validateObservationKind, checkAll_require] at hvalid
  exact hvalid.1.1.1.2.1

section Pairs

variable {t : FrameTimelineFields digests.toReplayMarketDigests}
  (valid : (@authorityOf digests.toReplayLookupDigests t).validate
    digests.toReplayLookupDigests = .ok ())
  {p : LookupProjection digests.toReplayLookupDigests}
  {set : MarketEvidenceSet digests.toEvidenceDigests}

/-- The set of the frame of an event passes the checks of a projection. -/
theorem projection_valid (h : Paired t) (hp : p ∈ projectionsOf t)
    (hkind : eventKindFromFrameProjection digests.toFrameEvidenceDigests p.frame_projection =
      .ok p.observation_projection.observation.payload.kind)
    (hset : set.source_frame = p.frame_projection.frame) :
    @EvidenceProjectionFields.validate digests.toFrameEvidenceDigests
      ⟨descriptorOf valid, p.entry, p.frame_projection, set⟩ = .ok () := by
  have hpair := h.pairs p hp
  rw [EvidenceProjectionFields.validate, entry_of_mem hp]
  refine bind_eq_ok.mpr ⟨(), ?_, bind_eq_ok.mpr ⟨_, hkind, ?_⟩⟩
  · simp only [checkAll_require, checkAll_nil, and_true]
    exact ⟨hpair.event_id_eq, hpair.order_index_eq, hpair.event_time_eq⟩
  · simp only [checkAll_require, checkAll_nil, and_true, hset]
    exact ⟨event_kind_eq _, rfl, rfl, rfl, rfl, rfl, rfl, rfl, hpair.kind_mem,
      trivial, rfl, hpair.as_of_eq⟩

/-- A frame that is told apart has its evidence. -/
theorem evidence_made (h : Paired t) (hp : p ∈ projectionsOf t)
    (hkind : eventKindFromFrameProjection digests.toFrameEvidenceDigests p.frame_projection =
      .ok p.observation_projection.observation.payload.kind)
    (hapart : ItemsApart digests.toEvidenceDigests p.frame_projection.frame.observations
      p.frame_projection.frame.source_health) :
    ∃ q, projectEvidence digests
      (DeterministicCrossVenueMarketEvidenceBuilder digests.toEvidenceDigests)
        (descriptorOf valid) p.entry p.frame_projection = .ok q := by
  obtain ⟨items, set, hitems, hset, hframe⟩ := set_made hapart
  refine ⟨⟨⟨descriptorOf valid, p.entry, p.frame_projection, set⟩,
    projection_valid valid h hp hkind hframe⟩, projectEvidence_iff.mpr ⟨rfl, rfl, rfl, ?_, ?_⟩⟩
  · exact (set_members hset).1
  · exact bind_eq_ok.mpr ⟨items, hitems, hset⟩

end Pairs

/-! Timelines. -/

section Timelines

/-- What belongs at a place of a timeline of evidence. -/
structure Entered (t : EvidenceTimelineFields digests.toFrameEvidenceDigests)
    (entry : ReplayMarketFrameLookupEntry)
    (q : ReplayMarketEvidenceProjection digests.toFrameEvidenceDigests) : Prop where
  descriptor_eq : q.market_lookup_descriptor =
    build_replay_market_frame_lookup_descriptor t.market_lookup_authority
  entry_eq : q.market_lookup_entry = entry
  builder_eq : q.evidence_set.builder = t.evidence_builder

def projectionIds (qs : List (ReplayMarketEvidenceProjection digests.toFrameEvidenceDigests)) :
    List DomainId :=
  qs.map fun q => digests.evidence_projection_id q.toEvidenceProjectionFields

def marketEntryIds (qs : List (ReplayMarketEvidenceProjection digests.toFrameEvidenceDigests)) :
    List DomainId :=
  qs.map fun q => digests.entry_id q.market_lookup_entry

theorem timeline_validate_iff (t : EvidenceTimelineFields digests.toFrameEvidenceDigests) :
    t.validate = .ok () ↔ t.projections ≠ [] ∧
      List.Forall₂ (Entered t) t.market_lookup_authority.entries t.projections ∧
        (projectionIds t.projections).Nodup ∧ (marketEntryIds t.projections).Nodup := by
  have hpasses : ∀ seen entered, checkAll (t.projectionChecks seen entered) = .ok () ↔
      Entered t entered.1 entered.2 ∧ ∀ s ∈ seen,
        digests.evidence_projection_id s.2.toEvidenceProjectionFields ≠
            digests.evidence_projection_id entered.2.toEvidenceProjectionFields ∧
          digests.entry_id s.2.market_lookup_entry ≠
            digests.entry_id entered.2.market_lookup_entry := by
    intro seen entered
    simp only [EvidenceTimelineFields.projectionChecks, checkAll_require, checkAll_nil, and_true]
    constructor
    · rintro ⟨hids, hentries, hdescriptor, hentry, hbuilder, -⟩
      exact ⟨⟨hdescriptor, hentry, hbuilder⟩, fun s hs => ⟨hids s hs, hentries s hs⟩⟩
    · rintro ⟨hown, hapart⟩
      exact ⟨fun s hs => (hapart s hs).1, fun s hs => (hapart s hs).2, hown.descriptor_eq,
        hown.entry_eq, hown.builder_eq, (projection_of entered.2).source_frame_eq⟩
  -- the projections at their places, once there are as many as entries
  have hentered (hlength : t.projections.length = t.market_lookup_authority.entries.length) :
      checkSeen t.projectionChecks [] (t.market_lookup_authority.entries.zip t.projections) =
          .ok () ↔
        List.Forall₂ (Entered t) t.market_lookup_authority.entries t.projections ∧
          (projectionIds t.projections).Nodup ∧ (marketEntryIds t.projections).Nodup := by
    have hapart (f : ReplayMarketEvidenceProjection digests.toFrameEvidenceDigests → DomainId) :
        ((t.market_lookup_authority.entries.zip t.projections).Pairwise fun a b =>
          f a.2 ≠ f b.2) ↔ (t.projections.map f).Nodup := by
      have hsnd : (t.market_lookup_authority.entries.zip t.projections).map (fun e => f e.2) =
          t.projections.map f := by
        have hzip : (t.market_lookup_authority.entries.zip t.projections).map Prod.snd =
            t.projections := List.map_snd_zip (le_of_eq hlength)
        rw [← Function.comp_def, ← List.map_map, hzip]
      rw [← hsnd]
      exact List.pairwise_map.symm
    rw [checkSeen_iff hpasses, List.pairwise_and_iff,
      hapart fun q => digests.evidence_projection_id q.toEvidenceProjectionFields,
      hapart fun q => digests.entry_id q.market_lookup_entry, List.forall₂_iff_zip]
    constructor
    · rintro ⟨hown, hids⟩
      exact ⟨⟨hlength.symm, fun {entry q} hmem => hown (entry, q) hmem⟩, hids⟩
    · rintro ⟨⟨-, hown⟩, hids⟩
      exact ⟨fun entered hmem => hown hmem, hids⟩
  rw [EvidenceTimelineFields.validate]
  constructor
  · intro h
    obtain ⟨⟨⟩, hsizes, h⟩ := bind_eq_ok.mp h
    simp only [checkAll_require, checkAll_nil, and_true] at hsizes
    exact ⟨hsizes.2.1, (hentered hsizes.2.2).mp h⟩
  · rintro ⟨hne, hplaces, hids⟩
    have hlength := hplaces.length_eq.symm
    refine bind_eq_ok.mpr ⟨(), ?_, (hentered hlength).mpr ⟨hplaces, hids⟩⟩
    simp only [checkAll_require, checkAll_nil, and_true]
    refine ⟨fun hempty => hne (List.eq_nil_of_length_eq_zero ?_), hne, hlength⟩
    rw [hlength, hempty, List.length_nil]

end Timelines

/-! What is built of the frames of a timeline. -/

section Built

variable {r : ReplayTimeline} {input_batches : List PayloadBatch}
  {descriptor : ReplayMarketAdapterDescriptor} {bindings : List ReplayMarketDataBinding}
  {timeline : ReplayMarketFrameTimeline digests.toReplayMarketDigests}
  {authority : ReplayMarketFrameLookupAuthority digests.toReplayLookupDigests}
  {evidence : ReplayMarketEvidenceTimeline digests}
  {ps : List (ReplayMarketEvidenceProjection digests.toFrameEvidenceDigests)}

/-- The entries of an authority beside the frames of its timeline. -/
theorem zip_frames (t : FrameTimelineFields digests.toReplayMarketDigests) :
    (@authorityOf digests.toReplayLookupDigests t).entries.zip t.frame_projections =
      (@projectionsOf digests.toReplayLookupDigests t).map fun p =>
        (p.entry, p.frame_projection) := by
  rw [authorityOf, projectionsOf, List.map_map, List.map_map]
  generalize t.observation_projections = os
  generalize t.frame_projections = fs
  induction os generalizing fs with
  | nil => rfl
  | cons o os ih =>
    cases fs with
    | nil => rfl
    | cons f fs =>
      rw [List.zip_cons_cons, List.map_cons, List.zip_cons_cons, List.map_cons, ih]
      rfl

theorem authority_built (h : Paired timeline.toFrameTimelineFields)
    (hauthority : build_replay_market_frame_lookup_authority digests.toReplayLookupDigests timeline
      = .ok authority) :
    ∃ valid, authority = ⟨authorityOf timeline.toFrameTimelineFields, valid⟩ := by
  rw [build_authority_eq h] at hauthority
  obtain ⟨valid, rfl⟩ := validated_eq_ok.mp hauthority
  exact ⟨valid, rfl⟩

/-- The evidence of the events of a timeline, each made of its own frame. -/
def AllMade (port : MarketEvidenceBuilderPort digests.toEvidenceDigests)
    (authority : ReplayMarketFrameLookupAuthority digests.toReplayLookupDigests)
    (t : FrameTimelineFields digests.toReplayMarketDigests)
    (ps : List (ReplayMarketEvidenceProjection digests.toFrameEvidenceDigests)) : Prop :=
  List.Forall₂ (fun p q => EvidenceMade port (build_replay_market_frame_lookup_descriptor authority)
    p.entry p.frame_projection q) (@projectionsOf digests.toReplayLookupDigests t) ps

theorem buildEvidenceTimeline_iff (h : Paired timeline.toFrameTimelineFields)
    (hauthority : build_replay_market_frame_lookup_authority digests.toReplayLookupDigests timeline
      = .ok authority) :
    buildEvidenceTimeline digests timeline port = .ok evidence ↔
      AllMade port authority timeline.toFrameTimelineFields evidence.projections ∧
        evidence.market_lookup_authority = authority ∧
          evidence.evidence_builder = port.descriptor := by
  have hall (ps) : buildAll (fun pair => projectEvidence digests port
      (build_replay_market_frame_lookup_descriptor authority) pair.1 pair.2)
        (authority.entries.zip timeline.frame_projections) = .ok ps ↔
      AllMade port authority timeline.toFrameTimelineFields ps := by
    obtain ⟨valid, rfl⟩ := authority_built h hauthority
    rw [buildAll_eq_ok, zip_frames, List.forall₂_map_left_iff, AllMade]
    simp only [projectEvidence_iff]
  rw [buildEvidenceTimeline]
  constructor
  · intro hbuilt
    obtain ⟨authority', hauthority', hbuilt⟩ := bind_eq_ok.mp hbuilt
    rw [hauthority, Except.ok.injEq] at hauthority'
    subst hauthority'
    obtain ⟨ps, hps, hbuilt⟩ := bind_eq_ok.mp hbuilt
    obtain ⟨hvalid, rfl⟩ := validated_eq_ok.mp hbuilt
    exact ⟨(hall ps).mp hps, rfl, rfl⟩
  · rintro ⟨hmade, rfl, hbuilder⟩
    refine bind_eq_ok.mpr ⟨_, hauthority, bind_eq_ok.mpr ⟨_, (hall _).mpr hmade, ?_⟩⟩
    rw [← hbuilder]
    exact validated_eq_ok.mpr ⟨evidence.valid, rfl⟩

theorem deriveEvidence_iff {lookup_descriptor : ReplayMarketFrameLookupDescriptor}
    {entry : ReplayMarketFrameLookupEntry}
    {f : ReplayMarketFrameProjection digests.toReplayMarketDigests}
    {q : ReplayMarketEvidenceProjection digests.toFrameEvidenceDigests} :
    deriveEvidence digests build_market_evidence_builder_descriptor lookup_descriptor entry f =
        .ok q ↔
      EvidenceMade (DeterministicCrossVenueMarketEvidenceBuilder digests.toEvidenceDigests)
        lookup_descriptor entry f q := by
  rw [deriveEvidence]
  constructor
  · intro hmade
    obtain ⟨⟨⟩, -, hmade⟩ := bind_eq_ok.mp hmade
    obtain ⟨items, hitems, hmade⟩ := bind_eq_ok.mp hmade
    obtain ⟨set, hset, hmade⟩ := bind_eq_ok.mp hmade
    rw [projection_built_iff] at hmade
    obtain rfl : q.evidence_set = set := congrArg EvidenceProjectionFields.evidence_set hmade
    exact ⟨congrArg EvidenceProjectionFields.market_lookup_descriptor hmade,
      congrArg EvidenceProjectionFields.market_lookup_entry hmade,
      congrArg EvidenceProjectionFields.market_frame_projection hmade, (set_members hset).1,
      bind_eq_ok.mpr ⟨items, hitems, hset⟩⟩
  · rintro ⟨rfl, rfl, rfl, -, hbuilt⟩
    obtain ⟨items, hitems, hset⟩ := bind_eq_ok.mp hbuilt
    refine bind_eq_ok.mpr ⟨(), ?_, bind_eq_ok.mpr ⟨items, hitems, bind_eq_ok.mpr
      ⟨_, hset, projection_built_iff.mpr rfl⟩⟩⟩
    rw [checkAll_require]
    exact ⟨(projection_of q).frame_projection_eq, checkAll_nil⟩

/-- What is derived without a builder of evidence is what the deterministic one makes. -/
theorem derive_projections_iff (h : Paired timeline.toFrameTimelineFields)
    (hauthority : build_replay_market_frame_lookup_authority digests.toReplayLookupDigests timeline
      = .ok authority) :
    derive_replay_market_evidence_projections digests timeline authority
        build_market_evidence_builder_descriptor = .ok ps ↔
      AllMade (DeterministicCrossVenueMarketEvidenceBuilder digests.toEvidenceDigests) authority
        timeline.toFrameTimelineFields ps := by
  have hall : buildAll (fun pair => deriveEvidence digests build_market_evidence_builder_descriptor
      (build_replay_market_frame_lookup_descriptor authority) pair.1 pair.2)
        (authority.entries.zip timeline.frame_projections) = .ok ps ↔
      AllMade (DeterministicCrossVenueMarketEvidenceBuilder digests.toEvidenceDigests) authority
        timeline.toFrameTimelineFields ps := by
    obtain ⟨valid, rfl⟩ := authority_built h hauthority
    rw [buildAll_eq_ok, zip_frames, List.forall₂_map_left_iff, AllMade]
    simp only [deriveEvidence_iff]
  rw [derive_replay_market_evidence_projections, ← hall]
  constructor
  · intro hderived
    obtain ⟨_, -, hderived⟩ := bind_eq_ok.mp hderived
    obtain ⟨⟨⟩, -, hderived⟩ := bind_eq_ok.mp hderived
    exact hderived
  · intro hderived
    refine bind_eq_ok.mpr ⟨_, hauthority, bind_eq_ok.mpr ⟨(), ?_, hderived⟩⟩
    rw [checkAll_require]
    exact ⟨rfl, checkAll_nil⟩

/-! What a frame of a timeline tells. -/

theorem stream_keys_nodup (frame : CrossVenueMarketFrame) :
    (frame.observations.map observation_stream_key).Nodup := by
  have hvalid := frame.valid
  rw [FrameFields.validate] at hvalid
  split at hvalid
  · cases hvalid
  · next hchecks =>
    rw [checkAll_append, checkAll_append] at hchecks
    exact ((observationChecks_iff _ _ _).mp hchecks.1.1).2.1

/-- The frames of a timeline have their evidence unless digests of what they hold collide. -/
theorem all_made (h : build_replay_market_frame_timeline digests.toReplayMarketDigests r
    input_batches descriptor bindings = .ok timeline)
    (hauthority : build_replay_market_frame_lookup_authority digests.toReplayLookupDigests timeline
      = .ok authority)
    (hapart : @ObservationsApart digests.toReplayLookupDigests timeline)
    (hitems : ∀ f ∈ timeline.frame_projections, ItemIdsApart digests.toEvidenceDigests f.frame) :
    ∃ ps, derive_replay_market_evidence_projections digests timeline authority
      build_market_evidence_builder_descriptor = .ok ps := by
  have hpaired := @paired_of_built digests.toReplayLookupDigests _ _ _ _ _ h
  obtain ⟨valid, rfl⟩ := authority_built hpaired hauthority
  have hmade : ∀ p ∈ @projectionsOf digests.toReplayLookupDigests
      timeline.toFrameTimelineFields, ∃ q, projectEvidence digests
        (DeterministicCrossVenueMarketEvidenceBuilder digests.toEvidenceDigests)
          (descriptorOf valid) p.entry p.frame_projection = .ok q := by
    intro p hp
    obtain ⟨-, event, hplace⟩ := (mem_projectionsOf h).mp hp
    obtain ⟨-, before, hframe⟩ := hplace.projected h
    obtain ⟨i, -, ho, hf⟩ := hplace
    have hat := @frame_at digests.toReplayLookupDigests _ _ _ _ _ h _ _ _ ho hf
    have hids : ∀ x ∈ p.frame_projection.frame.observations,
        ∀ y ∈ p.frame_projection.frame.observations,
          digests.observation_id x = digests.observation_id y → x = y := by
      intro x hx y hy hid
      obtain ⟨j, -, a, ha, rfl⟩ := hat.earlier x hx
      obtain ⟨k, -, b, hb, rfl⟩ := hat.earlier y hy
      exact hapart a (List.mem_of_getElem? ha) b (List.mem_of_getElem? hb) hid
    have hown := hat.own hapart
    have hnodup : (p.frame_projection.frame.observations.map digests.observation_id).Nodup :=
      (stream_keys_nodup _).of_map.map_on fun x hx y hy => hids x hx y hy
    refine evidence_made valid hpaired hp (trigger_kind (hpaired.pairs p hp).observation_eq hown
      fun x hx => hids x hx _ hown) ⟨keys_nodup_of_ids hnodup ?_, hitems _ (List.mem_of_getElem? hf)⟩
    rw [(frame_members hframe.built).2.2.1]
    exact List.nodup_nil
  obtain ⟨ps, hps⟩ := buildAll_total.mpr hmade
  exact ⟨ps, (derive_projections_iff hpaired hauthority).mpr
    ((buildAll_eq_ok.mp hps).imp fun p q => projectEvidence_iff.mp)⟩

/-! What the evidence of an event is made of. -/

/-- The evidence of the event at a place. -/
structure EvidenceAt (digests : ReplayEvidenceDigests)
    (port : MarketEvidenceBuilderPort digests.toEvidenceDigests)
    (timeline : ReplayMarketFrameTimeline digests.toReplayMarketDigests) (i : ℕ)
    (o : ReplayMarketObservationProjection digests.toReplayMarketDigests)
    (f : ReplayMarketFrameProjection digests.toReplayMarketDigests)
    (q : ReplayMarketEvidenceProjection digests.toFrameEvidenceDigests) : Prop where
  entry_eq : q.market_lookup_entry =
    @entryOf digests.toReplayLookupDigests timeline.toFrameTimelineFields o f
  frame_eq : q.market_frame_projection = f
  built : port.build f.frame = .ok q.evidence_set
  /-- Whoever built it, its items are those that are derived from the frame. -/
  derived : ∃ items, derive_market_evidence_items digests.toEvidenceDigests q.evidence_set.builder
    f.frame = .ok items ∧ sameItems digests.toEvidenceDigests q.evidence_set.items items = true
  /-- No item is of a later event. -/
  no_look_ahead : ∀ item ∈ q.evidence_set.items, ∃ j ≤ i, ∃ p,
    timeline.observation_projections[j]? = some p ∧
      item.origin = .observation (digests.observation_id p.observation)

/-- Equal tuples of items have the same origins. -/
theorem origin_of_sameItems {evidence : EvidenceDigests} {given items : List MarketEvidenceItem}
    (h : sameItems evidence given items = true) {a : MarketEvidenceItem} (ha : a ∈ given) :
    ∃ b ∈ items, a.origin = b.origin := by
  induction given generalizing items with
  | nil => exact absurd ha List.not_mem_nil
  | cons c given ih =>
    cases items with
    | nil => cases h
    | cons b items =>
      rw [sameItems, Bool.and_eq_true] at h
      rcases List.mem_cons.mp ha with rfl | ha
      · have hfirst := h.1
        simp only [sameItem, Bool.and_eq_true, decide_eq_true_eq] at hfirst
        exact ⟨b, List.mem_cons_self, hfirst.1.1.2⟩
      · obtain ⟨d, hd, horigin⟩ := ih h.2 ha
        exact ⟨d, List.mem_cons_of_mem b hd, horigin⟩

/-- The items of a set are those of its frame. -/
theorem set_derived {evidence : EvidenceDigests} (set : MarketEvidenceSet evidence) :
    ∃ items, derive_market_evidence_items evidence set.builder set.source_frame = .ok items ∧
      sameItems evidence set.items items = true := by
  obtain ⟨⟨⟩, hexact, -⟩ := bind_eq_ok.mp set.valid
  obtain ⟨⟨⟩, -, hexact⟩ := bind_eq_ok.mp hexact
  obtain ⟨items, hitems, hsame⟩ := bind_eq_ok.mp hexact
  rw [checkAll_require] at hsame
  exact ⟨items, hitems, hsame.1⟩

theorem projection_at {t : FrameTimelineFields digests.toReplayMarketDigests} {i : ℕ}
    {o : ReplayMarketObservationProjection digests.toReplayMarketDigests}
    {f : ReplayMarketFrameProjection digests.toReplayMarketDigests}
    (ho : t.observation_projections[i]? = some o) (hf : t.frame_projections[i]? = some f) :
    (@projectionsOf digests.toReplayLookupDigests t)[i]? =
      some ⟨entryOf t o f, o, f⟩ := by
  have hzip : (t.observation_projections.zip t.frame_projections)[i]? = some (o, f) :=
    List.getElem?_zip_eq_some.mpr ⟨ho, hf⟩
  rw [projectionsOf, List.getElem?_map, hzip]
  rfl

theorem evidence_at (h : build_replay_market_frame_timeline digests.toReplayMarketDigests r
    input_batches descriptor bindings = .ok timeline)
    (hbuilt : buildEvidenceTimeline digests timeline port = .ok evidence) {i : ℕ}
    {o : ReplayMarketObservationProjection digests.toReplayMarketDigests}
    {f : ReplayMarketFrameProjection digests.toReplayMarketDigests}
    {q : ReplayMarketEvidenceProjection digests.toFrameEvidenceDigests}
    (ho : timeline.observation_projections[i]? = some o)
    (hf : timeline.frame_projections[i]? = some f) (hq : evidence.projections[i]? = some q) :
    EvidenceAt digests port timeline i o f q := by
  have hpaired := @paired_of_built digests.toReplayLookupDigests _ _ _ _ _ h
  obtain ⟨authority, hauthority, -⟩ := bind_eq_ok.mp hbuilt
  obtain ⟨hall, -⟩ := (buildEvidenceTimeline_iff hpaired hauthority).mp hbuilt
  have hp := @projection_at digests timeline.toFrameTimelineFields _ _ _ ho hf
  obtain ⟨hpi, hpat⟩ := List.getElem?_eq_some_iff.mp hp
  obtain ⟨hqi, hqat⟩ := List.getElem?_eq_some_iff.mp hq
  have hmade := hall.get hpi hqi
  simp only [List.get_eq_getElem, hpat, hqat] at hmade
  -- the set is of the frame, and so are its items
  have hsource : q.evidence_set.source_frame = f.frame := by
    rw [(projection_of q).source_frame_eq, hmade.frame_eq]
  obtain ⟨items, hitems, hsame⟩ := set_derived q.evidence_set
  rw [hsource] at hitems
  refine ⟨hmade.entry_eq, hmade.frame_eq, hmade.built, ⟨items, hitems, hsame⟩,
    fun item hitem => ?_⟩
  obtain ⟨b, hb, horigin⟩ := origin_of_sameItems hsame hitem
  have htold : b.toEvidenceItemFields ∈
      toldItems digests.toEvidenceDigests f.frame.observations f.frame.source_health := by
    rw [← mem_sortBy fieldsKey, ← (derive_iff.mp hitems).2]
    exact List.mem_map_of_mem hb
  have hhealth : f.frame.source_health = [] := by
    have hmem := List.mem_of_getElem? hp
    obtain ⟨-, event, hplace⟩ := (mem_projectionsOf h).mp hmem
    obtain ⟨-, before, hframe⟩ := hplace.projected h
    exact (frame_members hframe.built).2.2.1
  rw [toldItems, hhealth, List.flatMap_nil, List.append_nil] at htold
  obtain ⟨x, hx, hby⟩ := List.mem_flatMap.mp htold
  obtain ⟨told, -, hfields⟩ := List.mem_map.mp hby
  obtain ⟨j, hj, p, hp, rfl⟩ :=
    (@frame_at digests.toReplayLookupDigests _ _ _ _ _ h _ _ _ ho hf).earlier x hx
  refine ⟨j, hj, p, hp, horigin.trans ?_⟩
  exact (congrArg EvidenceItemFields.origin hfields).symm

theorem evidence_length (h : build_replay_market_frame_timeline digests.toReplayMarketDigests r
    input_batches descriptor bindings = .ok timeline)
    (hbuilt : buildEvidenceTimeline digests timeline port = .ok evidence) :
    evidence.projections.length = timeline.frame_projections.length := by
  have hpaired := @paired_of_built digests.toReplayLookupDigests _ _ _ _ _ h
  obtain ⟨authority, hauthority, -⟩ := bind_eq_ok.mp hbuilt
  obtain ⟨hall, -⟩ := (buildEvidenceTimeline_iff hpaired hauthority).mp hbuilt
  obtain ⟨-, hlength⟩ := @timeline_lengths digests.toReplayLookupDigests _ _ _ _ _ h
  rw [← hall.length_eq, projectionsOf, List.length_map, List.length_zip, hlength, min_self]

/-- What is built of the frames of a replay timeline. -/
structure EvidenceFollows (digests : ReplayEvidenceDigests)
    (timeline : ReplayMarketFrameTimeline digests.toReplayMarketDigests) : Prop where
  /-- No two events leave the same frame. -/
  apart : @ObservationsApart digests.toReplayLookupDigests timeline →
    timeline.frame_projections.Pairwise fun f g => f.frame ≠ g.frame
  /-- Every frame has its evidence unless digests of what the frames hold collide. -/
  derived : ∀ authority, build_replay_market_frame_lookup_authority digests.toReplayLookupDigests
      timeline = .ok authority →
    @ObservationsApart digests.toReplayLookupDigests timeline →
    (∀ f ∈ timeline.frame_projections, ItemIdsApart digests.toEvidenceDigests f.frame) →
    ∃ ps, derive_replay_market_evidence_projections digests timeline authority
      build_market_evidence_builder_descriptor = .ok ps
  /-- The deterministic builder makes what is derived without it. -/
  agrees : ∀ authority, build_replay_market_frame_lookup_authority digests.toReplayLookupDigests
      timeline = .ok authority → ∀ evidence,
    buildEvidenceTimeline digests timeline
        (DeterministicCrossVenueMarketEvidenceBuilder digests.toEvidenceDigests) = .ok evidence ↔
      derive_replay_market_evidence_projections digests timeline authority
          build_market_evidence_builder_descriptor = .ok evidence.projections ∧
        evidence.market_lookup_authority = authority
  /-- It takes all that is derived unless digests of projections collide. -/
  taken : ∀ authority ps, build_replay_market_frame_lookup_authority digests.toReplayLookupDigests
      timeline = .ok authority →
    derive_replay_market_evidence_projections digests timeline authority
      build_market_evidence_builder_descriptor = .ok ps →
    ((∃ evidence, buildEvidenceTimeline digests timeline
        (DeterministicCrossVenueMarketEvidenceBuilder digests.toEvidenceDigests) =
          .ok evidence) ↔ (projectionIds ps).Nodup)
  /-- Whichever builder is asked, every event has the evidence of its own frame. -/
  made : ∀ port evidence, buildEvidenceTimeline digests timeline port = .ok evidence →
    evidence.projections.length = timeline.frame_projections.length ∧
    ∀ (i : ℕ) o f q, timeline.observation_projections[i]? = some o →
      timeline.frame_projections[i]? = some f → evidence.projections[i]? = some q →
        EvidenceAt digests port timeline i o f q

theorem made_entries (h : AllMade port authority timeline.toFrameTimelineFields ps) :
    ps.map (fun q => q.market_lookup_entry) =
      (@projectionsOf digests.toReplayLookupDigests
        timeline.toFrameTimelineFields).map fun p => p.entry := by
  rw [← List.forall₂_eq_eq_eq, List.forall₂_map_left_iff, List.forall₂_map_right_iff]
  exact h.flip.imp fun q p hpq => hpq.entry_eq

/-- The evidence that was made of all frames is a timeline unless ids of it collide. -/
theorem made_timeline_iff (h : Paired timeline.toFrameTimelineFields)
    (hauthority : build_replay_market_frame_lookup_authority digests.toReplayLookupDigests timeline
      = .ok authority)
    (hmade : AllMade port authority timeline.toFrameTimelineFields ps) :
    EvidenceTimelineFields.validate ⟨authority, port.descriptor, ps⟩ = .ok () ↔
      (projectionIds ps).Nodup := by
  obtain ⟨valid, rfl⟩ := authority_built h hauthority
  have hentries := made_entries hmade
  obtain ⟨hne, hids⟩ := (validate_authority_iff h).mp valid
  rw [timeline_validate_iff]
  constructor
  · exact fun hvalid => hvalid.2.2.1
  · intro hnodup
    refine ⟨fun hempty => hne ?_, ?_, hnodup, ?_⟩
    · have hnone : ps = [] := hempty
      rw [hnone, List.map_nil] at hentries
      exact List.map_eq_nil_iff.mp hentries.symm
    · change List.Forall₂ _ ((@projectionsOf digests.toReplayLookupDigests
        timeline.toFrameTimelineFields).map fun p => p.entry) ps
      rw [List.forall₂_map_left_iff]
      exact hmade.imp fun p q hpq => ⟨hpq.descriptor_eq, hpq.entry_eq, hpq.builder_eq⟩
    · rw [marketEntryIds, ← Function.comp_def, ← List.map_map, hentries]
      exact hids

/-- From the frames that were built of a replay timeline, one projection of evidence is made for
each event. It is of the frame of this event, whose items all stem from events up to this one, and
the deterministic builder makes exactly what is derived without it. -/
theorem evidence_timeline_of_frames (digests : ReplayEvidenceDigests) (r : ReplayTimeline)
    (input_batches : List PayloadBatch) (descriptor : ReplayMarketAdapterDescriptor)
    (bindings : List ReplayMarketDataBinding)
    (timeline : ReplayMarketFrameTimeline digests.toReplayMarketDigests)
    (h : build_replay_market_frame_timeline digests.toReplayMarketDigests r input_batches descriptor
      bindings = .ok timeline) : EvidenceFollows digests timeline := by
  have hpaired := @paired_of_built digests.toReplayLookupDigests _ _ _ _ _ h
  have hagrees : ∀ authority, build_replay_market_frame_lookup_authority
      digests.toReplayLookupDigests timeline = .ok authority → ∀ evidence,
        buildEvidenceTimeline digests timeline
            (DeterministicCrossVenueMarketEvidenceBuilder digests.toEvidenceDigests) =
              .ok evidence ↔
          derive_replay_market_evidence_projections digests timeline authority
              build_market_evidence_builder_descriptor = .ok evidence.projections ∧
            evidence.market_lookup_authority = authority := by
    intro authority hauthority evidence
    rw [buildEvidenceTimeline_iff hpaired hauthority, derive_projections_iff hpaired hauthority]
    constructor
    · exact fun hbuilt => ⟨hbuilt.1, hbuilt.2.1⟩
    · exact fun hderived => ⟨hderived.1, hderived.2, builder_unique _⟩
  refine ⟨frames_apart h, fun authority => all_made h, hagrees, fun authority ps hauthority hps => ?_,
    fun port evidence hbuilt => ⟨evidence_length h hbuilt, fun i o f q => evidence_at h hbuilt⟩⟩
  have hmade := (derive_projections_iff hpaired hauthority).mp hps
  rw [← made_timeline_iff hpaired hauthority hmade]
  constructor
  · rintro ⟨evidence, hbuilt⟩
    obtain ⟨hderived, hauthority'⟩ := (hagrees authority hauthority evidence).mp hbuilt
    rw [hps, Except.ok.injEq] at hderived
    have hfields : evidence.toEvidenceTimelineFields =
        ⟨authority, build_market_evidence_builder_descriptor, ps⟩ := by
      rw [hderived, ← hauthority', ← builder_unique evidence.evidence_builder]
    have hvalid := evidence.valid
    rwa [hfields] at hvalid
  · intro hvalid
    exact ⟨⟨_, hvalid⟩, (hagrees authority hauthority _).mpr ⟨hps, rfl⟩⟩

end Built

end Evidence

/-! The evidence of two trades. -/

def sampleReplayEvidenceDigests : ReplayEvidenceDigests where
  toReplayLookupDigests := sampleLookupDigests
  item := sampleEvidenceDigests.item
  set _ frame _ :=
    match frame.observations with
    | [o] =>
      if o.provenance.source_sequence = some 0 then sampleHexDigest '0' (.refl true)
      else sampleHexDigest '1' (.refl true)
    | _ => sampleHexDigest '2' (.refl true)
  evidence_projection p :=
    if p.market_lookup_entry.event_order_index = 0 then sampleHexDigest '4' (.refl true)
    else sampleHexDigest '5' (.refl true)

/-- What an entry and an event tell of each other. -/
def entryPlace (e : ReplayMarketFrameLookupEntry) : TrimmedText × ℕ × DateTime × ReplayInputKind :=
  (e.event_id, e.event_order_index, e.event_time, e.event_kind)

def eventPlace (e : ReplayTimelineEvent) : TrimmedText × ℕ × DateTime × ReplayInputKind :=
  (e.event_id, e.order_index, e.event_time, e.kind)

/-- The evidence of the two trades is built, under ids that keep the two apart. -/
theorem sampleEvidence_built : ∃ timeline evidence, sampleFrames Replay.twoEvents = .ok timeline ∧
    buildEvidenceTimeline sampleReplayEvidenceDigests timeline
      (DeterministicCrossVenueMarketEvidenceBuilder
        sampleReplayEvidenceDigests.toEvidenceDigests) = .ok evidence ∧
    evidence.projections.map (fun q => entryPlace q.market_lookup_entry) =
      Replay.twoEvents.events.map eventPlace ∧
    (evidence.projections.map fun q => q.evidence_set.evidence_set_id).Nodup := by
  have hdigests : (match sampleFrames Replay.twoEvents with
      | .error _ => false
      | .ok timeline =>
        decide ((@authorityOf sampleLookupDigests timeline.toFrameTimelineFields).entries.map
          sampleLookupDigests.entry_id).Nodup &&
        decide ((@projectionsOf sampleLookupDigests timeline.toFrameTimelineFields).map
          (fun p => entryPlace p.entry) = Replay.twoEvents.events.map eventPlace) &&
        decide (∀ f ∈ timeline.frame_projections,
          ((toldItems sampleReplayEvidenceDigests.toEvidenceDigests f.frame.observations
            f.frame.source_health).map
              sampleReplayEvidenceDigests.toEvidenceDigests.evidence_item_id).Nodup) &&
        decide ((@projectionsOf sampleLookupDigests timeline.toFrameTimelineFields).map fun p =>
          sampleReplayEvidenceDigests.toEvidenceDigests.evidence_set_id
            build_market_evidence_builder_descriptor p.frame_projection.frame.toFrameFields
              []).Nodup) = true := by
    decide +kernel
  obtain ⟨timeline, hbuilt, hapart, -⟩ := sampleFrames_built Replay.twoEvents (.inl rfl)
  rw [hbuilt] at hdigests
  simp only [Bool.and_eq_true, decide_eq_true_eq] at hdigests
  obtain ⟨⟨⟨hentries, hplaces⟩, hitems⟩, hsets⟩ := hdigests
  have hpaired := @paired_of_built sampleLookupDigests _ _ _ _ _ hbuilt
  have hne : @projectionsOf sampleLookupDigests timeline.toFrameTimelineFields ≠ [] := by
    intro hempty
    rw [hempty] at hplaces
    cases hplaces
  have valid := (validate_authority_iff hpaired).mpr ⟨hne, hentries⟩
  have hauthority : build_replay_market_frame_lookup_authority sampleLookupDigests timeline =
      .ok ⟨_, valid⟩ := by
    rw [build_authority_eq hpaired]
    exact validated_eq_ok.mpr ⟨valid, rfl⟩
  obtain ⟨ps, hps⟩ := @all_made sampleReplayEvidenceDigests _ _ _ _ _ _ hbuilt hauthority hapart
    hitems
  have hmade := (derive_projections_iff hpaired hauthority).mp hps
  have hentered : ps.map (fun q => entryPlace q.market_lookup_entry) =
      Replay.twoEvents.events.map eventPlace := by
    have hsame := congrArg (List.map entryPlace) (made_entries hmade)
    rw [List.map_map, List.map_map] at hsame
    exact hsame.trans hplaces
  have hids : (projectionIds ps).Nodup := by
    -- a digest of these tells the place of the event and nothing else
    have hplaced : projectionIds ps = (ps.map fun q => entryPlace q.market_lookup_entry).map
        fun place => DomainId.ofDigest ⟨"replay-market-evidence-projection:", by decide⟩
          (if place.2.1 = 0 then sampleHexDigest '4' (.refl true)
            else sampleHexDigest '5' (.refl true)) := by
      rw [List.map_map]
      rfl
    rw [hplaced, hentered]
    decide
  have hvalid := (made_timeline_iff hpaired hauthority hmade).mpr hids
  refine ⟨timeline, ⟨⟨_, _, ps⟩, hvalid⟩, hbuilt,
    (buildEvidenceTimeline_iff hpaired hauthority).mpr ⟨hmade, rfl, rfl⟩, hentered, ?_⟩
  have hsame : ps.map (fun q => q.evidence_set.evidence_set_id) =
      (@projectionsOf sampleLookupDigests timeline.toFrameTimelineFields).map fun p =>
        sampleReplayEvidenceDigests.toEvidenceDigests.evidence_set_id
          build_market_evidence_builder_descriptor p.frame_projection.frame.toFrameFields [] := by
    rw [← List.forall₂_eq_eq_eq, List.forall₂_map_left_iff, List.forall₂_map_right_iff]
    refine hmade.flip.imp fun q p hpq => ?_
    obtain ⟨items, -, hset⟩ := bind_eq_ok.mp hpq.built
    obtain ⟨set_id, hset_id, hset⟩ := bind_eq_ok.mp hset
    obtain ⟨⟨⟩, -, hset_id⟩ := bind_eq_ok.mp hset_id
    obtain ⟨hset, hfields⟩ := validated_eq_ok.mp hset
    have hid := congrArg (fun s => s.evidence_set_id) hfields
    exact hid.symm.trans (Except.ok.inj hset_id).symm
  rw [hsame]
  exact hsets

theorem sampleEvidence_follows : ∃ timeline evidence, sampleFrames Replay.twoEvents = .ok timeline ∧
    buildEvidenceTimeline sampleReplayEvidenceDigests timeline
      (DeterministicCrossVenueMarketEvidenceBuilder
        sampleReplayEvidenceDigests.toEvidenceDigests) = .ok evidence ∧
    EvidenceFollows sampleReplayEvidenceDigests timeline ∧
    evidence.projections.length = timeline.frame_projections.length := by
  obtain ⟨timeline, evidence, hbuilt, hevidence, -⟩ := sampleEvidence_built
  have hfollows := evidence_timeline_of_frames sampleReplayEvidenceDigests Replay.twoEvents
    [sampleTrades] sampleDescriptor [sampleBinding] timeline hbuilt
  exact ⟨timeline, evidence, hbuilt, hevidence, hfollows, (hfollows.made _ evidence hevidence).1⟩

end FuturesBot.Market
