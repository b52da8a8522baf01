import FuturesBot.ReplayTimelines
import Mathlib.Data.List.Dedup

/-! What the timeline builder makes of validated batches: when it succeeds, and that its events
are the records of the batches in the order of the policy. -/
namespace FuturesBot.Replay

open TextLines DateTimes Dicts KeySorting Checks LocalReplayTimelineBuilder

/-! Events of records. -/

theorem BatchRecord.eventId_trimmed (x : BatchRecord) : Trimmed x.eventId.toList := by
  obtain ⟨c, hc, hc'⟩ := x.batch_id.trimmed.head
  obtain ⟨d, hd, hd'⟩ := x.record.record_id.trimmed.last
  apply trimmed_append hc ?_ hc' hd'
  rw [String.toList_append, List.getLast?_append, hd, Option.some_or]

def BatchRecord.event (x : BatchRecord) (order_index : ℕ) : ReplayTimelineEvent where
  event_id := ⟨x.eventId, x.eventId_trimmed⟩
  batch_id := x.batch_id
  input_dataset_id := x.input_dataset_id
  record_id := x.record.record_id
  kind := x.record.kind
  instrument := x.record.instrument
  event_time := x.record.event_time
  source_sequence := x.record.source_sequence
  order_index
  content_hash := x.record.content_hash

theorem BatchRecord.toEvent_eq (x : BatchRecord) (i : ℕ) : x.toEvent i = .ok (x.event i) := by
  rw [toEvent, TrimmedText.of, dif_pos x.eventId_trimmed]
  rfl

/-- The record an event stands for. -/
def ReplayTimelineEvent.source (e : ReplayTimelineEvent) : BatchRecord where
  record := {
    record_id := e.record_id
    kind := e.kind
    instrument := e.instrument
    event_time := e.event_time
    source_sequence := e.source_sequence
    content_hash := e.content_hash }
  batch_id := e.batch_id
  input_dataset_id := e.input_dataset_id

def timelineEvents : ℕ → List BatchRecord → List ReplayTimelineEvent
  | _, [] => []
  | i, x :: xs => x.event i :: timelineEvents (i + 1) xs

theorem buildEvents_eq (i : ℕ) (xs : List BatchRecord) :
    buildEvents i xs = .ok (timelineEvents i xs) := by
  induction xs generalizing i with
  | nil => rfl
  | cons x xs ih => rw [buildEvents, x.toEvent_eq, ih, timelineEvents]

/-- What does not depend on the order index is read off the records. -/
theorem map_timelineEvents {γ : Type} {f : ReplayTimelineEvent → γ} {g : BatchRecord → γ}
    (h : ∀ x i, f (x.event i) = g x) (i : ℕ) (xs : List BatchRecord) :
    (timelineEvents i xs).map f = xs.map g := by
  induction xs generalizing i with
  | nil => rfl
  | cons x xs ih => rw [timelineEvents, List.map_cons, List.map_cons, ih, h]

theorem timelineEvents_source (i : ℕ) (xs : List BatchRecord) :
    (timelineEvents i xs).map (·.source) = xs := by
  rw [map_timelineEvents (f := fun e => e.source) (g := id) (fun _ _ => rfl), List.map_id]

theorem timelineEvents_length (i : ℕ) (xs : List BatchRecord) :
    (timelineEvents i xs).length = xs.length := by
  conv_rhs => rw [← timelineEvents_source i xs]
  rw [List.length_map]

theorem timelineEvents_order_index (i : ℕ) (xs : List BatchRecord) :
    (timelineEvents i xs).map (·.order_index) = List.range' i xs.length := by
  induction xs generalizing i with
  | nil => rfl
  | cons x xs ih => rw [timelineEvents, List.map_cons, ih, List.length_cons, List.range'_succ]; rfl

/-- Events are sorted as their records are. -/
theorem timelineEvents_sorted {κ : Type} [LinearOrder κ] {key : ReplayTimelineEvent → κ}
    {key' : BatchRecord → κ} (h : ∀ x i, key (x.event i) = key' x) (i : ℕ)
    (xs : List BatchRecord) : SortedBy key (timelineEvents i xs) ↔ SortedBy key' xs := by
  rw [SortedBy, SortedBy, ← List.pairwise_map (f := key), ← List.pairwise_map (f := key'),
    map_timelineEvents h]

/-! The batches of a call. -/

/-- The batches that a request lists are in the store, validated, and of its plan, window and
policy. -/
structure ListsBatches (builder : LocalReplayTimelineBuilder) (request : TimelineRequest)
    (batches : List ReplayInputBatch) : Prop where
  ids : request.input_batch_ids = batches.map (·.batch_id.value)
  stored : ∀ b ∈ batches, builder.input_batch_store.get? b.batch_id.value = some b
  plan : ∀ b ∈ batches, b.replay_plan_id.value = request.replay_plan_id
  window : ∀ b ∈ batches, b.temporal_window = request.temporal_window
  policy : ∀ b ∈ batches, b.ordering_policy = request.ordering_policy
  validated : ∀ b ∈ batches, b.validation_status = .VALIDATED

/-- What the call checks besides the batches: texts, the clock, the plan of the window, each
batch listed once, and a timeline id that is not in use. -/
structure ReadyRequest (builder : LocalReplayTimelineBuilder) (request : TimelineRequest) :
    Prop where
  distinct : request.input_batch_ids.Nodup
  plan_known : builder.checkPlan request = .ok ()
  timeline_id : Trimmed request.timeline_id.toList
  replay_plan_id : Trimmed request.replay_plan_id.toList
  notes : ∀ notes ∈ request.notes, Trimmed notes.toList
  aware : request.now ≠ none
  nonempty : request.status = .VALIDATED → request.input_batch_ids ≠ []
  unused : builder.timeline_store.get? request.timeline_id = none

/-- No two records of the batches have the same text for batch id and record id. -/
def EventIdsUnique (batches : List ReplayInputBatch) : Prop :=
  ((rawRecords batches).map (·.eventId)).Nodup

instance (batches : List ReplayInputBatch) : Decidable (EventIdsUnique batches) :=
  inferInstanceAs (Decidable (List.Nodup _))

theorem loadBatches_eq {builder : LocalReplayTimelineBuilder} {request : TimelineRequest} :
    ∀ {batches : List ReplayInputBatch},
      (∀ b ∈ batches, builder.input_batch_store.get? b.batch_id.value = some b ∧
        checkAll (checkBatch request b.batch_id.value b) = .ok ()) →
      loadBatches builder.input_batch_store request (batches.map (·.batch_id.value)) =
        .ok batches := by
  intro batches h
  induction batches with
  | nil => rfl
  | cons b batches ih =>
    obtain ⟨hstored, hcheck⟩ := h b List.mem_cons_self
    rw [List.map_cons, loadBatches, hstored]
    dsimp only
    rw [hcheck, ih fun b' hb' => h b' (List.mem_cons_of_mem b hb')]

theorem ListsBatches.load {builder : LocalReplayTimelineBuilder} {request : TimelineRequest}
    {batches : List ReplayInputBatch} (h : ListsBatches builder request batches) :
    loadBatches builder.input_batch_store request request.input_batch_ids = .ok batches := by
  rw [h.ids]
  apply loadBatches_eq
  intro b hb
  refine ⟨h.stored b hb, ?_⟩
  simp only [checkBatch, checkAll_require, checkAll_nil, and_true]
  exact ⟨h.plan b hb, h.window b hb, h.policy b hb, h.validated b hb⟩

/-! Order. -/

theorem sortRaw_perm (raw : List BatchRecord) (policy : ReplayOrderingPolicy) :
    (sortRaw raw policy).Perm raw := by
  cases policy with
  | EVENT_TIME_THEN_SEQUENCE => exact sortBy_perm _ raw
  | EVENT_TIME_THEN_KIND_THEN_SEQUENCE => exact sortBy_perm _ raw
  | SOURCE_ORDER => exact List.Perm.refl raw
  | OTHER => exact List.Perm.refl raw

/-- With distinct event ids the sorted records do not depend on the order they are given in. -/
theorem sortRaw_perm_eq {raw raw' : List BatchRecord} {policy : ReplayOrderingPolicy}
    (htime : policy.timeBased = true) (hperm : raw.Perm raw')
    (hids : (raw.map (·.eventId)).Nodup) : sortRaw raw policy = sortRaw raw' policy := by
  have hinj : ∀ a ∈ raw, ∀ b ∈ raw, a.eventId = b.eventId → a = b :=
    fun a ha b hb h => List.inj_on_of_nodup_map hids ha hb h
  cases policy with
  | EVENT_TIME_THEN_SEQUENCE =>
    apply sortBy_perm_eq _ hperm
    intro a ha b hb h
    apply hinj a ha b hb
    exact congrArg (fun k => (ofLex (ofLex k).2).2) h
  | EVENT_TIME_THEN_KIND_THEN_SEQUENCE =>
    apply sortBy_perm_eq _ hperm
    intro a ha b hb h
    apply hinj a ha b hb
    exact congrArg (fun k => (ofLex (ofLex (ofLex k).2).2).2) h
  | SOURCE_ORDER => exact absurd htime (by decide)
  | OTHER => exact absurd htime (by decide)

/-- The order a policy asks of the events of a timeline: by its key, or as the records come. -/
def InPolicyOrder (policy : ReplayOrderingPolicy) (batches : List ReplayInputBatch)
    (events : List ReplayTimelineEvent) : Prop :=
  match policy with
  | .EVENT_TIME_THEN_SEQUENCE => SortedBy timeSequenceIdKey events
  | .EVENT_TIME_THEN_KIND_THEN_SEQUENCE => SortedBy timeKindSequenceIdKey events
  | .SOURCE_ORDER => events.map (·.source) = rawRecords batches
  | .OTHER => events.map (·.source) = rawRecords batches

theorem timelineEvents_inPolicyOrder (policy : ReplayOrderingPolicy)
    (batches : List ReplayInputBatch) :
    InPolicyOrder policy batches (timelineEvents 0 (sortRaw (rawRecords batches) policy)) := by
  cases policy with
  | EVENT_TIME_THEN_SEQUENCE =>
    exact (timelineEvents_sorted (fun _ _ => rfl) 0 _).mpr (sortBy_sorted _ _)
  | EVENT_TIME_THEN_KIND_THEN_SEQUENCE =>
    exact (timelineEvents_sorted (fun _ _ => rfl) 0 _).mpr (sortBy_sorted _ _)
  | SOURCE_ORDER => exact timelineEvents_source 0 _
  | OTHER => exact timelineEvents_source 0 _

/-! The check of the timeline. -/

/-- The events that the builder makes. -/
def builtEvents (policy : ReplayOrderingPolicy) (batches : List ReplayInputBatch) :
    List ReplayTimelineEvent := timelineEvents 0 (sortRaw (rawRecords batches) policy)

theorem mem_rawRecords {batches : List ReplayInputBatch} {x : BatchRecord} :
    x ∈ rawRecords batches ↔
      ∃ b ∈ batches, ∃ r ∈ b.records, ⟨r, b.batch_id, b.input_dataset_id⟩ = x := by
  simp only [rawRecords, List.mem_flatMap, List.mem_map]

theorem builtEvents_sources (policy : ReplayOrderingPolicy) (batches : List ReplayInputBatch) :
    ((builtEvents policy batches).map (·.source)).Perm (rawRecords batches) := by
  rw [builtEvents, timelineEvents_source]
  exact sortRaw_perm _ policy

/-- The values that the events take are those that the records take. -/
theorem mem_map_builtEvents {γ : Type} {f : ReplayTimelineEvent → γ} {g : BatchRecord → γ}
    (h : ∀ x i, f (x.event i) = g x) {policy : ReplayOrderingPolicy}
    {batches : List ReplayInputBatch} {c : γ} :
    c ∈ (builtEvents policy batches).map f ↔
      ∃ b ∈ batches, ∃ r ∈ b.records, g ⟨r, b.batch_id, b.input_dataset_id⟩ = c := by
  rw [builtEvents, map_timelineEvents h, List.mem_map]
  constructor
  · rintro ⟨x, hx, rfl⟩
    obtain ⟨b, hb, r, hr, rfl⟩ := mem_rawRecords.mp ((sortRaw_perm _ policy).mem_iff.mp hx)
    exact ⟨b, hb, r, hr, rfl⟩
  · rintro ⟨b, hb, r, hr, rfl⟩
    refine ⟨_, (sortRaw_perm _ policy).mem_iff.mpr ?_, rfl⟩
    exact mem_rawRecords.mpr ⟨b, hb, r, hr, rfl⟩

theorem builtEvents_ids (policy : ReplayOrderingPolicy) (batches : List ReplayInputBatch) :
    ((builtEvents policy batches).map (·.event_id)).Nodup ↔ EventIdsUnique batches := by
  have hvalues : ((builtEvents policy batches).map (·.event_id)).map (·.value) =
      (sortRaw (rawRecords batches) policy).map (·.eventId) := by
    rw [List.map_map, builtEvents]
    exact map_timelineEvents (fun _ _ => rfl) 0 _
  have hinj : Function.Injective fun t : TrimmedText => t.value := fun _ _ => TrimmedText.ext
  rw [← List.nodup_map_iff hinj, hvalues, EventIdsUnique]
  exact ((sortRaw_perm _ policy).map _).nodup_iff

theorem mem_datasetIds {batches : List ReplayInputBatch} {i : String} :
    i ∈ datasetIds batches ↔ ∃ b ∈ batches, b.input_dataset_id.value = i := by
  rw [datasetIds, mem_sortBy, List.mem_dedup, List.mem_map]

theorem datasetIds_nodup (batches : List ReplayInputBatch) : (datasetIds batches).Nodup :=
  (sortBy_perm _ _).nodup_iff.mpr (List.nodup_dedup _)

section Checked

variable {builder : LocalReplayTimelineBuilder} {request : TimelineRequest}
  {batches : List ReplayInputBatch}

/-- A validated batch holds a record. -/
theorem ListsBatches.record (h : ListsBatches builder request batches) {b : ReplayInputBatch}
    (hb : b ∈ batches) : ∃ r, r ∈ b.records := by
  apply List.exists_mem_of_ne_nil
  intro hempty
  have hplanned := b.nonempty hempty
  rw [h.validated b hb] at hplanned
  exact absurd hplanned (by decide)

theorem ListsBatches.batch_ids (h : ListsBatches builder request batches) {i : String} :
    i ∈ (builtEvents request.ordering_policy batches).map (·.batch_id.value) ↔
      i ∈ request.input_batch_ids := by
  rw [mem_map_builtEvents (g := (·.batch_id.value)) (fun _ _ => rfl), h.ids, List.mem_map]
  constructor
  · rintro ⟨b, hb, r, hr, rfl⟩
    exact ⟨b, hb, rfl⟩
  · rintro ⟨b, hb, rfl⟩
    obtain ⟨r, hr⟩ := h.record hb
    exact ⟨b, hb, r, hr, rfl⟩

theorem ListsBatches.dataset_ids (h : ListsBatches builder request batches) {i : String} :
    i ∈ (builtEvents request.ordering_policy batches).map (·.input_dataset_id.value) ↔
      i ∈ datasetIds batches := by
  rw [mem_map_builtEvents (g := (·.input_dataset_id.value)) (fun _ _ => rfl), mem_datasetIds]
  constructor
  · rintro ⟨b, hb, r, hr, rfl⟩
    exact ⟨b, hb, rfl⟩
  · rintro ⟨b, hb, rfl⟩
    obtain ⟨r, hr⟩ := h.record hb
    exact ⟨b, hb, r, hr, rfl⟩

theorem ListsBatches.in_window (h : ListsBatches builder request batches)
    {e : ReplayTimelineEvent} (he : e ∈ builtEvents request.ordering_policy batches) :
    request.temporal_window.Contains e.event_time := by
  have hmem : e.event_time ∈ (builtEvents request.ordering_policy batches).map (·.event_time) :=
    List.mem_map_of_mem he
  obtain ⟨b, hb, r, hr, htime⟩ :=
    (mem_map_builtEvents (g := (·.record.event_time)) (fun _ _ => rfl)).mp hmem
  rw [← h.window b hb, ← htime]
  exact b.in_window r hr

/-- The event id is a function of the batch id and the record id. -/
theorem EventIdsUnique.pairs (h : EventIdsUnique batches) (policy : ReplayOrderingPolicy) :
    ((builtEvents policy batches).map fun e => (e.batch_id, e.record_id)).Nodup := by
  have hpair : (builtEvents policy batches).map (·.event_id.value) =
      ((builtEvents policy batches).map fun e => (e.batch_id, e.record_id)).map
        fun p => p.1.value ++ (":" ++ p.2.value) := by
    rw [List.map_map, builtEvents, map_timelineEvents (g := (·.eventId)) (fun _ _ => rfl),
      map_timelineEvents (g := (·.eventId)) (fun _ _ => rfl)]
  have hvalues := ((builtEvents_ids policy batches).mpr h).map fun _ _ => TrimmedText.ext
  rw [List.map_map] at hvalues
  apply List.Nodup.of_map
  rw [← hpair]
  exact hvalues

/-- What the builder puts into the timeline of a request. -/
structure BuiltFields (request : TimelineRequest) (batches : List ReplayInputBatch)
    (t : ReplayTimelineFields) : Prop where
  timeline_id : t.timeline_id.value = request.timeline_id
  window : t.temporal_window = request.temporal_window
  policy : t.ordering_policy = request.ordering_policy
  ids : t.input_batch_ids = request.input_batch_ids
  datasets : t.input_dataset_ids = datasetIds batches
  events : t.events = builtEvents request.ordering_policy batches
  status : t.status = request.status

theorem BuiltFields.nonEmpty {t : ReplayTimelineFields} (h : BuiltFields request batches t)
    (hlists : ListsBatches builder request batches) (hready : ReadyRequest builder request) :
    checkAll t.validateNonEmptyRequirements = .ok () := by
  have hevents : t.status = .VALIDATED → t.events ≠ [] := by
    intro hs hnil
    obtain ⟨i, hi⟩ := List.exists_mem_of_ne_nil _ (hready.nonempty (h.status ▸ hs))
    have hmem := hlists.batch_ids.mpr hi
    rw [← h.events, hnil] at hmem
    exact absurd hmem List.not_mem_nil
  simp only [ReplayTimelineFields.validateNonEmptyRequirements, checkAll_require, checkAll_nil,
    and_true]
  refine ⟨fun hs => ?_, fun hs hnil => ?_, hevents⟩
  · rw [h.ids]
    exact hready.nonempty (h.status ▸ hs)
  · obtain ⟨e, he⟩ := List.exists_mem_of_ne_nil _ (hevents hs)
    rw [h.events] at he
    have hmem := hlists.dataset_ids.mp (List.mem_map_of_mem he)
    rw [← h.datasets, hnil] at hmem
    exact absurd hmem List.not_mem_nil

theorem BuiltFields.eventSets {t : ReplayTimelineFields} (h : BuiltFields request batches t)
    (hlists : ListsBatches builder request batches) : checkAll t.validateEventSets = .ok () := by
  simp only [ReplayTimelineFields.validateEventSets, checkAll_require, checkAll_nil, and_true,
    h.events, h.ids, h.datasets]
  refine ⟨⟨fun e he => ?_, fun i hi => hlists.batch_ids.mpr hi⟩, fun e he => ?_,
    fun i hi => hlists.dataset_ids.mpr hi⟩
  · exact hlists.batch_ids.mp (List.mem_map_of_mem he)
  · exact hlists.dataset_ids.mp (List.mem_map_of_mem he)

theorem BuiltFields.eventOrdering {t : ReplayTimelineFields} (h : BuiltFields request batches t) :
    checkAll t.validateEventOrdering = .ok () := by
  have hsorted := timelineEvents_inPolicyOrder request.ordering_policy batches
  rw [ReplayTimelineFields.validateEventOrdering, h.policy, h.events]
  cases hp : request.ordering_policy with
  | EVENT_TIME_THEN_SEQUENCE =>
    rw [hp] at hsorted
    simp only [checkAll_require, checkAll_nil, and_true, sortBy_eq_self]
    exact hsorted
  | EVENT_TIME_THEN_KIND_THEN_SEQUENCE =>
    rw [hp] at hsorted
    simp only [checkAll_require, checkAll_nil, and_true, sortBy_eq_self]
    exact hsorted
  | SOURCE_ORDER => rfl
  | OTHER => rfl

/-- The events pass the timeline's check exactly when their ids are distinct. -/
theorem BuiltFields.valid_iff {t : ReplayTimelineFields} (h : BuiltFields request batches t)
    (hlists : ListsBatches builder request batches) (hready : ReadyRequest builder request) :
    checkAll t.validateTimeline = .ok () ↔ EventIdsUnique batches := by
  have hunique := builtEvents_ids request.ordering_policy batches
  simp only [ReplayTimelineFields.validateTimeline, checkAll_append,
    ReplayTimelineFields.validateUniqueIds, ReplayTimelineFields.validateEventWindow,
    checkAll_flatMap, checkAll_require, checkAll_nil, and_true, h.ids, h.datasets, h.window,
    h.events]
  constructor
  · rintro ⟨⟨⟨-, -, -, hnodup, -⟩, -⟩, -⟩
    exact hunique.mp hnodup
  · intro hids
    refine ⟨⟨⟨h.nonEmpty hlists hready, hready.distinct, datasetIds_nodup batches,
      hunique.mpr hids, hids.pairs _⟩, fun e he => hlists.in_window he⟩, ?_⟩
    split_ifs
    · rfl
    · simp only [checkAll_append]
      refine ⟨⟨h.eventSets hlists, ?_⟩, h.eventOrdering⟩
      simp only [ReplayTimelineFields.validateOrderIndexes, checkAll_require, checkAll_nil,
        and_true]
      rw [h.events, builtEvents, timelineEvents_order_index, timelineEvents_length,
        List.range_eq_range']

theorem timelineFields_eq (batches : List ReplayInputBatch)
    (hready : ReadyRequest builder request) :
    ∃ t, timelineFields request batches (builtEvents request.ordering_policy batches) = .ok t ∧
      BuiltFields request batches t := by
  obtain ⟨now, hnow⟩ := Option.ne_none_iff_exists'.mp hready.aware
  rw [timelineFields, TrimmedText.of, TrimmedText.of, dif_pos hready.timeline_id,
    dif_pos hready.replay_plan_id, hnow]
  cases hnotes : request.notes with
  | none => exact ⟨_, rfl, rfl, rfl, rfl, rfl, rfl, rfl, rfl⟩
  | some notes =>
    have htrimmed := hready.notes notes (by rw [hnotes]; rfl)
    dsimp only
    rw [TrimmedText.of, dif_pos htrimmed]
    exact ⟨_, rfl, rfl, rfl, rfl, rfl, rfl, rfl, rfl⟩

end Checked

/-! The results. -/

/-- The events of a timeline are the records of the batches in the order of the policy. -/
structure EventsOfBatches (policy : ReplayOrderingPolicy) (batches : List ReplayInputBatch)
    (events : List ReplayTimelineEvent) : Prop where
  records : (events.map (·.source)).Perm (rawRecords batches)
  ids : ∀ e ∈ events, e.event_id.value = e.source.eventId
  numbered : events.map (·.order_index) = List.range events.length
  sorted : InPolicyOrder policy batches events

theorem builtEvents_ofBatches (policy : ReplayOrderingPolicy) (batches : List ReplayInputBatch) :
    EventsOfBatches policy batches (builtEvents policy batches) where
  records := builtEvents_sources policy batches
  ids := by
    intro e he
    have hmap : (builtEvents policy batches).map (·.event_id.value) =
        (builtEvents policy batches).map (·.source.eventId) := by
      rw [builtEvents, map_timelineEvents (g := (·.eventId)) (fun _ _ => rfl),
        map_timelineEvents (g := (·.eventId)) (fun _ _ => rfl)]
    exact List.map_inj_left.mp hmap e he
  numbered := by
    rw [builtEvents, timelineEvents_order_index, timelineEvents_length, List.range_eq_range']
  sorted := timelineEvents_inPolicyOrder policy batches

/-- A call on batches with distinct event ids builds the timeline of their records. -/
theorem buildTimeline_unique {builder : LocalReplayTimelineBuilder} {request : TimelineRequest}
    {batches : List ReplayInputBatch} (hlists : ListsBatches builder request batches)
    (hready : ReadyRequest builder request) (hids : EventIdsUnique batches) :
    ∃ timeline, (builder.buildTimeline request).2 = .ok timeline ∧
      timeline.events = builtEvents request.ordering_policy batches := by
  obtain ⟨t, ht, hbuilt⟩ := timelineFields_eq batches hready
  have hvalid := (hbuilt.valid_iff hlists hready).mpr hids
  have hof : ReplayTimeline.of t = .ok ⟨t, hvalid⟩ := by
    rw [ReplayTimeline.of]
    split
    · rfl
    · rename_i hinvalid
      rw [hvalid] at hinvalid
      exact absurd hinvalid (by simp)
  have hnew : newTimeline request batches = .ok ⟨t, hvalid⟩ := by
    rw [newTimeline, buildEvents_eq]
    dsimp only
    rw [← builtEvents, ht]
    exact hof
  refine ⟨⟨t, hvalid⟩, ?_, hbuilt.events⟩
  rw [buildTimeline, if_neg (not_not.mpr hready.distinct), hready.plan_known]
  dsimp only
  rw [hlists.load]
  dsimp only
  rw [hnew]
  dsimp only
  rw [InMemoryReplayTimelineStore.save, KeyedDict.saveOnce, hbuilt.timeline_id, hready.unused]

/-- What the builder promises of a call: it succeeds with the records of the batches as its
events, and for a policy that orders by time every other arrangement of the same records gives
the same events. -/
structure BuildsTimeline (builder : LocalReplayTimelineBuilder) (request : TimelineRequest)
    (batches : List ReplayInputBatch) : Prop where
  built : ∃ timeline, (builder.buildTimeline request).2 = .ok timeline ∧
    EventsOfBatches request.ordering_policy batches timeline.events
  independent : ∀ (builder' : LocalReplayTimelineBuilder) (request' : TimelineRequest)
    (batches' : List ReplayInputBatch), ListsBatches builder' request' batches' →
    ReadyRequest builder' request' → request'.ordering_policy = request.ordering_policy →
    request.ordering_policy.timeBased = true →
    (rawRecords batches').Perm (rawRecords batches) →
    ∃ timeline timeline', (builder.buildTimeline request).2 = .ok timeline ∧
      (builder'.buildTimeline request').2 = .ok timeline' ∧ timeline'.events = timeline.events

/-- A call on validated batches of its plan, window and policy keeps this promise exactly when
no two records of the batches have the same event id. -/
theorem build_timeline_iff {builder : LocalReplayTimelineBuilder} {request : TimelineRequest}
    {batches : List ReplayInputBatch} (hlists : ListsBatches builder request batches)
    (hready : ReadyRequest builder request) :
    BuildsTimeline builder request batches ↔ EventIdsUnique batches := by
  constructor
  · intro h
    obtain ⟨timeline, hok, hevents⟩ := h.built
    have hvalid := timeline.valid
    simp only [ReplayTimelineFields.validateTimeline, checkAll_append,
      ReplayTimelineFields.validateUniqueIds, checkAll_require] at hvalid
    obtain ⟨⟨⟨-, -, -, hnodup, -⟩, -⟩, -⟩ := hvalid
    have hvalues : (timeline.events.map (·.event_id.value)) =
        (timeline.events.map (·.source)).map (·.eventId) := by
      rw [List.map_map]
      exact List.map_congr_left hevents.ids
    have hinj : Function.Injective fun t : TrimmedText => t.value := fun _ _ => TrimmedText.ext
    have hnodup' := hnodup.map hinj
    rw [List.map_map] at hnodup'
    exact ((hevents.records.map _).nodup_iff.mp (hvalues ▸ hnodup'))
  · intro hids
    obtain ⟨timeline, hok, hevents⟩ := buildTimeline_unique hlists hready hids
    refine ⟨⟨timeline, hok, hevents ▸ builtEvents_ofBatches _ batches⟩, ?_⟩
    intro builder' request' batches' hlists' hready' hpolicy htime hperm
    have hids' : EventIdsUnique batches' := (hperm.map _).nodup_iff.mpr hids
    obtain ⟨timeline', hok', hevents'⟩ := buildTimeline_unique hlists' hready' hids'
    refine ⟨timeline, timeline', hok, hok', ?_⟩
    rw [hevents, hevents', hpolicy, builtEvents, builtEvents,
      sortRaw_perm_eq htime hperm hids']

/-! Batches of one record each, and the calls that list them. -/

def sampleWindow : TemporalWindow where
  kind := .REPLAY
  start_at := sampleTime
  end_at := { sampleTime with hour := 4, time_ok := by decide }
  label := none
  window_id := none
  fold_id := none
  sequence_index := none
  ordered := by decide

def sampleInstrument : ReplayInstrumentRef where
  venue := ⟨"venue", by decide⟩
  symbol := ⟨"BTCUSDT", .checked evaluates⟩
  market_type := ⟨"perpetual", by decide⟩
  settlement_asset := .ofText "USDT" (AssetSymbol.checked evaluates)
  quote_asset := none
  collateral_asset := none
  pnl_asset := none
  base_asset := none

def sampleInput (record_id : TrimmedText) : ReplayInputRecord where
  record_id
  kind := .TRADE
  instrument := sampleInstrument
  event_time := sampleTime
  source_sequence := 0
  content_hash := none

def sampleBatch (batch_id record_id : TrimmedText) : ReplayInputBatch where
  batch_id
  replay_plan_id := ⟨"plan-1", .checked evaluates⟩
  input_dataset_id := ⟨"dataset-1", .checked evaluates⟩
  temporal_window := sampleWindow
  ordering_policy := .EVENT_TIME_THEN_SEQUENCE
  records := [sampleInput record_id]
  created_at := sampleTime
  validation_status := .VALIDATED
  notes := none
  nonempty h := absurd h (by simp)
  unique_ids := List.nodup_singleton _
  in_window r hr := by
    rw [List.mem_singleton.mp hr]
    change sampleWindow.Contains sampleTime
    decide
  ordered := rfl

def sampleBuilder (batches : List ReplayInputBatch) : LocalReplayTimelineBuilder where
  input_batch_store := batches.foldl KeyedDict.put .empty
  timeline_store := .empty
  replay_plan_store := none

def sampleRequest (batches : List ReplayInputBatch) : TimelineRequest where
  timeline_id := "timeline-1"
  replay_plan_id := "plan-1"
  input_batch_ids := batches.map (·.batch_id.value)
  temporal_window := sampleWindow
  ordering_policy := .EVENT_TIME_THEN_SEQUENCE
  status := .BUILT
  notes := none
  now := some sampleTime

theorem sampleRequest_ready {batches : List ReplayInputBatch}
    (h : (batches.map (·.batch_id.value)).Nodup) :
    ReadyRequest (sampleBuilder batches) (sampleRequest batches) where
  distinct := h
  plan_known := rfl
  timeline_id := by
    change Trimmed "timeline-1".toList
    decide
  replay_plan_id := by
    change Trimmed "plan-1".toList
    decide
  notes notes hnotes := absurd hnotes (by simp [sampleRequest])
  aware := by simp [sampleRequest]
  nonempty h := absurd h (by simp [sampleRequest])
  unused := rfl

def twoBatches : List ReplayInputBatch :=
  [sampleBatch ⟨"a", by decide⟩ ⟨"b", .checked evaluates⟩,
    sampleBatch ⟨"c", by decide⟩ ⟨"d", .checked evaluates⟩]

theorem twoBatches_build :
    BuildsTimeline (sampleBuilder twoBatches) (sampleRequest twoBatches) twoBatches := by
  have hlists : ListsBatches (sampleBuilder twoBatches) (sampleRequest twoBatches) twoBatches := by
    refine ⟨rfl, ?_, ?_, ?_, ?_, ?_⟩ <;> intro b hb <;>
      rcases List.mem_pair.mp hb with rfl | rfl <;> rfl
  exact (build_timeline_iff hlists (sampleRequest_ready (by decide))).mpr (by decide)

/-- Batch `a` with record `b:c` and batch `a:b` with record `c`. -/
def collidingBatches : List ReplayInputBatch :=
  [sampleBatch ⟨"a", by decide⟩ ⟨"b:c", by decide⟩,
    sampleBatch ⟨"a:b", by decide⟩ ⟨"c", by decide⟩]

/-- Two records with the event id `a:b:c` are refused. -/
theorem colliding_event_ids_refused :
    ¬ ∀ (builder : LocalReplayTimelineBuilder) (request : TimelineRequest)
      (batches : List ReplayInputBatch), ListsBatches builder request batches →
      ReadyRequest builder request → BuildsTimeline builder request batches := by
  intro h
  have hlists : ListsBatches (sampleBuilder collidingBatches) (sampleRequest collidingBatches)
      collidingBatches := by
    refine ⟨rfl, ?_, ?_, ?_, ?_, ?_⟩ <;> intro b hb <;>
      rcases List.mem_pair.mp hb with rfl | rfl <;> rfl
  obtain ⟨timeline, hok, -⟩ :=
    (h _ _ _ hlists (sampleRequest_ready (by decide))).built
  have hnone : ((sampleBuilder collidingBatches).buildTimeline
      (sampleRequest collidingBatches)).2.toOption.isNone = true := by
    decide +kernel
  rw [hok] at hnone
  exact absurd hnone (by simp [Except.toOption])

end FuturesBot.Replay
