import FuturesBot.ReplayCursors
import Mathlib.Tactic.ByContra

/-! Runs of cursor saves and of cursor operations: when the index of a stored cursor never
decreases, and how far it goes. -/
namespace FuturesBot.Replay

open TextLines DateTimes Dicts Checks StepRuns

/-! Saves. -/

/-- The store after a save: a refused one leaves it as it was. -/
def InMemoryReplayTimelineCursorStore.after (store : InMemoryReplayTimelineCursorStore)
    (cursor : ReplayTimelineCursor) : InMemoryReplayTimelineCursorStore :=
  match InMemoryReplayTimelineCursorStore.save store cursor with
  | .ok store => store
  | .error _ => store

abbrev saveRun (store : InMemoryReplayTimelineCursorStore) (saves : List ReplayTimelineCursor) :
    InMemoryReplayTimelineCursorStore :=
  run InMemoryReplayTimelineCursorStore.after store saves

/-- The store accepts every save of the run. -/
def Accepted (store : InMemoryReplayTimelineCursorStore) (saves : List ReplayTimelineCursor) :
    Prop :=
  Meets InMemoryReplayTimelineCursorStore.after (fun store cursor =>
    ∃ store', InMemoryReplayTimelineCursorStore.save store cursor = .ok store') store saves

/-- A save that gives a stored cursor another status does not lower its index. -/
def KeepsIndex (store : InMemoryReplayTimelineCursorStore) (cursor : ReplayTimelineCursor) :
    Prop :=
  ∀ existing ∈ store.get? cursor.cursor_id.value, existing.status ≠ cursor.status →
    existing.next_order_index ≤ cursor.next_order_index

/-- What is stored under an id at one time of the run is not behind what was stored before. -/
def NeverDecreases (store : InMemoryReplayTimelineCursorStore)
    (saves : List ReplayTimelineCursor) : Prop :=
  ∀ earlier later, earlier ++ later <+: saves → ∀ cursor_id,
    ∀ before ∈ (saveRun store earlier).get? cursor_id,
      ∃ cursor ∈ (saveRun store (earlier ++ later)).get? cursor_id,
        before.next_order_index ≤ cursor.next_order_index

variable {store : InMemoryReplayTimelineCursorStore} {cursor : ReplayTimelineCursor}
  {saves : List ReplayTimelineCursor}

theorem after_accepted
    (h : ∃ store', InMemoryReplayTimelineCursorStore.save store cursor = .ok store') :
    InMemoryReplayTimelineCursorStore.after store cursor = store.put cursor ∧
      ∀ existing ∈ store.get? cursor.cursor_id.value, Replaces existing cursor := by
  obtain ⟨store', hsave⟩ := h
  obtain ⟨hput, hreplaces⟩ := save_ok hsave
  refine ⟨?_, hreplaces⟩
  rw [InMemoryReplayTimelineCursorStore.after, hsave]
  exact hput

/-- One accepted save that keeps the index does not lower the index under any id. -/
theorem save_forward
    (haccepted : ∃ store', InMemoryReplayTimelineCursorStore.save store cursor = .ok store')
    (hkeeps : KeepsIndex store cursor) {cursor_id : String} {before : ReplayTimelineCursor}
    (hbefore : store.get? cursor_id = some before) :
    ∃ c ∈ (InMemoryReplayTimelineCursorStore.after store cursor).get? cursor_id,
      before.next_order_index ≤ c.next_order_index := by
  obtain ⟨hafter, hreplaces⟩ := after_accepted haccepted
  rw [hafter]
  by_cases hid : cursor.cursor_id.value = cursor_id
  · subst hid
    refine ⟨cursor, KeyedDict.get?_put_self store cursor, ?_⟩
    -- the store checks a save of the same status, the condition one of another status
    by_cases hstatus : before.status = cursor.status
    · exact (hreplaces before hbefore).forward hstatus
    · exact hkeeps before hbefore hstatus
  · exact ⟨before, (KeyedDict.get?_put_ne store hid).trans hbefore, le_refl _⟩

theorem saveRun_forward (haccepted : Accepted store saves)
    (hkeeps : Meets InMemoryReplayTimelineCursorStore.after KeepsIndex store saves)
    {cursor_id : String} {before : ReplayTimelineCursor}
    (hbefore : store.get? cursor_id = some before) :
    ∃ c ∈ (saveRun store saves).get? cursor_id,
      before.next_order_index ≤ c.next_order_index := by
  induction saves generalizing store before with
  | nil => exact ⟨before, hbefore, le_refl _⟩
  | cons cursor saves ih =>
    obtain ⟨c, hc, hle⟩ := save_forward haccepted.1 hkeeps.1 hbefore
    obtain ⟨last, hlast, hle'⟩ := ih haccepted.2 hkeeps.2 hc
    exact ⟨last, hlast, le_trans hle hle'⟩

/-- In a run of accepted saves no index goes back exactly when no save lowers it together with a
change of the status. -/
theorem neverDecreases_iff (haccepted : Accepted store saves) :
    NeverDecreases store saves ↔
      Meets InMemoryReplayTimelineCursorStore.after KeepsIndex store saves := by
  constructor
  · intro h
    rw [meets_prefix_iff]
    intro earlier cursor hprefix existing hexisting _
    obtain ⟨hafter, -⟩ := after_accepted (meets_prefix_iff.mp haccepted earlier cursor hprefix)
    obtain ⟨c, hc, hle⟩ := h earlier [cursor] hprefix _ existing hexisting
    rw [saveRun, run_append, run_cons, run_nil, hafter, KeyedDict.get?_put_self] at hc
    obtain rfl := Option.some.inj hc
    exact hle
  · rintro h earlier later ⟨rest, rfl⟩ cursor_id before hbefore
    have haccepted' := (meets_append.mp (meets_append.mp haccepted).1).2
    have hkeeps := (meets_append.mp (meets_append.mp h).1).2
    rw [saveRun, run_append]
    exact saveRun_forward haccepted' hkeeps hbefore

/-! Operations. -/

/-- The index of a cursor lies within its timeline, at its end when the cursor is completed. -/
def WithinTimeline (timelines : InMemoryReplayTimelineStore) (cursor : ReplayTimelineCursor) :
    Prop :=
  ∃ timeline, timelines.get? cursor.timeline_id.value = some timeline ∧
    0 ≤ cursor.next_order_index ∧ cursor.next_order_index ≤ timeline.events.length ∧
    (cursor.status = .COMPLETED → cursor.next_order_index = timeline.events.length)

/-- The cursors of a builder over its timelines. -/
structure CursorsWithin (timelines : InMemoryReplayTimelineStore)
    (builder : LocalReplayTimelineCursors) : Prop where
  timelines_eq : builder.timeline_store = timelines
  within : ∀ cursor_id, ∀ cursor ∈ builder.cursor? cursor_id, WithinTimeline timelines cursor

namespace LocalReplayTimelineCursors

variable {builder builder' : LocalReplayTimelineCursors} {timelines : InMemoryReplayTimelineStore}
  {operation : CursorOperation}

theorem saveCursor_ok {fields : CursorFields}
    (h : builder.saveCursor store fields = .ok (builder', cursor)) :
    cursor.toCursorFields = fields ∧
      ∃ store', InMemoryReplayTimelineCursorStore.save store cursor = .ok store' ∧
        builder' = { builder with cursor_store := some store' } := by
  rw [saveCursor] at h
  split at h
  · exact absurd h (by simp)
  · rename_i made hmade
    split at h
    · exact absurd h (by simp)
    · rename_i store' hsave
      obtain ⟨rfl, rfl⟩ := Prod.mk.inj (Except.ok.inj h)
      exact ⟨ReplayTimelineCursor.of_ok hmade, store', hsave, rfl⟩

theorem requireCursorStore_ok (h : builder.requireCursorStore = .ok store) :
    builder.cursor_store = some store := by
  rw [requireCursorStore] at h
  split at h
  · exact absurd h (by simp)
  · rename_i stored hstored
    rw [hstored, Except.ok.inj h]

theorem loadCursor_ok {cursor_id : String} (h : loadCursor store cursor_id = .ok cursor) :
    store.get? cursor_id = some cursor := by
  rw [loadCursor] at h
  split at h
  · exact absurd h (by simp)
  · rename_i stored hstored
    rw [hstored, Except.ok.inj h]

theorem requireTrimmed_ok {value message : String} {t : TrimmedText}
    (h : requireTrimmed value message = .ok t) : t.value = value := by
  rw [requireTrimmed, TrimmedText.of] at h
  by_cases hvalue : Trimmed value.toList
  · rw [dif_pos hvalue] at h
    rw [← Except.ok.inj h]
  · rw [dif_neg hvalue] at h
    exact absurd h (by simp)

theorem cursor?_of_store {cursor_id : String} (hstore : builder.cursor_store = some store) :
    builder.cursor? cursor_id = store.get? cursor_id := by
  rw [cursor?, hstore]
  rfl

/-- A call saves the cursor it makes, and that cursor lies within its timeline. -/
structure Makes (timelines : InMemoryReplayTimelineStore) (builder : LocalReplayTimelineCursors)
    (cursor : ReplayTimelineCursor) (builder' : LocalReplayTimelineCursors) : Prop where
  within : WithinTimeline timelines cursor
  saved : ∃ store store', builder.cursor_store = some store ∧
    InMemoryReplayTimelineCursorStore.save store cursor = .ok store' ∧
    builder' = { builder with cursor_store := some store' }

/-- The timeline of a cursor that an operation loads. -/
theorem loaded_timeline (hwithin : CursorsWithin timelines builder)
    (hstore : builder.requireCursorStore = .ok store) {cursor_id : String}
    (hload : loadCursor store cursor_id = .ok cursor) : WithinTimeline timelines cursor := by
  apply hwithin.within cursor_id
  rw [cursor?_of_store (requireCursorStore_ok hstore)]
  exact loadCursor_ok hload

theorem createCursor_ok (hwithin : CursorsWithin timelines builder) {cursor_id timeline_id : String}
    {now : Option DateTime}
    (h : builder.createCursor cursor_id timeline_id now = .ok (builder', cursor)) :
    Makes timelines builder cursor builder' := by
  rw [createCursor, bind_eq_ok] at h
  obtain ⟨store, hstore, h⟩ := h
  split at h
  · exact absurd h (by simp)
  · rename_i timeline htimeline
    simp only [bind_eq_ok] at h
    obtain ⟨id, -, timeline_id', htrimmed, updated_at, -, h⟩ := h
    obtain ⟨hfields, store', hsave, rfl⟩ := saveCursor_ok h
    have hid : cursor.timeline_id = timeline_id' := congrArg (·.timeline_id) hfields
    have hzero : cursor.next_order_index = 0 := congrArg (·.next_order_index) hfields
    have hcreated : cursor.status = .CREATED := congrArg (·.status) hfields
    refine ⟨⟨timeline, ?_, cursor.next_nonneg, ?_, fun hcompleted => ?_⟩, store, store',
      requireCursorStore_ok hstore, hsave, rfl⟩
    · rw [hid, requireTrimmed_ok htrimmed, ← hwithin.timelines_eq, htimeline]
    · rw [hzero]
      exact Int.natCast_nonneg _
    · rw [hcreated] at hcompleted
      cases hcompleted

theorem advanceCursor_ok (hwithin : CursorsWithin timelines builder) {cursor_id : String}
    {next_order_index : ℤ} {now : Option DateTime}
    (h : builder.advanceCursor cursor_id next_order_index now = .ok (builder', cursor)) :
    Makes timelines builder cursor builder' := by
  rw [advanceCursor, bind_eq_ok] at h
  obtain ⟨store, hstore, h⟩ := h
  rw [bind_eq_ok] at h
  obtain ⟨existing, hload, h⟩ := h
  obtain ⟨timeline, htimeline, -⟩ := loaded_timeline hwithin hstore hload
  dsimp only at h
  rw [hwithin.timelines_eq, htimeline] at h
  split at h
  · exact absurd h (by simp)
  · rename_i hchecks
    simp only [checkAll_require, checkAll_nil, and_true] at hchecks
    rw [bind_eq_ok] at h
    obtain ⟨updated_at, -, h⟩ := h
    obtain ⟨hfields, store', hsave, rfl⟩ := saveCursor_ok h
    have hid : cursor.timeline_id = existing.timeline_id := congrArg (·.timeline_id) hfields
    have hnext : cursor.next_order_index = next_order_index :=
      congrArg (·.next_order_index) hfields
    have hadvanced : cursor.status = .ADVANCED := congrArg (·.status) hfields
    refine ⟨⟨timeline, ?_, cursor.next_nonneg, ?_, fun hcompleted => ?_⟩, store, store',
      requireCursorStore_ok hstore, hsave, rfl⟩
    · rw [hid, htimeline]
    · rw [hnext]
      exact not_lt.mp (hchecks.2 timeline rfl)
    · rw [hadvanced] at hcompleted
      cases hcompleted

theorem completeCursor_ok (hwithin : CursorsWithin timelines builder) {cursor_id : String}
    {next_order_index : ℤ} {now : Option DateTime}
    (h : builder.completeCursor cursor_id next_order_index now = .ok (builder', cursor)) :
    Makes timelines builder cursor builder' := by
  rw [completeCursor, bind_eq_ok] at h
  obtain ⟨store, hstore, h⟩ := h
  rw [bind_eq_ok] at h
  obtain ⟨existing, hload, h⟩ := h
  obtain ⟨timeline, htimeline, -⟩ := loaded_timeline hwithin hstore hload
  dsimp only at h
  rw [hwithin.timelines_eq, htimeline] at h
  split at h
  · exact absurd h (by simp)
  · rename_i hchecks
    simp only [checkAll_require, checkAll_nil, and_true] at hchecks
    rw [bind_eq_ok] at h
    obtain ⟨now_ts, -, h⟩ := h
    obtain ⟨hfields, store', hsave, rfl⟩ := saveCursor_ok h
    have hid : cursor.timeline_id = existing.timeline_id := congrArg (·.timeline_id) hfields
    have hnext : cursor.next_order_index = next_order_index :=
      congrArg (·.next_order_index) hfields
    have hend : cursor.next_order_index = timeline.events.length := by
      rw [hnext]
      exact hchecks timeline rfl
    refine ⟨⟨timeline, ?_, cursor.next_nonneg, hend.le, fun _ => hend⟩, store, store',
      requireCursorStore_ok hstore, hsave, rfl⟩
    rw [hid, htimeline]

theorem invalidateCursor_ok (hwithin : CursorsWithin timelines builder)
    {cursor_id reason : String} {now : Option DateTime}
    (h : builder.invalidateCursor cursor_id reason now = .ok (builder', cursor)) :
    Makes timelines builder cursor builder' := by
  rw [invalidateCursor, bind_eq_ok] at h
  obtain ⟨store, hstore, h⟩ := h
  rw [bind_eq_ok] at h
  obtain ⟨existing, hload, h⟩ := h
  obtain ⟨timeline, htimeline, -, hle, -⟩ := loaded_timeline hwithin hstore hload
  simp only [bind_eq_ok] at h
  obtain ⟨updated_at, -, notes, -, h⟩ := h
  obtain ⟨hfields, store', hsave, rfl⟩ := saveCursor_ok h
  have hid : cursor.timeline_id = existing.timeline_id := congrArg (·.timeline_id) hfields
  have hnext : cursor.next_order_index = existing.next_order_index :=
    congrArg (·.next_order_index) hfields
  have hinvalidated : cursor.status = .INVALIDATED := congrArg (·.status) hfields
  refine ⟨⟨timeline, ?_, cursor.next_nonneg, ?_, fun hcompleted => ?_⟩, store, store',
    requireCursorStore_ok hstore, hsave, rfl⟩
  · rw [hid, htimeline]
  · rw [hnext]
    exact hle
  · rw [hinvalidated] at hcompleted
    cases hcompleted

theorem call_ok (hwithin : CursorsWithin timelines builder)
    (h : builder.call operation = .ok (builder', cursor)) :
    Makes timelines builder cursor builder' := by
  cases operation with
  | create cursor_id timeline_id now => exact createCursor_ok hwithin h
  | advance cursor_id next_order_index now => exact advanceCursor_ok hwithin h
  | complete cursor_id next_order_index now => exact completeCursor_ok hwithin h
  | invalidate cursor_id reason now => exact invalidateCursor_ok hwithin h

/-- What a call leaves: the builder as it was, or one cursor saved. -/
theorem after_cases (hwithin : CursorsWithin timelines builder) (operation : CursorOperation) :
    builder.after operation = builder ∨
      ∃ cursor store, WithinTimeline timelines cursor ∧ builder.cursor_store = some store ∧
        (∀ existing ∈ store.get? cursor.cursor_id.value, Replaces existing cursor) ∧
        builder.after operation = { builder with cursor_store := some (store.put cursor) } := by
  cases hcall : builder.call operation with
  | error e =>
    left
    rw [after, hcall]
  | ok result =>
    obtain ⟨builder', cursor⟩ := result
    obtain ⟨hcursor, store, store', hstore, hsave, rfl⟩ := call_ok hwithin hcall
    obtain ⟨rfl, hreplaces⟩ := save_ok hsave
    refine .inr ⟨cursor, store, hcursor, hstore, hreplaces, ?_⟩
    rw [after, hcall]

theorem after_within (hwithin : CursorsWithin timelines builder) (operation : CursorOperation) :
    CursorsWithin timelines (builder.after operation) := by
  rcases after_cases hwithin operation with hsame | ⟨cursor, store, hcursor, hstore, -, hafter⟩
  · rw [hsame]
    exact hwithin
  · rw [hafter]
    refine ⟨hwithin.timelines_eq, fun cursor_id c hc => ?_⟩
    change c ∈ (store.put cursor).get? cursor_id at hc
    rw [KeyedDict.get?_put] at hc
    split_ifs at hc with hid
    · rw [← Option.some.inj hc]
      exact hcursor
    · apply hwithin.within cursor_id
      rw [cursor?_of_store hstore]
      exact hc

/-- A cursor that is invalidated stays as it is. -/
theorem after_invalidated (hwithin : CursorsWithin timelines builder)
    (operation : CursorOperation) {cursor_id : String} {existing : ReplayTimelineCursor}
    (hexisting : builder.cursor? cursor_id = some existing)
    (hstatus : existing.status = .INVALIDATED) :
    (builder.after operation).cursor? cursor_id = some existing := by
  rcases after_cases hwithin operation with hsame | ⟨cursor, store, -, hstore, hreplaces, hafter⟩
  · rw [hsame]
    exact hexisting
  · rw [cursor?_of_store hstore] at hexisting
    rw [hafter]
    change (store.put cursor).get? cursor_id = some existing
    rw [KeyedDict.get?_put]
    split_ifs with hid
    · subst hid
      rw [(hreplaces existing hexisting).of_invalidated hstatus]
    · exact hexisting

theorem run_within (hwithin : CursorsWithin timelines builder)
    (operations : List CursorOperation) :
    CursorsWithin timelines (run after builder operations) :=
  @run_keeps _ _ after (CursorsWithin timelines) (fun _ operation h => after_within h operation)
    builder hwithin operations

theorem run_invalidated (hwithin : CursorsWithin timelines builder)
    (operations : List CursorOperation) {cursor_id : String} {existing : ReplayTimelineCursor}
    (hexisting : builder.cursor? cursor_id = some existing)
    (hstatus : existing.status = .INVALIDATED) :
    (run after builder operations).cursor? cursor_id = some existing := by
  induction operations generalizing builder with
  | nil => exact hexisting
  | cons operation operations ih =>
    rw [run_cons]
    exact ih (after_within hwithin operation)
      (after_invalidated hwithin operation hexisting hstatus)

/-- A builder whose cursor store is new. -/
def fresh (timelines : InMemoryReplayTimelineStore) : LocalReplayTimelineCursors where
  timeline_store := timelines
  cursor_store := some KeyedDict.empty

theorem fresh_within (timelines : InMemoryReplayTimelineStore) :
    CursorsWithin timelines (fresh timelines) where
  timelines_eq := rfl
  within _ _ hcursor := by cases hcursor

end LocalReplayTimelineCursors

open LocalReplayTimelineCursors in
/-- In a run of accepted saves no stored index goes back exactly when no save lowers it together
with a change of the status. The operations of the builder keep every cursor within its timeline,
a completed one at its end, and an invalidated one as it is. -/
theorem cursor_runs (saves : List ReplayTimelineCursor)
    (haccepted : Accepted KeyedDict.empty saves) (timelines : InMemoryReplayTimelineStore)
    (operations : List CursorOperation) :
    (NeverDecreases KeyedDict.empty saves ↔
      Meets InMemoryReplayTimelineCursorStore.after KeepsIndex KeyedDict.empty saves) ∧
    (∀ cursor_id, ∀ cursor ∈ (run after (fresh timelines) operations).cursor? cursor_id,
      WithinTimeline timelines cursor) ∧
    ∀ earlier later, earlier ++ later <+: operations → ∀ cursor_id,
      ∀ cursor ∈ (run after (fresh timelines) earlier).cursor? cursor_id,
        cursor.status = .INVALIDATED →
          (run after (fresh timelines) (earlier ++ later)).cursor? cursor_id = some cursor := by
  refine ⟨neverDecreases_iff haccepted, ?_, ?_⟩
  · exact (run_within (fresh_within timelines) operations).within
  · intro earlier later _ cursor_id cursor hcursor hstatus
    rw [run_append]
    exact run_invalidated (run_within (fresh_within timelines) earlier) later hcursor hstatus

/-! A cursor that is advanced to 5 and completed at 1. -/

def cursorAt (status : ReplayTimelineCursorStatus) (next_order_index : ℕ)
    (completed_at : Option DateTime)
    (h : (status = .COMPLETED → completed_at = some sampleTime) ∧
      (status ≠ .COMPLETED → completed_at = none)) : ReplayTimelineCursor where
  cursor_id := ⟨"cursor-1", by decide⟩
  timeline_id := ⟨"timeline-1", .checked evaluates⟩
  replay_plan_id := ⟨"plan-1", .checked evaluates⟩
  status
  next_order_index := next_order_index
  updated_at := sampleTime
  completed_at
  notes := none
  valid := by
    simp only [CursorFields.validateCursor, checkAll_require, checkAll_nil, and_true]
    refine ⟨Int.natCast_nonneg _, fun hstatus hnone => ?_, h.2, fun t ht => ?_⟩
    · rw [h.1 hstatus] at hnone
      cases hnone
    · by_cases hstatus : status = .COMPLETED
      · rw [h.1 hstatus] at ht
        rw [← Option.some.inj ht]
      · rw [h.2 hstatus] at ht
        cases ht

def advancedAtFive : ReplayTimelineCursor := cursorAt .ADVANCED 5 none (by decide)

def completedAtOne : ReplayTimelineCursor := cursorAt .COMPLETED 1 (some sampleTime) (by decide)

def completedAtNine : ReplayTimelineCursor := cursorAt .COMPLETED 9 (some sampleTime) (by decide)

theorem cursors_accepted :
    Accepted KeyedDict.empty [advancedAtFive, completedAtNine] := by
  simp only [Accepted, Meets, and_true]
  exact ⟨⟨_, rfl⟩, ⟨_, rfl⟩⟩

/-- An advanced cursor that is completed further on does not go back. -/
theorem completed_forward :
    NeverDecreases KeyedDict.empty [advancedAtFive, completedAtNine] := by
  apply (cursor_runs [advancedAtFive, completedAtNine] cursors_accepted KeyedDict.empty []).1.mpr
  simp only [Meets, and_true]
  refine ⟨fun existing hexisting => absurd hexisting (by simp), fun existing hexisting _ => ?_⟩
  obtain rfl : advancedAtFive = existing := Option.some.inj hexisting
  decide

/-- The store accepts the completion of a cursor behind the index it was advanced to. -/
theorem completed_behind :
    ¬ ∀ saves, Accepted KeyedDict.empty saves → NeverDecreases KeyedDict.empty saves := by
  intro h
  have haccepted : Accepted KeyedDict.empty [advancedAtFive, completedAtOne] := by
    simp only [Accepted, Meets, and_true]
    exact ⟨⟨_, rfl⟩, ⟨_, rfl⟩⟩
  obtain ⟨cursor, hcursor, hle⟩ := h _ haccepted [advancedAtFive] [completedAtOne]
    (List.prefix_refl _) "cursor-1" advancedAtFive rfl
  obtain rfl : completedAtOne = cursor := Option.some.inj hcursor
  exact absurd hle (by decide)

end FuturesBot.Replay
