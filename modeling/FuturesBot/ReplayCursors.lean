import FuturesBot.ReplayTimelines
import FuturesBot.StepRuns

/-! Cursors over replay timelines: the store that keeps them, and the operations of the timeline
builder that create, advance, complete and invalidate them. -/
namespace FuturesBot.Replay

open TextLines DateTimes Dicts Checks

inductive ReplayTimelineCursorStatus where
  | CREATED
  | ADVANCED
  | COMPLETED
  | INVALIDATED
  deriving DecidableEq, Repr

/-- Why a cursor operation is refused. A failed check of a model carries its message. -/
inductive CursorError where
  | check (message : String)
  | timelineNotFound (timeline_id : String)
  | cursorNotFound (cursor_id : String)
  | transition (previous current : ReplayTimelineCursorStatus)
  deriving DecidableEq

structure CursorFields where
  cursor_id : TrimmedText
  timeline_id : TrimmedText
  replay_plan_id : TrimmedText
  status : ReplayTimelineCursorStatus
  next_order_index : ℤ
  updated_at : DateTime
  completed_at : Option DateTime
  notes : Option TrimmedText
  deriving DecidableEq

def CursorFields.validateCursor (c : CursorFields) : List (Check CursorError) :=
  [require (0 ≤ c.next_order_index) (.check "next_order_index must be >= 0"),
    require (c.status = .COMPLETED → c.completed_at ≠ none)
      (.check "completed_at is required when status is COMPLETED"),
    require (c.status ≠ .COMPLETED → c.completed_at = none)
      (.check "completed_at must be None for non-COMPLETED status"),
    require (∀ t ∈ c.completed_at, c.updated_at ≤ t)
      (.check "completed_at must be >= updated_at")]

structure ReplayTimelineCursor extends CursorFields where
  valid : checkAll toCursorFields.validateCursor = .ok ()
  deriving DecidableEq

def ReplayTimelineCursor.of (c : CursorFields) : Except CursorError ReplayTimelineCursor :=
  validated (checkAll c.validateCursor) fun h => ⟨c, h⟩

theorem ReplayTimelineCursor.of_ok {c : CursorFields} {cursor : ReplayTimelineCursor}
    (h : ReplayTimelineCursor.of c = .ok cursor) : cursor.toCursorFields = c := by
  obtain ⟨_, rfl⟩ := validated_eq_ok.mp h
  rfl

theorem ReplayTimelineCursor.next_nonneg (cursor : ReplayTimelineCursor) :
    0 ≤ cursor.next_order_index := by
  have h := cursor.valid
  rw [CursorFields.validateCursor, checkAll_require] at h
  exact h.1

/-! The store. -/

abbrev InMemoryReplayTimelineCursorStore :=
  KeyedDict fun cursor : ReplayTimelineCursor => cursor.cursor_id.value

/-- `_CURSOR_ALLOWED_TRANSITIONS`. -/
def cursorAllowedTransitions : ReplayTimelineCursorStatus → List ReplayTimelineCursorStatus
  | .CREATED => [.ADVANCED, .COMPLETED, .INVALIDATED]
  | .ADVANCED => [.ADVANCED, .COMPLETED, .INVALIDATED]
  | .COMPLETED => [.INVALIDATED]
  | .INVALIDATED => []

/-- The comparison of a cursor with the one stored under its id, once they are of one timeline
and plan and differ. -/
def replaceChecks (existing cursor : ReplayTimelineCursor) : List (Check CursorError) :=
  [require (¬ cursor.updated_at < existing.updated_at)
      (.check "cursor updated_at cannot go backwards"),
    require (existing.status ≠ .INVALIDATED) (.check "INVALIDATED cursor is terminal"),
    require (cursor.status ∈ cursorAllowedTransitions existing.status)
      (.transition existing.status cursor.status),
    require (¬ (existing.status = .ADVANCED ∧ cursor.status = .ADVANCED ∧
        cursor.next_order_index < existing.next_order_index))
      (.check "next_order_index cannot decrease for ADVANCED -> ADVANCED")]

def InMemoryReplayTimelineCursorStore.save (store : InMemoryReplayTimelineCursorStore)
    (cursor : ReplayTimelineCursor) : Except CursorError InMemoryReplayTimelineCursorStore :=
  match store.get? cursor.cursor_id.value with
  | none => .ok (store.put cursor)
  | some existing =>
    match checkAll [
      require (existing.timeline_id = cursor.timeline_id)
        (.check "cursor timeline_id cannot change"),
      require (existing.replay_plan_id = cursor.replay_plan_id)
        (.check "cursor replay_plan_id cannot change")] with
    | .error e => .error e
    | .ok () =>
      if cursor = existing then .ok store
      else match checkAll (replaceChecks existing cursor) with
        | .error e => .error e
        | .ok () => .ok (store.put cursor)

/-! The builder. -/

/-- The timeline builder, with what its cursor operations use. -/
structure LocalReplayTimelineCursors where
  timeline_store : InMemoryReplayTimelineStore
  cursor_store : Option InMemoryReplayTimelineCursorStore

namespace LocalReplayTimelineCursors

variable (builder : LocalReplayTimelineCursors)

/-- The cursor an operation makes is built and saved. -/
def saveCursor (store : InMemoryReplayTimelineCursorStore) (fields : CursorFields) :
    Except CursorError (LocalReplayTimelineCursors × ReplayTimelineCursor) :=
  match ReplayTimelineCursor.of fields with
  | .error e => .error e
  | .ok cursor =>
    match InMemoryReplayTimelineCursorStore.save store cursor with
    | .error e => .error e
    | .ok cursor_store => .ok ({ builder with cursor_store := some cursor_store }, cursor)

def requireCursorStore : Except CursorError InMemoryReplayTimelineCursorStore :=
  match builder.cursor_store with
  | none => .error (.check "cursor_store is required for cursor operations")
  | some store => .ok store

/-- The reading of the clock: a naive one is refused by the model. -/
def requireAware (now : Option DateTime) : Except CursorError DateTime :=
  match now with
  | none => .error (.check "timestamp must be timezone-aware")
  | some t => .ok t

def loadCursor (store : InMemoryReplayTimelineCursorStore) (cursor_id : String) :
    Except CursorError ReplayTimelineCursor :=
  match store.get? cursor_id with
  | none => .error (.cursorNotFound cursor_id)
  | some cursor => .ok cursor

def requireTrimmed (value : String) (message : String) : Except CursorError TrimmedText :=
  match TrimmedText.of value with
  | none => .error (.check message)
  | some value => .ok value

def createCursor (cursor_id timeline_id : String) (now : Option DateTime) :
    Except CursorError (LocalReplayTimelineCursors × ReplayTimelineCursor) := do
  let store ← builder.requireCursorStore
  match builder.timeline_store.get? timeline_id with
  | none => .error (.timelineNotFound timeline_id)
  | some timeline =>
    let cursor_id ← requireTrimmed cursor_id "field must be a non-empty trimmed string"
    let timeline_id ← requireTrimmed timeline_id "field must be a non-empty trimmed string"
    let updated_at ← requireAware now
    builder.saveCursor store {
      cursor_id
      timeline_id
      replay_plan_id := timeline.replay_plan_id
      status := .CREATED
      next_order_index := 0
      updated_at
      completed_at := none
      notes := none }

def advanceCursor (cursor_id : String) (next_order_index : ℤ) (now : Option DateTime) :
    Except CursorError (LocalReplayTimelineCursors × ReplayTimelineCursor) := do
  let store ← builder.requireCursorStore
  let cursor ← loadCursor store cursor_id
  let timeline := builder.timeline_store.get? cursor.timeline_id.value
  match checkAll [
    require (¬ next_order_index < cursor.next_order_index)
      (.check "next_order_index cannot decrease"),
    require (∀ t ∈ timeline, ¬ (t.events.length : ℤ) < next_order_index)
      (CursorError.check "next_order_index cannot exceed timeline event count")] with
  | .error e => .error e
  | .ok () =>
    let updated_at ← requireAware now
    builder.saveCursor store {
      cursor_id := cursor.cursor_id
      timeline_id := cursor.timeline_id
      replay_plan_id := cursor.replay_plan_id
      status := .ADVANCED
      next_order_index
      updated_at
      completed_at := none
      notes := none }

def completeCursor (cursor_id : String) (next_order_index : ℤ) (now : Option DateTime) :
    Except CursorError (LocalReplayTimelineCursors × ReplayTimelineCursor) := do
  let store ← builder.requireCursorStore
  let cursor ← loadCursor store cursor_id
  let timeline := builder.timeline_store.get? cursor.timeline_id.value
  match checkAll [
    require (∀ t ∈ timeline, next_order_index = (t.events.length : ℤ))
      (CursorError.check "next_order_index must equal timeline event count to complete")] with
  | .error e => .error e
  | .ok () =>
    let now_ts ← requireAware now
    builder.saveCursor store {
      cursor_id := cursor.cursor_id
      timeline_id := cursor.timeline_id
      replay_plan_id := cursor.replay_plan_id
      status := .COMPLETED
      next_order_index
      updated_at := now_ts
      completed_at := some now_ts
      notes := none }

def invalidateCursor (cursor_id reason : String) (now : Option DateTime) :
    Except CursorError (LocalReplayTimelineCursors × ReplayTimelineCursor) := do
  let store ← builder.requireCursorStore
  let cursor ← loadCursor store cursor_id
  let updated_at ← requireAware now
  let notes ← requireTrimmed reason "notes must be a non-empty trimmed string"
  builder.saveCursor store {
    cursor_id := cursor.cursor_id
    timeline_id := cursor.timeline_id
    replay_plan_id := cursor.replay_plan_id
    status := .INVALIDATED
    next_order_index := cursor.next_order_index
    updated_at
    completed_at := none
    notes := some notes }

end LocalReplayTimelineCursors

/-! Operations one after the other. -/

inductive CursorOperation where
  | create (cursor_id timeline_id : String) (now : Option DateTime)
  | advance (cursor_id : String) (next_order_index : ℤ) (now : Option DateTime)
  | complete (cursor_id : String) (next_order_index : ℤ) (now : Option DateTime)
  | invalidate (cursor_id reason : String) (now : Option DateTime)

def LocalReplayTimelineCursors.call (builder : LocalReplayTimelineCursors) :
    CursorOperation → Except CursorError (LocalReplayTimelineCursors × ReplayTimelineCursor)
  | .create cursor_id timeline_id now => builder.createCursor cursor_id timeline_id now
  | .advance cursor_id next_order_index now => builder.advanceCursor cursor_id next_order_index now
  | .complete cursor_id next_order_index now =>
    builder.completeCursor cursor_id next_order_index now
  | .invalidate cursor_id reason now => builder.invalidateCursor cursor_id reason now

/-- The builder after a call: a refused one leaves it as it was. -/
def LocalReplayTimelineCursors.after (builder : LocalReplayTimelineCursors)
    (operation : CursorOperation) : LocalReplayTimelineCursors :=
  match builder.call operation with
  | .ok (builder, _) => builder
  | .error _ => builder

/-- The cursor that the builder keeps under an id. -/
def LocalReplayTimelineCursors.cursor? (builder : LocalReplayTimelineCursors)
    (cursor_id : String) : Option ReplayTimelineCursor :=
  builder.cursor_store.bind fun store => store.get? cursor_id

/-! What a save does. -/

section Save

variable {store store' : InMemoryReplayTimelineCursorStore} {cursor : ReplayTimelineCursor}

/-- A save that is accepted puts the cursor, and a cursor stored before is one it may follow. -/
structure Replaces (existing cursor : ReplayTimelineCursor) : Prop where
  timeline_id : existing.timeline_id = cursor.timeline_id
  allowed : cursor = existing ∨ cursor.status ∈ cursorAllowedTransitions existing.status
  forward : existing.status = cursor.status → existing.next_order_index ≤ cursor.next_order_index

theorem save_ok (h : InMemoryReplayTimelineCursorStore.save store cursor = .ok store') :
    store' = store.put cursor ∧
      ∀ existing ∈ store.get? cursor.cursor_id.value, Replaces existing cursor := by
  rw [InMemoryReplayTimelineCursorStore.save] at h
  split at h
  · rename_i hnone
    rw [hnone]
    exact ⟨(Except.ok.inj h).symm, fun _ hmem => absurd hmem (by simp)⟩
  · rename_i existing hexisting
    split at h
    · exact absurd h (by simp)
    · rename_i hids
      simp only [checkAll_require, checkAll_nil, and_true] at hids
      split_ifs at h with hsame
      · -- the same cursor again
        subst hsame
        refine ⟨?_, fun e he => ?_⟩
        · rw [← Except.ok.inj h, KeyedDict.put_of_get? hexisting]
        · obtain rfl := Option.mem_unique he hexisting
          exact ⟨rfl, .inl rfl, fun _ => le_refl _⟩
      · split at h
        · exact absurd h (by simp)
        · rename_i hchecks
          simp only [replaceChecks, checkAll_require, checkAll_nil, and_true] at hchecks
          obtain ⟨-, hlive, hallowed, hforward⟩ := hchecks
          refine ⟨(Except.ok.inj h).symm, fun e he => ?_⟩
          obtain rfl := Option.mem_unique he hexisting
          refine ⟨hids.1, .inr hallowed, fun hstatus => ?_⟩
          by_contra hlt
          have hadvanced : e.status = .ADVANCED := by
            rw [← hstatus] at hallowed
            cases hcase : e.status <;> rw [hcase] at hallowed <;>
              simp [cursorAllowedTransitions] at hallowed
          exact hforward ⟨hadvanced, hstatus ▸ hadvanced, not_le.mp hlt⟩

/-- A cursor that is invalidated is followed by itself alone. -/
theorem Replaces.of_invalidated {existing : ReplayTimelineCursor} (h : Replaces existing cursor)
    (hstatus : existing.status = .INVALIDATED) : cursor = existing := by
  refine h.allowed.resolve_right fun hallowed => ?_
  rw [hstatus, cursorAllowedTransitions] at hallowed
  exact absurd hallowed List.not_mem_nil

end Save

end FuturesBot.Replay
