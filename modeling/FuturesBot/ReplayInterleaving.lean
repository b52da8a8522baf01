import FuturesBot.ReplayStepSizes

/-! Calls of `step_run` on one run, interleaved at every step: loading the state, dispatching the
events, the check before the writes, each save, and the replacement of the state. -/
namespace FuturesBot.Replay

open DateTimes Dicts KeySorting Checks StepRuns LocalDeterministicReplayRuntime

/-- Where a call stands, with what it has saved. -/
inductive StepPhase (env : Env) where
  | idle
  | loaded (state : ReplayRunState) (handlers : ReplayHandlers) (max_events : ℕ)
    (now : Option DateTime)
  | dispatched (writes : StepWrites env)
  | savingOutputs (writes : StepWrites env) (saved rest : List (ReplayEventOutputRecord env))
  | savingReceipts (writes : StepWrites env) (saved rest : List (ReplayEventDispatchReceipt env))
  | returned (writes : StepWrites env)
  | raised (error : ReplayError) (outputs : List (ReplayEventOutputRecord env))
    (receipts : List (ReplayEventDispatchReceipt env))

namespace StepPhase

variable {env : Env} (runtime : LocalDeterministicReplayRuntime env)

def load (stores : ReplayStores env) (run_id : String) (handlers : ReplayHandlers)
    (max_events : ℤ) (now : Option DateTime) : StepPhase env :=
  if max_events ≤ 0 then .raised (.check "max_events must be > 0") [] []
  else match loadState stores run_id with
    | .error e => .raised e [] []
    | .ok state => .loaded state handlers max_events.toNat now

/-- The next step of a call that has loaded the state. -/
def advance (stores : ReplayStores env) : StepPhase env → ReplayStores env × StepPhase env
  | .loaded state handlers max_events now =>
    match runtime.prepareStep handlers state max_events now with
    | .error e => (stores, .raised e [] [])
    | .ok writes => (stores, .dispatched writes)
  | .dispatched writes =>
    match checkAll (preflight stores writes) with
    | .error e => (stores, .raised e [] [])
    | .ok () => (stores, .savingOutputs writes [] writes.output_records)
  | .savingOutputs writes saved (record :: rest) =>
    match InMemoryReplayEventOutputRecordStore.save stores.output_store record with
    | .error e => (stores, .raised e saved [])
    | .ok output_store =>
      ({ stores with output_store }, .savingOutputs writes (saved ++ [record]) rest)
  | .savingOutputs writes _ [] => (stores, .savingReceipts writes [] writes.receipts)
  | .savingReceipts writes saved (receipt :: rest) =>
    match InMemoryReplayEventDispatchReceiptStore.save stores.receipt_store receipt with
    | .error e => (stores, .raised e writes.output_records saved)
    | .ok receipt_store =>
      ({ stores with receipt_store }, .savingReceipts writes (saved ++ [receipt]) rest)
  | .savingReceipts writes saved [] =>
    match InMemoryReplayRunStateStore.replace stores.run_store writes.replacement
      writes.expected_revision with
    | .error e => (stores, .raised e writes.output_records saved)
    | .ok run_store => ({ stores with run_store }, .returned writes)
  | phase => (stores, phase)

variable {runtime}

/-- The outputs that the call has saved. -/
def savedOutputs : StepPhase env → List (ReplayEventOutputRecord env)
  | .savingOutputs _ saved _ => saved
  | .savingReceipts writes _ _ => writes.output_records
  | .returned writes => writes.output_records
  | .raised _ outputs _ => outputs
  | _ => []

/-- The receipts that the call has saved. -/
def savedReceipts : StepPhase env → List (ReplayEventDispatchReceipt env)
  | .savingReceipts _ saved _ => saved
  | .returned writes => writes.receipts
  | .raised _ _ receipts => receipts
  | _ => []

/-- The receipts that the call has saved without replacing the state. -/
def unreplaced : StepPhase env → List (ReplayEventDispatchReceipt env)
  | .savingReceipts _ saved _ => saved
  | .raised _ _ receipts => receipts
  | _ => []

/-- A step at which a call raises changes no store. -/
theorem advance_raised {stores : ReplayStores env} {phase : StepPhase env} {e : ReplayError}
    {outputs : List (ReplayEventOutputRecord env)}
    {receipts : List (ReplayEventDispatchReceipt env)}
    (h : (phase.advance runtime stores).2 = .raised e outputs receipts) :
    (phase.advance runtime stores).1 = stores := by
  cases phase with
  | idle => rfl
  | loaded state handlers max_events now =>
    rw [advance]
    split
    · rfl
    · rfl
  | dispatched writes =>
    rw [advance]
    split
    · rfl
    · rfl
  | savingOutputs writes saved rest =>
    cases rest with
    | nil => rfl
    | cons record rest =>
      rw [advance] at h ⊢
      split at h
      · rfl
      · exact absurd h (by simp)
  | savingReceipts writes saved rest =>
    cases rest with
    | nil =>
      rw [advance] at h ⊢
      split at h
      · rfl
      · exact absurd h (by simp)
    | cons receipt rest =>
      rw [advance] at h ⊢
      split at h
      · rfl
      · exact absurd h (by simp)
  | returned writes => rfl
  | raised e outputs receipts => rfl

variable (runtime) in
/-- The state store changes at the replacement only, and the call then returns. -/
theorem advance_run_store (stores : ReplayStores env) (phase : StepPhase env) :
    (phase.advance runtime stores).1.run_store = stores.run_store ∨
      ∃ writes saved, phase = .savingReceipts writes saved [] ∧
        (phase.advance runtime stores).2 = .returned writes ∧
        (phase.advance runtime stores).1.run_store =
          stores.run_store.put writes.replacement := by
  cases phase with
  | idle => exact .inl rfl
  | loaded state handlers max_events now =>
    rw [advance]
    split
    · exact .inl rfl
    · exact .inl rfl
  | dispatched writes =>
    rw [advance]
    split
    · exact .inl rfl
    · exact .inl rfl
  | savingOutputs writes saved rest =>
    cases rest with
    | nil => exact .inl rfl
    | cons record rest =>
      rw [advance]
      split
      · exact .inl rfl
      · exact .inl rfl
  | savingReceipts writes saved rest =>
    cases rest with
    | nil =>
      rw [advance]
      split
      · exact .inl rfl
      · rename_i run_store hreplace
        obtain ⟨existing, -, -, -, rfl⟩ := InMemoryReplayRunStateStore.replace_ok.mp hreplace
        exact .inr ⟨writes, saved, rfl, rfl, rfl⟩
    | cons receipt rest =>
      rw [advance]
      split
      · exact .inl rfl
      · exact .inl rfl
  | returned writes => exact .inl rfl
  | raised e outputs receipts => exact .inl rfl

end StepPhase

/-! Several calls. -/

structure StepWorld (ι : Type) (env : Env) where
  stores : ReplayStores env
  calls : ι → StepPhase env

inductive StepAction (ι : Type) where
  | load (i : ι) (handlers : ReplayHandlers) (max_events : ℤ) (now : Option DateTime)
  | advance (i : ι)

section Calls

variable {ι : Type} [DecidableEq ι] {env : Env} (runtime : LocalDeterministicReplayRuntime env)
  (run_id : String)

/-- A step of one call. A call begins once. -/
def interleave (w : StepWorld ι env) : StepAction ι → StepWorld ι env
  | .load i handlers max_events now =>
    match w.calls i with
    | .idle => { w with
        calls := Function.update w.calls i
          (StepPhase.load w.stores run_id handlers max_events now) }
    | _ => w
  | .advance i =>
    let (stores, phase) := (w.calls i).advance runtime w.stores
    ⟨stores, Function.update w.calls i phase⟩

def StepWorld.start (ι : Type) (stores : ReplayStores env) : StepWorld ι env :=
  ⟨stores, fun _ => .idle⟩

/-! A call by itself. -/

/-- How a call has ended: as `step_run` ends. -/
def EndsAs (phase : StepPhase env) (outcome : Except ReplayError (ReplayRunStepResult env)) :
    Prop :=
  match phase with
  | .returned writes => outcome = .ok writes.result
  | .raised e _ _ => outcome = .error e
  | _ => False

variable {runtime run_id}

/-- Steps of one call. -/
inductive Ends (runtime : LocalDeterministicReplayRuntime env) :
    ReplayStores env → StepPhase env → ReplayStores env → StepPhase env → Prop where
  | refl (stores phase) : Ends runtime stores phase stores phase
  | step {stores phase stores' phase'}
    (h : Ends runtime (phase.advance runtime stores).1 (phase.advance runtime stores).2 stores'
      phase') : Ends runtime stores phase stores' phase'

/-- What `step_run` does from the saves of its receipts on. -/
def writeReceipts (stores : ReplayStores env) (writes : StepWrites env)
    (receipts : List (ReplayEventDispatchReceipt env)) :
    ReplayStores env × Except ReplayError (ReplayRunStepResult env) :=
  match saveReceipts stores receipts with
  | (stores, .error e) => (stores, .error e)
  | (stores, .ok ()) =>
    match InMemoryReplayRunStateStore.replace stores.run_store writes.replacement
      writes.expected_revision with
    | .error e => (stores, .error e)
    | .ok run_store => ({ stores with run_store }, .ok writes.result)

/-- What `step_run` does from the saves of its outputs on. -/
def writeOutputs (stores : ReplayStores env) (writes : StepWrites env)
    (records : List (ReplayEventOutputRecord env)) :
    ReplayStores env × Except ReplayError (ReplayRunStepResult env) :=
  match saveOutputs stores records with
  | (stores, .error e) => (stores, .error e)
  | (stores, .ok ()) => writeReceipts stores writes writes.receipts

theorem ends_receipts (stores : ReplayStores env) (writes : StepWrites env)
    (saved rest : List (ReplayEventDispatchReceipt env)) :
    ∃ phase, Ends runtime stores (.savingReceipts writes saved rest)
        (writeReceipts stores writes rest).1 phase ∧
      EndsAs phase (writeReceipts stores writes rest).2 := by
  induction rest generalizing stores saved with
  | nil =>
    refine ⟨(StepPhase.advance runtime stores (.savingReceipts writes saved [])).2, ?_, ?_⟩
    · apply Ends.step
      rw [writeReceipts, saveReceipts, StepPhase.advance]
      dsimp only
      split
      · exact Ends.refl _ _
      · exact Ends.refl _ _
    · rw [writeReceipts, saveReceipts, StepPhase.advance]
      dsimp only
      split
      · rfl
      · rfl
  | cons receipt rest ih =>
    rw [writeReceipts, saveReceipts]
    cases hsave : InMemoryReplayEventDispatchReceiptStore.save stores.receipt_store receipt with
    | error e =>
      refine ⟨.raised e writes.output_records saved, ?_, rfl⟩
      apply Ends.step
      rw [StepPhase.advance, hsave]
      exact Ends.refl _ _
    | ok receipt_store =>
      obtain ⟨phase, hends, has⟩ := ih { stores with receipt_store } (saved ++ [receipt])
      refine ⟨phase, ?_, has⟩
      apply Ends.step
      rw [StepPhase.advance, hsave]
      exact hends

theorem ends_outputs (stores : ReplayStores env) (writes : StepWrites env)
    (saved rest : List (ReplayEventOutputRecord env)) :
    ∃ phase, Ends runtime stores (.savingOutputs writes saved rest)
        (writeOutputs stores writes rest).1 phase ∧
      EndsAs phase (writeOutputs stores writes rest).2 := by
  induction rest generalizing stores saved with
  | nil =>
    obtain ⟨phase, hends, has⟩ := ends_receipts stores writes [] writes.receipts
    exact ⟨phase, hends.step, has⟩
  | cons record rest ih =>
    rw [writeOutputs, saveOutputs]
    cases hsave : InMemoryReplayEventOutputRecordStore.save stores.output_store record with
    | error e =>
      refine ⟨.raised e saved [], ?_, rfl⟩
      apply Ends.step
      rw [StepPhase.advance, hsave]
      exact Ends.refl _ _
    | ok output_store =>
      obtain ⟨phase, hends, has⟩ := ih { stores with output_store } (saved ++ [record])
      refine ⟨phase, ?_, has⟩
      apply Ends.step
      rw [StepPhase.advance, hsave]
      exact hends

/-- A call that no other comes between does what `step_run` does. -/
theorem stepRun_ends (stores : ReplayStores env) (run_id : String) (handlers : ReplayHandlers)
    (max_events : ℤ) (now : Option DateTime) :
    ∃ phase, Ends runtime stores (StepPhase.load stores run_id handlers max_events now)
        (runtime.stepRun handlers stores run_id max_events now).1 phase ∧
      EndsAs phase (runtime.stepRun handlers stores run_id max_events now).2 := by
  rw [stepRun, StepPhase.load]
  by_cases hmax : max_events ≤ 0
  · rw [if_pos hmax, if_pos hmax]
    exact ⟨_, Ends.refl _ _, rfl⟩
  · rw [if_neg hmax, if_neg hmax]
    cases hload : loadState stores run_id with
    | error e => exact ⟨_, Ends.refl _ _, rfl⟩
    | ok state =>
      dsimp only
      cases hprepare : runtime.prepareStep handlers state max_events.toNat now with
      | error e =>
        refine ⟨.raised e [] [], ?_, rfl⟩
        apply Ends.step
        rw [StepPhase.advance, hprepare]
        exact Ends.refl _ _
      | ok writes =>
        dsimp only
        rw [writeStep]
        cases hchecks : checkAll (preflight stores writes) with
        | error e =>
          refine ⟨.raised e [] [], ?_, rfl⟩
          apply Ends.step
          rw [StepPhase.advance, hprepare]
          apply Ends.step
          dsimp only
          rw [StepPhase.advance, hchecks]
          exact Ends.refl _ _
        | ok u =>
          obtain ⟨phase, hends, has⟩ := ends_outputs stores writes [] writes.output_records
          refine ⟨phase, ?_, has⟩
          apply Ends.step
          rw [StepPhase.advance, hprepare]
          apply Ends.step
          dsimp only
          rw [StepPhase.advance, hchecks]
          exact hends

/-! What the interleaved calls keep. -/

/-- A state of the run that a call has loaded, seen from the one that is stored now. -/
structure LoadedState (runtime : LocalDeterministicReplayRuntime env) (origin : ReplayRunFields)
    (timeline : ReplayTimeline) (current loaded : ReplayRunState) (m : ℕ) : Prop where
  same : SameRun origin loaded.toReplayRunFields
  bound : BoundTo runtime loaded.toReplayRunFields timeline
  next_le : loaded.next_event_index ≤ m
  revision_le : loaded.revision ≤ current.revision
  current : loaded.revision = current.revision → loaded = current

/-- The writes of a call: of a state that it has loaded. -/
def WritesOf (runtime : LocalDeterministicReplayRuntime env) (origin : ReplayRunFields)
    (timeline : ReplayTimeline) (current loaded : ReplayRunState) (m : ℕ)
    (writes : StepWrites env) : Prop :=
  LoadedState runtime origin timeline current loaded m ∧
    ∃ handlers n ds, Prepared runtime handlers loaded n timeline ds writes

/-- What holds of a call: its receipts are among the first `m` of the run, once saved. -/
def PhaseHolds (runtime : LocalDeterministicReplayRuntime env) (origin : ReplayRunFields)
    (timeline : ReplayTimeline) (current : ReplayRunState) (m : ℕ) : StepPhase env → Prop
  | .loaded state _ _ _ => LoadedState runtime origin timeline current state m
  | .dispatched writes => ∃ state, WritesOf runtime origin timeline current state m writes
  | .savingOutputs writes saved rest =>
    (∃ state, WritesOf runtime origin timeline current state m writes) ∧
      saved ++ rest = writes.output_records
  | .savingReceipts writes saved rest =>
    ∃ state, WritesOf runtime origin timeline current state m writes ∧
      saved ++ rest = writes.receipts ∧ state.next_event_index + saved.length ≤ m
  | _ => True

structure WorldHolds (runtime : LocalDeterministicReplayRuntime env) (run_id : String)
    (origin : ReplayRunFields) (timeline : ReplayTimeline) (stores₀ : ReplayStores env)
    (w : StepWorld ι env) (current : ReplayRunState) (m : ℕ) : Prop where
  stored : w.stores.run_store.get? run_id = some current
  same : SameRun origin current.toReplayRunFields
  bound : BoundTo runtime current.toReplayRunFields timeline
  next_le : current.next_event_index ≤ m
  covers : Covers w.stores.receipt_store origin timeline m
  calls : ∀ i, PhaseHolds runtime origin timeline current m (w.calls i)
  unreplaced : ∀ r ∈ w.stores.receipt_store.values, r.context.run_id = origin.run_id →
    current.next_event_index ≤ r.context.event_order_index → ∃ i, r ∈ (w.calls i).unreplaced
  receipts : ∀ r ∈ w.stores.receipt_store.values, r ∈ stores₀.receipt_store.values ∨
    ∃ i, r ∈ (w.calls i).savedReceipts
  outputs : ∀ r ∈ w.stores.output_store.values, r ∈ stores₀.output_store.values ∨
    ∃ i, r ∈ (w.calls i).savedOutputs

variable {origin : ReplayRunFields} {timeline : ReplayTimeline} {stores₀ : ReplayStores env}
  {w : StepWorld ι env} {current : ReplayRunState} {m : ℕ}

theorem LoadedState.mono {loaded : ReplayRunState} {m' : ℕ}
    (h : LoadedState runtime origin timeline current loaded m) (hm : m ≤ m') :
    LoadedState runtime origin timeline current loaded m' :=
  ⟨h.same, h.bound, h.next_le.trans hm, h.revision_le, h.current⟩

/-- A later state of the run has a revision that no call has loaded. -/
theorem LoadedState.replaced {loaded later : ReplayRunState}
    (h : LoadedState runtime origin timeline current loaded m)
    (hlater : later.revision = current.revision + 1) :
    LoadedState runtime origin timeline later loaded m := by
  have hle := h.revision_le
  exact ⟨h.same, h.bound, h.next_le, by omega, fun heq => by omega⟩

theorem PhaseHolds.map {current' : ReplayRunState} {m' : ℕ}
    (hloaded : ∀ loaded, LoadedState runtime origin timeline current loaded m →
      LoadedState runtime origin timeline current' loaded m') (hm : m ≤ m')
    {phase : StepPhase env} (h : PhaseHolds runtime origin timeline current m phase) :
    PhaseHolds runtime origin timeline current' m' phase := by
  cases phase with
  | idle => trivial
  | loaded state handlers max_events now => exact hloaded state h
  | dispatched writes =>
    obtain ⟨state, hstate, hprepared⟩ := h
    exact ⟨state, hloaded state hstate, hprepared⟩
  | savingOutputs writes saved rest =>
    obtain ⟨⟨state, hstate, hprepared⟩, hsaved⟩ := h
    exact ⟨⟨state, hloaded state hstate, hprepared⟩, hsaved⟩
  | savingReceipts writes saved rest =>
    obtain ⟨state, ⟨hstate, hprepared⟩, hsaved, hle⟩ := h
    exact ⟨state, ⟨hloaded state hstate, hprepared⟩, hsaved, hle.trans hm⟩
  | returned writes => trivial
  | raised e outputs receipts => trivial

/-- A step of a call that leaves the state store as it is. -/
theorem WorldHolds.move (h : WorldHolds runtime run_id origin timeline stores₀ w current m)
    {i : ι} {stores : ReplayStores env} {phase : StepPhase env} {m' : ℕ} (hm : m ≤ m')
    (hrun : stores.run_store = w.stores.run_store)
    (hcovers : Covers stores.receipt_store origin timeline m')
    (hphase : PhaseHolds runtime origin timeline current m' phase)
    (hunreplaced : ∀ r ∈ (w.calls i).unreplaced, r ∈ phase.unreplaced)
    (hsavedReceipts : ∀ r ∈ (w.calls i).savedReceipts, r ∈ phase.savedReceipts)
    (hsavedOutputs : ∀ r ∈ (w.calls i).savedOutputs, r ∈ phase.savedOutputs)
    (hreceipts : ∀ r ∈ stores.receipt_store.values, r ∈ w.stores.receipt_store.values ∨
      r ∈ phase.unreplaced ∧ r ∈ phase.savedReceipts)
    (houtputs : ∀ r ∈ stores.output_store.values, r ∈ w.stores.output_store.values ∨
      r ∈ phase.savedOutputs) :
    WorldHolds runtime run_id origin timeline stores₀
      ⟨stores, Function.update w.calls i phase⟩ current m' := by
  -- what some call had saved, some call has saved after the step
  have hkept : ∀ {α : Type} {f : StepPhase env → List α} {r : α},
      (∀ r ∈ f (w.calls i), r ∈ f phase) → (∃ j, r ∈ f (w.calls j)) →
        ∃ j, r ∈ f (Function.update w.calls i phase j) := by
    rintro α f r hf ⟨j, hj⟩
    by_cases hji : j = i
    · subst hji
      exact ⟨j, by rw [Function.update_self]; exact hf r hj⟩
    · exact ⟨j, by rw [Function.update_of_ne hji]; exact hj⟩
  have hown : ∀ {α : Type} {f : StepPhase env → List α} {r : α}, r ∈ f phase →
      ∃ j, r ∈ f (Function.update w.calls i phase j) := by
    intro α f r hr
    exact ⟨i, by rw [Function.update_self]; exact hr⟩
  refine ⟨?_, h.same, h.bound, h.next_le.trans hm, hcovers, fun j => ?_, fun r hr hr' hle => ?_,
    fun r hr => ?_, fun r hr => ?_⟩
  · rw [hrun]
    exact h.stored
  · change PhaseHolds runtime origin timeline current m' (Function.update w.calls i phase j)
    by_cases hji : j = i
    · subst hji
      rw [Function.update_self]
      exact hphase
    · rw [Function.update_of_ne hji]
      exact (h.calls j).map (fun _ hloaded => hloaded.mono hm) hm
  · rcases hreceipts r hr with hold | ⟨hnew, -⟩
    · exact hkept hunreplaced (h.unreplaced r hold hr' hle)
    · exact hown hnew
  · rcases hreceipts r hr with hold | ⟨-, hnew⟩
    · exact (h.receipts r hold).imp id (hkept hsavedReceipts)
    · exact .inr (hown hnew)
  · rcases houtputs r hr with hold | hnew
    · exact (h.outputs r hold).imp id (hkept hsavedOutputs)
    · exact .inr (hown hnew)

/-- A step that saves nothing. -/
theorem WorldHolds.stay (h : WorldHolds runtime run_id origin timeline stores₀ w current m)
    {i : ι} {before after : StepPhase env} (hcall : w.calls i = before)
    (hphase : PhaseHolds runtime origin timeline current m after)
    (hunreplaced : before.unreplaced = after.unreplaced)
    (hreceipts : before.savedReceipts = after.savedReceipts)
    (houtputs : before.savedOutputs = after.savedOutputs) :
    WorldHolds runtime run_id origin timeline stores₀
      ⟨w.stores, Function.update w.calls i after⟩ current m := by
  apply h.move (le_refl m) rfl h.covers hphase
  · rw [hcall, hunreplaced]
    exact fun _ hr => hr
  · rw [hcall, hreceipts]
    exact fun _ hr => hr
  · rw [hcall, houtputs]
    exact fun _ hr => hr
  · exact fun _ hr => .inl hr
  · exact fun _ hr => .inl hr

theorem WorldHolds.load (h : WorldHolds runtime run_id origin timeline stores₀ w current m)
    {i : ι} (hidle : w.calls i = .idle) (handlers : ReplayHandlers) (max_events : ℤ)
    (now : Option DateTime) :
    WorldHolds runtime run_id origin timeline stores₀ { w with
      calls := Function.update w.calls i
        (StepPhase.load w.stores run_id handlers max_events now) } current m := by
  rw [StepPhase.load, loadState, h.stored]
  split
  · exact h.stay hidle trivial rfl rfl rfl
  · exact h.stay hidle ⟨h.same, h.bound, h.next_le, le_refl _, fun _ => rfl⟩ rfl rfl rfl

/-- The save of the next receipt of a call. -/
theorem WorldHolds.saveReceipt
    (h : WorldHolds runtime run_id origin timeline stores₀ w current m) {i : ι}
    {writes : StepWrites env} {saved rest : List (ReplayEventDispatchReceipt env)}
    {receipt : ReplayEventDispatchReceipt env}
    (hcall : w.calls i = .savingReceipts writes saved (receipt :: rest))
    {receipt_store : InMemoryReplayEventDispatchReceiptStore env}
    (hsave : InMemoryReplayEventDispatchReceiptStore.save w.stores.receipt_store receipt =
      .ok receipt_store) :
    ∃ m', WorldHolds runtime run_id origin timeline stores₀
      ⟨{ w.stores with receipt_store },
        Function.update w.calls i (.savingReceipts writes (saved ++ [receipt]) rest)⟩
      current m' := by
  have hphase := h.calls i
  rw [hcall] at hphase
  obtain ⟨state, ⟨hloaded, handlers, n, ds, hprepared⟩, hsaved, hle⟩ := hphase
  rw [InMemoryReplayEventDispatchReceiptStore.save] at hsave
  split at hsave
  · exact absurd hsave (by simp)
  · rename_i store hstore
    obtain rfl := Except.ok.inj hsave
    obtain ⟨haccepts, rfl⟩ := KeyedDict.saveOnce_eq_some.mp hstore
    -- the receipt is that of the event after those whose receipts the call has saved
    have hlength : saved.length < (stepEvents state.toReplayRunFields timeline n).length := by
      have hcount := congrArg List.length hsaved
      rw [List.length_append, List.length_cons, hprepared.count,
        ← stepEvents_length _ hprepared.bound.total] at hcount
      omega
    have hevent : (stepEvents state.toReplayRunFields timeline n)[saved.length]? =
        some (stepEvents state.toReplayRunFields timeline n)[saved.length] :=
      List.getElem?_eq_getElem hlength
    have hcontext : receipt.context = contextOf state.toReplayRunFields
        (stepEvents state.toReplayRunFields timeline n)[saved.length] := by
      have hmap : (writes.receipts.map (·.context))[saved.length]? = some receipt.context := by
        rw [← hsaved, List.map_append, List.getElem?_append_right (by rw [List.length_map]),
          List.length_map, Nat.sub_self]
        rfl
      rw [hprepared.contexts, List.getElem?_map, hevent] at hmap
      exact (Option.some.inj hmap).symm
    have hplace : timeline.events[state.next_event_index + saved.length]? =
        some (stepEvents state.toReplayRunFields timeline n)[saved.length] := by
      rw [← hevent]
      have hlt := hlength
      rw [stepEvents, List.length_take] at hlt
      rw [stepEvents, List.getElem?_take_of_lt (by omega), List.getElem?_drop]
    rw [← hloaded.same.contextOf_eq] at hcontext
    refine ⟨_, h.move (le_max_left m _) rfl (h.covers.put haccepts hplace hcontext hle)
      ⟨state, ⟨hloaded.mono (le_max_left m _), handlers, n, ds, hprepared⟩, ?_, ?_⟩ ?_ ?_ ?_ ?_
      fun _ hr => .inl hr⟩
    · rw [List.append_assoc]
      exact hsaved
    · rw [List.length_append, List.length_singleton]
      exact le_max_right _ _
    · rw [hcall]
      exact fun r hr => List.mem_append_left _ hr
    · rw [hcall]
      exact fun r hr => List.mem_append_left _ hr
    · rw [hcall]
      exact fun r hr => hr
    · intro r hr
      rcases (KeyedDict.mem_values_put_accepted haccepts).mp hr with rfl | hold
      · have hnew : r ∈ saved ++ [r] := List.mem_append_right _ List.mem_cons_self
        exact .inr ⟨hnew, hnew⟩
      · exact .inl hold

/-- The replacement of the state by a call. -/
theorem WorldHolds.replace (h : WorldHolds runtime run_id origin timeline stores₀ w current m)
    {i : ι} {writes : StepWrites env} {saved : List (ReplayEventDispatchReceipt env)}
    (hcall : w.calls i = .savingReceipts writes saved [])
    {run_store : InMemoryReplayRunStateStore}
    (hreplace : InMemoryReplayRunStateStore.replace w.stores.run_store writes.replacement
      writes.expected_revision = .ok run_store) :
    WorldHolds runtime run_id origin timeline stores₀
      ⟨{ w.stores with run_store }, Function.update w.calls i (.returned writes)⟩
      writes.replacement m := by
  have hphase := h.calls i
  rw [hcall] at hphase
  obtain ⟨state, ⟨hloaded, handlers, n, ds, hprepared⟩, hsaved, hle⟩ := hphase
  rw [List.append_nil] at hsaved
  obtain ⟨existing, hget, hrevision, -, rfl⟩ := InMemoryReplayRunStateStore.replace_ok.mp hreplace
  have hkey := KeyedDict.key_of_get? h.stored
  have hid : writes.replacement.run_id.value = run_id := by
    rw [hprepared.run_id, ← hloaded.same.run_id, h.same.run_id]
    exact hkey
  -- the state that the call has loaded is still the one in the store
  rw [hid, h.stored] at hget
  obtain rfl := Option.some.inj hget
  obtain rfl := hloaded.current (hprepared.revision.symm.trans hrevision.symm)
  have hnext := hprepared.next
  have hcount := hprepared.count
  rw [← hsaved] at hcount
  have hlater : writes.replacement.revision = state.revision + 1 := by
    obtain ⟨last_event, t, -, -, hreplacement⟩ := hprepared.replacement
    rw [hreplacement]
    rfl
  have hother : ∀ {α : Type} {f : StepPhase env → List α} {r : α} {j : ι}, j ≠ i →
      r ∈ f (w.calls j) → ∃ j, r ∈ f (Function.update w.calls i (.returned writes) j) :=
    fun hji hr => ⟨_, by rw [Function.update_of_ne hji]; exact hr⟩
  refine ⟨?_, hloaded.same.trans hprepared.same, hprepared.bound_after, by omega, h.covers,
    fun j => ?_, fun r hr hrun hge => ?_, fun r hr => ?_, fun r hr => ?_⟩
  · rw [KeyedDict.get?_put, if_pos hid]
  · change PhaseHolds runtime origin timeline writes.replacement m
      (Function.update w.calls i (.returned writes) j)
    by_cases hji : j = i
    · subst hji
      rw [Function.update_self]
      trivial
    · rw [Function.update_of_ne hji]
      exact (h.calls j).map (fun _ hloaded => hloaded.replaced hlater) (le_refl m)
  · obtain ⟨j, hj⟩ := h.unreplaced r hr hrun (by omega)
    apply hother (f := StepPhase.unreplaced) ?_ hj
    -- the call's own receipts are of events that it has now processed
    rintro rfl
    rw [hcall] at hj
    have hmem : r.context ∈ writes.receipts.map (·.context) := by
      rw [← hsaved]
      exact List.mem_map_of_mem hj
    rw [hprepared.contexts] at hmem
    obtain ⟨e, he, hcontext⟩ := List.mem_map.mp hmem
    have hlt := (mem_stepEvents.mp he).2.2
    have hindex : r.context.event_order_index = e.order_index := by
      rw [← hcontext]
      rfl
    omega
  · refine (h.receipts r hr).imp id ?_
    rintro ⟨j, hj⟩
    by_cases hji : j = i
    · subst hji
      rw [hcall] at hj
      refine ⟨j, ?_⟩
      change r ∈ (Function.update w.calls j (.returned writes) j).savedReceipts
      rw [Function.update_self, StepPhase.savedReceipts, ← hsaved]
      exact hj
    · exact hother (f := StepPhase.savedReceipts) hji hj
  · refine (h.outputs r hr).imp id ?_
    rintro ⟨j, hj⟩
    by_cases hji : j = i
    · subst hji
      rw [hcall] at hj
      refine ⟨j, ?_⟩
      change r ∈ (Function.update w.calls j (.returned writes) j).savedOutputs
      rw [Function.update_self]
      exact hj
    · exact hother (f := StepPhase.savedOutputs) hji hj

theorem WorldHolds.advance (h : WorldHolds runtime run_id origin timeline stores₀ w current m)
    (i : ι) : ∃ current' m',
      WorldHolds runtime run_id origin timeline stores₀
        (interleave runtime run_id w (.advance i)) current' m' := by
  have hphase := h.calls i
  rw [interleave]
  cases hcall : w.calls i with
  | idle => exact ⟨current, m, h.stay hcall trivial rfl rfl rfl⟩
  | returned writes => exact ⟨current, m, h.stay hcall trivial rfl rfl rfl⟩
  | raised e outputs receipts => exact ⟨current, m, h.stay hcall trivial rfl rfl rfl⟩
  | loaded state handlers max_events now =>
    rw [hcall] at hphase
    rw [StepPhase.advance]
    cases hprepare : runtime.prepareStep handlers state max_events now with
    | error e => exact ⟨current, m, h.stay hcall trivial rfl rfl rfl⟩
    | ok writes =>
      obtain ⟨timeline', ds, hprepared, -⟩ := prepareStep_ok hprepare
      have hloaded : LoadedState runtime origin timeline current state m := hphase
      obtain rfl := hloaded.bound.unique hprepared.bound
      exact ⟨current, m, h.stay hcall ⟨state, hloaded, handlers, _, ds, hprepared⟩ rfl rfl rfl⟩
  | dispatched writes =>
    rw [hcall] at hphase
    rw [StepPhase.advance]
    cases checkAll (preflight w.stores writes) with
    | error e => exact ⟨current, m, h.stay hcall trivial rfl rfl rfl⟩
    | ok u => exact ⟨current, m, h.stay hcall ⟨hphase, rfl⟩ rfl rfl rfl⟩
  | savingOutputs writes saved rest =>
    rw [hcall] at hphase
    obtain ⟨hwrites, hsaved⟩ := hphase
    cases rest with
    | nil =>
      obtain ⟨state, hstate⟩ := hwrites
      rw [List.append_nil] at hsaved
      exact ⟨current, m, h.stay hcall ⟨state, hstate, rfl, hstate.1.next_le⟩ rfl rfl hsaved⟩
    | cons record rest =>
      rw [StepPhase.advance]
      cases hsave : InMemoryReplayEventOutputRecordStore.save w.stores.output_store record with
      | error e => exact ⟨current, m, h.stay hcall trivial rfl rfl rfl⟩
      | ok output_store =>
        rw [InMemoryReplayEventOutputRecordStore.save] at hsave
        split at hsave
        · exact absurd hsave (by simp)
        · rename_i store hstore
          obtain rfl := Except.ok.inj hsave
          obtain ⟨haccepts, rfl⟩ := KeyedDict.saveOnce_eq_some.mp hstore
          refine ⟨current, m, h.move (le_refl m) rfl h.covers ⟨hwrites, ?_⟩
            ?_ ?_ ?_ (fun _ hr => .inl hr) ?_⟩
          · rw [List.append_assoc]
            exact hsaved
          · rw [hcall]
            exact fun r hr => hr
          · rw [hcall]
            exact fun r hr => hr
          · rw [hcall]
            exact fun r hr => List.mem_append_left _ hr
          · intro r hr
            rcases (KeyedDict.mem_values_put_accepted haccepts).mp hr with rfl | hold
            · exact .inr (List.mem_append_right _ List.mem_cons_self)
            · exact .inl hold
  | savingReceipts writes saved rest =>
    cases rest with
    | nil =>
      rw [StepPhase.advance]
      cases hreplace : InMemoryReplayRunStateStore.replace w.stores.run_store writes.replacement
          writes.expected_revision with
      | error e => exact ⟨current, m, h.stay hcall trivial rfl rfl rfl⟩
      | ok run_store => exact ⟨writes.replacement, m, h.replace hcall hreplace⟩
    | cons receipt rest =>
      rw [StepPhase.advance]
      cases hsave : InMemoryReplayEventDispatchReceiptStore.save w.stores.receipt_store receipt with
      | error e => exact ⟨current, m, h.stay hcall trivial rfl rfl rfl⟩
      | ok receipt_store =>
        obtain ⟨m', hm'⟩ := h.saveReceipt hcall hsave
        exact ⟨current, m', hm'⟩

/-- The world after any steps of the calls. -/
theorem worldHolds_run (h : WorldHolds runtime run_id origin timeline stores₀ w current m)
    (actions : List (StepAction ι)) : ∃ current' m',
      WorldHolds runtime run_id origin timeline stores₀
        (run (interleave runtime run_id) w actions) current' m' := by
  have hstep : ∀ (w : StepWorld ι env) (a : StepAction ι),
      (∃ c m, WorldHolds runtime run_id origin timeline stores₀ w c m) →
        ∃ c m, WorldHolds runtime run_id origin timeline stores₀ (interleave runtime run_id w a)
          c m := by
    rintro w a ⟨c, m, h⟩
    cases a with
    | advance i => exact h.advance i
    | load i handlers max_events now =>
      rw [interleave.eq_def]
      dsimp only
      split
      · rename_i hidle
        exact ⟨c, m, h.load hidle handlers max_events now⟩
      · exact ⟨c, m, h⟩
  exact run_keeps hstep ⟨current, m, h⟩ actions

omit [DecidableEq ι] in
/-- The world before the calls. -/
theorem WorldHolds.initial {stores : ReplayStores env} {state : ReplayRunState}
    (hget : stores.run_store.get? run_id = some state)
    (h : RunRecords runtime stores state.toReplayRunFields timeline state.next_event_index) :
    WorldHolds runtime run_id state.toReplayRunFields timeline stores (StepWorld.start ι stores)
      state state.next_event_index where
  stored := hget
  same := SameRun.refl _
  bound := h.bound
  next_le := le_refl _
  covers := h.receipts
  calls _ := trivial
  unreplaced r hr hrun hle := by
    -- the receipts of the run are of events before the next one
    obtain ⟨e, he, hcontext⟩ := h.receipts.mem hr hrun
    obtain ⟨j, hj⟩ := List.mem_iff_getElem?.mp he
    have hlt := (List.getElem?_eq_some_iff.mp hj).1
    rw [List.length_take] at hlt
    rw [List.getElem?_take_of_lt (by omega)] at hj
    have hindex : r.context.event_order_index = e.order_index := by
      rw [hcontext]
      rfl
    rw [hindex, timeline.order_index_eq hj] at hle
    omega
  receipts _ hr := .inl hr
  outputs _ hr := .inl hr

/-- What holds of a run whose calls of `step_run` interleave. -/
structure Interleaved (runtime : LocalDeterministicReplayRuntime env) (run_id : String)
    (stores₀ : ReplayStores env) (w : StepWorld ι env) : Prop where
  covered : ∃ state timeline m, w.stores.run_store.get? run_id = some state ∧
    runtime.catalog.timeline_store.get? state.timeline_id.value = some timeline ∧
    state.next_event_index ≤ m ∧
    (InMemoryReplayEventDispatchReceiptStore.listForRun w.stores.receipt_store run_id).map
      (·.context) = (timeline.events.take m).map (contextOf state.toReplayRunFields) ∧
    ∀ r ∈ InMemoryReplayEventDispatchReceiptStore.listForRun w.stores.receipt_store run_id,
      state.next_event_index ≤ r.context.event_order_index → ∃ i, r ∈ (w.calls i).unreplaced
  receipts : ∀ r ∈ w.stores.receipt_store.values, r ∈ stores₀.receipt_store.values ∨
    ∃ i, r ∈ (w.calls i).savedReceipts
  outputs : ∀ r ∈ w.stores.output_store.values, r ∈ stores₀.output_store.values ∨
    ∃ i, r ∈ (w.calls i).savedOutputs
  raises : ∀ action i e outputs receipts,
    (interleave runtime run_id w action).calls i = .raised e outputs receipts →
      w.calls i = .raised e outputs receipts ∨
        (interleave runtime run_id w action).stores = w.stores
  replaces : ∀ action,
    (interleave runtime run_id w action).stores.run_store = w.stores.run_store ∨
      ∃ i writes saved, w.calls i = .savingReceipts writes saved [] ∧
        (interleave runtime run_id w action).calls i = .returned writes ∧
        (interleave runtime run_id w action).stores.run_store =
          w.stores.run_store.put writes.replacement

/-- A step at which a call raises changes no store. -/
theorem interleave_raises {w : StepWorld ι env} {action : StepAction ι} {i : ι} {e : ReplayError}
    {outputs : List (ReplayEventOutputRecord env)}
    {receipts : List (ReplayEventDispatchReceipt env)}
    (h : (interleave runtime run_id w action).calls i = .raised e outputs receipts) :
    w.calls i = .raised e outputs receipts ∨
      (interleave runtime run_id w action).stores = w.stores := by
  cases action with
  | load j handlers max_events now =>
    right
    rw [interleave.eq_def]
    dsimp only
    split
    · rfl
    · rfl
  | advance j =>
    by_cases hij : i = j
    · subst hij
      right
      rw [interleave] at h ⊢
      dsimp only at h
      rw [Function.update_self] at h
      exact StepPhase.advance_raised h
    · left
      rw [interleave] at h
      dsimp only at h
      rwa [Function.update_of_ne hij] at h

/-- The state store changes when a call replaces the state and returns. -/
theorem interleave_replaces (w : StepWorld ι env) (action : StepAction ι) :
    (interleave runtime run_id w action).stores.run_store = w.stores.run_store ∨
      ∃ i writes saved, w.calls i = .savingReceipts writes saved [] ∧
        (interleave runtime run_id w action).calls i = .returned writes ∧
        (interleave runtime run_id w action).stores.run_store =
          w.stores.run_store.put writes.replacement := by
  cases action with
  | load j handlers max_events now =>
    left
    rw [interleave.eq_def]
    dsimp only
    split
    · rfl
    · rfl
  | advance j =>
    rcases StepPhase.advance_run_store runtime w.stores (w.calls j) with
      hsame | ⟨writes, saved, hcall, hreturned, hput⟩
    · exact .inl hsame
    · refine .inr ⟨j, writes, saved, hcall, ?_, hput⟩
      rw [interleave]
      dsimp only
      rw [Function.update_self]
      exact hreturned

theorem WorldHolds.interleaved
    (h : WorldHolds runtime run_id origin timeline stores₀ w current m) :
    Interleaved runtime run_id stores₀ w where
  covered := by
    have hkey := KeyedDict.key_of_get? h.stored
    have hlist := h.covers.listForRun
    have hid : origin.run_id.value = run_id := by
      rw [h.same.run_id]
      exact hkey
    rw [hid] at hlist
    refine ⟨current, timeline, m, h.stored, h.bound.stored, h.next_le, ?_, fun r hr hle => ?_⟩
    · rw [← h.same.contextOf_eq]
      exact hlist
    · rw [InMemoryReplayEventDispatchReceiptStore.listForRun, mem_sortBy, List.mem_filter,
        decide_eq_true_eq] at hr
      exact h.unreplaced r hr.1 (TrimmedText.ext (hr.2.trans hid.symm)) hle
  receipts := h.receipts
  outputs := h.outputs
  raises _ _ _ _ _ := interleave_raises
  replaces := interleave_replaces w

end Calls

/-! Two calls on the run of two events. -/

def sampleLoad (i : Bool) (max_events : ℤ) : StepAction Bool :=
  .load i (fun _ _ _ => .raised) max_events (some sampleTime)

/-- The first call loads the run, the second processes its first event, and the first goes on. -/
def staleActions : List (StepAction Bool) :=
  [sampleLoad false 2, sampleLoad true 1] ++ List.replicate 5 (.advance true) ++
    List.replicate 6 (.advance false)

end FuturesBot.Replay
