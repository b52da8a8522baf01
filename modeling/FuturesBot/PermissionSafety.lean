import FuturesBot.OrderPermissions

/-! What the permission for order flow guarantees: when it lets new entries through, and what
a change to a more restrictive runtime does to the order intents it blocks. -/
namespace FuturesBot

open Orders

/-- What must hold of the runtime before new entries are allowed. -/
structure EntriesSafe (i : OrderFlowInputs) : Prop where
  running : i.program_state = .RUNNING ∧ i.stack_state = .RUNNING
  no_kill_switch : ∀ k ∈ i.kill_switches, k.stops i.exposure_state i.stack_runtime_id = false
  no_protection_block : i.exposure_state.requiresEntryBlock = false ∧
    i.exposure_state.requiresManualIntervention = false
  known : KnownAndFresh i.exposure_state i.data_health i.policy

theorem stateReason_running {i : OrderFlowInputs} (hprogram : i.program_state = .RUNNING)
    (hstack : i.stack_state = .RUNNING) (hmode : i.exposure_state.requiresEntryBlock = false) :
    stateReason i = unknownStateReason i.exposure_state i.data_health i.policy := by
  rw [stateReason, hprogram, hstack, if_neg (by decide), if_neg (by decide), if_neg (by decide),
    protectionModeReason_eq_none.mpr hmode]
  rfl

/-- When neither the states nor the protection mode stop the cascade, the unknown and stale
state decides; when they do, the reason is no OK, and it asks for manual intervention only
when the protection mode does. -/
theorem stateReason_cases (i : OrderFlowInputs) :
    (i.program_state = .RUNNING ∧ i.stack_state = .RUNNING ∧
      i.exposure_state.requiresEntryBlock = false ∧
      stateReason i = unknownStateReason i.exposure_state i.data_health i.policy) ∨
    (¬ (i.program_state = .RUNNING ∧ i.stack_state = .RUNNING ∧
        i.exposure_state.requiresEntryBlock = false) ∧
      stateReason i ≠ .OK ∧
      (stateReason i = .MANUAL_INTERVENTION_REQUIRED →
        i.exposure_state.requiresManualIntervention = true)) := by
  by_cases hall : i.program_state = .RUNNING ∧ i.stack_state = .RUNNING ∧
      i.exposure_state.requiresEntryBlock = false
  · obtain ⟨hprogram, hstack, hmode⟩ := hall
    exact .inl ⟨hprogram, hstack, hmode, stateReason_running hprogram hstack hmode⟩
  · refine .inr ⟨hall, ?_⟩
    rw [stateReason]
    split_ifs with hhalted hstackHalted hprogram
    · exact ⟨by decide, fun h => absurd h (by decide)⟩
    · exact ⟨by decide, fun h => absurd h (by decide)⟩
    · exact ⟨by decide, fun h => absurd h (by decide)⟩
    · rw [not_ne_iff] at hprogram
      cases hs : stackStateReason i.stack_state with
      | some reason =>
        obtain ⟨hok, hmanual⟩ := stackStateReason_ne_ok hs
        exact ⟨hok, fun h => absurd h hmanual⟩
      | none =>
        cases hm : protectionModeReason i.exposure_state with
        | some reason =>
          obtain ⟨hok, hmanual⟩ := protectionModeReason_eq_some hm
          exact ⟨hok, hmanual.mp⟩
        | none =>
          -- the states run and the mode blocks nothing
          exact absurd ⟨hprogram, stackStateReason_eq_none.mp hs,
            protectionModeReason_eq_none.mp hm⟩ hall

theorem blockingReason_eq_ok {i : OrderFlowInputs} : blockingReason i = .OK ↔ EntriesSafe i := by
  constructor
  · intro h
    rw [blockingReason] at h
    cases hk : killSwitchReason i.exposure_state i.stack_runtime_id i.kill_switches with
    | some reason =>
      rw [hk] at h
      obtain ⟨k, -, hr⟩ := killSwitchReason_eq_some hk
      exact absurd (hr.symm.trans h) (scopeReason_ne_ok k.scope_kind)
    | none =>
      rw [hk] at h
      change stateReason i = .OK at h
      rcases stateReason_cases i with ⟨hprogram, hstack, hmode, hr⟩ | ⟨-, hne, -⟩
      · rw [hr] at h
        exact ⟨⟨hprogram, hstack⟩, killSwitchReason_eq_none.mp hk,
          ⟨hmode, not_manual_of_no_entry_block hmode⟩, unknownStateReason_eq_ok.mp h⟩
      · exact absurd h hne
  · rintro ⟨⟨hprogram, hstack⟩, hk, ⟨hmode, -⟩, hknown⟩
    rw [blockingReason, killSwitchReason_eq_none.mpr hk]
    exact (stateReason_running hprogram hstack hmode).trans (unknownStateReason_eq_ok.mpr hknown)

theorem allow_new_entries_eq (i : OrderFlowInputs) :
    (evaluateOrderFlowPermission i).allow_new_entries = true ↔ blockingReason i = .OK := by
  rw [evaluateOrderFlowPermission]
  simp only [ne_eq, decide_not, Bool.not_not, decide_eq_true_eq]

/-- New entries are allowed only in a runtime that is safe for them. -/
theorem new_entries_only_when_safe (i : OrderFlowInputs)
    (h : (evaluateOrderFlowPermission i).allow_new_entries = true) : EntriesSafe i :=
  blockingReason_eq_ok.mp ((allow_new_entries_eq i).mp h)

/-! A runtime that runs, with an open position. -/

def openPosition (has_unknown_fills : Bool) : OpenExposureState where
  venue_id := none
  instrument_id := none
  account_id := none
  has_open_position := true
  has_open_entry_orders := false
  has_open_exit_orders := false
  has_unknown_fills
  has_unreconciled_orders := false
  position_ownership := .DECISION_STACK_MANAGED
  protection_mode := .NONE
  not_orphaned := rfl

def runningInputs (has_unknown_fills : Bool) : OrderFlowInputs where
  program_state := .RUNNING
  stack_state := .RUNNING
  exposure_state := openPosition has_unknown_fills
  data_health := ⟨false, false, false, false, false, false, false, none⟩
  kill_switches := []
  policy := ⟨true, true, true, true, true, true, true, 1000, by decide⟩
  stack_runtime_id := none

theorem new_entries_only_when_safe_running : EntriesSafe (runningInputs false) :=
  new_entries_only_when_safe (runningInputs false) (by decide)

/-! Changes to a more restrictive runtime. -/

/-- One more kill switch in the list, at any place, or the program or the stack in another
state. -/
inductive RuntimeChange where
  | addKillSwitch (k : KillSwitchState) (position : ℕ)
  | moveProgram (state : ProgramRuntimeState)
  | moveStack (state : DecisionStackRuntimeState)

namespace RuntimeChange

def apply (i : OrderFlowInputs) : RuntimeChange → OrderFlowInputs
  | addKillSwitch k position =>
    { i with kill_switches := i.kill_switches.take position ++ k :: i.kill_switches.drop position }
  | moveProgram state => { i with program_state := state }
  | moveStack state => { i with stack_state := state }

/-- A move takes the program or the stack out of RUNNING. -/
def Restricts (i : OrderFlowInputs) : RuntimeChange → Prop
  | addKillSwitch _ _ => True
  | moveProgram state => i.program_state = .RUNNING ∧ state ≠ .RUNNING
  | moveStack state => i.stack_state = .RUNNING ∧ state ≠ .RUNNING

/-- The intents that a change must not let through: all of them for a kill switch, ENTRY
intents for a move. -/
def Covers (intent : OrderIntent) : RuntimeChange → Prop
  | addKillSwitch _ _ => True
  | moveProgram _ => intent.intent_kind = .ENTRY
  | moveStack _ => intent.intent_kind = .ENTRY

/-- The change gives the cascade another reason to stop. -/
def TakesEffect (i : OrderFlowInputs) : RuntimeChange → Prop
  | addKillSwitch k _ => k.stops i.exposure_state i.stack_runtime_id = true
  | moveProgram _ => True
  | moveStack _ => True

end RuntimeChange

def intentDecision (intent : OrderIntent) (i : OrderFlowInputs) : OrderIntentPermissionDecision :=
  evaluateOrderIntentPermission intent (evaluateOrderFlowPermission i)

/-- Restricting the runtime lets no blocked intent through and takes back no demand for manual
intervention. -/
structure SafetyMonotone (i : OrderFlowInputs) (change : RuntimeChange) : Prop where
  blocked : ∀ intent, change.Covers intent → (intentDecision intent i).allowed = false →
    (intentDecision intent (change.apply i)).allowed = false
  manual : (evaluateOrderFlowPermission i).manual_intervention_required = true →
    (evaluateOrderFlowPermission (change.apply i)).manual_intervention_required = true
  blocked_for_manual : ∀ intent,
    (intentDecision intent i).reason = .MANUAL_INTERVENTION_REQUIRED →
    (intentDecision intent (change.apply i)).allowed = false

/-- Manual intervention is required for unknown fills or an unknown ledger, not for the
protection mode of the exposure. -/
def ManualForUnknownState (i : OrderFlowInputs) : Prop :=
  (∀ k ∈ i.kill_switches, k.stops i.exposure_state i.stack_runtime_id = false) ∧
  i.program_state = .RUNNING ∧ i.stack_state = .RUNNING ∧
  i.exposure_state.requiresEntryBlock = false ∧
  ((i.exposure_state.has_unknown_fills = true ∧
      i.policy.require_manual_intervention_for_unknown_fills = true) ∨
    (i.exposure_state.has_unknown_fills = false ∧
      i.exposure_state.has_unreconciled_orders = false ∧
      i.data_health.account_state_unknown = false ∧ i.data_health.ledger_state_unknown = true ∧
      i.policy.require_manual_intervention_for_ledger_unknown = true))

theorem blockingReason_eq_manual {i : OrderFlowInputs} :
    (blockingReason i = .MANUAL_INTERVENTION_REQUIRED ∧
      i.exposure_state.requiresManualIntervention = false) ↔ ManualForUnknownState i := by
  constructor
  · rintro ⟨h, hmode⟩
    rw [blockingReason] at h
    cases hk : killSwitchReason i.exposure_state i.stack_runtime_id i.kill_switches with
    | some reason =>
      rw [hk] at h
      obtain ⟨k, -, hr⟩ := killSwitchReason_eq_some hk
      exact absurd (hr.symm.trans h) (scopeReason_ne_manual k.scope_kind)
    | none =>
      rw [hk] at h
      change stateReason i = .MANUAL_INTERVENTION_REQUIRED at h
      rcases stateReason_cases i with ⟨hprogram, hstack, hentry, hr⟩ | ⟨-, -, hmanual⟩
      · rw [hr] at h
        exact ⟨killSwitchReason_eq_none.mp hk, hprogram, hstack, hentry,
          unknownStateReason_eq_manual.mp h⟩
      · exact absurd (hmanual h) (by rw [hmode]; decide)
  · rintro ⟨hk, hprogram, hstack, hentry, hunknown⟩
    refine ⟨?_, not_manual_of_no_entry_block hentry⟩
    rw [blockingReason, killSwitchReason_eq_none.mpr hk]
    exact (stateReason_running hprogram hstack hentry).trans
      (unknownStateReason_eq_manual.mpr hunknown)

theorem manual_required_eq (i : OrderFlowInputs) :
    (evaluateOrderFlowPermission i).manual_intervention_required = true ↔
      blockingReason i = .MANUAL_INTERVENTION_REQUIRED ∨
        i.exposure_state.requiresManualIntervention = true := by
  rw [evaluateOrderFlowPermission]
  simp only [Bool.or_eq_true, decide_eq_true_eq]

/-- The reason for manual intervention, before and after: the exposure asks for it in both
runs, or an unknown state does. -/
theorem manual_required_cases {i : OrderFlowInputs}
    (h : (evaluateOrderFlowPermission i).manual_intervention_required = true) :
    i.exposure_state.requiresManualIntervention = true ∨ ManualForUnknownState i := by
  by_cases hmode : i.exposure_state.requiresManualIntervention = true
  · exact .inl hmode
  · rcases (manual_required_eq i).mp h with hr | hr
    · exact .inr (blockingReason_eq_manual.mp ⟨hr, Bool.eq_false_of_not_eq_true hmode⟩)
    · exact absurd hr hmode

theorem RuntimeChange.exposure_apply (change : RuntimeChange) (i : OrderFlowInputs) :
    (change.apply i).exposure_state = i.exposure_state := by
  cases change <;> rfl

/-- A kill switch that does not apply changes nothing. -/
theorem blockingReason_idle {i : OrderFlowInputs} {k : KillSwitchState} (position : ℕ)
    (h : k.stops i.exposure_state i.stack_runtime_id = false) :
    blockingReason ((RuntimeChange.addKillSwitch k position).apply i) = blockingReason i := by
  have hskip : ∀ ks ks' : List KillSwitchState,
      killSwitchReason i.exposure_state i.stack_runtime_id (ks ++ k :: ks') =
        killSwitchReason i.exposure_state i.stack_runtime_id (ks ++ ks') := by
    intro ks ks'
    induction ks with
    | nil => rw [List.nil_append, killSwitchReason, h, if_neg (by decide), List.nil_append]
    | cons k' ks ih => rw [List.cons_append, List.cons_append, killSwitchReason, killSwitchReason, ih]
  have hreason := hskip (i.kill_switches.take position) (i.kill_switches.drop position)
  rw [List.take_append_drop] at hreason
  simp only [RuntimeChange.apply, blockingReason, hreason]
  rfl

theorem mem_insert (k : KillSwitchState) (ks : List KillSwitchState) (position : ℕ) :
    k ∈ ks.take position ++ k :: ks.drop position :=
  List.mem_append_right _ List.mem_cons_self

theorem mem_insert_of_mem {k' : KillSwitchState} (k : KillSwitchState) {ks : List KillSwitchState}
    (position : ℕ) (h : k' ∈ ks) : k' ∈ ks.take position ++ k :: ks.drop position := by
  rw [← List.take_append_drop position ks] at h
  rcases List.mem_append.mp h with h | h
  · exact List.mem_append_left _ h
  · exact List.mem_append_right _ (List.mem_cons_of_mem _ h)

/-- A change that takes effect puts another reason before the one for an unknown state. -/
theorem manual_masked {i : OrderFlowInputs} {change : RuntimeChange}
    (hrestricts : change.Restricts i) (heffect : change.TakesEffect i) :
    ¬ ManualForUnknownState (change.apply i) := by
  rintro ⟨hk, hprogram, hstack, -⟩
  cases change with
  | addKillSwitch k position =>
    have hstops := hk k (mem_insert k i.kill_switches position)
    exact absurd (hstops.symm.trans heffect) (by decide)
  | moveProgram state => exact hrestricts.2 hprogram
  | moveStack state => exact hrestricts.2 hstack

theorem allow_new_entries_change {i : OrderFlowInputs} {change : RuntimeChange}
    (hrestricts : change.Restricts i)
    (h : (evaluateOrderFlowPermission (change.apply i)).allow_new_entries = true) :
    (evaluateOrderFlowPermission i).allow_new_entries = true ∧
      ∃ k position, change = .addKillSwitch k position := by
  have hsafe := new_entries_only_when_safe _ h
  cases change with
  | addKillSwitch k position =>
    refine ⟨?_, k, position, rfl⟩
    rw [allow_new_entries_eq, blockingReason_eq_ok]
    exact ⟨hsafe.running, fun k' hk' => hsafe.no_kill_switch k' (mem_insert_of_mem k position hk'),
      hsafe.no_protection_block, hsafe.known⟩
  | moveProgram state => exact absurd hsafe.running.1 hrestricts.2
  | moveStack state => exact absurd hsafe.running.2 hrestricts.2

/-- The decision on an intent reads the permission through these flags. -/
theorem intent_blocked_mono {p p' : OrderFlowPermission} (intent : OrderIntent)
    (hentries : p'.allow_new_entries = true → p.allow_new_entries = true)
    (hguardian : p'.guardian_required = p.guardian_required)
    (hexit : p'.allow_exit_orders = p.allow_exit_orders)
    (hreduce : p'.allow_reduce_only_orders = p.allow_reduce_only_orders)
    (hclose : p'.allow_emergency_close = p.allow_emergency_close)
    (hmanual : p.manual_intervention_required = true → p'.manual_intervention_required = true)
    (h : (evaluateOrderIntentPermission intent p').allowed = true) :
    (evaluateOrderIntentPermission intent p).allowed = true := by
  rw [orderIntent_allowed, Bool.and_eq_true, Bool.not_eq_true'] at h ⊢
  obtain ⟨hblocks, hflag⟩ := h
  constructor
  · rw [manualInterventionBlocks, Bool.and_eq_false_iff] at hblocks ⊢
    refine hblocks.imp (fun hm => ?_) id
    cases hp : p.manual_intervention_required with
    | false => rfl
    | true => exact absurd (hm.symm.trans (hmanual hp)) (by decide)
  · cases hkind : intent.intent_kind <;> rw [hkind] at hflag <;>
      simp only [orderIntentAllowedAndReason, Bool.and_eq_true, Bool.or_eq_true, hguardian, hexit,
        hreduce, hclose] at hflag ⊢
    case ENTRY => exact ⟨hentries hflag.1, hflag.2⟩
    all_goals exact hflag

theorem blocked_of_manual {intent : OrderIntent} {p p' : OrderFlowPermission}
    (hreason : (evaluateOrderIntentPermission intent p).reason = .MANUAL_INTERVENTION_REQUIRED)
    (hmanual : p.manual_intervention_required = true → p'.manual_intervention_required = true) :
    (evaluateOrderIntentPermission intent p').allowed = false := by
  -- this reason is given in the first branch only
  have hblocks : manualInterventionBlocks intent.intent_kind p = true := by
    by_contra hno
    rw [evaluateOrderIntentPermission, if_neg hno] at hreason
    dsimp only at hreason
    rw [allowIf_reason] at hreason
    split at hreason
    · exact absurd hreason (by decide)
    · exact allowedAndReason_ne_manual _ _ hreason
  rw [manualInterventionBlocks, Bool.and_eq_true] at hblocks
  rw [orderIntent_allowed, manualInterventionBlocks, hmanual hblocks.1, hblocks.2]
  rfl

/-- A restriction of the runtime is monotone exactly when it does not put its own reason before
a demand for manual intervention that rests on unknown fills or an unknown ledger. -/
theorem safety_monotone_iff (i : OrderFlowInputs) (change : RuntimeChange)
    (hrestricts : change.Restricts i) :
    SafetyMonotone i change ↔ ¬ (ManualForUnknownState i ∧ change.TakesEffect i) := by
  constructor
  · rintro hmono ⟨hunknown, heffect⟩
    have hbefore : (evaluateOrderFlowPermission i).manual_intervention_required = true :=
      (manual_required_eq i).mpr (.inl (blockingReason_eq_manual.mpr hunknown).1)
    rcases manual_required_cases (hmono.manual hbefore) with hmode | hafter
    · rw [change.exposure_apply] at hmode
      have hno := (blockingReason_eq_manual.mpr hunknown).2
      exact absurd (hno.symm.trans hmode) (by decide)
    · exact manual_masked hrestricts heffect hafter
  · intro hno
    have hmanual : (evaluateOrderFlowPermission i).manual_intervention_required = true →
        (evaluateOrderFlowPermission (change.apply i)).manual_intervention_required = true := by
      intro h
      rw [manual_required_eq, change.exposure_apply]
      rcases manual_required_cases h with hmode | hunknown
      · exact .inr hmode
      · -- the change must be a kill switch that does not apply
        have hidle : ¬ change.TakesEffect i := fun heffect => hno ⟨hunknown, heffect⟩
        cases change with
        | addKillSwitch k position =>
          rw [blockingReason_idle position (Bool.eq_false_of_not_eq_true hidle)]
          exact .inl (blockingReason_eq_manual.mpr hunknown).1
        | moveProgram state => exact absurd trivial hidle
        | moveStack state => exact absurd trivial hidle
    refine ⟨fun intent hcovers hblocked => ?_, hmanual,
      fun intent hreason => blocked_of_manual hreason hmanual⟩
    cases change with
    | addKillSwitch k position =>
      -- a kill switch reaches the intent through the reason alone
      apply Bool.eq_false_of_not_eq_true
      intro hafter
      have hbefore := intent_blocked_mono intent
        (fun h => (allow_new_entries_change hrestricts h).1)
        rfl rfl rfl rfl hmanual hafter
      exact absurd (hblocked.symm.trans hbefore) (by decide)
    | moveProgram state =>
      apply Bool.eq_false_of_not_eq_true
      intro hafter
      obtain ⟨-, k, position, hk⟩ :=
        allow_new_entries_change hrestricts ((entry_allowed hcovers _).mp hafter).1
      exact absurd hk (by simp)
    | moveStack state =>
      apply Bool.eq_false_of_not_eq_true
      intro hafter
      obtain ⟨-, k, position, hk⟩ :=
        allow_new_entries_change hrestricts ((entry_allowed hcovers _).mp hafter).1
      exact absurd hk (by simp)

theorem safety_monotone_paused : SafetyMonotone (runningInputs false) (.moveProgram .PAUSED) :=
  (safety_monotone_iff (runningInputs false) (.moveProgram .PAUSED) ⟨rfl, by decide⟩).mpr
    fun h => absurd h.1.2.2.2.2 (by decide)

def globalKillSwitch : KillSwitchState where
  kill_switch_id := ⟨"kill-global", by decide⟩
  scope_kind := .GLOBAL
  scope_id := none
  enabled := true
  reason := ⟨"stop", by decide⟩
  activated_at := some sampleTime
  activation := fun _ => by simp

def exitIntent : OrderIntent where
  intent_kind := .EXIT
  stack_runtime_id := none
  decision_output_id := none
  venue_id := ⟨"BINANCE", .checked evaluates⟩
  instrument_id := ⟨"BTC/USDT", .checked evaluates⟩
  account_id := none
  side := .SELL
  position_side := .LONG
  order_type := .MARKET
  time_in_force := none
  quantity := none
  limit_price := none
  stop_price := none
  reduce_only := false
  post_only := false
  close_position := true
  expires_at := none
  permission_reason := .OK
  created_at := sampleTime
  rationale_hash := none
  valid := by decide

/-- With unknown fills on an open position the exit waits for manual intervention, until a
global kill switch is added. -/
theorem kill_switch_lets_exit_through :
    ¬ ∀ (i : OrderFlowInputs) (change : RuntimeChange), change.Restricts i →
      SafetyMonotone i change := by
  intro h
  have hmono := h (runningInputs true) (.addKillSwitch globalKillSwitch 0) trivial
  have hafter := hmono.blocked exitIntent trivial (by decide)
  exact absurd hafter (by decide)

end FuturesBot
