import FuturesBot.DomainValues

/-! Runtime control: the states of the program and of a decision stack, the exposure, the
health of the data and the kill switches, and the permission for order flow derived from
them. -/
namespace FuturesBot

open DateTimes

abbrev DecisionStackRuntimeId := DomainId
abbrev KillSwitchId := DomainId

inductive ProgramRuntimeState where
  | BOOTING
  | RESYNCING_GLOBAL
  | WARMING_UP
  | RUNNING
  | PAUSING
  | PAUSED
  | DRAINING
  | STOPPING
  | STOPPED
  | ERROR
  | EMERGENCY_HALTED
  deriving DecidableEq, Repr

inductive DecisionStackRuntimeState where
  | DISABLED
  | STOPPED
  | STARTING
  | RESYNCING
  | WARMING_UP
  | RUNNING
  | PAUSING
  | PAUSED
  | DRAINING
  | STOPPING
  | ERROR
  | RESYNC_REQUIRED
  | EXPOSURE_GUARDIAN_ACTIVE
  | STOPPED_BUT_EXPOSURE_GUARDED
  | MANUAL_INTERVENTION_REQUIRED
  | EMERGENCY_HALTED
  deriving DecidableEq, Repr

inductive PositionOwnership where
  | NONE
  | DECISION_STACK_MANAGED
  | GUARDIAN_MANAGED
  | EXCHANGE_PROTECTION_ONLY
  | MANUAL_INTERVENTION_REQUIRED
  | CLOSING
  | CLOSED
  deriving DecidableEq, Repr

inductive ProtectionMode where
  | NONE
  | MONITOR_ONLY
  | BLOCK_ENTRIES
  | GUARDIAN_ACTIVE
  | REDUCE_ONLY
  | EMERGENCY_CLOSE_REQUIRED
  | MANUAL_INTERVENTION_REQUIRED
  deriving DecidableEq, Repr

inductive OrderFlowPermissionReason where
  | OK
  | PROGRAM_NOT_RUNNING
  | STACK_NOT_RUNNING
  | STACK_DISABLED
  | STACK_PAUSED
  | STACK_RESYNCING
  | STACK_WARMING_UP
  | GLOBAL_KILL_SWITCH
  | VENUE_KILL_SWITCH
  | INSTRUMENT_KILL_SWITCH
  | ACCOUNT_KILL_SWITCH
  | LIVE_DATA_GAP
  | STALE_DATA
  | OPEN_EXPOSURE_GUARDIAN_REQUIRED
  | UNKNOWN_FILLS
  | UNRECONCILED_ORDERS
  | ACCOUNT_STATE_UNKNOWN
  | LEDGER_STATE_UNKNOWN
  | EMERGENCY_HALTED
  | MANUAL_INTERVENTION_REQUIRED
  deriving DecidableEq, Repr

inductive KillSwitchScopeKind where
  | GLOBAL
  | VENUE
  | INSTRUMENT
  | ACCOUNT
  | DECISION_STACK
  | ORDER_SUBMISSION
  | EXECUTION
  deriving DecidableEq, Repr

structure OpenExposureState where
  venue_id : Option TrimmedText
  instrument_id : Option TrimmedText
  account_id : Option TrimmedText
  has_open_position : Bool
  has_open_entry_orders : Bool
  has_open_exit_orders : Bool
  has_unknown_fills : Bool
  has_unreconciled_orders : Bool
  position_ownership : PositionOwnership
  protection_mode : ProtectionMode
  /-- open exposure is owned, closed exposure is not -/
  not_orphaned : (has_open_position || has_open_entry_orders || has_open_exit_orders) =
    decide (position_ownership ≠ .NONE ∧ position_ownership ≠ .CLOSED)

namespace OpenExposureState

def requiresEntryBlock (e : OpenExposureState) : Bool :=
  e.protection_mode ∈ [.BLOCK_ENTRIES, .GUARDIAN_ACTIVE, .REDUCE_ONLY, .EMERGENCY_CLOSE_REQUIRED,
    .MANUAL_INTERVENTION_REQUIRED]

def requiresGuardian (e : OpenExposureState) : Bool :=
  e.protection_mode ∈ [.GUARDIAN_ACTIVE, .EMERGENCY_CLOSE_REQUIRED]

def requiresManualIntervention (e : OpenExposureState) : Bool :=
  e.protection_mode = .MANUAL_INTERVENTION_REQUIRED

def requiresEmergencyClose (e : OpenExposureState) : Bool :=
  e.protection_mode = .EMERGENCY_CLOSE_REQUIRED

def hasOpenExposure (e : OpenExposureState) : Bool :=
  e.has_open_position || e.has_open_entry_orders || e.has_open_exit_orders

end OpenExposureState

structure RuntimeDataHealthSnapshot where
  gap_detected : Bool
  stale_data : Bool
  stream_unavailable : Bool
  account_state_unknown : Bool
  orders_state_unknown : Bool
  fills_state_unknown : Bool
  ledger_state_unknown : Bool
  freshness_ms : Option ℕ

def RuntimeDataHealthSnapshot.hasSevereUnknownState (d : RuntimeDataHealthSnapshot) : Bool :=
  d.account_state_unknown || d.orders_state_unknown || d.fills_state_unknown ||
    d.ledger_state_unknown

structure OrderFlowPermission where
  allow_new_entries : Bool
  allow_entry_order_cancel : Bool
  allow_exit_orders : Bool
  allow_reduce_only_orders : Bool
  allow_exit_order_cancel : Bool
  allow_emergency_close : Bool
  allow_reconciliation : Bool
  guardian_required : Bool
  manual_intervention_required : Bool
  reason : OrderFlowPermissionReason
  deriving DecidableEq

structure ExposureSafetyPolicy where
  block_entries_on_any_gap : Bool
  allow_reduce_only_during_gap : Bool
  allow_emergency_close_during_gap : Bool
  allow_cancel_during_gap : Bool
  require_guardian_for_open_exposure_gap : Bool
  require_manual_intervention_for_unknown_fills : Bool
  require_manual_intervention_for_ledger_unknown : Bool
  max_allowed_staleness_ms : ℕ
  staleness_positive : 0 < max_allowed_staleness_ms

structure KillSwitchState where
  kill_switch_id : KillSwitchId
  scope_kind : KillSwitchScopeKind
  scope_id : Option TrimmedText
  enabled : Bool
  reason : TrimmedText
  activated_at : Option DateTime
  activation : enabled = true → activated_at ≠ none

def KillSwitchState.appliesTo (k : KillSwitchState) (venue_id instrument_id account_id :
    Option TrimmedText) (stack_runtime_id : Option DecisionStackRuntimeId) : Bool :=
  if !k.enabled then false
  else match k.scope_kind with
    | .GLOBAL => true
    | .VENUE => k.scope_id = venue_id
    | .INSTRUMENT => k.scope_id = instrument_id
    | .ACCOUNT => k.scope_id = account_id
    | .DECISION_STACK =>
      stack_runtime_id.isSome && k.scope_id.map (·.value) = stack_runtime_id.map (·.value)
    | .ORDER_SUBMISSION | .EXECUTION => true

/-- The keyword arguments of `evaluate_order_flow_permission`. -/
structure OrderFlowInputs where
  program_state : ProgramRuntimeState
  stack_state : DecisionStackRuntimeState
  exposure_state : OpenExposureState
  data_health : RuntimeDataHealthSnapshot
  kill_switches : List KillSwitchState
  policy : ExposureSafetyPolicy
  stack_runtime_id : Option DecisionStackRuntimeId

def stalenessExceedsPolicy (d : RuntimeDataHealthSnapshot) (policy : ExposureSafetyPolicy) : Bool :=
  match d.freshness_ms with
  | some ms => policy.max_allowed_staleness_ms < ms
  | none => false

/-- Whether a kill switch applies to the exposure and the stack. -/
def KillSwitchState.stops (k : KillSwitchState) (e : OpenExposureState)
    (stack_runtime_id : Option DecisionStackRuntimeId) : Bool :=
  k.appliesTo e.venue_id e.instrument_id e.account_id stack_runtime_id

def scopeReason : KillSwitchScopeKind → OrderFlowPermissionReason
  | .GLOBAL => .GLOBAL_KILL_SWITCH
  | .VENUE => .VENUE_KILL_SWITCH
  | .INSTRUMENT => .INSTRUMENT_KILL_SWITCH
  | .ACCOUNT => .ACCOUNT_KILL_SWITCH
  | .DECISION_STACK | .ORDER_SUBMISSION | .EXECUTION => .GLOBAL_KILL_SWITCH

def killSwitchReason (e : OpenExposureState) (stack_runtime_id : Option DecisionStackRuntimeId) :
    List KillSwitchState → Option OrderFlowPermissionReason
  | [] => none
  | k :: ks =>
    if k.stops e stack_runtime_id then some (scopeReason k.scope_kind)
    else killSwitchReason e stack_runtime_id ks

def stackStateReason : DecisionStackRuntimeState → Option OrderFlowPermissionReason
  | .RUNNING => none
  | .DISABLED => some .STACK_DISABLED
  | .PAUSING | .PAUSED | .DRAINING => some .STACK_PAUSED
  | .RESYNCING | .RESYNC_REQUIRED | .STARTING => some .STACK_RESYNCING
  | .WARMING_UP => some .STACK_WARMING_UP
  | _ => some .STACK_NOT_RUNNING

def protectionModeReason (e : OpenExposureState) : Option OrderFlowPermissionReason :=
  if e.requiresManualIntervention then some .MANUAL_INTERVENTION_REQUIRED
  else if e.requiresEntryBlock then some .OPEN_EXPOSURE_GUARDIAN_REQUIRED
  else none

/-- The last part of `_blocking_reason`: what is unknown or stale, once the states, the kill
switches and the protection mode let entries through. -/
def unknownStateReason (e : OpenExposureState) (d : RuntimeDataHealthSnapshot)
    (policy : ExposureSafetyPolicy) : OrderFlowPermissionReason :=
  if e.has_unknown_fills then
    if policy.require_manual_intervention_for_unknown_fills then .MANUAL_INTERVENTION_REQUIRED
    else .UNKNOWN_FILLS
  else if e.has_unreconciled_orders then .UNRECONCILED_ORDERS
  else if d.account_state_unknown then .ACCOUNT_STATE_UNKNOWN
  else if d.ledger_state_unknown then
    if policy.require_manual_intervention_for_ledger_unknown then .MANUAL_INTERVENTION_REQUIRED
    else .LEDGER_STATE_UNKNOWN
  else if d.fills_state_unknown then .UNKNOWN_FILLS
  else if d.orders_state_unknown then .UNRECONCILED_ORDERS
  else if stalenessExceedsPolicy d policy then .STALE_DATA
  else if policy.block_entries_on_any_gap && (d.gap_detected || d.stream_unavailable) then
    if e.hasOpenExposure then .OPEN_EXPOSURE_GUARDIAN_REQUIRED else .LIVE_DATA_GAP
  else if d.stale_data then .STALE_DATA
  else .OK

/-- The part of `_blocking_reason` after the kill switches. -/
def stateReason (i : OrderFlowInputs) : OrderFlowPermissionReason :=
  if i.program_state = .EMERGENCY_HALTED then .EMERGENCY_HALTED
  else if i.stack_state = .EMERGENCY_HALTED then .EMERGENCY_HALTED
  else if i.program_state ≠ .RUNNING then .PROGRAM_NOT_RUNNING
  else match stackStateReason i.stack_state with
    | some reason => reason
    | none => match protectionModeReason i.exposure_state with
      | some reason => reason
      | none => unknownStateReason i.exposure_state i.data_health i.policy

def blockingReason (i : OrderFlowInputs) : OrderFlowPermissionReason :=
  match killSwitchReason i.exposure_state i.stack_runtime_id i.kill_switches with
  | some reason => reason
  | none => stateReason i

def gapOrUnavailable (i : OrderFlowInputs) : Bool :=
  i.data_health.gap_detected || i.data_health.stream_unavailable

def dataDegraded (i : OrderFlowInputs) : Bool :=
  gapOrUnavailable i || i.data_health.stale_data || i.data_health.hasSevereUnknownState ||
    stalenessExceedsPolicy i.data_health i.policy

/-- The protection modes that keep protective orders and cancels open on an open exposure. -/
def keepsProtection (e : OpenExposureState) : Bool :=
  e.protection_mode ∈ [.BLOCK_ENTRIES, .GUARDIAN_ACTIVE, .REDUCE_ONLY, .EMERGENCY_CLOSE_REQUIRED]

def allowProtection (i : OrderFlowInputs) : Bool :=
  let has_open_exposure := i.exposure_state.hasOpenExposure
  let allow_protection := has_open_exposure && (!dataDegraded i ||
    i.policy.allow_reduce_only_during_gap ||
    decide (i.program_state ∈
      [.PAUSING, .PAUSED, .DRAINING, .STOPPING, .ERROR, .EMERGENCY_HALTED]) ||
    decide (i.stack_state ∈
      [.PAUSING, .PAUSED, .DRAINING, .STOPPING, .ERROR, .EXPOSURE_GUARDIAN_ACTIVE,
        .STOPPED_BUT_EXPOSURE_GUARDED, .EMERGENCY_HALTED]))
  let allow_protection := if keepsProtection i.exposure_state then has_open_exposure
    else allow_protection
  if i.exposure_state.requiresManualIntervention && !dataDegraded i then false
  else allow_protection

def allowCancel (i : OrderFlowInputs) : Bool :=
  let has_open_exposure := i.exposure_state.hasOpenExposure
  if keepsProtection i.exposure_state then has_open_exposure
  else has_open_exposure && (!dataDegraded i || i.policy.allow_cancel_during_gap)

def allowEmergencyClose (i : OrderFlowInputs) : Bool :=
  let halted := decide (i.program_state = .EMERGENCY_HALTED) ||
    decide (i.stack_state = .EMERGENCY_HALTED)
  let lifecycle_emergency_close := decide (i.program_state = .STOPPING) ||
    decide (i.stack_state = .STOPPING)
  i.exposure_state.hasOpenExposure && (i.exposure_state.requiresEmergencyClose ||
    lifecycle_emergency_close ||
    (i.policy.allow_emergency_close_during_gap && (halted || dataDegraded i)))

def guardianRequired (i : OrderFlowInputs) : Bool :=
  (i.exposure_state.hasOpenExposure && gapOrUnavailable i &&
    i.policy.require_guardian_for_open_exposure_gap) ||
  (i.exposure_state.hasOpenExposure && i.exposure_state.requiresGuardian)

def evaluateOrderFlowPermission (i : OrderFlowInputs) : OrderFlowPermission :=
  let reason := blockingReason i
  let blocked := decide (reason ≠ .OK)
  let manual_required := decide (reason = .MANUAL_INTERVENTION_REQUIRED) ||
    i.exposure_state.requiresManualIntervention
  { allow_new_entries := !blocked
    allow_entry_order_cancel := allowCancel i
    allow_exit_orders := allowProtection i
    allow_reduce_only_orders := allowProtection i
    allow_exit_order_cancel := allowCancel i
    allow_emergency_close := allowEmergencyClose i
    allow_reconciliation := blocked || dataDegraded i || manual_required
    guardian_required := guardianRequired i
    manual_intervention_required := manual_required
    reason }

/-! What the parts of the cascade say. -/

theorem scopeReason_ne_ok (k : KillSwitchScopeKind) : scopeReason k ≠ .OK := by
  cases k <;> decide

theorem scopeReason_ne_manual (k : KillSwitchScopeKind) :
    scopeReason k ≠ .MANUAL_INTERVENTION_REQUIRED := by
  cases k <;> decide

theorem killSwitchReason_eq_none {e : OpenExposureState} {id : Option DecisionStackRuntimeId}
    {ks : List KillSwitchState} :
    killSwitchReason e id ks = none ↔ ∀ k ∈ ks, k.stops e id = false := by
  induction ks with
  | nil => simp [killSwitchReason]
  | cons k ks ih =>
    by_cases hk : k.stops e id = true
    · simp [killSwitchReason, hk]
    · simp only [killSwitchReason, hk, Bool.false_eq_true, ↓reduceIte, ih, List.forall_mem_cons,
        true_and]

theorem killSwitchReason_eq_some {e : OpenExposureState} {id : Option DecisionStackRuntimeId}
    {ks : List KillSwitchState} {reason : OrderFlowPermissionReason}
    (h : killSwitchReason e id ks = some reason) : ∃ k ∈ ks, reason = scopeReason k.scope_kind := by
  induction ks with
  | nil => exact absurd h (by simp [killSwitchReason])
  | cons k ks ih =>
    rw [killSwitchReason] at h
    split at h
    · exact ⟨k, List.mem_cons_self, (Option.some.inj h).symm⟩
    · obtain ⟨k', hk', hr⟩ := ih h
      exact ⟨k', List.mem_cons_of_mem _ hk', hr⟩

theorem stackStateReason_eq_none {s : DecisionStackRuntimeState} :
    stackStateReason s = none ↔ s = .RUNNING := by
  cases s <;> decide

theorem stackStateReason_ne_ok {s : DecisionStackRuntimeState} {r : OrderFlowPermissionReason}
    (h : stackStateReason s = some r) : r ≠ .OK ∧ r ≠ .MANUAL_INTERVENTION_REQUIRED := by
  cases s <;> simp only [stackStateReason, Option.some.injEq, reduceCtorEq] at h <;> subst h <;>
    decide

theorem protectionModeReason_eq_none {e : OpenExposureState} :
    protectionModeReason e = none ↔ e.requiresEntryBlock = false := by
  cases h : e.protection_mode <;>
    simp [protectionModeReason, OpenExposureState.requiresEntryBlock,
      OpenExposureState.requiresManualIntervention, h]

theorem protectionModeReason_eq_some {e : OpenExposureState} {r : OrderFlowPermissionReason}
    (h : protectionModeReason e = some r) :
    r ≠ .OK ∧ (r = .MANUAL_INTERVENTION_REQUIRED ↔ e.requiresManualIntervention = true) := by
  rw [protectionModeReason] at h
  split at h
  · rename_i hm
    obtain rfl := Option.some.inj h
    exact ⟨by decide, fun _ => hm, fun _ => rfl⟩
  · rename_i hm
    split at h
    · obtain rfl := Option.some.inj h
      exact ⟨by decide, fun hr => absurd hr (by decide), fun hm' => absurd hm' hm⟩
    · exact absurd h (by simp)

theorem not_manual_of_no_entry_block {e : OpenExposureState} (h : e.requiresEntryBlock = false) :
    e.requiresManualIntervention = false := by
  cases hm : e.protection_mode <;>
    simp [OpenExposureState.requiresEntryBlock, OpenExposureState.requiresManualIntervention, hm]
      at h ⊢

/-- Nothing the account, the orders, the fills or the ledger leave unknown, and no data that
is too old or, under a policy that blocks on gaps, broken. -/
structure KnownAndFresh (e : OpenExposureState) (d : RuntimeDataHealthSnapshot)
    (policy : ExposureSafetyPolicy) : Prop where
  fills : e.has_unknown_fills = false ∧ d.fills_state_unknown = false
  orders : e.has_unreconciled_orders = false ∧ d.orders_state_unknown = false
  account : d.account_state_unknown = false
  ledger : d.ledger_state_unknown = false
  fresh : d.stale_data = false ∧ stalenessExceedsPolicy d policy = false
  gap : policy.block_entries_on_any_gap = true →
    d.gap_detected = false ∧ d.stream_unavailable = false

theorem unknownStateReason_eq_ok {e : OpenExposureState} {d : RuntimeDataHealthSnapshot}
    {policy : ExposureSafetyPolicy} :
    unknownStateReason e d policy = .OK ↔ KnownAndFresh e d policy := by
  constructor
  · intro h
    -- the cascade returns OK only when every test on its way was negative
    rw [unknownStateReason] at h
    split_ifs at h with h1 _ h3 h4 h5 _ h7 h8 h9 h10 _ h12
    simp only [Bool.not_eq_true] at h1 h3 h4 h5 h7 h8 h9 h12
    refine ⟨⟨h1, h7⟩, ⟨h3, h8⟩, h4, h5, ⟨h12, h9⟩, fun hblock => ?_⟩
    simpa [hblock] using h10
  · rintro ⟨⟨h1, h7⟩, ⟨h3, h8⟩, h4, h5, ⟨h12, h9⟩, hgap⟩
    have h10 : (policy.block_entries_on_any_gap && (d.gap_detected || d.stream_unavailable)) =
        false := by
      cases hblock : policy.block_entries_on_any_gap with
      | false => rfl
      | true =>
        obtain ⟨hg, hs⟩ := hgap hblock
        rw [hg, hs]
        rfl
    simp only [unknownStateReason, h1, h3, h4, h5, h7, h8, h9, h10, h12, Bool.false_eq_true,
      ↓reduceIte]

theorem unknownStateReason_eq_manual {e : OpenExposureState} {d : RuntimeDataHealthSnapshot}
    {policy : ExposureSafetyPolicy} :
    unknownStateReason e d policy = .MANUAL_INTERVENTION_REQUIRED ↔
      (e.has_unknown_fills = true ∧ policy.require_manual_intervention_for_unknown_fills = true) ∨
      (e.has_unknown_fills = false ∧ e.has_unreconciled_orders = false ∧
        d.account_state_unknown = false ∧ d.ledger_state_unknown = true ∧
        policy.require_manual_intervention_for_ledger_unknown = true) := by
  rw [unknownStateReason]
  split_ifs <;> simp_all

end FuturesBot
