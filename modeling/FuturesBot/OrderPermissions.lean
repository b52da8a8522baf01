import FuturesBot.OrderIntents

/-! The permission policies for order, cancel and replace intents, over the permission for
order flow. -/
namespace FuturesBot.Orders

inductive OrderIntentPermissionDecisionReason where
  | OK
  | ENTRY_BLOCKED
  | EXIT_BLOCKED
  | REDUCE_ONLY_BLOCKED
  | CANCEL_BLOCKED
  | EMERGENCY_CLOSE_BLOCKED
  | REPLACE_BLOCKED
  | MANUAL_INTERVENTION_REQUIRED
  | RECONCILIATION_REQUIRED
  deriving DecidableEq, Repr

structure OrderIntentPermissionDecision where
  allowed : Bool
  reason : OrderIntentPermissionDecisionReason
  requires_guardian : Bool
  requires_reconciliation : Bool
  ok_iff_allowed : allowed = true ↔ reason = .OK
  deriving DecidableEq

/-- The reasons `_blocked` is called with. -/
abbrev BlockedReason := {r : OrderIntentPermissionDecisionReason // r ≠ .OK}

def blocked (reason : BlockedReason) (permission : OrderFlowPermission) :
    OrderIntentPermissionDecision where
  allowed := false
  reason := reason
  requires_guardian := permission.guardian_required
  requires_reconciliation := permission.allow_reconciliation
  ok_iff_allowed := ⟨fun h => absurd h (by decide), fun h => absurd h reason.2⟩

def allowIf (allowed : Bool) (blocked_reason : BlockedReason) (permission : OrderFlowPermission) :
    OrderIntentPermissionDecision :=
  if allowed then
    { allowed := true
      reason := .OK
      requires_guardian := permission.guardian_required
      requires_reconciliation := permission.allow_reconciliation
      ok_iff_allowed := ⟨fun _ => rfl, fun _ => rfl⟩ }
  else blocked blocked_reason permission

def manualInterventionBlocks (intent_kind : OrderIntentKind) (permission : OrderFlowPermission) :
    Bool :=
  permission.manual_intervention_required && decide (intent_kind ≠ .EMERGENCY_CLOSE)

def orderIntentAllowedAndReason (kind : OrderIntentKind) (permission : OrderFlowPermission) :
    Bool × BlockedReason :=
  match kind with
  | .ENTRY =>
    (permission.allow_new_entries && !permission.guardian_required, ⟨.ENTRY_BLOCKED, by decide⟩)
  | .EXIT => (permission.allow_exit_orders, ⟨.EXIT_BLOCKED, by decide⟩)
  | .REDUCE_ONLY => (permission.allow_reduce_only_orders, ⟨.REDUCE_ONLY_BLOCKED, by decide⟩)
  | .PROTECTIVE_STOP | .PROTECTIVE_TAKE_PROFIT =>
    (permission.allow_exit_orders || permission.allow_reduce_only_orders,
      ⟨.EXIT_BLOCKED, by decide⟩)
  | .EMERGENCY_CLOSE => (permission.allow_emergency_close, ⟨.EMERGENCY_CLOSE_BLOCKED, by decide⟩)

def evaluateOrderIntentPermission (order_intent : OrderIntent)
    (order_flow_permission : OrderFlowPermission) : OrderIntentPermissionDecision :=
  if manualInterventionBlocks order_intent.intent_kind order_flow_permission then
    blocked ⟨.MANUAL_INTERVENTION_REQUIRED, by decide⟩ order_flow_permission
  else
    let (allowed, reason) :=
      orderIntentAllowedAndReason order_intent.intent_kind order_flow_permission
    allowIf allowed reason order_flow_permission

def evaluateCancelIntentPermission (_cancel_intent : CancelOrderIntent)
    (target_is_entry_flow : Bool) (order_flow_permission : OrderFlowPermission) :
    OrderIntentPermissionDecision :=
  if order_flow_permission.manual_intervention_required then
    blocked ⟨.MANUAL_INTERVENTION_REQUIRED, by decide⟩ order_flow_permission
  else
    allowIf
      (if target_is_entry_flow then order_flow_permission.allow_entry_order_cancel
        else order_flow_permission.allow_exit_order_cancel)
      ⟨.CANCEL_BLOCKED, by decide⟩ order_flow_permission

def evaluateReplaceIntentPermission (replace_intent : ReplaceOrderIntent)
    (target_is_entry_flow : Bool) (order_flow_permission : OrderFlowPermission) :
    OrderIntentPermissionDecision :=
  let replacement_kind := replace_intent.replacement_order.intent_kind
  if target_is_entry_flow ≠ decide (replace_intent.target_intent_kind = .ENTRY) ∨
      target_is_entry_flow ≠ decide (replacement_kind = .ENTRY) then
    blocked ⟨.REPLACE_BLOCKED, by decide⟩ order_flow_permission
  else if manualInterventionBlocks replacement_kind order_flow_permission then
    blocked ⟨.MANUAL_INTERVENTION_REQUIRED, by decide⟩ order_flow_permission
  else if target_is_entry_flow then
    if order_flow_permission.guardian_required then
      blocked ⟨.REPLACE_BLOCKED, by decide⟩ order_flow_permission
    else
      allowIf order_flow_permission.allow_new_entries ⟨.REPLACE_BLOCKED, by decide⟩
        order_flow_permission
  else
    allowIf (orderIntentAllowedAndReason replacement_kind order_flow_permission).1
      ⟨.REPLACE_BLOCKED, by decide⟩ order_flow_permission

@[simp] theorem blocked_allowed (reason : BlockedReason) (permission : OrderFlowPermission) :
    (blocked reason permission).allowed = false := rfl

@[simp] theorem allowIf_allowed (allowed : Bool) (reason : BlockedReason)
    (permission : OrderFlowPermission) : (allowIf allowed reason permission).allowed = allowed := by
  cases allowed <;> rfl

theorem allowIf_reason (allowed : Bool) (reason : BlockedReason)
    (permission : OrderFlowPermission) :
    (allowIf allowed reason permission).reason = if allowed then .OK else reason.1 := by
  cases allowed <;> rfl

theorem allowedAndReason_ne_manual (kind : OrderIntentKind) (permission : OrderFlowPermission) :
    (orderIntentAllowedAndReason kind permission).2.1 ≠ .MANUAL_INTERVENTION_REQUIRED := by
  cases kind <;> exact nofun

/-- An order intent is let through when manual intervention does not block it and the flag of
its kind allows it. -/
theorem orderIntent_allowed (intent : OrderIntent) (permission : OrderFlowPermission) :
    (evaluateOrderIntentPermission intent permission).allowed =
      (!manualInterventionBlocks intent.intent_kind permission &&
        (orderIntentAllowedAndReason intent.intent_kind permission).1) := by
  rw [evaluateOrderIntentPermission]
  split
  · rename_i h
    rw [h, blocked_allowed]
    rfl
  · rename_i h
    rw [allowIf_allowed, Bool.eq_false_of_not_eq_true h]
    rfl

/-- An intent of the kind ENTRY needs new entries allowed, and neither the guardian nor manual
intervention required. -/
theorem entry_allowed {intent : OrderIntent} (hkind : intent.intent_kind = .ENTRY)
    (permission : OrderFlowPermission) :
    (evaluateOrderIntentPermission intent permission).allowed = true ↔
      permission.allow_new_entries = true ∧ permission.guardian_required = false ∧
        permission.manual_intervention_required = false := by
  rw [orderIntent_allowed, manualInterventionBlocks, hkind, orderIntentAllowedAndReason]
  cases permission.manual_intervention_required <;> simp

/-- A replacement of the kind ENTRY needs the same as an intent of this kind. -/
theorem entry_replacement_allowed {replace_intent : ReplaceOrderIntent}
    (hkind : replace_intent.replacement_order.intent_kind = .ENTRY) {target_is_entry_flow : Bool}
    {permission : OrderFlowPermission}
    (h : (evaluateReplaceIntentPermission replace_intent target_is_entry_flow permission).allowed =
      true) :
    permission.allow_new_entries = true ∧ permission.guardian_required = false ∧
      permission.manual_intervention_required = false := by
  rw [evaluateReplaceIntentPermission] at h
  split at h
  · exact absurd h (by simp)
  rename_i hflow
  have htarget : target_is_entry_flow = true := by
    rw [not_or, not_not, not_not, hkind] at hflow
    simpa using hflow.2
  split at h
  · exact absurd h (by simp)
  rename_i hmanual
  split at h
  · exact absurd h (by simp)
  rename_i hguardian
  rw [allowIf_allowed] at h
  refine ⟨h, by simpa using hguardian, ?_⟩
  rw [manualInterventionBlocks, hkind] at hmanual
  simpa using hmanual

end FuturesBot.Orders
