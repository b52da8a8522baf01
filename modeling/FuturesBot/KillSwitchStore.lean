import FuturesBot.PermissionSafety
import FuturesBot.KeySorting
import FuturesBot.StepRuns
import Mathlib.Data.Prod.Lex
import Mathlib.Data.String.Basic

/-! The store of the kill switches, and whether looking them up by scope finds every switch that
stops an exposure. -/
namespace FuturesBot

open Dicts DateTimes KeySorting StepRuns

def KillSwitchScopeKind.value : KillSwitchScopeKind → String
  | .GLOBAL => "GLOBAL"
  | .VENUE => "VENUE"
  | .INSTRUMENT => "INSTRUMENT"
  | .ACCOUNT => "ACCOUNT"
  | .DECISION_STACK => "DECISION_STACK"
  | .ORDER_SUBMISSION => "ORDER_SUBMISSION"
  | .EXECUTION => "EXECUTION"

abbrev InMemoryKillSwitchStore : Type := KeyedDict fun k : KillSwitchState => k.kill_switch_id

namespace InMemoryKillSwitchStore

def save (store : InMemoryKillSwitchStore) (kill_switch : KillSwitchState) :
    InMemoryKillSwitchStore := store.put kill_switch

/-- A switch that is enabled has a time of activation. -/
def activation (k : KillSwitchState) (h : k.enabled = true) : DateTime :=
  k.activated_at.get (Option.isSome_iff_ne_none.mpr (k.activation h))

/-- The key that matches are sorted by. -/
def sortKey (k : KillSwitchState) : ℕ ×ₗ String ×ₗ String ×ₗ String :=
  toLex (if h : k.enabled = true then (activation k h).micros else 0,
    toLex (k.scope_kind.value, toLex ((k.scope_id.map (·.value)).getD "", k.kill_switch_id.value)))

def isMatch (scope_kind : KillSwitchScopeKind) (scope_id : Option TrimmedText)
    (k : KillSwitchState) : Bool :=
  k.enabled && (k.scope_kind = .GLOBAL || k.scope_kind = scope_kind && k.scope_id = scope_id)

def listMatching (store : InMemoryKillSwitchStore) (scope_kind : KillSwitchScopeKind)
    (scope_id : Option TrimmedText) : List KillSwitchState :=
  sortBy sortKey (store.values.filter (isMatch scope_kind scope_id))

/-- A lookup finds the switches of the store that match, in whatever order. -/
theorem mem_listMatching {store : InMemoryKillSwitchStore} {scope_kind : KillSwitchScopeKind}
    {scope_id : Option TrimmedText} {k : KillSwitchState} :
    k ∈ store.listMatching scope_kind scope_id ↔
      k ∈ store.values ∧ k.enabled = true ∧
        (k.scope_kind = .GLOBAL ∨ k.scope_kind = scope_kind ∧ k.scope_id = scope_id) := by
  rw [listMatching, mem_sortBy, List.mem_filter, isMatch]
  simp only [Bool.and_eq_true, Bool.or_eq_true, decide_eq_true_eq]

end InMemoryKillSwitchStore

/-! Lookups for an exposure and a stack. -/

/-- The id to look a scope up by, for the scopes that have one. -/
def scopeIdOf (e : OpenExposureState) (stack_runtime_id : Option DecisionStackRuntimeId) :
    KillSwitchScopeKind → Option TrimmedText
  | .VENUE => e.venue_id
  | .INSTRUMENT => e.instrument_id
  | .ACCOUNT => e.account_id
  | .DECISION_STACK => stack_runtime_id.map DomainId.toTrimmedText
  | .GLOBAL | .ORDER_SUBMISSION | .EXECUTION => none

/-- One lookup for each scope finds the switch. -/
def LookedUp (store : InMemoryKillSwitchStore) (e : OpenExposureState)
    (stack_runtime_id : Option DecisionStackRuntimeId) (k : KillSwitchState) : Prop :=
  ∃ scope_kind, k ∈ store.listMatching scope_kind (scopeIdOf e stack_runtime_id scope_kind)

/-- The lookups agree with the evaluation: they find the switches that stop the exposure, and new
entries are forbidden over what they find whenever they are over all that is stored. -/
structure LookupAgrees (store : InMemoryKillSwitchStore) (e : OpenExposureState)
    (stack_runtime_id : Option DecisionStackRuntimeId) : Prop where
  found : ∀ k ∈ store.values, k.stops e stack_runtime_id = true →
    LookedUp store e stack_runtime_id k
  forbids : ∀ (i : OrderFlowInputs) (found : List KillSwitchState), i.exposure_state = e →
    i.stack_runtime_id = stack_runtime_id → (∀ k ∈ i.kill_switches, k ∈ store.values) →
    (∀ k, LookedUp store e stack_runtime_id k → k ∈ found) →
    (evaluateOrderFlowPermission i).allow_new_entries = false →
    (evaluateOrderFlowPermission { i with kill_switches := found }).allow_new_entries = false

/-- The switches that stop order submission or execution everywhere name no scope. -/
def Unscoped (store : InMemoryKillSwitchStore) : Prop :=
  ∀ k ∈ store.values, k.enabled = true → k.scope_kind ∈ [.ORDER_SUBMISSION, .EXECUTION] →
    k.scope_id = none

variable {store : InMemoryKillSwitchStore} {e : OpenExposureState}
  {stack_runtime_id : Option DecisionStackRuntimeId} {k : KillSwitchState}

/-- A switch is found only by the lookup of its own scope, unless it is global. -/
theorem lookedUp_iff : LookedUp store e stack_runtime_id k ↔
    k ∈ store.values ∧ k.enabled = true ∧
      (k.scope_kind = .GLOBAL ∨ k.scope_id = scopeIdOf e stack_runtime_id k.scope_kind) := by
  constructor
  · rintro ⟨scope_kind, h⟩
    obtain ⟨hmem, henabled, hglobal | ⟨rfl, hscope⟩⟩ := InMemoryKillSwitchStore.mem_listMatching.mp h
    · exact ⟨hmem, henabled, .inl hglobal⟩
    · exact ⟨hmem, henabled, .inr hscope⟩
  · rintro ⟨hmem, henabled, hscope⟩
    refine ⟨k.scope_kind, InMemoryKillSwitchStore.mem_listMatching.mpr ⟨hmem, henabled, ?_⟩⟩
    exact hscope.imp id fun hscope => ⟨rfl, hscope⟩

/-- A switch that stops the exposure is global, names the id of its scope, or is of a kind that
applies everywhere. -/
theorem scope_of_stops (h : k.stops e stack_runtime_id = true) :
    k.enabled = true ∧ (k.scope_kind = .GLOBAL ∨
      k.scope_id = scopeIdOf e stack_runtime_id k.scope_kind ∨
      k.scope_kind ∈ [.ORDER_SUBMISSION, .EXECUTION]) := by
  rw [KillSwitchState.stops, KillSwitchState.appliesTo] at h
  split at h
  · exact absurd h (by simp)
  rename_i henabled
  refine ⟨by simpa using henabled, ?_⟩
  cases hkind : k.scope_kind with
  | GLOBAL => exact .inl rfl
  | VENUE | INSTRUMENT | ACCOUNT =>
    rw [hkind] at h
    exact .inr (.inl (of_decide_eq_true h))
  | DECISION_STACK =>
    rw [hkind] at h
    -- both name a stack, and by the same text
    have htext : k.scope_id.map (·.value) = stack_runtime_id.map (·.value) := by
      have hboth := (Bool.and_eq_true _ _).mp h
      simpa using hboth.2
    refine .inr (.inl ?_)
    rw [scopeIdOf]
    cases hscope : k.scope_id with
    | none =>
      rw [hscope] at htext
      cases hstack : stack_runtime_id with
      | none => rfl
      | some id =>
        rw [hstack] at htext
        exact absurd htext (by simp)
    | some scope_id =>
      rw [hscope] at htext
      cases hstack : stack_runtime_id with
      | none =>
        rw [hstack] at htext
        exact absurd htext (by simp)
      | some id =>
        rw [hstack] at htext
        exact congrArg some (TrimmedText.ext (Option.some.inj htext))
  | ORDER_SUBMISSION | EXECUTION => exact .inr (.inr (by simp))

theorem stops_everywhere (henabled : k.enabled = true)
    (hkind : k.scope_kind ∈ [.ORDER_SUBMISSION, .EXECUTION]) :
    k.stops e stack_runtime_id = true := by
  rw [KillSwitchState.stops, KillSwitchState.appliesTo, henabled]
  simp only [List.mem_cons, List.not_mem_nil, or_false] at hkind
  rcases hkind with hkind | hkind <;> rw [hkind] <;> rfl

variable (e stack_runtime_id) in
/-- The lookups find every switch that stops the exposure exactly when those that apply everywhere
name no scope. -/
theorem found_iff : (∀ k ∈ store.values, k.stops e stack_runtime_id = true →
    LookedUp store e stack_runtime_id k) ↔ Unscoped store := by
  constructor
  · intro hfound k hk henabled hkind
    have hlooked := hfound k hk (stops_everywhere henabled hkind)
    simp only [List.mem_cons, List.not_mem_nil, or_false] at hkind
    -- the lookup of these scopes is by no id
    rcases (lookedUp_iff.mp hlooked).2.2 with hglobal | hscope
    · rcases hkind with hkind | hkind <;> exact absurd (hkind.symm.trans hglobal) (by simp)
    · rcases hkind with hkind | hkind <;> rw [hscope, hkind] <;> rfl
  · intro hunscoped k hk hstops
    obtain ⟨henabled, hglobal | hscope | hkind⟩ := scope_of_stops hstops
    · exact lookedUp_iff.mpr ⟨hk, henabled, .inl hglobal⟩
    · exact lookedUp_iff.mpr ⟨hk, henabled, .inr hscope⟩
    · refine lookedUp_iff.mpr ⟨hk, henabled, .inr ?_⟩
      rw [hunscoped k hk henabled hkind]
      simp only [List.mem_cons, List.not_mem_nil, or_false] at hkind
      rcases hkind with hkind | hkind <;> rw [hkind] <;> rfl

/-- Over switches that include those that stop the exposure, new entries stay forbidden. -/
theorem forbidden_of_found {i : OrderFlowInputs} {found : List KillSwitchState}
    (hfound : ∀ k ∈ i.kill_switches, k.stops i.exposure_state i.stack_runtime_id = true → k ∈ found)
    (h : (evaluateOrderFlowPermission i).allow_new_entries = false) :
    (evaluateOrderFlowPermission { i with kill_switches := found }).allow_new_entries = false := by
  by_contra hallowed
  rw [Bool.not_eq_false, allow_new_entries_eq, blockingReason_eq_ok] at hallowed
  -- what is safe over the switches that were found is safe over all
  have hsafe : EntriesSafe i := by
    refine ⟨hallowed.running, fun k hk => ?_, hallowed.no_protection_block, hallowed.known⟩
    by_contra hstops
    rw [Bool.not_eq_false] at hstops
    have hnone := hallowed.no_kill_switch k (hfound k hk hstops)
    exact absurd (hstops.symm.trans hnone) (by simp)
  have htrue := (allow_new_entries_eq i).mpr (blockingReason_eq_ok.mpr hsafe)
  exact absurd (h.symm.trans htrue) (by simp)

/-- After any saves, the lookups for an exposure agree with the evaluation exactly when no switch
that stops order submission or execution names a scope. -/
theorem kill_switch_lookup_iff (saves : List KillSwitchState) (e : OpenExposureState)
    (stack_runtime_id : Option DecisionStackRuntimeId) :
    LookupAgrees (run InMemoryKillSwitchStore.save .empty saves) e stack_runtime_id ↔
      Unscoped (run InMemoryKillSwitchStore.save .empty saves) := by
  constructor
  · exact fun h => (found_iff e stack_runtime_id).mp h.found
  · intro hunscoped
    have hfound := (found_iff e stack_runtime_id).mpr hunscoped
    refine ⟨hfound, ?_⟩
    rintro i found rfl rfl hsaved hlooked h
    apply forbidden_of_found _ h
    exact fun k hk hstops => hlooked k (hfound k (hsaved k hk) hstops)

/-! A switch that stops the submission of orders, and names a scope. -/

def submissionKillSwitch : KillSwitchState where
  kill_switch_id := ⟨"kill-1", by decide⟩
  scope_kind := .ORDER_SUBMISSION
  scope_id := some ⟨"BINANCE", .checked evaluates⟩
  enabled := true
  reason := ⟨"halt", by decide⟩
  activated_at := some ⟨2024, 1, 1, 0, 0, 0, 0, newYear_date, midnight_clock⟩
  activation _ := by simp

/-- It stops every exposure, and no lookup finds it. -/
theorem submission_kill_switch_not_found :
    ¬ LookupAgrees (run InMemoryKillSwitchStore.save .empty [submissionKillSwitch])
      (openPosition false) none := by
  intro h
  have hstored : submissionKillSwitch ∈
      (run InMemoryKillSwitchStore.save .empty [submissionKillSwitch]).values :=
    KeyedDict.mem_values_put.mpr (.inl rfl)
  have hunscoped := (found_iff _ _).mp h.found submissionKillSwitch hstored rfl (by decide)
  exact absurd hunscoped (by decide)

end FuturesBot
