import FuturesBot.DecimalRange
import FuturesBot.ResolutionSoundness

/-! The rules of a venue over exact numbers, and how far the validation, which computes in a
decimal context, decides them. -/
namespace FuturesBot.Venues

open DateTimes DecimalNumbers Decimal Orders Assets

/-! Checks in a row. -/

/-- A check: where its arithmetic fails, what it lets through, and the rule it stands for. -/
structure Stage where
  fails : Prop
  accepts : Prop
  rule : Prop

/-- No check that is reached fails. -/
def Runs : List Stage → Prop
  | [] => True
  | s :: stages => ¬ s.fails ∧ (s.accepts → Runs stages)

namespace Stage

/-- A check without arithmetic. -/
def plain (rule : Prop) : Stage := ⟨False, rule, rule⟩

/-- Checks in a row as one check. -/
def all (stages : List Stage) : Stage :=
  ⟨¬ Runs stages, ∀ s ∈ stages, s.accepts, ∀ s ∈ stages, s.rule⟩

end Stage

/-- What a check comes to. -/
def Models (outcome : Except ArithmeticFailure (Option VenueOrderValidationReason)) (s : Stage) :
    Prop :=
  (s.fails ∧ ∃ e, outcome = .error e) ∨
    (¬ s.fails ∧ ∃ r, outcome = .ok r ∧ r ≠ some .OK ∧ (r = none ↔ s.accepts))

theorem models_plain {r : Option VenueOrderValidationReason} {rule : Prop} (hok : r ≠ some .OK)
    (h : r = none ↔ rule) : Models (.ok r) (.plain rule) := .inr ⟨id, r, rfl, hok, h⟩

/-- The first reason found in a row of checks. -/
theorem firstFound_models {context : VenueOrderValidationContext} {checks : List ReasonCheck}
    {stages : List Stage}
    (h : List.Forall₂ (fun check s => Models (check context) s) checks stages) :
    Models (firstFound context checks) (.all stages) := by
  induction h with
  | nil => exact .inr ⟨fun h => h trivial, none, rfl, by simp, by simp [Stage.all]⟩
  | @cons check s checks stages hcheck _ ih =>
    rw [firstFound]
    rcases hcheck with ⟨hfails, e, he⟩ | ⟨hruns, r, hr, hok, haccepts⟩
    · rw [he]
      exact .inl ⟨fun h => h.1 hfails, e, rfl⟩
    · rw [hr]
      cases r with
      | some reason =>
        have hrefused : ¬ s.accepts := fun h => absurd (haccepts.mpr h) (by simp)
        refine .inr ⟨fun h => h ⟨hruns, fun ha => absurd ha hrefused⟩, some reason, rfl, hok, ?_⟩
        exact iff_of_false (by simp) fun h => hrefused (h s List.mem_cons_self)
      | none =>
        have hs := haccepts.mp rfl
        rcases ih with ⟨hfails, he⟩ | ⟨hrest, r, hr, hok, hall⟩
        · exact .inl ⟨fun h => hfails (h.2 hs), he⟩
        · refine .inr ⟨fun h => h ⟨hruns, fun _ => not_not.mp hrest⟩, r, hr, hok, ?_⟩
          rw [hall]
          simp [Stage.all, hs]

theorem firstReasonIf_eq_none {checks : List (Bool × VenueOrderValidationReason)} :
    firstReasonIf checks = none ↔ ∀ c ∈ checks, c.1 = false := by
  rw [firstReasonIf]
  induction checks with
  | nil => simp [firstReason]
  | cons c checks ih =>
    rw [List.map_cons, firstReason, List.forall_mem_cons]
    cases hc : c.1 with
    | true => simp
    | false => simpa using ih

/-- A reason that is found is one of those that are looked for. -/
theorem firstReasonIf_mem {checks : List (Bool × VenueOrderValidationReason)}
    {reason : VenueOrderValidationReason} (h : firstReasonIf checks = some reason) :
    reason ∈ checks.map (·.2) := by
  rw [firstReasonIf] at h
  induction checks with
  | nil => cases h
  | cons c checks ih =>
    rw [List.map_cons, firstReason] at h
    split at h
    · rw [List.map_cons, ← Option.some.inj h]
      exact List.mem_cons_self
    · exact List.mem_cons_of_mem _ (ih h)

theorem firstReasonIf_ne_ok {checks : List (Bool × VenueOrderValidationReason)}
    (h : .OK ∉ checks.map (·.2)) : firstReasonIf checks ≠ some .OK :=
  mt firstReasonIf_mem h

theorem reasonIf_eq_none {failed : Bool} {reason : VenueOrderValidationReason} :
    reasonIf failed reason = none ↔ failed = false := by
  cases failed <;> simp [reasonIf]

theorem reasonIf_ne_ok {failed : Bool} {reason : VenueOrderValidationReason} (h : reason ≠ .OK) :
    reasonIf failed reason ≠ some .OK := by
  cases failed <;> simp [reasonIf, h]

/-! The rules. -/

section Rules

variable (context : VenueOrderValidationContext)

def TradingEnabled : Prop :=
  context.venue_snapshot.trading_status = .ENABLED ∧
    context.venue_snapshot.api_trading_enabled = true ∧
    context.instrument_rules.trading_status = .TRADING

/-- The contract is one that its semantics are ready for, or that needs none. -/
def ContractSupported : Prop :=
  match context.instrument_rules.asset_semantics with
  | some semantics => (validateContractAssetSemanticsReadiness semantics).ready = true
  | none => context.instrument_rules.contract_kind ∈ [.LINEAR_PERPETUAL, .LINEAR_DELIVERY] ∧
      isStableAsset context.instrument_rules.margin_asset = true ∧
      isStableAsset context.instrument_rules.settlement_asset = true

def AssetsSupported : Prop :=
  context.instrument_rules.margin_asset ∈ context.venue_snapshot.supported_margin_assets ∧
    context.instrument_rules.settlement_asset ∈ context.venue_snapshot.supported_settlement_assets

/-- A market order with no price of its own, at a venue that asks for one. -/
def NeedsReferencePrice : Prop :=
  context.order_intent.order_type = .MARKET ∧ context.order_intent.quantity ≠ none ∧
    context.order_intent.limit_price = none ∧
    context.instrument_rules.notional_filter.requires_reference_price_for_market_orders = true

/-- What the rules below take for granted. -/
structure Executable : Prop where
  trading : TradingEnabled context
  contract : ContractSupported context
  assets : AssetsSupported context
  reference : NeedsReferencePrice context → context.reference_price ≠ none

/-- The type, the time in force and the flags of the order are supported. -/
structure OrderSupported : Prop where
  order_type : context.order_intent.order_type.value ∈
    context.instrument_rules.supported_order_types
  time_in_force : ∀ t ∈ context.order_intent.time_in_force,
    t.value ∈ context.instrument_rules.supported_time_in_force
  reduce_only : context.order_intent.reduce_only = true →
    context.venue_snapshot.supports_reduce_only = true ∧
      context.instrument_rules.supports_reduce_only = true
  post_only : context.order_intent.post_only = true →
    context.venue_snapshot.supports_post_only = true ∧
      context.instrument_rules.supports_post_only = true
  close_position : context.order_intent.close_position = true →
    context.venue_snapshot.supports_close_position = true ∧
      context.instrument_rules.supports_close_position = true

/-- The least durations, in milliseconds, that a good-till-date order must have. -/
def gtdMinimums : List ℤ :=
  [context.venue_snapshot.min_gtd_duration_ms,
    context.instrument_rules.min_gtd_duration_ms].filterMap id

def SupportsGtd : Prop :=
  context.venue_snapshot.supports_gtd = true ∧ context.instrument_rules.supports_gtd = true

/-- The order lasts at least so many milliseconds, if it expires. -/
def LastsAtLeast (ms : ℤ) : Prop :=
  ∀ expires_at ∈ context.order_intent.expires_at,
    1000 * ms ≤ (expires_at.micros : ℤ) - context.order_intent.created_at.micros

def ExpirySupported : Prop :=
  context.order_intent.time_in_force = some .GTD →
    SupportsGtd context ∧ ∀ ms ∈ gtdMinimums context, LastsAtLeast context ms

/-- The number lies between the bounds that are set. -/
def Between (lower upper : Option PositiveDecimal) (value : ℚ) : Prop :=
  (∀ m ∈ lower, m.1.value ≤ value) ∧ ∀ m ∈ upper, value ≤ m.1.value

/-- The number is a whole multiple of another. -/
def IsMultiple (value unit : PositiveDecimal) : Prop := ∃ k : ℤ, value.1.value = k * unit.1.value

/-- The price is within its bounds, on the tick, and written with no more places than allowed. -/
structure PriceMeets (price : PositiveDecimal) : Prop where
  bounds : Between context.instrument_rules.price_filter.min_price
    context.instrument_rules.price_filter.max_price price.1.value
  on_tick : IsMultiple price context.instrument_rules.price_filter.tick_size
  precision : ∀ p ∈ context.instrument_rules.price_filter.price_precision,
    decimalPlaces price.1 ≤ p

structure QuantityMeets (quantity : PositiveDecimal) : Prop where
  bounds : Between (some context.instrument_rules.quantity_filter.min_quantity)
    context.instrument_rules.quantity_filter.max_quantity quantity.1.value
  on_step : IsMultiple quantity context.instrument_rules.quantity_filter.step_size
  precision : ∀ p ∈ context.instrument_rules.quantity_filter.quantity_precision,
    decimalPlaces quantity.1 ≤ p

/-- The rules of the venue, over exact numbers. -/
structure MeetsRules : Prop where
  supported : OrderSupported context
  expiry : ExpirySupported context
  limit_price : ∀ p ∈ context.order_intent.limit_price, PriceMeets context p
  stop_price : ∀ p ∈ context.order_intent.stop_price, PriceMeets context p
  quantity : ∀ q ∈ context.order_intent.quantity, QuantityMeets context q
  notional : ∀ q ∈ context.order_intent.quantity, ∀ p ∈ notionalPrice context,
    Between context.instrument_rules.notional_filter.min_notional
      context.instrument_rules.notional_filter.max_notional (q.1.value * p.1.value)

end Rules

/-! The checks as stages. -/

section Stages

variable (context : VenueOrderValidationContext)

/-- The longest of the least durations is no timedelta. -/
def gtdStage : Stage where
  fails := context.order_intent.time_in_force = some .GTD ∧ SupportsGtd context ∧
    context.order_intent.expires_at ≠ none ∧
    ∃ ms ∈ gtdMinimums context, 1000000000 * 86400000 ≤ ms
  accepts := ExpirySupported context
  rule := ExpirySupported context

/-- A number that may be absent against a unit: a remainder that rounds to zero counts as none. -/
def incrementStage (value : Option PositiveDecimal) (unit : PositiveDecimal) : Stage where
  fails := ∃ v ∈ value, RemFails v.1 unit.1
  accepts := ∀ v ∈ value, exactRem v.1 unit.1 ≤ (10 : ℚ) ^ tinyExp / 2
  rule := ∀ v ∈ value, IsMultiple v unit

/-- The stages of the prices, each for both of them. -/
def priceStages : List Stage :=
  let price_filter := context.instrument_rules.price_filter
  let order := context.order_intent
  [.plain True,
    .plain ((∀ p ∈ order.limit_price,
        Between price_filter.min_price price_filter.max_price p.1.value) ∧
      ∀ p ∈ order.stop_price,
        Between price_filter.min_price price_filter.max_price p.1.value),
    incrementStage order.limit_price price_filter.tick_size,
    incrementStage order.stop_price price_filter.tick_size,
    .plain ((∀ p ∈ order.limit_price, ∀ n ∈ price_filter.price_precision,
        decimalPlaces p.1 ≤ n) ∧
      ∀ p ∈ order.stop_price, ∀ n ∈ price_filter.price_precision, decimalPlaces p.1 ≤ n)]

def quantityStages (quantity : PositiveDecimal) : List Stage :=
  let quantity_filter := context.instrument_rules.quantity_filter
  [.plain (Between (some quantity_filter.min_quantity) quantity_filter.max_quantity
      quantity.1.value),
    incrementStage (some quantity) quantity_filter.step_size,
    .plain (∀ n ∈ quantity_filter.quantity_precision, decimalPlaces quantity.1 ≤ n)]

/-- The product of quantity and price is rounded before it is compared with the bounds. -/
def notionalStage (quantity : PositiveDecimal) : Stage :=
  let notional_filter := context.instrument_rules.notional_filter
  match notionalPrice context with
  | none => .plain ¬ (context.order_intent.order_type = .MARKET ∧
      notional_filter.requires_reference_price_for_market_orders = true)
  | some price =>
    { fails := Overflows (product quantity.1 price.1)
      accepts := ∀ notional, fix (product quantity.1 price.1) = .ok notional →
        Between notional_filter.min_notional notional_filter.max_notional notional.value
      rule := Between notional_filter.min_notional notional_filter.max_notional
        (quantity.1.value * price.1.value) }

def quantityAndNotionalStage : Stage :=
  match context.order_intent.quantity with
  | none => .plain True
  | some quantity => .all [.all (quantityStages context quantity), notionalStage context quantity]

/-- The stages of the validation, in the order of its checks. -/
def validationStages : List Stage :=
  [.plain (TradingEnabled context),
    .plain (ContractSupported context ∧ AssetsSupported context),
    .plain (OrderSupported context),
    gtdStage context,
    .all (priceStages context),
    quantityAndNotionalStage context]

end Stages

/-! Each check is what its stage says. -/

section Checks

variable (context : VenueOrderValidationContext)

theorem tradingStatus_eq_none : tradingStatusReason context = none ↔ TradingEnabled context := by
  simp [tradingStatusReason, firstReasonIf_eq_none, TradingEnabled]

theorem assetMismatch_iff : (∀ c ∈ assetMismatchChecks context, c.1 = false) ↔
    AssetsSupported context := by
  simp [assetMismatchChecks, AssetsSupported]

theorem contractAndAsset_eq_none :
    contractAndAssetReason context = none ↔ ContractSupported context ∧ AssetsSupported context := by
  rw [contractAndAssetReason, ContractSupported]
  cases context.instrument_rules.asset_semantics with
  | none =>
    rw [legacyContractAndAssetReason, firstReasonIf_eq_none, List.forall_mem_append,
      assetMismatch_iff]
    simp only [List.forall_mem_cons, List.not_mem_nil, false_implies, implies_true, and_true,
      Bool.not_eq_false', decide_eq_false_iff_not, not_not]
  | some semantics =>
    unfold assetSemanticsContractAndAssetReason
    rw [firstReasonIf_eq_none, List.forall_mem_cons, assetMismatch_iff, Bool.not_eq_false']

theorem contractAndAsset_ne_ok : contractAndAssetReason context ≠ some .OK := by
  rw [contractAndAssetReason]
  cases context.instrument_rules.asset_semantics with
  | none => exact firstReasonIf_ne_ok (by simp [assetMismatchChecks])
  | some semantics =>
    unfold assetSemanticsContractAndAssetReason
    exact firstReasonIf_ne_ok (by simp [assetMismatchChecks])

theorem any_eq_false {α : Type} {p : α → Bool} {o : Option α} :
    o.any p = false ↔ ∀ a ∈ o, p a = false := by
  cases o <;> simp

theorem orderSupport_eq_none : orderSupportReason context = none ↔ OrderSupported context := by
  rw [orderSupportReason, firstReasonIf_eq_none]
  simp only [List.forall_mem_cons, List.not_mem_nil, false_implies, implies_true, and_true,
    Bool.and_eq_false_imp, Bool.or_eq_false_iff, Bool.not_eq_false', decide_eq_false_iff_not,
    not_not, any_eq_false]
  exact ⟨fun ⟨h1, h2, h3, h4, h5⟩ => ⟨h1, h2, h3, h4, h5⟩,
    fun ⟨h1, h2, h3, h4, h5⟩ => ⟨h1, h2, h3, h4, h5⟩⟩

/-- The largest of a list of numbers, compared with a bound. -/
theorem foldl_max_le {m n : ℤ} {ms : List ℤ} :
    ms.foldl max m ≤ n ↔ ∀ k ∈ m :: ms, k ≤ n := by
  induction ms generalizing m with
  | nil => simp
  | cons k ms ih =>
    rw [List.foldl_cons, ih]
    simp only [List.forall_mem_cons, max_le_iff, and_assoc]

/-- The least durations of a venue that supports good-till-date orders are positive. -/
theorem gtdMinimums_pos (h : SupportsGtd context) : ∀ ms ∈ gtdMinimums context, 0 < ms := by
  have hvenue := context.venue_snapshot.gtd_positive h.1
  have hrules := context.instrument_rules.valid.2.1 h.2
  intro ms hms
  simp only [gtdMinimums, List.mem_filterMap, List.mem_cons, List.not_mem_nil, or_false, id] at hms
  rcases hms with ⟨m, rfl | rfl, hm⟩
  · rw [hm] at hvenue
    simpa [positiveOption] using hvenue
  · rw [hm] at hrules
    simpa [positiveOption] using hrules

theorem timedelta_cases {ms : ℤ} (hpos : 0 < ms) :
    (1000000000 * 86400000 ≤ ms ∧ timedeltaOfMillis ms = .error .timedelta) ∨
      (¬ 1000000000 * 86400000 ≤ ms ∧ timedeltaOfMillis ms = .ok (1000 * ms)) := by
  rw [timedeltaOfMillis]
  by_cases h : 1000000000 * 86400000 ≤ ms
  · refine .inl ⟨h, if_neg ?_⟩
    omega
  · refine .inr ⟨h, if_pos ?_⟩
    omega

/-- The comparison with the longest of the least durations. -/
theorem gtdBelowMinimum_cases (h : SupportsGtd context) :
    ((context.order_intent.expires_at ≠ none ∧
        ∃ ms ∈ gtdMinimums context, 1000000000 * 86400000 ≤ ms) ∧
      ∃ e, gtdBelowMinimum context = .error e) ∨
    (¬ (context.order_intent.expires_at ≠ none ∧
        ∃ ms ∈ gtdMinimums context, 1000000000 * 86400000 ≤ ms) ∧
      ∃ below, gtdBelowMinimum context = .ok below ∧
        (below = false ↔ ∀ ms ∈ gtdMinimums context, LastsAtLeast context ms)) := by
  have hpos := gtdMinimums_pos context h
  rw [gtdBelowMinimum]
  split
  · rename_i expires_at m ms hexpires hms
    have hmins : gtdMinimums context = m :: ms := hms
    have hmax : ∀ n, ms.foldl max m ≤ n ↔ ∀ k ∈ gtdMinimums context, k ≤ n := fun n => by
      rw [hmins]
      exact foldl_max_le
    have hmaxpos : 0 < ms.foldl max m := by
      have hm := (hmax (ms.foldl max m)).mp le_rfl m (hmins ▸ List.mem_cons_self)
      exact (hpos m (hmins ▸ List.mem_cons_self)).trans_le hm
    have hlarge : (∃ k ∈ gtdMinimums context, 1000000000 * 86400000 ≤ k) ↔
        1000000000 * 86400000 ≤ ms.foldl max m := by
      rw [← not_iff_not]
      push Not
      rw [← Int.le_sub_one_iff, hmax]
      exact forall₂_congr fun k _ => Int.le_sub_one_iff.symm
    rw [hlarge, hexpires]
    rcases timedelta_cases hmaxpos with ⟨hover, htime⟩ | ⟨hfits, htime⟩
    · refine .inl ⟨⟨by simp, hover⟩, .timedelta, ?_⟩
      rw [htime]
      rfl
    · refine .inr ⟨fun h => hfits h.2, _, by rw [htime]; rfl, ?_⟩
      rw [decide_eq_false_iff_not, not_lt]
      simp only [LastsAtLeast, hexpires, Option.mem_def, Option.some.injEq, forall_eq']
      -- the order lasts as long as the longest duration when it does so for each
      have hdiv := hmax ((expires_at.micros - context.order_intent.created_at.micros : ℤ) / 1000)
      constructor
      · intro hle k hk
        have := hdiv.mp (by omega) k hk
        omega
      · intro hall
        have := hdiv.mpr fun k hk => by
          have := hall k hk
          omega
        omega
  · rename_i hnone
    have hmissing : context.order_intent.expires_at = none ∨ gtdMinimums context = [] := by
      cases hexpires : context.order_intent.expires_at with
      | none => exact .inl rfl
      | some expires_at =>
        cases hmins : gtdMinimums context with
        | nil => exact .inr rfl
        | cons m ms => exact absurd hmins (hnone expires_at m ms hexpires)
    refine .inr ⟨?_, false, rfl, ?_⟩
    · rcases hmissing with h | h <;> simp [h]
    · rcases hmissing with h | h <;> simp [LastsAtLeast, h]

theorem gtd_models : Models (gtdReason context) (gtdStage context) := by
  rw [gtdReason]
  split
  · rename_i hgtd
    split
    · rename_i hunsupported
      have hnot : ¬ SupportsGtd context := by
        rintro ⟨hvenue, hrules⟩
        simp [hvenue, hrules] at hunsupported
      refine .inr ⟨fun h => hnot h.2.1, _, rfl, by simp, ?_⟩
      exact iff_of_false (by simp) fun h => hnot (h hgtd).1
    · rename_i hsupported
      have hsupports : SupportsGtd context := by simpa [SupportsGtd] using hsupported
      rcases gtdBelowMinimum_cases context hsupports with
        ⟨hfails, e, he⟩ | ⟨hruns, below, hbelow, hiff⟩
      · refine .inl ⟨⟨hgtd, hsupports, hfails⟩, e, ?_⟩
        rw [he]
        rfl
      · refine .inr ⟨fun h => hruns h.2.2, reasonIf below .GTD_BELOW_MINIMUM, ?_,
          reasonIf_ne_ok (by simp), ?_⟩
        · rw [hbelow]
          rfl
        · rw [reasonIf_eq_none, hiff]
          exact ⟨fun h _ => ⟨hsupports, h⟩, fun h => (h hgtd).2⟩
  · rename_i hgtd
    exact .inr ⟨fun h => hgtd h.1, none, rfl, by simp, iff_of_true rfl fun h => absurd h hgtd⟩

/-- The model of an order has the prices that its type asks for. -/
theorem requiredPrice_eq_none : requiredPriceReason context = none := by
  obtain ⟨-, hlimit, hstop, hprofit, -⟩ := context.order_intent.valid
  rw [requiredPriceReason, firstReasonIf_eq_none]
  simp only [List.forall_mem_cons, List.not_mem_nil, false_implies, implies_true, and_true,
    Bool.and_eq_false_imp, decide_eq_true_eq, Option.isNone_eq_false_iff,
    ← Option.ne_none_iff_isSome]
  refine ⟨fun h => ?_, hstop⟩
  rw [List.mem_cons, List.mem_cons, List.mem_singleton, ← or_assoc] at h
  rcases h with h | h
  · exact hlimit (by simpa using h)
  · exact hprofit h

theorem below_eq_false {value bound : Option PositiveDecimal} :
    belowOption value bound = false ↔ ∀ v ∈ value, ∀ m ∈ bound, m.1.value ≤ v.1.value := by
  cases value with
  | none => simp [belowOption]
  | some v =>
    cases bound with
    | none => simp [belowOption]
    | some m => simp [belowOption, Bool.eq_false_iff, lt_iff]

theorem between_iff {lower upper : Option PositiveDecimal} {value : Option PositiveDecimal} :
    (belowOption value lower = false ∧ belowOption upper value = false) ↔
      ∀ v ∈ value, Between lower upper v.1.value := by
  rw [below_eq_false, below_eq_false]
  exact ⟨fun ⟨h1, h2⟩ v hv => ⟨h1 v hv, fun m hm => h2 m hm v hv⟩,
    fun h => ⟨fun v hv => (h v hv).1, fun m hm v hv => (h v hv).2 m hm⟩⟩

theorem priceBounds_eq_none : priceBoundsReason context = none ↔
    (∀ p ∈ context.order_intent.limit_price,
      Between context.instrument_rules.price_filter.min_price
        context.instrument_rules.price_filter.max_price p.1.value) ∧
    ∀ p ∈ context.order_intent.stop_price,
      Between context.instrument_rules.price_filter.min_price
        context.instrument_rules.price_filter.max_price p.1.value := by
  rw [priceBoundsReason, firstReasonIf_eq_none]
  simp only [List.forall_mem_cons, List.not_mem_nil, false_implies, implies_true, and_true]
  rw [← between_iff, ← between_iff, and_assoc]

theorem precisionOk_iff {precision : Option ℕ} {value : PositiveDecimal} :
    precisionOk precision value = true ↔ ∀ p ∈ precision, decimalPlaces value.1 ≤ p := by
  cases precision <;> simp [precisionOk]

theorem pricePrecision_eq_none : pricePrecisionReason context = none ↔
    (∀ p ∈ context.order_intent.limit_price,
      ∀ n ∈ context.instrument_rules.price_filter.price_precision, decimalPlaces p.1 ≤ n) ∧
    ∀ p ∈ context.order_intent.stop_price,
      ∀ n ∈ context.instrument_rules.price_filter.price_precision, decimalPlaces p.1 ≤ n := by
  rw [pricePrecisionReason, firstReasonIf_eq_none]
  simp only [List.forall_mem_cons, List.not_mem_nil, false_implies, implies_true, and_true,
    any_eq_false, Bool.not_eq_false', precisionOk_iff]

theorem isOnIncrement_cases (value unit : PositiveDecimal) :
    (RemFails value.1 unit.1 ∧ ∃ e, isOnIncrement value unit = .error e) ∨
      (¬ RemFails value.1 unit.1 ∧ ∃ b, isOnIncrement value unit = .ok b ∧
        (b = true ↔ exactRem value.1 unit.1 ≤ (10 : ℚ) ^ tinyExp / 2)) := by
  rw [isOnIncrement]
  rcases rem_cases value.2 unit.2 with ⟨hfails, e, he⟩ | ⟨hruns, r, hr, hzero⟩
  · exact .inl ⟨hfails, .decimal e, by rw [he]; rfl⟩
  · exact .inr ⟨hruns, Decidable.decide (r.coeff = 0), by rw [hr]; rfl, by
      rw [decide_eq_true_eq, hzero]⟩

theorem onTick_models (price : Option PositiveDecimal) {reason : VenueOrderValidationReason}
    (hok : reason ≠ .OK) : Models (onTickReason price reason context)
      (incrementStage price context.instrument_rules.price_filter.tick_size) := by
  rw [onTickReason.eq_def]
  cases price with
  | none => exact .inr ⟨by simp [incrementStage], none, rfl, by simp, by simp [incrementStage]⟩
  | some price =>
    rcases isOnIncrement_cases price context.instrument_rules.price_filter.tick_size with
      ⟨hfails, e, he⟩ | ⟨hruns, onTick, hb, hzero⟩
    · exact .inl ⟨⟨price, rfl, hfails⟩, e, by simp only [he]; rfl⟩
    · refine .inr ⟨?_, reasonIf (!onTick) reason, by simp only [hb]; rfl, reasonIf_ne_ok hok, ?_⟩
      · rintro ⟨p, hp, hfails⟩
        obtain rfl := Option.some.inj hp
        exact hruns hfails
      · rw [reasonIf_eq_none, Bool.not_eq_false', hzero]
        simp [incrementStage]

theorem price_models : Models (priceReason context) (.all (priceStages context)) := by
  rw [priceReason, priceStages]
  apply firstFound_models
  have hbounds := models_plain (firstReasonIf_ne_ok (by simp)) (priceBounds_eq_none context)
  have hprecision := models_plain (firstReasonIf_ne_ok (by simp)) (pricePrecision_eq_none context)
  refine .cons (models_plain ?_ ?_) (.cons hbounds (.cons (onTick_models context _ (by simp))
    (.cons (onTick_models context _ (by simp)) (.cons hprecision .nil))))
  · simp [requiredPrice_eq_none]
  · simp [requiredPrice_eq_none]

theorem quantityFilter_models (quantity : PositiveDecimal) :
    Models (quantityFilterReason context quantity)
      (.all (quantityStages context quantity)) := by
  rw [quantityFilterReason, quantityStages]
  apply firstFound_models
  refine .cons (models_plain (firstReasonIf_ne_ok (by simp)) ?_)
    (.cons ?_ (.cons (models_plain (reasonIf_ne_ok (by simp)) ?_) .nil))
  · rw [firstReasonIf_eq_none]
    have h := @between_iff (some context.instrument_rules.quantity_filter.min_quantity)
      context.instrument_rules.quantity_filter.max_quantity (some quantity)
    simpa [belowOption] using h
  · rcases isOnIncrement_cases quantity context.instrument_rules.quantity_filter.step_size with
      ⟨hfails, e, he⟩ | ⟨hruns, onStep, hb, hzero⟩
    · exact .inl ⟨⟨quantity, rfl, hfails⟩, e, by rw [he]; rfl⟩
    · refine .inr ⟨?_, reasonIf (!onStep) .QUANTITY_NOT_ON_STEP, by rw [hb]; rfl,
        reasonIf_ne_ok (by simp), ?_⟩
      · rintro ⟨q, hq, hfails⟩
        obtain rfl := Option.some.inj hq
        exact hruns hfails
      · rw [reasonIf_eq_none, Bool.not_eq_false', hzero]
        simp [incrementStage]
  · rw [reasonIf_eq_none, Bool.not_eq_false', precisionOk_iff]

theorem notional_models (quantity : PositiveDecimal) :
    Models (notionalReason context quantity) (notionalStage context quantity) := by
  rw [notionalReason, notionalStage]
  cases notionalPrice context with
  | none =>
    apply models_plain (reasonIf_ne_ok (by simp))
    rw [reasonIf_eq_none, Bool.and_eq_false_imp, decide_eq_true_eq, not_and, Bool.not_eq_true]
  | some price =>
    rcases fix_cases (product quantity.1 price.1) with ⟨hover, hfix⟩ | ⟨hfits, notional, hfix, -⟩
    · exact .inl ⟨hover, .decimal .overflow, by simp only [mul_eq_fix, hfix]; rfl⟩
    · refine .inr ⟨hfits, _, by simp only [mul_eq_fix, hfix]; rfl,
        firstReasonIf_ne_ok (by simp), ?_⟩
      rw [firstReasonIf_eq_none]
      simp only [hfix, Except.ok.injEq, forall_eq', List.forall_mem_cons, List.not_mem_nil,
        false_implies, implies_true, and_true, any_eq_false]
      simp only [Bool.eq_false_iff, ne_eq, lt_iff, not_lt]
      exact Iff.rfl

theorem quantityAndNotional_models :
    Models (quantityAndNotionalReason context) (quantityAndNotionalStage context) := by
  rw [quantityAndNotionalReason, quantityAndNotionalStage]
  cases hquantity : context.order_intent.quantity with
  | none =>
    apply models_plain (reasonIf_ne_ok (by simp))
    -- an order without a quantity closes its position
    simp [reasonIf_eq_none, context.order_intent.valid.1 hquantity]
  | some quantity =>
    apply firstFound_models
    exact .cons (quantityFilter_models context quantity)
      (.cons (notional_models context quantity) .nil)

theorem validation_models :
    Models (firstFound context validationChecks) (.all (validationStages context)) := by
  rw [validationChecks, validationStages]
  apply firstFound_models
  exact .cons (models_plain (firstReasonIf_ne_ok (by simp)) (tradingStatus_eq_none context))
    (.cons (models_plain (contractAndAsset_ne_ok context) (contractAndAsset_eq_none context))
      (.cons (models_plain (firstReasonIf_ne_ok (by simp)) (orderSupport_eq_none context))
        (.cons (gtd_models context) (.cons (price_models context)
          (.cons (quantityAndNotional_models context) .nil)))))

end Checks

/-! The validation as a whole. -/

section Validation

variable (context : VenueOrderValidationContext)

/-- Without a price for its notional, an order that may be executed needs none. -/
theorem reference_not_needed {context : VenueOrderValidationContext} (h : Executable context)
    {quantity : PositiveDecimal} (hquantity : context.order_intent.quantity = some quantity)
    (hprice : notionalPrice context = none) :
    ¬ (context.order_intent.order_type = .MARKET ∧
      context.instrument_rules.notional_filter.requires_reference_price_for_market_orders =
        true) := by
  rintro ⟨hmarket, hrequires⟩
  rw [notionalPrice] at hprice
  split at hprice
  · cases hprice
  · cases hprice
  · rename_i hlimit hreference
    exact h.reference ⟨hmarket, by simp [hquantity], hlimit, hrequires⟩ hreference

theorem notional_rule {context : VenueOrderValidationContext} (h : Executable context)
    {quantity : PositiveDecimal} (hquantity : context.order_intent.quantity = some quantity) :
    (notionalStage context quantity).rule ↔ ∀ p ∈ notionalPrice context,
      Between context.instrument_rules.notional_filter.min_notional
        context.instrument_rules.notional_filter.max_notional
        (quantity.1.value * p.1.value) := by
  have hneeded := reference_not_needed h hquantity
  rw [notionalStage]
  cases hprice : notionalPrice context with
  | none => exact iff_of_true (hneeded hprice) (by simp)
  | some price => simp

theorem quantityAndNotional_rule {context : VenueOrderValidationContext}
    (h : Executable context) :
    (quantityAndNotionalStage context).rule ↔
      ∀ q ∈ context.order_intent.quantity, QuantityMeets context q ∧
        ∀ p ∈ notionalPrice context,
          Between context.instrument_rules.notional_filter.min_notional
            context.instrument_rules.notional_filter.max_notional (q.1.value * p.1.value) := by
  rw [quantityAndNotionalStage]
  cases hquantity : context.order_intent.quantity with
  | none => simp [Stage.plain]
  | some quantity =>
    simp only [Stage.all, quantityStages, Stage.plain, incrementStage, List.forall_mem_cons,
      List.not_mem_nil, false_implies, implies_true, and_true, Option.mem_def, Option.some.injEq,
      forall_eq', notional_rule h hquantity]
    exact ⟨fun ⟨⟨h1, h2, h3⟩, h4⟩ => ⟨⟨h1, h2, h3⟩, h4⟩,
      fun ⟨h1, h4⟩ => ⟨⟨h1.bounds, h1.on_step, h1.precision⟩, h4⟩⟩

theorem price_rule : (Stage.all (priceStages context)).rule ↔
    (∀ p ∈ context.order_intent.limit_price, PriceMeets context p) ∧
      ∀ p ∈ context.order_intent.stop_price, PriceMeets context p := by
  simp only [Stage.all, priceStages, Stage.plain, incrementStage, List.forall_mem_cons,
    List.not_mem_nil, false_implies, implies_true, and_true, true_and]
  constructor
  · rintro ⟨⟨hlimit, hstop⟩, hlimitTick, hstopTick, hlimitPlaces, hstopPlaces⟩
    exact ⟨fun p hp => ⟨hlimit p hp, hlimitTick p hp, hlimitPlaces p hp⟩,
      fun p hp => ⟨hstop p hp, hstopTick p hp, hstopPlaces p hp⟩⟩
  · rintro ⟨hlimit, hstop⟩
    exact ⟨⟨fun p hp => (hlimit p hp).bounds, fun p hp => (hstop p hp).bounds⟩,
      fun p hp => (hlimit p hp).on_tick, fun p hp => (hstop p hp).on_tick,
      fun p hp => (hlimit p hp).precision, fun p hp => (hstop p hp).precision⟩

/-- The rules of the stages are those of the venue. -/
theorem rules_iff {context : VenueOrderValidationContext} (h : Executable context) :
    (Stage.all (validationStages context)).rule ↔ MeetsRules context := by
  have hprice := price_rule context
  have hquantity := quantityAndNotional_rule h
  rw [Stage.all, validationStages]
  simp only [List.forall_mem_cons, List.not_mem_nil, false_implies, implies_true, and_true,
    hprice, hquantity]
  constructor
  · rintro ⟨-, -, hsupported, hexpiry, ⟨hlimit, hstop⟩, hq⟩
    exact ⟨hsupported, hexpiry, hlimit, hstop, fun q hq' => (hq q hq').1,
      fun q hq' => (hq q hq').2⟩
  · intro hmeets
    exact ⟨h.trading, ⟨h.contract, h.assets⟩, hmeets.supported, hmeets.expiry,
      ⟨hmeets.limit_price, hmeets.stop_price⟩,
      fun q hq => ⟨hmeets.quantity q hq, hmeets.notional q hq⟩⟩

/-- The validation gives a result, and finds an order that may be executed valid exactly when it
meets the rules. -/
def ValidatesExactly : Prop :=
  ∃ result, validateOrderAgainstVenueCapabilities context = .ok result ∧
    (Executable context → (result.valid = true ↔ MeetsRules context))

/-- The arithmetic that is reached stays in range, and what it rounds decides nothing. -/
structure ExactArithmetic : Prop where
  in_range : Runs (validationStages context)
  decides : Executable context →
    ((∀ s ∈ validationStages context, s.accepts) ↔ ∀ s ∈ validationStages context, s.rule)

def resultOf (r : Option VenueOrderValidationReason) : VenueOrderValidationResult :=
  match r with
  | some reason => invalidResult context reason
  | none => validResult context

theorem resultOf_verdict {r : Option VenueOrderValidationReason} (hok : r ≠ some .OK) :
    ((resultOf context r).valid, (resultOf context r).reason) =
      (decide (r = none), r.getD .OK) := by
  cases r with
  | none => rfl
  | some reason =>
    have hne : reason ≠ .OK := fun h => hok (congrArg some h)
    simp [resultOf, invalidResult, hne]

/-- The validation decides the rules of a venue exactly when its arithmetic does. -/
theorem validation_exact_iff : ValidatesExactly context ↔ ExactArithmetic context := by
  have hvalid {r : Option VenueOrderValidationReason} (hok : r ≠ some .OK) :
      (match r with
        | some reason => invalidResult context reason
        | none => validResult context).valid = true ↔ r = none := by
    cases r with
    | none => simp [validResult]
    | some reason =>
      have hreason : reason ≠ .OK := fun h => hok (congrArg some h)
      simp [invalidResult, hreason]
  rcases validation_models context with ⟨hfails, e, he⟩ | ⟨hruns, r, hr, hok, haccepts⟩
  · refine iff_of_false ?_ fun h => hfails h.in_range
    rintro ⟨result, hresult, -⟩
    rw [validateOrderAgainstVenueCapabilities, he] at hresult
    cases hresult
  · rw [ValidatesExactly, validateOrderAgainstVenueCapabilities, hr]
    constructor
    · rintro ⟨result, hresult, hexact⟩
      obtain rfl := Except.ok.inj hresult
      refine ⟨not_not.mp hruns, fun h => ?_⟩
      have hnone : r = none ↔ MeetsRules context := (hvalid hok).symm.trans (hexact h)
      rw [haccepts, ← rules_iff h] at hnone
      exact hnone
    · rintro ⟨-, hdecides⟩
      refine ⟨_, rfl, fun h => (hvalid hok).trans ?_⟩
      rw [haccepts, ← rules_iff h]
      exact hdecides h

end Validation

/-! A limit order whose price is too large for the tick, and one whose notional is rounded to the
largest that is allowed. -/

def limitOrderFields (limit_price : PositiveDecimal) : OrderIntentFields where
  intent_kind := .ENTRY
  stack_runtime_id := none
  decision_output_id := none
  venue_id := ⟨"BINANCE", .checked evaluates⟩
  instrument_id := ⟨"BTCUSDT-PERP", .checked evaluates⟩
  account_id := none
  side := .BUY
  position_side := .LONG
  order_type := .LIMIT
  time_in_force := some .GTC
  quantity := some ⟨⟨false, 1, 0⟩, .refl true⟩
  limit_price := some limit_price
  stop_price := none
  reduce_only := false
  post_only := false
  close_position := false
  expires_at := none
  permission_reason := .OK
  created_at := sampleTime
  rationale_hash := none

def limitOrder (limit_price : PositiveDecimal) : OrderIntent :=
  { limitOrderFields limit_price with
    valid := by
      simp [OrderIntentFields.Valid, limitOrderFields] }

/-- The tick is the price itself, and the largest notional is one. -/
def tickedRules (tick_size : PositiveDecimal) : VenueInstrumentRuleSnapshot :=
  { sampleRule ⟨"BTCUSDT", by decide⟩ with
    price_filter := ⟨tick_size, none, none, none, by rfl⟩
    notional_filter := ⟨none, some ⟨⟨false, 1, 0⟩, .refl true⟩, false, by decide⟩
    valid := (sampleRule ⟨"BTCUSDT", by decide⟩).valid }

def limitContext (limit_price tick_size : PositiveDecimal) : VenueOrderValidationContext where
  order_intent := limitOrder limit_price
  venue_snapshot := sampleVenue
  instrument_rules := tickedRules tick_size
  reference_price := none
  requested_at := sampleTime
  venue_matches := rfl
  rules_match := ⟨rfl, rfl⟩

/-- Just above one, with one digit more than the context has. -/
def longPrice : PositiveDecimal := ⟨⟨false, 10 ^ 28 + 1, -28⟩, by decide⟩

def largePrice : PositiveDecimal := ⟨⟨false, 1, 28⟩, by decide⟩

def unitTick : PositiveDecimal := ⟨⟨false, 1, 0⟩, .refl true⟩

theorem longPrice_executable : Executable (limitContext longPrice longPrice) where
  trading := ⟨rfl, rfl, rfl⟩
  contract := ⟨by decide, by decide, by decide⟩
  assets := ⟨List.mem_singleton.mpr rfl, List.mem_singleton.mpr rfl⟩
  reference h := absurd h.2.2.1 (by simp [limitContext, limitOrder, limitOrderFields])

theorem longPrice_breaks_rules : ¬ MeetsRules (limitContext longPrice longPrice) := by
  intro h
  have hupper := (h.notional _ rfl _ rfl).2 _ rfl
  norm_num [Decimal.value, longPrice] at hupper

theorem validation_inexact : ¬ ValidatesExactly (limitContext largePrice unitTick) ∧
    ¬ ValidatesExactly (limitContext longPrice longPrice) := by
  constructor
  · rintro ⟨result, hresult, -⟩
    have hraises : (validateOrderAgainstVenueCapabilities
        (limitContext largePrice unitTick)).map (·.valid) =
          .error (.decimal .invalidOperation) := by decide +kernel
    rw [hresult] at hraises
    cases hraises
  · rintro ⟨result, hresult, hexact⟩
    have hvalid : (validateOrderAgainstVenueCapabilities
        (limitContext longPrice longPrice)).map (·.valid) = .ok true := by decide +kernel
    rw [hresult] at hvalid
    exact longPrice_breaks_rules ((hexact longPrice_executable).mp (Except.ok.inj hvalid))

end FuturesBot.Venues
