import FuturesBot.VenueSpellings

/-! The validation of two orders that differ only in how their numbers are written: every check but
those of the number of places comes to the same, and so the verdicts differ only by them. -/
namespace FuturesBot.Venues

open DateTimes DecimalNumbers Decimal Orders Assets

/-! The two contexts. -/

structure SameOrders (o p : OrderIntentFields) : Prop where
  rest : { o with
    quantity := p.quantity, limit_price := p.limit_price, stop_price := p.stop_price } = p
  quantity : SamePositive o.quantity p.quantity
  limit_price : SamePositive o.limit_price p.limit_price
  stop_price : SamePositive o.stop_price p.stop_price

structure SameContext (c d : VenueOrderValidationContext) : Prop where
  order : SameOrders c.order_intent.toOrderIntentFields d.order_intent.toOrderIntentFields
  venue : c.venue_snapshot = d.venue_snapshot
  rules : SameRules c.instrument_rules.toRuleFields d.instrument_rules.toRuleFields
  reference_price : SamePositive c.reference_price d.reference_price
  requested_at : c.requested_at = d.requested_at

theorem SameOrders.member {α : Type} {o p : OrderIntentFields} (h : SameOrders o p)
    (f : OrderIntentFields → α) :
    f { o with
      quantity := p.quantity, limit_price := p.limit_price, stop_price := p.stop_price } = f p :=
  congrArg f h.rest

/-! The checks that read no number of places. -/

theorem SamePositive.isNone {a b : Option PositiveDecimal} (h : SamePositive a b) :
    a.isNone = b.isNone := by
  cases a <;> cases b <;> first | rfl | cases h

theorem belowOption_congr {a b a' b' : Option PositiveDecimal} (ha : SamePositive a a')
    (hb : SamePositive b b') : belowOption a b = belowOption a' b' := by
  cases a <;> cases a' <;> try cases ha
  · rfl
  · cases b <;> cases b' <;> try cases hb
    · rfl
    · rename_i a a' b b'
      rw [belowOption, belowOption, Bool.eq_iff_iff, lt_iff, lt_iff, samePositive_some.mp ha,
        samePositive_some.mp hb]

theorem isOnIncrement_congr {v u v' u' : PositiveDecimal} (hv : v.1.value = v'.1.value)
    (hu : u.1.value = u'.1.value) : isOnIncrement v u = isOnIncrement v' u' := by
  have hzero := rem_zero_congr v.2 u.2 v'.2 u'.2 hv hu
  rw [isOnIncrement, isOnIncrement]
  cases hr : v.1.rem u.1 with
  | error e =>
    cases hr' : v'.1.rem u'.1 with
    | error e' =>
      rw [hr, hr'] at hzero
      rw [Except.error.inj hzero]
    | ok r' =>
      rw [hr, hr'] at hzero
      cases hzero
  | ok r =>
    cases hr' : v'.1.rem u'.1 with
    | error e' =>
      rw [hr, hr'] at hzero
      cases hzero
    | ok r' =>
      rw [hr, hr'] at hzero
      exact congrArg Except.ok (Except.ok.inj hzero)

section Checks
variable {c d : VenueOrderValidationContext}

theorem tradingStatus_congr (h : SameContext c d) :
    tradingStatusReason c = tradingStatusReason d := by
  have hstatus : c.instrument_rules.trading_status = d.instrument_rules.trading_status :=
    h.rules.member (·.trading_status)
  rw [tradingStatusReason, tradingStatusReason, h.venue, hstatus]

theorem readiness_congr {a b : ContractAssetSemantics} (h : SameSemantics a b) :
    (validateContractAssetSemanticsReadiness a).ready =
      (validateContractAssetSemanticsReadiness b).ready := by
  rw [← h.rest]
  rfl

theorem contractAndAsset_congr (h : SameContext c d) :
    contractAndAssetReason c = contractAndAssetReason d := by
  have hkind : c.instrument_rules.contract_kind = d.instrument_rules.contract_kind :=
    h.rules.member (·.contract_kind)
  have hmargin : c.instrument_rules.margin_asset = d.instrument_rules.margin_asset :=
    h.rules.member (·.margin_asset)
  have hsettlement : c.instrument_rules.settlement_asset = d.instrument_rules.settlement_asset :=
    h.rules.member (·.settlement_asset)
  have hassets : assetMismatchChecks c = assetMismatchChecks d := by
    rw [assetMismatchChecks, assetMismatchChecks, hmargin, hsettlement, h.venue]
  have hsemantics := h.rules.asset_semantics
  rw [contractAndAssetReason, contractAndAssetReason]
  generalize c.instrument_rules.asset_semantics = x at hsemantics
  generalize d.instrument_rules.asset_semantics = y at hsemantics
  cases hsemantics with
  | none =>
    dsimp only
    rw [legacyContractAndAssetReason, legacyContractAndAssetReason, hkind, hmargin, hsettlement,
      hassets]
  | some hxy =>
    dsimp only
    rw [assetSemanticsContractAndAssetReason, assetSemanticsContractAndAssetReason,
      readiness_congr hxy, hassets]

theorem orderSupport_congr (h : SameContext c d) :
    orderSupportReason c = orderSupportReason d := by
  have htype : c.order_intent.order_type = d.order_intent.order_type :=
    h.order.member (·.order_type)
  have htime : c.order_intent.time_in_force = d.order_intent.time_in_force :=
    h.order.member (·.time_in_force)
  have hreduceOnly : c.order_intent.reduce_only = d.order_intent.reduce_only :=
    h.order.member (·.reduce_only)
  have hpostOnly : c.order_intent.post_only = d.order_intent.post_only :=
    h.order.member (·.post_only)
  have hclosePosition : c.order_intent.close_position = d.order_intent.close_position :=
    h.order.member (·.close_position)
  have htypes : c.instrument_rules.supported_order_types =
      d.instrument_rules.supported_order_types := h.rules.member (·.supported_order_types)
  have htimes : c.instrument_rules.supported_time_in_force =
      d.instrument_rules.supported_time_in_force := h.rules.member (·.supported_time_in_force)
  have hreduce : c.instrument_rules.supports_reduce_only =
      d.instrument_rules.supports_reduce_only := h.rules.member (·.supports_reduce_only)
  have hpost : c.instrument_rules.supports_post_only =
      d.instrument_rules.supports_post_only := h.rules.member (·.supports_post_only)
  have hclose : c.instrument_rules.supports_close_position =
      d.instrument_rules.supports_close_position := h.rules.member (·.supports_close_position)
  simp only [orderSupportReason, h.venue, htypes, htimes, hreduce, hpost, hclose, htype, htime,
    hreduceOnly, hpostOnly, hclosePosition]

theorem gtd_congr (h : SameContext c d) : gtdReason c = gtdReason d := by
  have htime : c.order_intent.time_in_force = d.order_intent.time_in_force :=
    h.order.member (·.time_in_force)
  have hexpires : c.order_intent.expires_at = d.order_intent.expires_at :=
    h.order.member (·.expires_at)
  have hcreated : c.order_intent.created_at = d.order_intent.created_at :=
    h.order.member (·.created_at)
  have hsupports : c.instrument_rules.supports_gtd = d.instrument_rules.supports_gtd :=
    h.rules.member (·.supports_gtd)
  have hduration : c.instrument_rules.min_gtd_duration_ms =
      d.instrument_rules.min_gtd_duration_ms := h.rules.member (·.min_gtd_duration_ms)
  rw [gtdReason, gtdReason, gtdBelowMinimum, gtdBelowMinimum, htime, hexpires, hcreated, h.venue,
    hsupports, hduration]

theorem requiredPrice_congr (h : SameContext c d) :
    requiredPriceReason c = requiredPriceReason d := by
  have htype : c.order_intent.order_type = d.order_intent.order_type :=
    h.order.member (·.order_type)
  rw [requiredPriceReason, requiredPriceReason, htype, h.order.limit_price.isNone,
    h.order.stop_price.isNone]

theorem priceBounds_congr (h : SameContext c d) : priceBoundsReason c = priceBoundsReason d := by
  rw [priceBoundsReason, priceBoundsReason,
    belowOption_congr h.order.limit_price h.rules.price_filter.min_price,
    belowOption_congr h.rules.price_filter.max_price h.order.limit_price,
    belowOption_congr h.order.stop_price h.rules.price_filter.min_price,
    belowOption_congr h.rules.price_filter.max_price h.order.stop_price]

theorem onTick_congr (h : SameContext c d) {p q : Option PositiveDecimal} (hpq : SamePositive p q)
    (reason : VenueOrderValidationReason) : onTickReason p reason c = onTickReason q reason d := by
  rw [onTickReason.eq_def, onTickReason.eq_def]
  cases p <;> cases q <;> try cases hpq
  · rfl
  · dsimp only
    rw [isOnIncrement_congr (samePositive_some.mp hpq) h.rules.price_filter.tick_size]

/-! The validation as a row of parts, two of which count places. -/

/-- One part after the other: the second is made when the first finds nothing. -/
def andThen (x y : Except ArithmeticFailure (Option VenueOrderValidationReason)) :
    Except ArithmeticFailure (Option VenueOrderValidationReason) :=
  match x with
  | .error e => .error e
  | .ok (some reason) => .ok (some reason)
  | .ok none => y

theorem andThen_assoc (x y z : Except ArithmeticFailure (Option VenueOrderValidationReason)) :
    andThen (andThen x y) z = andThen x (andThen y z) := by
  rcases x with e | _ | reason <;> rfl

theorem andThen_none (x : Except ArithmeticFailure (Option VenueOrderValidationReason)) :
    andThen x (.ok none) = x := by
  rcases x with e | _ | reason <;> rfl

theorem firstFound_cons (context : VenueOrderValidationContext) (check : ReasonCheck)
    (checks : List ReasonCheck) : firstFound context (check :: checks) =
      andThen (check context) (firstFound context checks) := by
  rw [firstFound]
  rcases check context with e | _ | reason <;> rfl

theorem firstFound_nil (context : VenueOrderValidationContext) :
    firstFound context [] = .ok none := rfl

/-- The checks before the places of the prices are counted. -/
def beforePricePlaces (context : VenueOrderValidationContext) :
    Except ArithmeticFailure (Option VenueOrderValidationReason) :=
  firstFound context
    [fun context => .ok (tradingStatusReason context),
      fun context => .ok (contractAndAssetReason context),
      fun context => .ok (orderSupportReason context),
      gtdReason,
      fun context => .ok (requiredPriceReason context),
      fun context => .ok (priceBoundsReason context),
      onTickReason context.order_intent.limit_price .PRICE_NOT_ON_TICK,
      onTickReason context.order_intent.stop_price .STOP_PRICE_NOT_ON_TICK]

/-- The checks of a quantity before its places are counted. -/
def beforeQuantityPlaces (context : VenueOrderValidationContext) :
    Except ArithmeticFailure (Option VenueOrderValidationReason) :=
  match context.order_intent.quantity with
  | none => .ok none
  | some quantity =>
    let quantity_filter := context.instrument_rules.quantity_filter
    firstFound context
      [fun _ => .ok (firstReasonIf
          [(quantity.1.lt quantity_filter.min_quantity.1, .QUANTITY_BELOW_MINIMUM),
            (belowOption quantity_filter.max_quantity (some quantity),
              .QUANTITY_ABOVE_MAXIMUM)]),
        fun _ => (isOnIncrement quantity quantity_filter.step_size).map fun onStep =>
          reasonIf (!onStep) .QUANTITY_NOT_ON_STEP]

def quantityPlaces (context : VenueOrderValidationContext) : Option VenueOrderValidationReason :=
  reasonIf (context.order_intent.quantity.any fun quantity =>
    !precisionOk context.instrument_rules.quantity_filter.quantity_precision quantity)
    .QUANTITY_PRECISION_EXCEEDED

/-- What is checked after all places are counted. -/
def afterPlaces (context : VenueOrderValidationContext) :
    Except ArithmeticFailure (Option VenueOrderValidationReason) :=
  match context.order_intent.quantity with
  | none => .ok (reasonIf (!context.order_intent.close_position) .QUANTITY_REQUIRED)
  | some quantity => notionalReason context quantity

theorem validation_parts (context : VenueOrderValidationContext) :
    firstFound context validationChecks = andThen (beforePricePlaces context)
      (andThen (.ok (pricePrecisionReason context)) (andThen (beforeQuantityPlaces context)
        (andThen (.ok (quantityPlaces context)) (afterPlaces context)))) := by
  have hquantity : quantityAndNotionalReason context = andThen (beforeQuantityPlaces context)
      (andThen (.ok (quantityPlaces context)) (afterPlaces context)) := by
    rw [quantityAndNotionalReason, beforeQuantityPlaces, quantityPlaces, afterPlaces]
    cases context.order_intent.quantity with
    | none => rfl
    | some quantity =>
      simp only [quantityFilterReason, firstFound_cons, firstFound_nil, andThen_none,
        andThen_assoc, Option.any_some]
  rw [validationChecks, beforePricePlaces]
  simp only [firstFound_cons, firstFound_nil, priceReason, andThen_none, andThen_assoc, hquantity]

/-! Each part but those that count places comes to the same. -/

theorem beforePricePlaces_congr (h : SameContext c d) :
    beforePricePlaces c = beforePricePlaces d := by
  rw [beforePricePlaces, beforePricePlaces]
  simp only [firstFound_cons, firstFound_nil, tradingStatus_congr h, contractAndAsset_congr h,
    orderSupport_congr h, gtd_congr h, requiredPrice_congr h, priceBounds_congr h,
    onTick_congr h h.order.limit_price, onTick_congr h h.order.stop_price]

theorem beforeQuantityPlaces_congr (h : SameContext c d) :
    beforeQuantityPlaces c = beforeQuantityPlaces d := by
  have hsame := h.order.quantity
  rw [beforeQuantityPlaces, beforeQuantityPlaces]
  generalize c.order_intent.quantity = x at hsame
  generalize d.order_intent.quantity = y at hsame
  cases x <;> cases y <;> try cases hsame
  · rfl
  · rename_i q q'
    have hvalue := samePositive_some.mp hsame
    have hbelow : q.1.lt c.instrument_rules.quantity_filter.min_quantity.1 =
        q'.1.lt d.instrument_rules.quantity_filter.min_quantity.1 := by
      rw [Bool.eq_iff_iff, lt_iff, lt_iff, hvalue, h.rules.quantity_filter.min_quantity]
    simp only [firstFound_cons, firstFound_nil, hbelow,
      belowOption_congr h.rules.quantity_filter.max_quantity hsame,
      isOnIncrement_congr hvalue h.rules.quantity_filter.step_size]

theorem notionalPrice_congr (h : SameContext c d) :
    SamePositive (notionalPrice c) (notionalPrice d) := by
  have htype : c.order_intent.order_type = d.order_intent.order_type :=
    h.order.member (·.order_type)
  have hlimit := h.order.limit_price
  have hreference := h.reference_price
  rw [notionalPrice, notionalPrice, htype]
  generalize c.order_intent.limit_price = x at hlimit
  generalize d.order_intent.limit_price = y at hlimit
  generalize c.reference_price = x' at hreference
  generalize d.reference_price = y' at hreference
  cases x <;> cases y <;> try cases hlimit
  · cases x' <;> cases y' <;> try cases hreference
    · dsimp only
      split_ifs
      · exact h.order.stop_price
      · rfl
    · exact hreference
  · exact hlimit

theorem any_lt_congr {m m' : Option PositiveDecimal} {f f' : PositiveDecimal → Bool}
    (hm : SamePositive m m') (hf : ∀ a b : PositiveDecimal, a.1.value = b.1.value → f a = f' b) :
    m.any f = m'.any f' := by
  cases m <;> cases m' <;> try cases hm
  · rfl
  · exact hf _ _ (samePositive_some.mp hm)

theorem notional_congr (h : SameContext c d) {q q' : PositiveDecimal}
    (hq : q.1.value = q'.1.value) : notionalReason c q = notionalReason d q' := by
  have htype : c.order_intent.order_type = d.order_intent.order_type :=
    h.order.member (·.order_type)
  have hprice := notionalPrice_congr h
  rw [notionalReason, notionalReason]
  generalize notionalPrice c = x at hprice
  generalize notionalPrice d = y at hprice
  cases x <;> cases y <;> try cases hprice
  · dsimp only
    rw [htype, h.rules.notional_filter.requires]
  · rename_i p p'
    have hmul := mul_value_congr q.2 p.2 q'.2 p'.2 hq (samePositive_some.mp hprice)
    dsimp only
    generalize q.1.mul p.1 = r at hmul
    generalize q'.1.mul p'.1 = r' at hmul
    cases r <;> cases r' <;> try cases hmul
    · rfl
    · rename_i r r'
      have hr : r.value = r'.value := Except.ok.inj hmul
      have hmin := @any_lt_congr _ _ (fun m => r.lt m.1) (fun m => r'.lt m.1)
        h.rules.notional_filter.min_notional fun a b hab => by
          rw [Bool.eq_iff_iff, lt_iff, lt_iff, hr, hab]
      have hmax := @any_lt_congr _ _ (fun m => m.1.lt r) (fun m => m.1.lt r')
        h.rules.notional_filter.max_notional fun a b hab => by
          rw [Bool.eq_iff_iff, lt_iff, lt_iff, hr, hab]
      apply congrArg Except.ok
      dsimp only
      rw [hmin, hmax]

theorem afterPlaces_congr (h : SameContext c d) : afterPlaces c = afterPlaces d := by
  have hclose : c.order_intent.close_position = d.order_intent.close_position :=
    h.order.member (·.close_position)
  have hsame := h.order.quantity
  rw [afterPlaces, afterPlaces]
  generalize c.order_intent.quantity = x at hsame
  generalize d.order_intent.quantity = y at hsame
  cases x <;> cases y <;> try cases hsame
  · dsimp only
    rw [hclose]
  · exact notional_congr h (samePositive_some.mp hsame)

end Checks

/-! The reasons that each part can give. -/

/-- The only reasons that are found are among these. -/
def FindsOnly (x : Except ArithmeticFailure (Option VenueOrderValidationReason))
    (reasons : List VenueOrderValidationReason) : Prop :=
  ∀ reason, x = .ok (some reason) → reason ∈ reasons

theorem findsOnly_andThen {x y : Except ArithmeticFailure (Option VenueOrderValidationReason)}
    {reasons : List VenueOrderValidationReason} (hx : FindsOnly x reasons)
    (hy : FindsOnly y reasons) : FindsOnly (andThen x y) reasons := by
  intro reason h
  rcases x with e | _ | found
  · cases h
  · exact hy reason h
  · exact hx reason h

theorem FindsOnly.mono {x : Except ArithmeticFailure (Option VenueOrderValidationReason)}
    {reasons more : List VenueOrderValidationReason} (h : FindsOnly x reasons)
    (hmore : reasons ⊆ more) : FindsOnly x more :=
  fun reason hreason => hmore (h reason hreason)

theorem findsOnly_reasonIf (failed : Bool) {reason : VenueOrderValidationReason}
    {reasons : List VenueOrderValidationReason} (h : reason ∈ reasons) :
    FindsOnly (.ok (reasonIf failed reason)) reasons := by
  intro found hfound
  cases failed
  · cases hfound
  · cases hfound
    exact h

theorem findsOnly_firstReasonIf {checks : List (Bool × VenueOrderValidationReason)}
    {reasons : List VenueOrderValidationReason} (h : checks.map (·.2) ⊆ reasons) :
    FindsOnly (.ok (firstReasonIf checks)) reasons :=
  fun _ hreason => h (firstReasonIf_mem (Except.ok.inj hreason))

theorem FindsOnly.map_firstReasonIf {α : Type} {x : Except ArithmeticFailure α}
    {f : α → Option VenueOrderValidationReason} {reasons : List VenueOrderValidationReason}
    (h : ∀ a, FindsOnly (.ok (f a)) reasons) : FindsOnly (x.map f) reasons := by
  cases x with
  | error e => exact fun _ hreason => nomatch hreason
  | ok a => exact h a

section Reasons
variable (context : VenueOrderValidationContext)

theorem pricePrecision_findsOnly :
    FindsOnly (.ok (pricePrecisionReason context)) [.PRICE_PRECISION_EXCEEDED] :=
  findsOnly_firstReasonIf (by simp)

theorem quantityPlaces_findsOnly :
    FindsOnly (.ok (quantityPlaces context)) [.QUANTITY_PRECISION_EXCEEDED] :=
  findsOnly_reasonIf _ (by simp)

theorem beforeQuantityPlaces_findsOnly : FindsOnly (beforeQuantityPlaces context)
    [.QUANTITY_BELOW_MINIMUM, .QUANTITY_ABOVE_MAXIMUM, .QUANTITY_NOT_ON_STEP] := by
  rw [beforeQuantityPlaces]
  split
  · exact fun _ hreason => nomatch hreason
  · simp only [firstFound_cons, firstFound_nil, andThen_none]
    exact findsOnly_andThen (findsOnly_firstReasonIf (by simp))
      (.map_firstReasonIf fun _ => findsOnly_reasonIf _ (by simp))

theorem afterPlaces_findsOnly : FindsOnly (afterPlaces context)
    [.QUANTITY_REQUIRED, .REFERENCE_PRICE_REQUIRED, .NOTIONAL_BELOW_MINIMUM,
      .NOTIONAL_ABOVE_MAXIMUM] := by
  rw [afterPlaces]
  split
  · exact findsOnly_reasonIf _ (by simp)
  · rw [notionalReason]
    split
    · exact findsOnly_reasonIf _ (by simp)
    · exact .map_firstReasonIf fun _ => findsOnly_firstReasonIf (by simp)

end Reasons

/-! Two rows that differ in one part. -/

/-- The rows come to the same exactly when the part does, where it is reached, and the rest does,
where the part finds nothing: what the part finds, nothing after it does. -/
theorem andThen_eq_iff {x p q r s : Except ArithmeticFailure (Option VenueOrderValidationReason)}
    {reason : VenueOrderValidationReason} (hp : p = .ok none ∨ p = .ok (some reason))
    (hq : q = .ok none ∨ q = .ok (some reason)) (hr : r ≠ .ok (some reason))
    (hs : s ≠ .ok (some reason)) :
    andThen x (andThen p r) = andThen x (andThen q s) ↔
      (x = .ok none → p = q ∧ (p = .ok none → r = s)) := by
  rcases x with e | _ | found
  · exact iff_of_true rfl fun h => nomatch h
  · rcases hp with rfl | rfl
    · rcases hq with rfl | rfl
      · simp [andThen]
      · simpa [andThen] using hr
    · rcases hq with rfl | rfl
      · simpa [andThen] using hs.symm
      · simp [andThen]
  · exact iff_of_true rfl fun h => nomatch h

theorem FindsOnly.cases {r : Option VenueOrderValidationReason}
    {reason : VenueOrderValidationReason} (h : FindsOnly (.ok r) [reason]) :
    r = none ∨ r = some reason := by
  cases r with
  | none => exact .inl rfl
  | some found => exact .inr (congrArg some (List.mem_singleton.mp (h found rfl)))

/-! The verdicts. -/

/-- What a validation says: valid or not, and the reason. -/
def verdict (context : VenueOrderValidationContext) :
    Except ArithmeticFailure (Bool × VenueOrderValidationReason) :=
  (validateOrderAgainstVenueCapabilities context).map fun result => (result.valid, result.reason)

/-- The checks that come before the count of the places of the prices let the order through. -/
def PricePlacesReached (context : VenueOrderValidationContext) : Prop :=
  beforePricePlaces context = .ok none

def PricePlacesAllowed (context : VenueOrderValidationContext) : Prop :=
  (∀ p ∈ context.order_intent.limit_price,
      precisionOk context.instrument_rules.price_filter.price_precision p = true) ∧
    ∀ p ∈ context.order_intent.stop_price,
      precisionOk context.instrument_rules.price_filter.price_precision p = true

/-- The checks that come before the count of the places of the quantity let the order through. -/
def QuantityPlacesReached (context : VenueOrderValidationContext) : Prop :=
  PricePlacesReached context ∧ PricePlacesAllowed context ∧
    beforeQuantityPlaces context = .ok none

def QuantityPlacesAllowed (context : VenueOrderValidationContext) : Prop :=
  ∀ q ∈ context.order_intent.quantity,
    precisionOk context.instrument_rules.quantity_filter.quantity_precision q = true

/-- Every count of places that is reached comes out alike. -/
structure PlacesAlike (c d : VenueOrderValidationContext) : Prop where
  prices : PricePlacesReached c → (PricePlacesAllowed c ↔ PricePlacesAllowed d)
  quantity : QuantityPlacesReached c → (QuantityPlacesAllowed c ↔ QuantityPlacesAllowed d)

theorem pricePrecision_none_iff (context : VenueOrderValidationContext) :
    pricePrecisionReason context = none ↔ PricePlacesAllowed context := by
  rw [pricePrecisionReason, firstReasonIf_eq_none, PricePlacesAllowed]
  simp only [List.forall_mem_cons, List.not_mem_nil, false_implies, implies_true, and_true,
    any_eq_false, Bool.not_eq_false']

theorem quantityPlaces_none_iff (context : VenueOrderValidationContext) :
    quantityPlaces context = none ↔ QuantityPlacesAllowed context := by
  rw [quantityPlaces, reasonIf_eq_none, any_eq_false, QuantityPlacesAllowed]
  simp only [Bool.not_eq_false']

/-- Two counts of places give the same reason exactly when both allow them or neither does. -/
theorem reasons_eq_iff {r s : Option VenueOrderValidationReason}
    {reason : VenueOrderValidationReason} (hr : r = none ∨ r = some reason)
    (hs : s = none ∨ s = some reason) : r = s ↔ (r = none ↔ s = none) := by
  rcases hr with rfl | rfl <;> rcases hs with rfl | rfl <;> simp

/-- The verdict tells what is found. -/
theorem verdict_eq_iff (c d : VenueOrderValidationContext) : verdict c = verdict d ↔
    firstFound c validationChecks = firstFound d validationChecks := by
  have hverdict : ∀ context, verdict context = (firstFound context validationChecks).map
      fun r => (decide (r = none), r.getD .OK) := by
    intro context
    rw [verdict, validateOrderAgainstVenueCapabilities]
    rcases validation_models context with ⟨-, e, he⟩ | ⟨-, r, hr, hok, -⟩
    · rw [he]
      rfl
    · rw [hr]
      exact congrArg Except.ok (resultOf_verdict context hok)
  rw [hverdict, hverdict]
  rcases validation_models c with ⟨-, e, he⟩ | ⟨-, r, hr, hok, -⟩
  · rcases validation_models d with ⟨-, e', he'⟩ | ⟨-, r', hr', -⟩
    · rw [he, he']
      simp [Except.map]
    · rw [he, hr']
      exact iff_of_false (by rintro ⟨⟩) (by rintro ⟨⟩)
  · rcases validation_models d with ⟨-, e', he'⟩ | ⟨-, r', hr', hok', -⟩
    · rw [hr, he']
      exact iff_of_false (by rintro ⟨⟩) (by rintro ⟨⟩)
    · rw [hr, hr']
      cases r <;> cases r' <;> simp [Except.map]

/-- Of two contexts that differ only in how numbers are written, the verdicts are the same exactly
when every count of places that is reached comes out alike. -/
theorem verdicts_eq_iff {c d : VenueOrderValidationContext} (h : SameContext c d) :
    verdict c = verdict d ↔ PlacesAlike c d := by
  have hprice : ∀ context, pricePrecisionReason context = none ∨
      pricePrecisionReason context = some .PRICE_PRECISION_EXCEEDED :=
    fun context => (pricePrecision_findsOnly context).cases
  have hquantity : ∀ context, quantityPlaces context = none ∨
      quantityPlaces context = some .QUANTITY_PRECISION_EXCEEDED :=
    fun context => (quantityPlaces_findsOnly context).cases
  have hlater : ∀ context, andThen (beforeQuantityPlaces context)
      (andThen (.ok (quantityPlaces context)) (afterPlaces context)) ≠
        .ok (some .PRICE_PRECISION_EXCEEDED) := by
    intro context heq
    have hfinds := findsOnly_andThen ((beforeQuantityPlaces_findsOnly context).mono (by simp))
      (findsOnly_andThen ((quantityPlaces_findsOnly context).mono (by simp))
        ((afterPlaces_findsOnly context).mono (by simp :
          _ ⊆ [.QUANTITY_BELOW_MINIMUM, .QUANTITY_ABOVE_MAXIMUM, .QUANTITY_NOT_ON_STEP,
            .QUANTITY_PRECISION_EXCEEDED, .QUANTITY_REQUIRED, .REFERENCE_PRICE_REQUIRED,
            .NOTIONAL_BELOW_MINIMUM, .NOTIONAL_ABOVE_MAXIMUM])))
    exact absurd (hfinds _ heq) (by simp)
  have hafter : ∀ context, afterPlaces context ≠ .ok (some .QUANTITY_PRECISION_EXCEEDED) :=
    fun context heq => absurd (afterPlaces_findsOnly context _ heq) (by simp)
  rw [verdict_eq_iff, validation_parts, validation_parts, beforePricePlaces_congr h,
    andThen_eq_iff ((hprice c).imp (congrArg _) (congrArg _))
      ((hprice d).imp (congrArg _) (congrArg _)) (hlater c) (hlater d),
    beforeQuantityPlaces_congr h,
    andThen_eq_iff ((hquantity c).imp (congrArg _) (congrArg _))
      ((hquantity d).imp (congrArg _) (congrArg _)) (hafter c) (hafter d)]
  simp only [Except.ok.injEq, reasons_eq_iff (hprice c) (hprice d),
    reasons_eq_iff (hquantity c) (hquantity d), pricePrecision_none_iff, quantityPlaces_none_iff,
    afterPlaces_congr h, implies_true, and_true]
  have hreached : PricePlacesReached c ↔ beforePricePlaces d = .ok none := by
    rw [PricePlacesReached, beforePricePlaces_congr h]
  have hquantityReached : QuantityPlacesReached c ↔ beforePricePlaces d = .ok none ∧
      PricePlacesAllowed c ∧ beforeQuantityPlaces d = .ok none := by
    rw [QuantityPlacesReached, hreached, beforeQuantityPlaces_congr h]
  constructor
  · intro halike
    refine ⟨fun hp => (halike (hreached.mp hp)).1, fun hq => ?_⟩
    obtain ⟨hp, hallowed, hq⟩ := hquantityReached.mp hq
    exact (halike hp).2 hallowed hq
  · intro halike hp
    exact ⟨halike.prices (hreached.mpr hp),
      fun hallowed hq => halike.quantity (hquantityReached.mpr ⟨hp, hallowed, hq⟩)⟩

end FuturesBot.Venues
