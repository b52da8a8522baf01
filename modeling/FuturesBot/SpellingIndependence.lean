import FuturesBot.ValidationSpellings

/-! What the validation of an order makes of two inputs, from the snapshot models on, that differ only
in how their numbers are written. -/
namespace FuturesBot.Venues

open DateTimes DecimalNumbers Decimal Orders Assets

/-- An order, and the snapshots it is to be validated against, before the rule snapshot is
accepted. -/
structure ValidationInput where
  order_intent : OrderIntent
  venue_snapshot : VenueCapabilitySnapshot
  instrument_rules : RuleInput
  reference_price : Option PositiveDecimal
  requested_at : DateTime

/-- The context of the validation, where the models accept it. -/
def ValidationInput.context (digests : SourceDigests) (i : ValidationInput) :
    Option VenueOrderValidationContext :=
  (i.instrument_rules.accept digests).bind fun instrument_rules =>
    if h : i.order_intent.venue_id = i.venue_snapshot.venue_id ∧
        i.order_intent.venue_id = instrument_rules.venue_id ∧
          i.order_intent.instrument_id = instrument_rules.instrument_id then
      some {
        order_intent := i.order_intent
        venue_snapshot := i.venue_snapshot
        instrument_rules
        reference_price := i.reference_price
        requested_at := i.requested_at
        venue_matches := h.1
        rules_match := h.2 }
    else none

structure ValidationInput.Respelled (a b : ValidationInput) : Prop where
  order : SameOrders a.order_intent.toOrderIntentFields b.order_intent.toOrderIntentFields
  venue : a.venue_snapshot = b.venue_snapshot
  rules : a.instrument_rules.Respelled b.instrument_rules
  reference_price : SamePositive a.reference_price b.reference_price
  requested_at : a.requested_at = b.requested_at

variable {digests : SourceDigests}

theorem SemanticsInput.id_matches {s : SemanticsInput} (h : (s.accept digests).isSome = true)
    {size : Option PositiveDecimal} (hsize : acceptOptional s.contract_size = some size) :
    IdMatches digests s.semantics_id (s.sized size) := by
  rw [accept, hsize, Option.bind_some] at h
  by_contra hnot
  rw [if_neg hnot] at h
  cases h

theorem idsAlike_of_accepted {s t : SemanticsInput} (hs : (s.accept digests).isSome = true)
    (ht : (t.accept digests).isSome = true) : IdsAlike digests s t :=
  fun _ hsize _ hsize' => iff_of_true (s.id_matches hs hsize) (t.id_matches ht hsize')

/-- The semantics of an accepted rule snapshot is accepted. -/
theorem RuleInput.semantics_accepted {r : RuleInput} {x : VenueInstrumentRuleSnapshot}
    (h : r.accept digests = some x) :
    ∀ s ∈ r.asset_semantics, (s.accept digests).isSome = true := by
  simp only [accept, Option.bind_eq_some_iff] at h
  obtain ⟨-, -, -, -, -, -, -, -, semantics, hsemantics, -⟩ := h
  intro s hs
  rw [Option.mem_def.mp hs] at hsemantics
  obtain ⟨accepted, haccepted, -⟩ := Option.map_eq_some_iff.mp hsemantics
  rw [haccepted]
  rfl

theorem ValidationInput.context_rel {a b : ValidationInput} (h : a.Respelled b)
    (hids : ∀ s ∈ a.instrument_rules.asset_semantics, ∀ t ∈ b.instrument_rules.asset_semantics,
      IdsAlike digests s t) :
    Option.Rel SameContext (a.context digests) (b.context digests) := by
  have hvenueId : a.order_intent.venue_id = b.order_intent.venue_id :=
    h.order.member (·.venue_id)
  have hinstrumentId : a.order_intent.instrument_id = b.order_intent.instrument_id :=
    h.order.member (·.instrument_id)
  refine rel_bind (RuleInput.accept_rel h.rules hids) fun r s hrules => rel_dite ?_ fun _ _ => ?_
  · have hvenue : r.venue_id = s.venue_id := hrules.member (·.venue_id)
    have hinstrument : r.instrument_id = s.instrument_id := hrules.member (·.instrument_id)
    rw [hvenueId, hinstrumentId, h.venue, hvenue, hinstrument]
  · exact ⟨h.order, h.venue, hrules, h.reference_price, h.requested_at⟩

/-- Two inputs that differ only in how their numbers are written: the models accept both or neither,
where an id given for the semantics is derived from both or from neither; and the verdicts are the
same exactly when every count of places that is reached comes out alike. -/
theorem spelling_independence {a b : ValidationInput} (h : a.Respelled b) :
    ((∀ s ∈ a.instrument_rules.asset_semantics, ∀ t ∈ b.instrument_rules.asset_semantics,
        IdsAlike digests s t) →
      (a.instrument_rules.accept digests).isSome = (b.instrument_rules.accept digests).isSome ∧
        (a.context digests).isSome = (b.context digests).isSome) ∧
    ∀ c ∈ a.context digests, ∀ d ∈ b.context digests, (verdict c = verdict d ↔ PlacesAlike c d) := by
  constructor
  · exact fun hids => ⟨rel_isSome (RuleInput.accept_rel h.rules hids),
      rel_isSome (ValidationInput.context_rel h hids)⟩
  · intro c hc d hd
    obtain ⟨r, hr, -⟩ := Option.bind_eq_some_iff.mp hc
    obtain ⟨s, hs, -⟩ := Option.bind_eq_some_iff.mp hd
    have hrel := ValidationInput.context_rel h fun x hx y hy =>
      idsAlike_of_accepted (RuleInput.semantics_accepted hr x hx)
        (RuleInput.semantics_accepted hs y hy)
    rw [Option.mem_def.mp hc, Option.mem_def.mp hd] at hrel
    cases hrel with
    | some hsame => exact verdicts_eq_iff hsame

/-! One price written with one place and with two, where the venue allows two, or one. -/

def shortSpelling : PositiveDecimal := ⟨⟨false, 1001, -1⟩, by decide⟩

def longSpelling : PositiveDecimal := ⟨⟨false, 10010, -2⟩, by decide⟩

def placedRules (price_precision : ℤ) : RuleInput where
  snapshot_id := ⟨"rules-1", DomainId.checked evaluates⟩
  venue_id := ⟨"BINANCE", .checked evaluates⟩
  instrument_id := ⟨"BTCUSDT-PERP", .checked evaluates⟩
  symbol := ⟨"BTCUSDT", .checked evaluates⟩
  trading_status := .TRADING
  contract_kind := .LINEAR_PERPETUAL
  margin_asset := ⟨"USDT", .checked evaluates⟩
  settlement_asset := ⟨"USDT", .checked evaluates⟩
  base_asset := none
  quote_asset := none
  captured_at := sampleTime
  price_filter := ⟨⟨false, 1, -1⟩, none, none, some price_precision⟩
  quantity_filter := ⟨⟨false, 1, -3⟩, ⟨false, 1, -3⟩, none, some 3⟩
  notional_filter := ⟨none, none, false⟩
  max_leverage := none
  supported_order_types := ["LIMIT"]
  supported_time_in_force := ["GTC"]
  supports_reduce_only := true
  supports_post_only := true
  supports_close_position := true
  supports_gtd := false
  min_gtd_duration_ms := none
  supports_price_protection := false
  supported_self_trade_prevention_modes := []
  asset_semantics := none
  source_hash := none
  source_record_id := none
  source_payload_hash := none

def placedInput (limit_price : PositiveDecimal) (price_precision : ℤ) : ValidationInput where
  order_intent := limitOrder limit_price
  venue_snapshot := sampleVenue
  instrument_rules := placedRules price_precision
  reference_price := none
  requested_at := sampleTime

theorem placedInput_respelled (price_precision : ℤ) :
    (placedInput shortSpelling price_precision).Respelled
      (placedInput longSpelling price_precision) where
  order := by
    refine ⟨rfl, rfl, congrArg some ?_, rfl⟩
    norm_num [shortSpelling, longSpelling, value]
  venue := rfl
  rules := {
    rest := rfl
    price_filter := ⟨rfl, rfl, rfl, rfl⟩
    quantity_filter := ⟨rfl, rfl, rfl, rfl⟩
    notional_filter := ⟨rfl, rfl, rfl⟩
    max_leverage := rfl
    asset_semantics := .none }
  reference_price := rfl
  requested_at := rfl

theorem two_places_alike :
    ∃ c ∈ (placedInput shortSpelling 2).context sampleSourceDigests,
      ∃ d ∈ (placedInput longSpelling 2).context sampleSourceDigests,
        c.order_intent ≠ d.order_intent ∧ verdict c = verdict d := by
  have hshort : ((placedInput shortSpelling 2).context sampleSourceDigests).map (fun c =>
      (pricePrecisionReason c, quantityPlaces c, c.order_intent.limit_price)) =
        some (none, none, some shortSpelling) := by
    decide +kernel
  have hlong : ((placedInput longSpelling 2).context sampleSourceDigests).map (fun d =>
      (pricePrecisionReason d, quantityPlaces d, d.order_intent.limit_price)) =
        some (none, none, some longSpelling) := by
    decide +kernel
  obtain ⟨c, hc, hfound⟩ := Option.map_eq_some_iff.mp hshort
  obtain ⟨d, hd, hfound'⟩ := Option.map_eq_some_iff.mp hlong
  simp only [Prod.mk.injEq, pricePrecision_none_iff, quantityPlaces_none_iff] at hfound hfound'
  obtain ⟨hprices, hquantity, hlimit⟩ := hfound
  obtain ⟨hprices', hquantity', hlimit'⟩ := hfound'
  refine ⟨c, hc, d, hd, fun heq => ?_, ?_⟩
  · rw [heq, hlimit'] at hlimit
    exact absurd hlimit (by decide)
  · exact ((spelling_independence (placedInput_respelled 2)).2 c hc d hd).mpr
      ⟨fun _ => iff_of_true hprices hprices', fun _ => iff_of_true hquantity hquantity'⟩

/-- With one place allowed, the price written with two is refused. -/
theorem spelling_changes_verdict :
    ¬ ∀ (digests : SourceDigests) (a b : ValidationInput), a.Respelled b →
      (a.instrument_rules.accept digests).isSome = (b.instrument_rules.accept digests).isSome ∧
        ∀ c ∈ a.context digests, ∀ d ∈ b.context digests, verdict c = verdict d := by
  intro h
  have hsame := (h sampleSourceDigests _ _ (placedInput_respelled 1)).2
  have hshort : ((placedInput shortSpelling 1).context sampleSourceDigests).map verdict =
      some (.ok (true, .OK)) := by
    decide +kernel
  have hlong : ((placedInput longSpelling 1).context sampleSourceDigests).map verdict =
      some (.ok (false, .PRICE_PRECISION_EXCEEDED)) := by
    decide +kernel
  obtain ⟨c, hc, hverdict⟩ := Option.map_eq_some_iff.mp hshort
  obtain ⟨d, hd, hverdict'⟩ := Option.map_eq_some_iff.mp hlong
  have heq := hsame c hc d hd
  rw [hverdict, hverdict'] at heq
  cases heq

end FuturesBot.Venues
