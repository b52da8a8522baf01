import FuturesBot.DecimalSpellings
import FuturesBot.ExactValidation

/-! The snapshot models of a venue before their numbers are checked, and two inputs that differ only
in how their numbers are written: the models accept both or neither. -/
namespace FuturesBot.Venues

open DateTimes DecimalNumbers Decimal Orders Assets

/-! Accepting numbers. The errors of the models come to no result. -/

def acceptPositive (d : Decimal) : Option PositiveDecimal :=
  if h : d.positive = true then some ⟨d, h⟩ else none

def acceptOptional : Option Decimal → Option (Option PositiveDecimal)
  | none => some none
  | some d => (acceptPositive d).map some

/-- `_validate_precision`. -/
def acceptPrecision : Option ℤ → Option (Option ℕ)
  | none => some none
  | some n => if 0 ≤ n then some (some n.toNat) else none

structure PriceFilterInput where
  tick_size : Decimal
  min_price : Option Decimal
  max_price : Option Decimal
  price_precision : Option ℤ

def PriceFilterInput.accept (f : PriceFilterInput) : Option PriceFilter :=
  (acceptPrecision f.price_precision).bind fun price_precision =>
    (acceptPositive f.tick_size).bind fun tick_size =>
      (acceptOptional f.min_price).bind fun min_price =>
        (acceptOptional f.max_price).bind fun max_price =>
          if ordered : boundsOrdered min_price max_price = true then
            some ⟨tick_size, min_price, max_price, price_precision, ordered⟩
          else none

structure QuantityFilterInput where
  step_size : Decimal
  min_quantity : Decimal
  max_quantity : Option Decimal
  quantity_precision : Option ℤ

def QuantityFilterInput.accept (f : QuantityFilterInput) : Option QuantityFilter :=
  (acceptPrecision f.quantity_precision).bind fun quantity_precision =>
    (acceptPositive f.step_size).bind fun step_size =>
      (acceptPositive f.min_quantity).bind fun min_quantity =>
        (acceptOptional f.max_quantity).bind fun max_quantity =>
          if ordered : boundsOrdered (some min_quantity) max_quantity = true then
            some ⟨step_size, min_quantity, max_quantity, quantity_precision, ordered⟩
          else none

structure NotionalFilterInput where
  min_notional : Option Decimal
  max_notional : Option Decimal
  requires_reference_price_for_market_orders : Bool

def NotionalFilterInput.accept (f : NotionalFilterInput) : Option NotionalFilter :=
  (acceptOptional f.min_notional).bind fun min_notional =>
    (acceptOptional f.max_notional).bind fun max_notional =>
      if ordered : boundsOrdered min_notional max_notional = true then
        some ⟨min_notional, max_notional, f.requires_reference_price_for_market_orders, ordered⟩
      else none

/-- The semantics of a contract, with the id that may be given for it: the members other than the
size are those of a semantics without one. -/
structure SemanticsInput where
  semantics_id : Option DomainId
  contract_size : Option Decimal
  members : ContractAssetSemantics
  unsized : members.contract_size = none

/-- `deterministic_contract_asset_semantics_id`. -/
def semanticsId (digests : SourceDigests) (s : ContractAssetSemantics) : DomainId :=
  .ofDigest ⟨"contract-asset-semantics:", by decide⟩ (digests.asset_semantics s)

/-- The id that is given, if any, is the one that is derived. -/
def IdMatches (digests : SourceDigests) (semantics_id : Option DomainId)
    (s : ContractAssetSemantics) : Prop :=
  ∀ id ∈ semantics_id, id = semanticsId digests s

instance (digests : SourceDigests) (semantics_id : Option DomainId)
    (s : ContractAssetSemantics) : Decidable (IdMatches digests semantics_id s) :=
  inferInstanceAs (Decidable (∀ id ∈ semantics_id, _))

def SemanticsInput.sized (s : SemanticsInput) (contract_size : Option PositiveDecimal) :
    ContractAssetSemantics :=
  { s.members with contract_size }

def SemanticsInput.accept (digests : SourceDigests) (s : SemanticsInput) :
    Option ContractAssetSemantics :=
  (acceptOptional s.contract_size).bind fun contract_size =>
    if IdMatches digests s.semantics_id (s.sized contract_size) then some (s.sized contract_size)
    else none

def acceptSemantics (digests : SourceDigests) :
    Option SemanticsInput → Option (Option ContractAssetSemantics)
  | none => some none
  | some s => (s.accept digests).map some

structure RuleInput where
  snapshot_id : DomainId
  venue_id : TrimmedText
  instrument_id : TrimmedText
  symbol : TrimmedText
  trading_status : InstrumentTradingStatus
  contract_kind : FuturesContractKind
  margin_asset : TrimmedText
  settlement_asset : TrimmedText
  base_asset : Option TrimmedText
  quote_asset : Option TrimmedText
  captured_at : DateTime
  price_filter : PriceFilterInput
  quantity_filter : QuantityFilterInput
  notional_filter : NotionalFilterInput
  max_leverage : Option Decimal
  supported_order_types : List String
  supported_time_in_force : List String
  supports_reduce_only : Bool
  supports_post_only : Bool
  supports_close_position : Bool
  supports_gtd : Bool
  min_gtd_duration_ms : Option ℤ
  supports_price_protection : Bool
  supported_self_trade_prevention_modes : List VenueSelfTradePreventionMode
  asset_semantics : Option SemanticsInput
  source_hash : Option HexDigest
  source_record_id : Option DomainId
  source_payload_hash : Option HexDigest

namespace RuleInput

/-- The fields of a rule snapshot, once the numbers are accepted. -/
def fields (r : RuleInput) (price_filter : PriceFilter) (quantity_filter : QuantityFilter)
    (notional_filter : NotionalFilter) (max_leverage : Option PositiveDecimal)
    (asset_semantics : Option ContractAssetSemantics) : RuleFields where
  snapshot_id := r.snapshot_id
  venue_id := r.venue_id
  instrument_id := r.instrument_id
  symbol := r.symbol
  trading_status := r.trading_status
  contract_kind := r.contract_kind
  margin_asset := r.margin_asset
  settlement_asset := r.settlement_asset
  base_asset := r.base_asset
  quote_asset := r.quote_asset
  captured_at := r.captured_at
  price_filter
  quantity_filter
  notional_filter
  max_leverage
  supported_order_types := r.supported_order_types
  supported_time_in_force := r.supported_time_in_force
  supports_reduce_only := r.supports_reduce_only
  supports_post_only := r.supports_post_only
  supports_close_position := r.supports_close_position
  supports_gtd := r.supports_gtd
  min_gtd_duration_ms := r.min_gtd_duration_ms
  supports_price_protection := r.supports_price_protection
  supported_self_trade_prevention_modes := r.supported_self_trade_prevention_modes
  asset_semantics
  source_hash := r.source_hash
  source_record_id := r.source_record_id
  source_payload_hash := r.source_payload_hash

def accept (digests : SourceDigests) (r : RuleInput) : Option VenueInstrumentRuleSnapshot :=
  r.price_filter.accept.bind fun price_filter =>
    r.quantity_filter.accept.bind fun quantity_filter =>
      r.notional_filter.accept.bind fun notional_filter =>
        (acceptOptional r.max_leverage).bind fun max_leverage =>
          (acceptSemantics digests r.asset_semantics).bind fun asset_semantics =>
            if valid : (r.fields price_filter quantity_filter notional_filter max_leverage
                asset_semantics).Valid then
              some ⟨_, valid⟩
            else none

end RuleInput

/-! Inputs that differ only in how their numbers are written. -/

/-- The same number, or none in either. -/
def SameNumber (a b : Option Decimal) : Prop := a.map value = b.map value

structure PriceFilterInput.Respelled (f g : PriceFilterInput) : Prop where
  tick_size : f.tick_size.value = g.tick_size.value
  min_price : SameNumber f.min_price g.min_price
  max_price : SameNumber f.max_price g.max_price
  price_precision : f.price_precision = g.price_precision

structure QuantityFilterInput.Respelled (f g : QuantityFilterInput) : Prop where
  step_size : f.step_size.value = g.step_size.value
  min_quantity : f.min_quantity.value = g.min_quantity.value
  max_quantity : SameNumber f.max_quantity g.max_quantity
  quantity_precision : f.quantity_precision = g.quantity_precision

structure NotionalFilterInput.Respelled (f g : NotionalFilterInput) : Prop where
  min_notional : SameNumber f.min_notional g.min_notional
  max_notional : SameNumber f.max_notional g.max_notional
  requires : f.requires_reference_price_for_market_orders =
    g.requires_reference_price_for_market_orders

structure SemanticsInput.Respelled (s t : SemanticsInput) : Prop where
  semantics_id : s.semantics_id = t.semantics_id
  contract_size : SameNumber s.contract_size t.contract_size
  members : s.members = t.members

structure RuleInput.Respelled (r s : RuleInput) : Prop where
  rest : { r with
    price_filter := s.price_filter, quantity_filter := s.quantity_filter,
    notional_filter := s.notional_filter, max_leverage := s.max_leverage,
    asset_semantics := s.asset_semantics } = s
  price_filter : r.price_filter.Respelled s.price_filter
  quantity_filter : r.quantity_filter.Respelled s.quantity_filter
  notional_filter : r.notional_filter.Respelled s.notional_filter
  max_leverage : SameNumber r.max_leverage s.max_leverage
  asset_semantics : Option.Rel SemanticsInput.Respelled r.asset_semantics s.asset_semantics

/-- The accepted numbers are the same. -/
def SamePositive (a b : Option PositiveDecimal) : Prop := a.map (·.1.value) = b.map (·.1.value)

theorem samePositive_some {a b : PositiveDecimal} :
    SamePositive (some a) (some b) ↔ a.1.value = b.1.value := Option.some_inj

structure SamePrices (f g : PriceFilter) : Prop where
  tick_size : f.tick_size.1.value = g.tick_size.1.value
  min_price : SamePositive f.min_price g.min_price
  max_price : SamePositive f.max_price g.max_price
  price_precision : f.price_precision = g.price_precision

structure SameQuantities (f g : QuantityFilter) : Prop where
  step_size : f.step_size.1.value = g.step_size.1.value
  min_quantity : f.min_quantity.1.value = g.min_quantity.1.value
  max_quantity : SamePositive f.max_quantity g.max_quantity
  quantity_precision : f.quantity_precision = g.quantity_precision

structure SameNotionals (f g : NotionalFilter) : Prop where
  min_notional : SamePositive f.min_notional g.min_notional
  max_notional : SamePositive f.max_notional g.max_notional
  requires : f.requires_reference_price_for_market_orders =
    g.requires_reference_price_for_market_orders

structure SameSemantics (s t : ContractAssetSemantics) : Prop where
  rest : { s with contract_size := t.contract_size } = t
  contract_size : SamePositive s.contract_size t.contract_size

structure SameRules (r s : RuleFields) : Prop where
  rest : { r with
    price_filter := s.price_filter, quantity_filter := s.quantity_filter,
    notional_filter := s.notional_filter, max_leverage := s.max_leverage,
    asset_semantics := s.asset_semantics } = s
  price_filter : SamePrices r.price_filter s.price_filter
  quantity_filter : SameQuantities r.quantity_filter s.quantity_filter
  notional_filter : SameNotionals r.notional_filter s.notional_filter
  max_leverage : SamePositive r.max_leverage s.max_leverage
  asset_semantics : Option.Rel SameSemantics r.asset_semantics s.asset_semantics

/-! What is accepted of one input is accepted of the other. -/

theorem rel_bind {α β γ δ : Type} {r : α → β → Prop} {s : γ → δ → Prop} {a : Option α}
    {b : Option β} {f : α → Option γ} {g : β → Option δ} (h : Option.Rel r a b)
    (hfg : ∀ x y, r x y → Option.Rel s (f x) (g y)) : Option.Rel s (a.bind f) (b.bind g) := by
  cases h with
  | some hxy => exact hfg _ _ hxy
  | none => exact .none

theorem rel_map {α β γ δ : Type} {r : α → β → Prop} {s : γ → δ → Prop} {a : Option α}
    {b : Option β} {f : α → γ} {g : β → δ} (h : Option.Rel r a b)
    (hfg : ∀ x y, r x y → s (f x) (g y)) : Option.Rel s (a.map f) (b.map g) := by
  cases h with
  | some hxy => exact .some (hfg _ _ hxy)
  | none => exact .none

theorem rel_refl {α : Type} (a : Option α) : Option.Rel Eq a a := by
  cases a with
  | none => exact .none
  | some a => exact .some rfl

theorem rel_isSome {α β : Type} {r : α → β → Prop} {a : Option α} {b : Option β}
    (h : Option.Rel r a b) : a.isSome = b.isSome := by
  cases h <;> rfl

theorem acceptPositive_rel {a b : Decimal} (h : a.value = b.value) :
    Option.Rel (fun p q => p.1.value = q.1.value) (acceptPositive a) (acceptPositive b) := by
  have hpositive : a.positive = true ↔ b.positive = true := by
    rw [positive_iff, positive_iff, h]
  rw [acceptPositive, acceptPositive]
  by_cases ha : a.positive = true
  · rw [dif_pos ha, dif_pos (hpositive.mp ha)]
    exact .some h
  · rw [dif_neg ha, dif_neg (mt hpositive.mpr ha)]
    exact .none

theorem acceptOptional_rel {a b : Option Decimal} (h : SameNumber a b) :
    Option.Rel SamePositive (acceptOptional a) (acceptOptional b) := by
  cases a with
  | none =>
    cases b with
    | none => exact .some rfl
    | some b => cases h
  | some a =>
    cases b with
    | none => cases h
    | some b =>
      have hvalue : a.value = b.value := Option.some.inj h
      exact rel_map (acceptPositive_rel hvalue) fun _ _ hpq => congrArg some hpq

theorem boundsOrdered_congr {lower upper lower' upper' : Option PositiveDecimal}
    (hl : SamePositive lower lower') (hu : SamePositive upper upper') :
    boundsOrdered lower upper = boundsOrdered lower' upper' := by
  cases lower <;> cases lower' <;> try cases hl
  · rfl
  · cases upper <;> cases upper' <;> try cases hu
    · rfl
    · rename_i a a' b b'
      have ha : a.1.value = a'.1.value := Option.some.inj hl
      have hb : b.1.value = b'.1.value := Option.some.inj hu
      have hlt : b.1.lt a.1 = b'.1.lt a'.1 := by
        rw [Bool.eq_iff_iff, lt_iff, lt_iff, ha, hb]
      rw [boundsOrdered, boundsOrdered, hlt]

/-- A check that both pass or neither. -/
theorem rel_dite {α β : Type} {s : α → β → Prop} {p q : Prop} [Decidable p] [Decidable q]
    {a : p → α} {b : q → β} (hpq : p ↔ q) (h : ∀ hp hq, s (a hp) (b hq)) :
    Option.Rel s (if hp : p then some (a hp) else none) (if hq : q then some (b hq) else none) := by
  by_cases hp : p
  · rw [dif_pos hp, dif_pos (hpq.mp hp)]
    exact .some (h _ _)
  · rw [dif_neg hp, dif_neg (mt hpq.mpr hp)]
    exact .none

theorem PriceFilterInput.accept_rel {f g : PriceFilterInput} (h : f.Respelled g) :
    Option.Rel SamePrices f.accept g.accept := by
  rw [accept, accept, h.price_precision]
  refine rel_bind (rel_refl _) fun _ _ hprecision =>
    rel_bind (acceptPositive_rel h.tick_size) fun _ _ htick =>
      rel_bind (acceptOptional_rel h.min_price) fun _ _ hmin =>
        rel_bind (acceptOptional_rel h.max_price) fun _ _ hmax => rel_dite ?_ fun _ _ => ?_
  · rw [boundsOrdered_congr hmin hmax]
  · exact ⟨htick, hmin, hmax, hprecision⟩

theorem QuantityFilterInput.accept_rel {f g : QuantityFilterInput} (h : f.Respelled g) :
    Option.Rel SameQuantities f.accept g.accept := by
  rw [accept, accept, h.quantity_precision]
  refine rel_bind (rel_refl _) fun _ _ hprecision =>
    rel_bind (acceptPositive_rel h.step_size) fun _ _ hstep =>
      rel_bind (acceptPositive_rel h.min_quantity) fun _ _ hmin =>
        rel_bind (acceptOptional_rel h.max_quantity) fun _ _ hmax => rel_dite ?_ fun _ _ => ?_
  · rw [boundsOrdered_congr (samePositive_some.mpr hmin) hmax]
  · exact ⟨hstep, hmin, hmax, hprecision⟩

theorem NotionalFilterInput.accept_rel {f g : NotionalFilterInput} (h : f.Respelled g) :
    Option.Rel SameNotionals f.accept g.accept := by
  refine rel_bind (acceptOptional_rel h.min_notional) fun _ _ hmin =>
    rel_bind (acceptOptional_rel h.max_notional) fun _ _ hmax => rel_dite ?_ fun _ _ => ?_
  · rw [boundsOrdered_congr hmin hmax]
  · exact ⟨hmin, hmax, h.requires⟩

/-- The id that is given for a semantics is derived from both ways to write it, or from neither. -/
def IdsAlike (digests : SourceDigests) (s t : SemanticsInput) : Prop :=
  ∀ size ∈ acceptOptional s.contract_size, ∀ size' ∈ acceptOptional t.contract_size,
    (IdMatches digests s.semantics_id (s.sized size) ↔
      IdMatches digests t.semantics_id (t.sized size'))

theorem SemanticsInput.accept_rel {digests : SourceDigests} {s t : SemanticsInput}
    (h : s.Respelled t) (hids : IdsAlike digests s t) :
    Option.Rel SameSemantics (s.accept digests) (t.accept digests) := by
  rw [IdsAlike] at hids
  rw [accept, accept]
  have hsizes := acceptOptional_rel h.contract_size
  generalize acceptOptional s.contract_size = x at hsizes hids
  generalize acceptOptional t.contract_size = y at hsizes hids
  cases hsizes with
  | none => exact .none
  | some hsize =>
    refine rel_dite (hids _ rfl _ rfl) fun _ _ => ⟨?_, hsize⟩
    rw [sized, sized, h.members]

theorem acceptSemantics_rel {digests : SourceDigests} {s t : Option SemanticsInput}
    (h : Option.Rel SemanticsInput.Respelled s t) (hids : ∀ x ∈ s, ∀ y ∈ t, IdsAlike digests x y) :
    Option.Rel (Option.Rel SameSemantics) (acceptSemantics digests s)
      (acceptSemantics digests t) := by
  cases h with
  | none => exact .some .none
  | some hst =>
    exact rel_map (SemanticsInput.accept_rel hst (hids _ rfl _ rfl)) fun _ _ hxy => .some hxy

/-- Two semantics that differ in the spelling of their size match the rules alike. -/
theorem SameSemantics.matches_iff {r s : RuleFields} {a b : ContractAssetSemantics}
    (h : SameSemantics a b) (hvenue : r.venue_id = s.venue_id)
    (hinstrument : r.instrument_id = s.instrument_id) (hmargin : r.margin_asset = s.margin_asset)
    (hsettlement : r.settlement_asset = s.settlement_asset) :
    r.MatchesSemantics a ↔ s.MatchesSemantics b := by
  rw [← h.rest, RuleFields.MatchesSemantics, RuleFields.MatchesSemantics, hvenue, hinstrument,
    hmargin, hsettlement]

/-- What is read of the rules besides their numbers. -/
theorem SameRules.member {α : Type} {r s : RuleFields} (h : SameRules r s) (f : RuleFields → α) :
    f { r with
      price_filter := s.price_filter, quantity_filter := s.quantity_filter,
      notional_filter := s.notional_filter, max_leverage := s.max_leverage,
      asset_semantics := s.asset_semantics } = f s :=
  congrArg f h.rest

/-- The checks of a rule snapshot, other than of its numbers, do not see how they are written. -/
theorem SameRules.valid_iff {r s : RuleFields} (h : SameRules r s) : r.Valid ↔ s.Valid := by
  have htypes : r.supported_order_types = s.supported_order_types :=
    h.member (·.supported_order_types)
  have hgtd : r.supports_gtd = s.supports_gtd := h.member (·.supports_gtd)
  have hduration : r.min_gtd_duration_ms = s.min_gtd_duration_ms :=
    h.member (·.min_gtd_duration_ms)
  have hrecord : r.source_record_id = s.source_record_id :=
    h.member (·.source_record_id)
  have hhash : r.source_payload_hash = s.source_payload_hash :=
    h.member (·.source_payload_hash)
  have hmatches : (∀ x ∈ r.asset_semantics, r.MatchesSemantics x) ↔
      ∀ y ∈ s.asset_semantics, s.MatchesSemantics y := by
    have hsemantics := h.asset_semantics
    generalize r.asset_semantics = x at hsemantics
    generalize s.asset_semantics = y at hsemantics
    cases hsemantics with
    | none => simp
    | some hxy =>
      have hiff := @SameSemantics.matches_iff r s _ _ hxy (h.member (·.venue_id))
        (h.member (·.instrument_id)) (h.member (·.margin_asset))
        (h.member (·.settlement_asset))
      simpa using hiff
  rw [RuleFields.Valid, RuleFields.Valid, htypes, hgtd, hduration, hrecord, hhash, hmatches]

/-- A rule snapshot is accepted in both spellings or in neither. -/
theorem RuleInput.accept_rel {digests : SourceDigests} {r s : RuleInput} (h : r.Respelled s)
    (hids : ∀ x ∈ r.asset_semantics, ∀ y ∈ s.asset_semantics, IdsAlike digests x y) :
    Option.Rel (fun a b => SameRules a.toRuleFields b.toRuleFields) (r.accept digests)
      (s.accept digests) := by
  refine rel_bind (PriceFilterInput.accept_rel h.price_filter) fun f f' hprice =>
    rel_bind (QuantityFilterInput.accept_rel h.quantity_filter) fun q q' hquantity =>
      rel_bind (NotionalFilterInput.accept_rel h.notional_filter) fun n n' hnotional =>
        rel_bind (acceptOptional_rel h.max_leverage) fun l l' hleverage =>
          rel_bind (acceptSemantics_rel h.asset_semantics hids) fun x x' hsemantics => ?_
  have hsame : SameRules (r.fields f q n l x) (s.fields f' q' n' l' x') := by
    refine ⟨?_, hprice, hquantity, hnotional, hleverage, hsemantics⟩
    rw [← h.rest]
    rfl
  exact rel_dite hsame.valid_iff fun _ _ => hsame

end FuturesBot.Venues
