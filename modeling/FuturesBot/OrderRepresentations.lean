import FuturesBot.OrderIdentity

/-! Order intents as they are given to the model, with numbers and times in any representation, and
the admission of one that says the same order as an earlier one. -/
namespace FuturesBot

open JsonText (Text)
open DateTimes DecimalNumbers StepRuns Orders

namespace Orders

/-- The arguments of the model `OrderIntent`, of which the times may be in any zone. -/
structure OrderIntentInput where
  intent_kind : OrderIntentKind
  stack_runtime_id : Option DecisionStackRuntimeId
  decision_output_id : Option TrimmedText
  venue_id : TrimmedText
  instrument_id : TrimmedText
  account_id : Option TrimmedText
  side : OrderSide
  position_side : PositionSide
  order_type : OrderType
  time_in_force : Option TimeInForce
  quantity : Option PositiveDecimal
  limit_price : Option PositiveDecimal
  stop_price : Option PositiveDecimal
  reduce_only : Bool
  post_only : Bool
  close_position : Bool
  expires_at : Option AwareDateTime
  permission_reason : OrderFlowPermissionReason
  created_at : AwareDateTime
  rationale_hash : Option HexDigest

namespace OrderIntentInput

/-- `_validate_time` of a time that may be missing. -/
def optionalTime : Option AwareDateTime → Except String (Option DateTime)
  | none => .ok none
  | some t => t.ensureAwareUtc.map some

/-- The fields with the times in UTC. -/
def utcFields (i : OrderIntentInput) (expires_at : Option DateTime) (created_at : DateTime) :
    OrderIntentFields where
  intent_kind := i.intent_kind
  stack_runtime_id := i.stack_runtime_id
  decision_output_id := i.decision_output_id
  venue_id := i.venue_id
  instrument_id := i.instrument_id
  account_id := i.account_id
  side := i.side
  position_side := i.position_side
  order_type := i.order_type
  time_in_force := i.time_in_force
  quantity := i.quantity
  limit_price := i.limit_price
  stop_price := i.stop_price
  reduce_only := i.reduce_only
  post_only := i.post_only
  close_position := i.close_position
  expires_at
  permission_reason := i.permission_reason
  created_at
  rationale_hash := i.rationale_hash

/-- The intent that the model makes, if it accepts the arguments. -/
def intent (i : OrderIntentInput) : Option OrderIntent :=
  match optionalTime i.expires_at, i.created_at.ensureAwareUtc with
  | .ok expires_at, .ok created_at =>
    if h : (i.utcFields expires_at created_at).Valid then
      some ⟨i.utcFields expires_at created_at, h⟩
    else none
  | _, _ => none

theorem intent_eq_some {i : OrderIntentInput} {o : OrderIntent} (h : i.intent = some o) :
    optionalTime i.expires_at = .ok o.expires_at ∧
      i.created_at.ensureAwareUtc = .ok o.created_at ∧
      o.toOrderIntentFields = i.utcFields o.expires_at o.created_at := by
  rw [intent] at h
  split at h
  · rename_i expires_at created_at hexpires hcreated
    split at h
    · obtain rfl := Option.some.inj h
      exact ⟨hexpires, hcreated, rfl⟩
    · exact absurd h (by simp)
  · exact absurd h (by simp)

/-- The arguments agree, numbers by value and times as instants. -/
structure SameIdentity (a b : OrderIntentInput) : Prop where
  fields : { a with
    quantity := b.quantity, limit_price := b.limit_price, stop_price := b.stop_price,
    expires_at := b.expires_at, created_at := b.created_at } = b
  quantity : a.quantity.map (·.1.value) = b.quantity.map (·.1.value)
  limit_price : a.limit_price.map (·.1.value) = b.limit_price.map (·.1.value)
  stop_price : a.stop_price.map (·.1.value) = b.stop_price.map (·.1.value)
  expires_at : a.expires_at.map (·.instant) = b.expires_at.map (·.instant)
  created_at : a.created_at.instant = b.created_at.instant

/-- The numbers have as many places after the point. -/
structure SamePlaces (a b : OrderIntentInput) : Prop where
  quantity : a.quantity.map (·.1.places) = b.quantity.map (·.1.places)
  limit_price : a.limit_price.map (·.1.places) = b.limit_price.map (·.1.places)
  stop_price : a.stop_price.map (·.1.places) = b.stop_price.map (·.1.places)

theorem optionalTime_eq_iff {t u : Option AwareDateTime} {t' u' : Option DateTime}
    (ht : optionalTime t = .ok t') (hu : optionalTime u = .ok u') :
    t' = u' ↔ t.map (·.instant) = u.map (·.instant) := by
  cases t with
  | none =>
    obtain rfl := Except.ok.inj ht
    cases u with
    | none =>
      obtain rfl := Except.ok.inj hu
      exact ⟨fun _ => rfl, fun _ => rfl⟩
    | some u =>
      cases hmade : u.ensureAwareUtc with
      | error e =>
        rw [optionalTime, hmade] at hu
        exact absurd hu (by simp [Except.map])
      | ok made =>
        rw [optionalTime, hmade] at hu
        obtain rfl := Except.ok.inj hu
        simp
  | some t =>
    cases hmade : t.ensureAwareUtc with
    | error e =>
      rw [optionalTime, hmade] at ht
      exact absurd ht (by simp [Except.map])
    | ok made =>
      rw [optionalTime, hmade] at ht
      obtain rfl := Except.ok.inj ht
      cases u with
      | none =>
        obtain rfl := Except.ok.inj hu
        simp
      | some u =>
        cases hmade' : u.ensureAwareUtc with
        | error e =>
          rw [optionalTime, hmade'] at hu
          exact absurd hu (by simp [Except.map])
        | ok made' =>
          rw [optionalTime, hmade'] at hu
          obtain rfl := Except.ok.inj hu
          simp only [Option.map_some, Option.some.injEq]
          exact AwareDateTime.ensureAwareUtc_eq_iff hmade hmade'

section Intents

variable {a b : OrderIntentInput} {x y : OrderIntent}

/-- Accepted arguments agree exactly when their intents do. -/
theorem sameIdentity_iff (ha : a.intent = some x) (hb : b.intent = some y) :
    SameIdentity a b ↔ x.SameOrder y.toOrderIntentFields := by
  obtain ⟨hexpiresA, hcreatedA, hfieldsA⟩ := intent_eq_some ha
  obtain ⟨hexpiresB, hcreatedB, hfieldsB⟩ := intent_eq_some hb
  have hexpires := optionalTime_eq_iff hexpiresA hexpiresB
  have hcreated := AwareDateTime.ensureAwareUtc_eq_iff hcreatedA hcreatedB
  constructor
  · intro h
    constructor
    · rw [hfieldsA, hfieldsB, hexpires.mpr h.expires_at, hcreated.mpr h.created_at, ← h.fields]
      rfl
    · rw [hfieldsA, hfieldsB]
      exact h.quantity
    · rw [hfieldsA, hfieldsB]
      exact h.limit_price
    · rw [hfieldsA, hfieldsB]
      exact h.stop_price
  · intro h
    have hfields := h.fields
    have hquantity := h.quantity
    have hlimit := h.limit_price
    have hstop := h.stop_price
    rw [hfieldsA, hfieldsB] at hfields hquantity hlimit hstop
    simp only [utcFields, OrderIntentFields.mk.injEq, true_and] at hfields
    obtain ⟨h1, h2, h3, h4, h5, h6, h7, h8, h9, h10, h11, h12, h13, h14, h15, h16, h17⟩ := hfields
    refine ⟨?_, hquantity, hlimit, hstop, hexpires.mp h14, hcreated.mp h16⟩
    rw [h1, h2, h3, h4, h5, h6, h7, h8, h9, h10, h11, h12, h13, h15, h17]

theorem samePlaces_iff (ha : a.intent = some x) (hb : b.intent = some y) :
    SamePlaces a b ↔ x.SamePlaces y.toOrderIntentFields := by
  obtain ⟨-, -, hfieldsA⟩ := intent_eq_some ha
  obtain ⟨-, -, hfieldsB⟩ := intent_eq_some hb
  rw [hfieldsA, hfieldsB]
  exact ⟨fun h => ⟨h.quantity, h.limit_price, h.stop_price⟩,
    fun h => ⟨h.quantity, h.limit_price, h.stop_price⟩⟩

end Intents

end OrderIntentInput

end Orders

namespace Execution

open OrderIntentInput

variable {digests : Digests} {a b : OrderIntentInput} {x y : OrderIntent}

/-- The order `y` is answered from the record of `x`, after any run in which `x` was accepted. -/
def DuplicateOf (digests : Digests) (x y : OrderIntent) : Prop :=
  ∀ keepsDecisions earlier request later again d, request.intent = .order x →
    again.intent = .order y →
    (admitRequest request (admitAll (.empty digests keepsDecisions) earlier)).2 = .ok d →
    d.accepted = true →
    ∃ record_id, d.record_id = some record_id ∧
      Replayed again record_id (admitAll (.empty digests keepsDecisions)
        (earlier ++ request :: later))

theorem duplicate_of_sameIntent (h : digests.sameIntent x y = true) : DuplicateOf digests x y := by
  intro keepsDecisions earlier request later again d hrequest hagain hd haccepted
  obtain ⟨record_id, hid, hrecorded⟩ := accepted_recorded hrequest hd haccepted
  refine ⟨record_id, hid, recorded_replayed hagain ?_⟩
  rw [admitAll, run_append, run_cons]
  -- the record of `x` is one of `y`
  obtain ⟨r, hget, hrecord, hsame⟩ := admitAll_recorded hrecorded later
  have hback := sameIntent_trans hsame (digests.sameIntent_refl r.order_intent)
  refine ⟨r, ?_, hrecord, sameIntent_trans hback h⟩
  rw [← sameIntent_clientOrderId h]
  exact hget

/-- Intents are identified by what they say: they have one client order id exactly when they agree,
numbers by value and times as instants, and then one is a duplicate of the other. -/
structure IdentifiedByValue (digests : Digests) (a b : OrderIntentInput) (x y : OrderIntent) :
    Prop where
  ids : digests.clientOrderId x = digests.clientOrderId y ↔ SameIdentity a b
  duplicate : SameIdentity a b → DuplicateOf digests x y

/-- Two intents are identified by what they say if and only if they do not agree in all but the
places of a number. -/
theorem order_identity_iff (sha256 : Text → HexDigest) (digests : Digests)
    (ha : a.intent = some x) (hb : b.intent = some y) (hfree : CollisionFree sha256 x y) :
    IdentifiedByValue (digests.ofSha256 sha256) a b x y ↔
      (SameIdentity a b → SamePlaces a b) := by
  have hids := @clientOrderId_eq_iff sha256 digests x y hfree
  rw [← sameIdentity_iff ha hb, ← samePlaces_iff ha hb] at hids
  constructor
  · intro h hsame
    exact (hids.mp (h.ids.mpr hsame)).2
  · intro h
    constructor
    · rw [hids]
      exact ⟨And.left, fun hsame => ⟨hsame, h hsame⟩⟩
    · intro hsame
      apply duplicate_of_sameIntent
      exact sameIntent_of_sameOrder ((sameIdentity_iff ha hb).mp hsame)
        ((samePlaces_iff ha hb).mp (h hsame))

/-! One order in several representations. -/

/-- An entry to buy at the market, at a clock with an offset from UTC. -/
def entryInput (quantity : PositiveDecimal) (created_at : AwareDateTime) : OrderIntentInput where
  intent_kind := .ENTRY
  stack_runtime_id := none
  decision_output_id := none
  venue_id := ⟨"BINANCE", .checked evaluates⟩
  instrument_id := ⟨"BTC/USDT", .checked evaluates⟩
  account_id := none
  side := .BUY
  position_side := .BOTH
  order_type := .MARKET
  time_in_force := none
  quantity := some quantity
  limit_price := none
  stop_price := none
  reduce_only := false
  post_only := false
  close_position := false
  expires_at := none
  permission_reason := .OK
  created_at
  rationale_hash := none

def entryIntent (quantity : PositiveDecimal) : OrderIntent where
  toOrderIntentFields := { (marketEntry .BUY).toOrderIntentFields with quantity := some quantity }
  valid := by simp [OrderIntentFields.Valid, marketEntry]

def utcTime : AwareDateTime := ⟨sampleTime, some 0, AwareDateTime.utc_ok⟩

/-- The same instant at a clock that is an hour ahead. -/
def aheadTime : AwareDateTime := ⟨{ sampleTime with
    hour := 4
    time_ok := show 4 < 24 ∧ 4 < 60 ∧ 5 < 60 ∧ 0 < 1000000 by decide },
  some 3600000000, by decide⟩

theorem entryInput_intent (quantity : PositiveDecimal) {t : AwareDateTime}
    (h : t.instant = some (sampleTime.micros : ℤ)) :
    (entryInput quantity t).intent = some (entryIntent quantity) := by
  have htime : t.ensureAwareUtc = .ok sampleTime := AwareDateTime.ensureAwareUtc_eq_ok.mpr h
  rw [OrderIntentInput.intent]
  simp only [entryInput, htime, optionalTime]
  exact dif_pos (entryIntent quantity).valid

def onePlace : PositiveDecimal := ⟨⟨false, 10, -1⟩, .refl true⟩

def twoPlaces : PositiveDecimal := ⟨⟨false, 100, -2⟩, .refl true⟩

/-- A digest that tells the text of one intent from all others. -/
def tellingSha256 (x : OrderIntent) (t : Text) : HexDigest :=
  if t = canonicalJson (orderIntentIdentity x.toOrderIntentFields) then repeatHex 1 else repeatHex 2

theorem telling_collisionFree (x y : OrderIntent) : CollisionFree (tellingSha256 x) x y := by
  intro h
  by_contra hne
  rw [tellingSha256, tellingSha256, if_pos rfl, if_neg (Ne.symm hne)] at h
  exact absurd h (by decide +kernel)

/-- The quantities 1.0 and 1.00 make two orders. -/
theorem places_make_two_orders : CollisionFree (tellingSha256 (entryIntent onePlace))
      (entryIntent onePlace) (entryIntent twoPlaces) ∧
    ¬ IdentifiedByValue (sampleDigests.ofSha256 (tellingSha256 (entryIntent onePlace)))
      (entryInput onePlace utcTime) (entryInput twoPlaces utcTime) (entryIntent onePlace)
      (entryIntent twoPlaces) := by
  have hfree := telling_collisionFree (entryIntent onePlace) (entryIntent twoPlaces)
  refine ⟨hfree, fun h => ?_⟩
  have hsame : SameIdentity (entryInput onePlace utcTime) (entryInput twoPlaces utcTime) := by
    refine ⟨rfl, ?_, rfl, rfl, rfl, rfl⟩
    change some _ = some _
    norm_num [Decimal.value, onePlace, twoPlaces]
  have hplaces := ((clientOrderId_eq_iff hfree).mp (h.ids.mpr hsame)).2.quantity
  exact absurd hplaces (by decide)

theorem zones_make_one_order : IdentifiedByValue
    (sampleDigests.ofSha256 (tellingSha256 (entryIntent onePlace)))
    (entryInput onePlace utcTime) (entryInput onePlace aheadTime) (entryIntent onePlace)
    (entryIntent onePlace) :=
  (order_identity_iff (tellingSha256 (entryIntent onePlace)) sampleDigests
    (entryInput_intent onePlace (by decide +kernel))
    (entryInput_intent onePlace (by decide +kernel))
    (telling_collisionFree (entryIntent onePlace) (entryIntent onePlace))).mpr
    fun _ => ⟨rfl, rfl, rfl⟩

end Execution

end FuturesBot
