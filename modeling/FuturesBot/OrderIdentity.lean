import FuturesBot.CalendarTimes
import FuturesBot.CanonicalCodecs
import FuturesBot.FixedPointText
import FuturesBot.IdempotentAdmission

/-! The identity of an order intent: the canonical JSON of its fields, whose digest makes its ids.
-/
namespace JsonCodec

open JsonText

variable {α β : Type}

theorem flag_readsSorted : flag.ReadsSorted := fun _ => rfl

/-- Values that are read back are written differently when they differ. -/
theorem Codec.ReadsSorted.text_inj {c : Codec α} (h : c.ReadsSorted) {a b : α} :
    encode (sortKeys (c.dump a)) = encode (sortKeys (c.dump b)) ↔ a = b := by
  constructor
  · intro htext
    have hload := h a
    rw [encode_injective htext, h b] at hload
    exact (Option.some.inj hload).symm
  · rintro rfl
    rfl

end JsonCodec

namespace FuturesBot

open JsonText JsonCodec TextLines DateTimes DecimalNumbers

theorem enumCodec_readsSorted {α : Type} {values : List α} {name : α → String}
    {h : ∀ a, values.find? (fun v => name v = name a) = some a} :
    (enumCodec values name h).ReadsSorted := h

theorem trimmedText_readsSorted : trimmedText.ReadsSorted := text_readsSorted.refine

theorem domainId_readsSorted : domainId.ReadsSorted :=
  record_readsSorted (by simpa using text_readsSorted)

/-- `_sha256_hex`. -/
def sha256Hex : Codec HexDigest :=
  text.refine
    (fun s => if h : s.toList.length = 64 ∧ s.toList.all isHexChar = true then
      some (.ofText s h) else none)
    (·.value)
    (fun d => dif_pos ⟨d.hex.1, List.all_eq_true.mpr fun c hc => by
      simpa [isHexChar] using d.hex.2 c hc⟩)

theorem isoformat_injective : Function.Injective isoformat := by
  intro t u h
  have hchars := String.ofList_injective h
  have hbody : t.dateText ++ 'T' :: t.clockText = u.dateText ++ 'T' :: u.clockText := by
    have happend : (t.dateText ++ 'T' :: t.clockText) ++ ['+', '0', '0', ':', '0', '0'] =
        (u.dateText ++ 'T' :: u.clockText) ++ ['+', '0', '0', ':', '0', '0'] := by
      simpa only [List.append_assoc, List.cons_append] using hchars
    exact List.append_cancel_right happend
  have htext : t.text = u.text := by
    rw [DateTime.text, DateTime.text, ← List.cons_append, ← List.append_assoc, hbody,
      List.append_assoc, List.cons_append]
  have hparse := t.parse_text
  rw [htext, u.parse_text] at hparse
  exact (Option.some.inj hparse).symm

theorem sha256Hex_readsSorted : sha256Hex.ReadsSorted := text_readsSorted.refine

def OrderFlowPermissionReason.value : OrderFlowPermissionReason → String
  | .OK => "OK"
  | .PROGRAM_NOT_RUNNING => "PROGRAM_NOT_RUNNING"
  | .STACK_NOT_RUNNING => "STACK_NOT_RUNNING"
  | .STACK_DISABLED => "STACK_DISABLED"
  | .STACK_PAUSED => "STACK_PAUSED"
  | .STACK_RESYNCING => "STACK_RESYNCING"
  | .STACK_WARMING_UP => "STACK_WARMING_UP"
  | .GLOBAL_KILL_SWITCH => "GLOBAL_KILL_SWITCH"
  | .VENUE_KILL_SWITCH => "VENUE_KILL_SWITCH"
  | .INSTRUMENT_KILL_SWITCH => "INSTRUMENT_KILL_SWITCH"
  | .ACCOUNT_KILL_SWITCH => "ACCOUNT_KILL_SWITCH"
  | .LIVE_DATA_GAP => "LIVE_DATA_GAP"
  | .STALE_DATA => "STALE_DATA"
  | .OPEN_EXPOSURE_GUARDIAN_REQUIRED => "OPEN_EXPOSURE_GUARDIAN_REQUIRED"
  | .UNKNOWN_FILLS => "UNKNOWN_FILLS"
  | .UNRECONCILED_ORDERS => "UNRECONCILED_ORDERS"
  | .ACCOUNT_STATE_UNKNOWN => "ACCOUNT_STATE_UNKNOWN"
  | .LEDGER_STATE_UNKNOWN => "LEDGER_STATE_UNKNOWN"
  | .EMERGENCY_HALTED => "EMERGENCY_HALTED"
  | .MANUAL_INTERVENTION_REQUIRED => "MANUAL_INTERVENTION_REQUIRED"

def permissionReason : Codec OrderFlowPermissionReason :=
  enumCodec [.OK, .PROGRAM_NOT_RUNNING, .STACK_NOT_RUNNING, .STACK_DISABLED, .STACK_PAUSED,
    .STACK_RESYNCING, .STACK_WARMING_UP, .GLOBAL_KILL_SWITCH, .VENUE_KILL_SWITCH,
    .INSTRUMENT_KILL_SWITCH, .ACCOUNT_KILL_SWITCH, .LIVE_DATA_GAP, .STALE_DATA,
    .OPEN_EXPOSURE_GUARDIAN_REQUIRED, .UNKNOWN_FILLS, .UNRECONCILED_ORDERS,
    .ACCOUNT_STATE_UNKNOWN, .LEDGER_STATE_UNKNOWN, .EMERGENCY_HALTED,
    .MANUAL_INTERVENTION_REQUIRED] OrderFlowPermissionReason.value
    (by intro a; cases a <;> decide)

namespace Orders

def PositionSide.value : PositionSide → String
  | .LONG => "LONG"
  | .SHORT => "SHORT"
  | .BOTH => "BOTH"

def intentKind : Codec OrderIntentKind :=
  enumCodec [.ENTRY, .EXIT, .REDUCE_ONLY, .PROTECTIVE_STOP, .PROTECTIVE_TAKE_PROFIT,
    .EMERGENCY_CLOSE] OrderIntentKind.value (by intro a; cases a <;> decide)

def positionSide : Codec PositionSide :=
  enumCodec [.LONG, .SHORT, .BOTH] PositionSide.value (by intro a; cases a <;> decide)

def intentOrderType : Codec OrderType :=
  enumCodec [.MARKET, .LIMIT, .STOP_MARKET, .STOP_LIMIT, .TAKE_PROFIT_MARKET, .TAKE_PROFIT_LIMIT]
    OrderType.value (by intro a; cases a <;> decide)

def timeInForce : Codec TimeInForce :=
  enumCodec [.GTC, .IOC, .FOK, .GTD] TimeInForce.value (by intro a; cases a <;> decide)

/-! The canonical JSON of an intent. -/

/-- The members of the identity of an intent: those of the model without its ids. Numbers and times
are texts. -/
def identityFields : List Field :=
  [required "intent_kind" intentKind,
    nullable "stack_runtime_id" domainId record_dump_ne_null,
    nullable "decision_output_id" trimmedText trimmedText_dump_ne_null,
    required "venue_id" trimmedText,
    required "instrument_id" trimmedText,
    nullable "account_id" trimmedText trimmedText_dump_ne_null,
    required "side" orderSide,
    required "position_side" positionSide,
    required "order_type" intentOrderType,
    nullable "time_in_force" timeInForce nofun,
    nullable "quantity" text text_dump_ne_null,
    nullable "limit_price" text text_dump_ne_null,
    nullable "stop_price" text text_dump_ne_null,
    required "reduce_only" flag,
    required "post_only" flag,
    required "close_position" flag,
    nullable "expires_at" text text_dump_ne_null,
    required "permission_reason" permissionReason,
    required "created_at" text,
    nullable "rationale_hash" sha256Hex nofun]

def identityCodec : Codec (Row identityFields) :=
  record identityFields (by decide) id some fun _ => rfl

/-- `format(value, "f")` of a number. -/
def decimalText (d : PositiveDecimal) : String := String.ofList d.1.fixedText

def OrderIntentFields.identityRow (o : OrderIntentFields) : Row identityFields :=
  (o.intent_kind, o.stack_runtime_id, o.decision_output_id, o.venue_id, o.instrument_id,
    o.account_id, o.side, o.position_side, o.order_type, o.time_in_force,
    o.quantity.map decimalText, o.limit_price.map decimalText, o.stop_price.map decimalText,
    o.reduce_only, o.post_only, o.close_position, o.expires_at.map isoformat, o.permission_reason,
    isoformat o.created_at, o.rationale_hash, ())

/-- `_order_intent_identity`. -/
def orderIntentIdentity (o : OrderIntentFields) : Json := identityCodec.dump o.identityRow

/-- `_canonical_json_bytes`: the text with sorted keys, of which the bytes are UTF-8. -/
def canonicalJson (payload : Json) : Text := encode (sortKeys payload)

theorem identityFields_readsSorted : ∀ f ∈ identityFields, f.codec.ReadsSorted := by
  simp only [identityFields, List.forall_mem_cons, List.not_mem_nil, false_imp_iff, implies_true,
    and_true]
  exact ⟨enumCodec_readsSorted, domainId_readsSorted.optional, trimmedText_readsSorted.optional,
    trimmedText_readsSorted, trimmedText_readsSorted, trimmedText_readsSorted.optional,
    enumCodec_readsSorted, enumCodec_readsSorted, enumCodec_readsSorted,
    Codec.ReadsSorted.optional enumCodec_readsSorted, text_readsSorted.optional,
    text_readsSorted.optional, text_readsSorted.optional, flag_readsSorted, flag_readsSorted,
    flag_readsSorted, text_readsSorted.optional, enumCodec_readsSorted, text_readsSorted,
    sha256Hex_readsSorted.optional⟩

theorem canonicalJson_identity {a b : OrderIntentFields} :
    canonicalJson (orderIntentIdentity a) = canonicalJson (orderIntentIdentity b) ↔
      a.identityRow = b.identityRow :=
  Codec.ReadsSorted.text_inj (record_readsSorted identityFields_readsSorted)

/-! What the canonical JSON tells apart. -/

/-- The fields agree, numbers by value. -/
structure OrderIntentFields.SameOrder (a b : OrderIntentFields) : Prop where
  fields : { a with
    quantity := b.quantity, limit_price := b.limit_price, stop_price := b.stop_price } = b
  quantity : a.quantity.map (·.1.value) = b.quantity.map (·.1.value)
  limit_price : a.limit_price.map (·.1.value) = b.limit_price.map (·.1.value)
  stop_price : a.stop_price.map (·.1.value) = b.stop_price.map (·.1.value)

/-- The numbers have as many places after the point. -/
structure OrderIntentFields.SamePlaces (a b : OrderIntentFields) : Prop where
  quantity : a.quantity.map (·.1.places) = b.quantity.map (·.1.places)
  limit_price : a.limit_price.map (·.1.places) = b.limit_price.map (·.1.places)
  stop_price : a.stop_price.map (·.1.places) = b.stop_price.map (·.1.places)

theorem decimalText_eq_iff {a b : Option PositiveDecimal} :
    a.map decimalText = b.map decimalText ↔
      a.map (·.1.value) = b.map (·.1.value) ∧ a.map (·.1.places) = b.map (·.1.places) := by
  cases a with
  | none => cases b <;> simp
  | some a =>
    cases b with
    | none => simp
    | some b =>
      simp only [Option.map_some, Option.some.injEq, decimalText, String.ofList_inj]
      exact Decimal.fixedText_eq_iff a.2 b.2

/-- The rows are equal exactly when their parts are. -/
theorem identityRow_eq_parts {a b : OrderIntentFields} :
    a.identityRow = b.identityRow ↔
      (a.quantity.map decimalText = b.quantity.map decimalText ∧
        a.limit_price.map decimalText = b.limit_price.map decimalText ∧
        a.stop_price.map decimalText = b.stop_price.map decimalText) ∧
      { a with
        quantity := b.quantity, limit_price := b.limit_price, stop_price := b.stop_price } = b := by
  constructor
  · intro h
    obtain ⟨h1, h⟩ := Prod.mk.inj h
    obtain ⟨h2, h⟩ := Prod.mk.inj h
    obtain ⟨h3, h⟩ := Prod.mk.inj h
    obtain ⟨h4, h⟩ := Prod.mk.inj h
    obtain ⟨h5, h⟩ := Prod.mk.inj h
    obtain ⟨h6, h⟩ := Prod.mk.inj h
    obtain ⟨h7, h⟩ := Prod.mk.inj h
    obtain ⟨h8, h⟩ := Prod.mk.inj h
    obtain ⟨h9, h⟩ := Prod.mk.inj h
    obtain ⟨h10, h⟩ := Prod.mk.inj h
    obtain ⟨hquantity, h⟩ := Prod.mk.inj h
    obtain ⟨hlimit, h⟩ := Prod.mk.inj h
    obtain ⟨hstop, h⟩ := Prod.mk.inj h
    obtain ⟨h11, h⟩ := Prod.mk.inj h
    obtain ⟨h12, h⟩ := Prod.mk.inj h
    obtain ⟨h13, h⟩ := Prod.mk.inj h
    obtain ⟨hexpires, h⟩ := Prod.mk.inj h
    obtain ⟨h15, h⟩ := Prod.mk.inj h
    obtain ⟨hcreated, h⟩ := Prod.mk.inj h
    obtain ⟨h17, -⟩ := Prod.mk.inj h
    have h14 : a.expires_at = b.expires_at := Option.map_injective isoformat_injective hexpires
    have h16 : a.created_at = b.created_at := isoformat_injective hcreated
    refine ⟨⟨hquantity, hlimit, hstop⟩, ?_⟩
    rw [h1, h2, h3, h4, h5, h6, h7, h8, h9, h10, h11, h12, h13, h14, h15, h16, h17]
  · rintro ⟨⟨hquantity, hlimit, hstop⟩, hfields⟩
    rw [← hfields]
    dsimp only [OrderIntentFields.identityRow]
    rw [hquantity, hlimit, hstop]

theorem identityRow_eq_iff {a b : OrderIntentFields} :
    a.identityRow = b.identityRow ↔ a.SameOrder b ∧ a.SamePlaces b := by
  simp only [identityRow_eq_parts, decimalText_eq_iff]
  constructor
  · rintro ⟨⟨hquantity, hlimit, hstop⟩, hfields⟩
    exact ⟨⟨hfields, hquantity.1, hlimit.1, hstop.1⟩, hquantity.2, hlimit.2, hstop.2⟩
  · rintro ⟨hsame, hplaces⟩
    exact ⟨⟨⟨hsame.quantity, hplaces.quantity⟩, ⟨hsame.limit_price, hplaces.limit_price⟩,
      ⟨hsame.stop_price, hplaces.stop_price⟩⟩, hsame.fields⟩

end Orders

/-! The ids made of the digest. -/

open Orders

/-- The digests with that of an order intent as the code makes it: SHA-256 of the canonical JSON. -/
def Digests.ofSha256 (sha256 : Text → HexDigest) (digests : Digests) : Digests :=
  { digests with order_intent := fun o => sha256 (canonicalJson (orderIntentIdentity o)) }

/-- SHA-256 does not collide on two intents. -/
def CollisionFree (sha256 : Text → HexDigest) (x y : OrderIntent) : Prop :=
  sha256 (canonicalJson (orderIntentIdentity x.toOrderIntentFields)) =
      sha256 (canonicalJson (orderIntentIdentity y.toOrderIntentFields)) →
    canonicalJson (orderIntentIdentity x.toOrderIntentFields) =
      canonicalJson (orderIntentIdentity y.toOrderIntentFields)

section Ids

variable {sha256 : Text → HexDigest} {digests : Digests} {x y : OrderIntent}

/-- Two intents have one client order id exactly when they are one order with numbers of as many
places. -/
theorem clientOrderId_eq_iff (hfree : CollisionFree sha256 x y) :
    (digests.ofSha256 sha256).clientOrderId x = (digests.ofSha256 sha256).clientOrderId y ↔
      x.SameOrder y.toOrderIntentFields ∧ x.SamePlaces y.toOrderIntentFields := by
  rw [Digests.clientOrderId, Digests.clientOrderId, DomainId.ofDigest_inj, ← identityRow_eq_iff,
    ← canonicalJson_identity]
  constructor
  · exact hfree
  · intro h
    change sha256 _ = sha256 _
    rw [h]

/-- Such intents are equal as models. -/
theorem sameIntent_of_sameOrder (hsame : x.SameOrder y.toOrderIntentFields)
    (hplaces : x.SamePlaces y.toOrderIntentFields) :
    (digests.ofSha256 sha256).sameIntent x y = true := by
  have hids : (digests.ofSha256 sha256).intentId x = (digests.ofSha256 sha256).intentId y := by
    have htext := canonicalJson_identity.mpr (identityRow_eq_iff.mpr ⟨hsame, hplaces⟩)
    rw [Digests.intentId, Digests.intentId, DomainId.ofDigest_inj]
    change sha256 _ = sha256 _
    rw [htext]
  simp only [Digests.sameIntent, Digests.sameDecimal, Bool.and_eq_true, decide_eq_true_eq,
    Execution.sameOption_iff, Option.map_map]
  exact ⟨⟨⟨⟨hids, hsame.fields⟩, hsame.quantity⟩, hsame.limit_price⟩, hsame.stop_price⟩

end Ids

end FuturesBot
