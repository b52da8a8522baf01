import FuturesBot.CanonicalCodecs
import FuturesBot.DecimalRounding
import FuturesBot.InstrumentSpellings

/-! Decisions of a bot: the intent to trade and the decision not to, each with the JSON its model
dumps and reads. -/
namespace FuturesBot.Decisions

open JsonText (Json Text)
open JsonCodec TextLines DateTimes DecimalNumbers

/-- What the models take from the libraries under them: the UTC time of a JSON value, and the
finite decimal of a text. Both read back what is written for them. -/
structure Readers where
  datetime : Json → Option DateTime
  decimal : Text → Option Decimal
  datetime_text : ∀ t : DateTime, datetime (.str (String.ofList t.text)) = some t
  decimal_text : ∀ d : Decimal, decimal d.text = some d

/-- Readers that take nothing but what is written. -/
def Readers.plain : Readers where
  datetime := instant.load
  decimal := Decimal.parse
  datetime_text := instant.load_dump
  decimal_text := Decimal.parse_text

inductive TradeSide where
  | LONG
  | SHORT
  deriving DecidableEq, Repr

inductive ProposedAction where
  | OPEN_POSITION
  | CLOSE_POSITION
  | REDUCE_POSITION
  | ADJUST_RISK
  deriving DecidableEq, Repr

inductive DecisionSourceKind where
  | RULE_BASED
  | TECHNICAL_POLICY
  | STATISTICAL_MODEL
  | ML_MODEL
  | NEURAL_MODEL
  | LLM
  | HYBRID
  | MANUAL_RESEARCH
  | CONTROL_BASELINE
  deriving DecidableEq, Repr

inductive DecisionIntentStatus where
  | PROPOSED
  | REJECTED_BY_UNIVERSE_POLICY
  | REJECTED_BY_HARD_RISK_GATE
  | EXPIRED
  | SUPERSEDED
  | CANCELLED
  | CONVERTED_TO_EXECUTION_INTENT
  deriving DecidableEq, Repr

inductive NoTradeReasonKind where
  | NO_VALID_EVIDENCE
  | UNIVERSE_POLICY_NOT_ELIGIBLE
  | MODEL_CONFIDENCE_LOW
  | MARKET_TOO_UNCERTAIN
  | COST_CONTEXT_UNFAVORABLE
  | BOT_POLICY_SUPPRESSED
  | CONTROL_BASELINE_NO_TRADE
  | MANUAL_RESEARCH_NO_TRADE
  deriving DecidableEq, Repr

def TradeSide.value : TradeSide → String
  | .LONG => "LONG"
  | .SHORT => "SHORT"

def ProposedAction.value : ProposedAction → String
  | .OPEN_POSITION => "OPEN_POSITION"
  | .CLOSE_POSITION => "CLOSE_POSITION"
  | .REDUCE_POSITION => "REDUCE_POSITION"
  | .ADJUST_RISK => "ADJUST_RISK"

def DecisionSourceKind.value : DecisionSourceKind → String
  | .RULE_BASED => "RULE_BASED"
  | .TECHNICAL_POLICY => "TECHNICAL_POLICY"
  | .STATISTICAL_MODEL => "STATISTICAL_MODEL"
  | .ML_MODEL => "ML_MODEL"
  | .NEURAL_MODEL => "NEURAL_MODEL"
  | .LLM => "LLM"
  | .HYBRID => "HYBRID"
  | .MANUAL_RESEARCH => "MANUAL_RESEARCH"
  | .CONTROL_BASELINE => "CONTROL_BASELINE"

def DecisionIntentStatus.value : DecisionIntentStatus → String
  | .PROPOSED => "PROPOSED"
  | .REJECTED_BY_UNIVERSE_POLICY => "REJECTED_BY_UNIVERSE_POLICY"
  | .REJECTED_BY_HARD_RISK_GATE => "REJECTED_BY_HARD_RISK_GATE"
  | .EXPIRED => "EXPIRED"
  | .SUPERSEDED => "SUPERSEDED"
  | .CANCELLED => "CANCELLED"
  | .CONVERTED_TO_EXECUTION_INTENT => "CONVERTED_TO_EXECUTION_INTENT"

def NoTradeReasonKind.value : NoTradeReasonKind → String
  | .NO_VALID_EVIDENCE => "NO_VALID_EVIDENCE"
  | .UNIVERSE_POLICY_NOT_ELIGIBLE => "UNIVERSE_POLICY_NOT_ELIGIBLE"
  | .MODEL_CONFIDENCE_LOW => "MODEL_CONFIDENCE_LOW"
  | .MARKET_TOO_UNCERTAIN => "MARKET_TOO_UNCERTAIN"
  | .COST_CONTEXT_UNFAVORABLE => "COST_CONTEXT_UNFAVORABLE"
  | .BOT_POLICY_SUPPRESSED => "BOT_POLICY_SUPPRESSED"
  | .CONTROL_BASELINE_NO_TRADE => "CONTROL_BASELINE_NO_TRADE"
  | .MANUAL_RESEARCH_NO_TRADE => "MANUAL_RESEARCH_NO_TRADE"

def Probability : Type := {d : Decimal // d.inUnitInterval = true}

instance : DecidableEq Probability := inferInstanceAs (DecidableEq (Subtype _))

structure DecisionIntentFields where
  decision_intent_id : DomainId
  bot_id : BotId
  instrument : InstrumentSymbol
  side : TradeSide
  proposed_action : ProposedAction
  source_kind : DecisionSourceKind
  source_id : TrimmedText
  created_at : DateTime
  valid_until : Option DateTime
  proposed_margin : Option AssetAmount
  proposed_leverage : Option PositiveDecimal
  confidence : Option Probability
  reason_tags : {tags : List TrimmedText // tags.Nodup}
  status : DecisionIntentStatus
  deriving DecidableEq

/-- `_validate_valid_until`. -/
def DecisionIntentFields.Valid (d : DecisionIntentFields) : Prop :=
  ∀ t ∈ d.valid_until, d.created_at < t

instance (d : DecisionIntentFields) : Decidable d.Valid :=
  inferInstanceAs (Decidable (∀ t ∈ d.valid_until, d.created_at < t))

/-- A proposed decision of a bot; not an order. -/
structure DecisionIntent extends DecisionIntentFields where
  valid : toDecisionIntentFields.Valid
  deriving DecidableEq

structure NoTradeDecision where
  decision_intent_id : DomainId
  bot_id : BotId
  instrument : Option InstrumentSymbol
  source_kind : DecisionSourceKind
  source_id : TrimmedText
  created_at : DateTime
  reasons : {reasons : List NoTradeReasonKind // reasons ≠ [] ∧ reasons.Nodup}
  confidence : Option Probability
  notes : Option TrimmedText
  deriving DecidableEq

/-! Codecs of single members. -/

def Readers.instant (r : Readers) : Codec DateTime where
  dump t := .str (String.ofList t.text)
  load := r.datetime
  load_dump := r.datetime_text

/-- `_coerce_decimal`. -/
def Readers.coerceDecimal (r : Readers) : Json → Option Decimal
  | .int n => some ⟨decide (n < 0), n.natAbs, 0⟩
  | .str s => if strip s.toList = s.toList then r.decimal s.toList else none
  | _ => none

theorem natText_not_space (n : ℕ) : ∀ c ∈ JsonText.natText n, isSpace c = false :=
  fun c hc => isDigit_not_space (JsonText.natText_isDigit n c hc)

theorem expText_not_space (e : ℤ) : ∀ c ∈ Decimal.expText e, isSpace c = false := by
  have hsigned : ∀ c ∈ Decimal.signedText e, isSpace c = false := by
    cases e with
    | ofNat n => exact List.forall_mem_cons.mpr ⟨by decide, natText_not_space n⟩
    | negSucc n => exact List.forall_mem_cons.mpr ⟨by decide, natText_not_space (n + 1)⟩
  rw [Decimal.expText]
  split
  · exact List.forall_mem_nil _
  · exact List.forall_mem_cons.mpr ⟨by decide, hsigned⟩

/-- The text of a decimal holds digits, signs, a point and the mark of an exponent. -/
theorem decimalText_not_space (d : Decimal) : ∀ c ∈ d.text, isSpace c = false := by
  obtain ⟨hwhole, hfrac, -⟩ := d.parts_spec
  have hsign : ∀ c ∈ Decimal.signText d.neg, isSpace c = false := by
    cases d.neg with
    | false => exact List.forall_mem_nil _
    | true => exact List.forall_mem_cons.mpr ⟨by decide, List.forall_mem_nil _⟩
  have hpoint : ∀ c ∈ Decimal.fracText d.parts.2.1, isSpace c = false := by
    rw [Decimal.fracText]
    split
    · exact List.forall_mem_nil _
    · exact List.forall_mem_cons.mpr ⟨by decide, fun c hc => isDigit_not_space (hfrac c hc)⟩
  intro c hc
  rw [Decimal.text, List.mem_append, List.mem_append, List.mem_append] at hc
  rcases hc with hc | hc | hc | hc
  · exact hsign c hc
  · exact isDigit_not_space (hwhole c hc)
  · exact hpoint c hc
  · exact expText_not_space _ c hc

theorem strip_decimalText (d : Decimal) : strip d.text = d.text := by
  have hne : d.text ≠ [] := by
    obtain ⟨-, -, hne, -⟩ := d.parts_spec
    intro hnil
    rw [Decimal.text, List.append_eq_nil_iff, List.append_eq_nil_iff] at hnil
    exact hne hnil.2.1
  exact (trimmed_of_no_space hne (decimalText_not_space d)).2

def Readers.decimalCodec (r : Readers) : Codec Decimal where
  dump d := .str (String.ofList d.text)
  load := r.coerceDecimal
  load_dump d := by
    rw [coerceDecimal, String.toList_ofList, if_pos (strip_decimalText d), r.decimal_text]

def Readers.leverage (r : Readers) : Codec PositiveDecimal :=
  r.decimalCodec.where_ fun d => d.positive = true

def Readers.probability (r : Readers) : Codec Probability :=
  r.decimalCodec.where_ fun d => d.inUnitInterval = true

/-- A serialized value object stands for its text. -/
def unwrapped : Json → Json
  | .obj [("value", v)] => v
  | v => v

/-- `_coerce_instrument`. -/
def coerceInstrument : Json → Option InstrumentSymbol
  | .str s => normalizeInstrumentSymbol s
  | .obj [("value", .str s)] => InstrumentSymbol.of s
  | _ => none

def instrument : Codec InstrumentSymbol where
  dump i := .obj [("value", .str i.value)]
  load v := coerceInstrument (unwrapped v)
  load_dump := normalizeInstrumentSymbol_value

/-- The instrument of a decision that may have none. -/
def optionalInstrument : Codec (Option InstrumentSymbol) where
  dump
    | none => .null
    | some i => instrument.dump i
  load v :=
    match unwrapped v with
    | .null => some none
    | w => (coerceInstrument w).map some
  load_dump i := by
    cases i with
    | none => rfl
    | some i =>
      change (normalizeInstrumentSymbol i.value).map some = some (some i)
      rw [normalizeInstrumentSymbol_value, Option.map_some]

/-- `_strict_asset_symbol_input`. -/
def coerceAsset : Json → Option AssetSymbol
  | .str s => AssetSymbol.of s
  | .obj [("value", .str s)] => AssetSymbol.of s
  | _ => none

def marginAsset : Codec AssetSymbol where
  dump a := .obj [("value", .str a.value)]
  load v := coerceAsset (unwrapped v)
  load_dump := AssetSymbol.of_value

def Readers.proposedMarginFields (r : Readers) : List Field :=
  [required "asset" marginAsset, required "amount" r.decimalCodec]

def Readers.proposedMargin (r : Readers) : Codec AssetAmount :=
  record r.proposedMarginFields
    (show (fieldNames Readers.plain.proposedMarginFields).Nodup by decide)
    (fun a => (a.asset, a.amount, ()))
    (fun (asset, amount, _) =>
      if h : amount.negative = false then some ⟨asset, amount, h⟩ else none)
    AssetAmount.rebuilt

def tradeSide : Codec TradeSide :=
  enumCodec [.LONG, .SHORT] TradeSide.value (by intro a; cases a <;> rfl)

def proposedAction : Codec ProposedAction :=
  enumCodec [.OPEN_POSITION, .CLOSE_POSITION, .REDUCE_POSITION, .ADJUST_RISK]
    ProposedAction.value (by intro a; cases a <;> decide)

def decisionSourceKind : Codec DecisionSourceKind :=
  enumCodec [.RULE_BASED, .TECHNICAL_POLICY, .STATISTICAL_MODEL, .ML_MODEL, .NEURAL_MODEL, .LLM,
    .HYBRID, .MANUAL_RESEARCH, .CONTROL_BASELINE] DecisionSourceKind.value
    (by intro a; cases a <;> decide)

def decisionIntentStatus : Codec DecisionIntentStatus :=
  enumCodec [.PROPOSED, .REJECTED_BY_UNIVERSE_POLICY, .REJECTED_BY_HARD_RISK_GATE, .EXPIRED,
    .SUPERSEDED, .CANCELLED, .CONVERTED_TO_EXECUTION_INTENT] DecisionIntentStatus.value
    (by intro a; cases a <;> decide)

def noTradeReasonKind : Codec NoTradeReasonKind :=
  enumCodec [.NO_VALID_EVIDENCE, .UNIVERSE_POLICY_NOT_ELIGIBLE, .MODEL_CONFIDENCE_LOW,
    .MARKET_TOO_UNCERTAIN, .COST_CONTEXT_UNFAVORABLE, .BOT_POLICY_SUPPRESSED,
    .CONTROL_BASELINE_NO_TRADE, .MANUAL_RESEARCH_NO_TRADE] NoTradeReasonKind.value
    (by intro a; cases a <;> decide)

/-- A member that has a default. -/
abbrev defaulted (name : String) {α : Type} (c : Codec α) (a : α) : Field := ⟨name, α, c, some a⟩

/-! Decisions. -/

def Readers.decisionIntentFields (r : Readers) : List Field :=
  [required "decision_intent_id" domainId, required "bot_id" domainId,
    required "instrument" instrument, required "side" tradeSide,
    required "proposed_action" proposedAction, required "source_kind" decisionSourceKind,
    required "source_id" trimmedText, required "created_at" r.instant,
    nullable "valid_until" r.instant nofun,
    nullable "proposed_margin" r.proposedMargin record_dump_ne_null,
    nullable "proposed_leverage" r.leverage nofun, nullable "confidence" r.probability nofun,
    defaulted "reason_tags" (trimmedText.list.where_ fun tags => tags.Nodup) ⟨[], List.nodup_nil⟩,
    defaulted "status" decisionIntentStatus .PROPOSED]

def Readers.decisionIntent (r : Readers) : Codec DecisionIntent :=
  record r.decisionIntentFields
    (show (fieldNames Readers.plain.decisionIntentFields).Nodup by decide)
    (fun d => (d.decision_intent_id, d.bot_id, d.instrument, d.side, d.proposed_action,
      d.source_kind, d.source_id, d.created_at, d.valid_until, d.proposed_margin,
      d.proposed_leverage, d.confidence, d.reason_tags, d.status, ()))
    (fun (decision_intent_id, bot_id, instrument, side, proposed_action, source_kind, source_id,
        created_at, valid_until, proposed_margin, proposed_leverage, confidence, reason_tags,
        status, _) =>
      let fields : DecisionIntentFields :=
        { decision_intent_id, bot_id, instrument, side, proposed_action, source_kind, source_id,
          created_at, valid_until, proposed_margin, proposed_leverage, confidence, reason_tags,
          status }
      if h : fields.Valid then some ⟨fields, h⟩ else none)
    (fun d => dif_pos d.valid)

def Readers.noTradeDecisionFields (r : Readers) : List Field :=
  [required "decision_intent_id" domainId, required "bot_id" domainId,
    ⟨"instrument", _, optionalInstrument, some none⟩,
    required "source_kind" decisionSourceKind, required "source_id" trimmedText,
    required "created_at" r.instant,
    required "reasons" (noTradeReasonKind.list.where_ fun reasons =>
      reasons ≠ [] ∧ reasons.Nodup),
    nullable "confidence" r.probability nofun,
    nullable "notes" trimmedText trimmedText_dump_ne_null]

def Readers.noTradeDecision (r : Readers) : Codec NoTradeDecision :=
  record r.noTradeDecisionFields
    (show (fieldNames Readers.plain.noTradeDecisionFields).Nodup by decide)
    (fun d => (d.decision_intent_id, d.bot_id, d.instrument, d.source_kind, d.source_id,
      d.created_at, d.reasons, d.confidence, d.notes, ()))
    (fun (decision_intent_id, bot_id, instrument, source_kind, source_id, created_at, reasons,
        confidence, notes, _) =>
      some ⟨decision_intent_id, bot_id, instrument, source_kind, source_id, created_at, reasons,
        confidence, notes⟩)
    (fun _ => rfl)

end FuturesBot.Decisions
