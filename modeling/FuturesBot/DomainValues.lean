import FuturesBot.DateTimes
import FuturesBot.DecimalNumbers
import FuturesBot.JsonCodec
import FuturesBot.TextLines

/-! Value objects of the domain, each with the JSON its model dumps and reads: identities,
WAL offsets, asset amounts, enumerations, UTC times and decimals. -/
namespace FuturesBot

open JsonText (Json Text)
open JsonCodec TextLines DateTimes DecimalNumbers

-- decides by the list, not by every character
attribute [local instance (2000)] List.decidableBAll

/-- `isoformat` of a time in UTC. -/
def isoformat (t : DateTime) : String :=
  String.ofList (t.dateText ++ 'T' :: (t.clockText ++ ['+', '0', '0', ':', '0', '0']))

/-- The proof of a check of a literal, which evaluating the check gives. -/
theorem evaluates : true = true := rfl

/-- A string object of the data model that carries its own check. -/
structure TrimmedText where
  value : String
  trimmed : Trimmed value.toList
  deriving DecidableEq

theorem TrimmedText.ext {a b : TrimmedText} (h : a.value = b.value) : a = b := by
  cases a
  cases b
  cases h
  rfl

structure DomainId where
  value : String
  valid : Trimmed value.toList ∧ value.toList.length ≤ 128
  deriving DecidableEq

theorem DomainId.checked {s : String}
    (h : decide (Trimmed s.toList ∧ s.toList.length ≤ 128) = true) :
    Trimmed s.toList ∧ s.toList.length ≤ 128 :=
  of_decide_eq_true h

def DomainId.toTrimmedText (i : DomainId) : TrimmedText := ⟨i.value, i.valid.1⟩

def DomainId.of (value : String) : Option DomainId :=
  if h : Trimmed value.toList ∧ value.toList.length ≤ 128 then some ⟨value, h⟩ else none

theorem DomainId.ext {a b : DomainId} (h : a.value = b.value) : a = b := by
  cases a
  cases b
  cases h
  rfl

theorem DomainId.of_value {value : String} {i : DomainId} (h : DomainId.of value = some i) :
    i.value = value := by
  rw [DomainId.of] at h
  split_ifs at h
  rw [← Option.some.inj h]

abbrev RunId := DomainId
abbrev ProducerId := DomainId
abbrev WalSegmentId := DomainId
abbrev EventId := DomainId
abbrev BotId := DomainId
abbrev ExperimentId := DomainId
abbrev CohortId := DomainId

structure WalOffset where
  value : ℕ
  deriving DecidableEq, Repr

def WalOffset.next (o : WalOffset) : WalOffset := ⟨o.value + 1⟩

structure WalOffsetRange where
  first : WalOffset
  last : WalOffset
  ordered : first.value ≤ last.value
  deriving DecidableEq

def WalOffsetRange.count (r : WalOffsetRange) : ℕ := r.last.value - r.first.value + 1

def isAssetSymbolChar (c : Char) : Bool := ('A' ≤ c && c ≤ 'Z') || ('0' ≤ c && c ≤ '9')

structure AssetSymbol where
  value : String
  valid : 2 ≤ value.toList.length ∧ value.toList.length ≤ 16 ∧
    ∀ c ∈ value.toList, isAssetSymbolChar c = true
  deriving DecidableEq

/-- A symbol whose text is checked character by character. -/
def AssetSymbol.ofText (value : String)
    (h : 2 ≤ value.toList.length ∧ value.toList.length ≤ 16 ∧
      value.toList.all isAssetSymbolChar = true) : AssetSymbol :=
  ⟨value, h.1, h.2.1, List.all_eq_true.mp h.2.2⟩

theorem AssetSymbol.checked {s : String} (h : decide (2 ≤ s.toList.length ∧
      s.toList.length ≤ 16 ∧ s.toList.all isAssetSymbolChar = true) = true) :
    2 ≤ s.toList.length ∧ s.toList.length ≤ 16 ∧ s.toList.all isAssetSymbolChar = true :=
  of_decide_eq_true h

def PositiveDecimal : Type := {d : Decimal // d.positive = true}

instance : DecidableEq PositiveDecimal := inferInstanceAs (DecidableEq (Subtype _))

structure AssetAmount where
  asset : AssetSymbol
  amount : Decimal
  nonneg : amount.negative = false
  deriving DecidableEq

inductive OrderSide where
  | BUY
  | SELL
  deriving DecidableEq, Repr

inductive OrderType where
  | MARKET
  | LIMIT
  deriving DecidableEq, Repr

/-! Codecs. -/

/-- A string enumeration, written as the value of its member. -/
def enumCodec {α : Type} (values : List α) (name : α → String)
    (h : ∀ a, values.find? (fun v => name v = name a) = some a) : Codec α where
  dump a := .str (name a)
  load
    | .str s => values.find? fun v => name v = s
    | _ => none
  load_dump a := h a

def trimmedText : Codec TrimmedText :=
  text.refine (fun s => if h : Trimmed s.toList then some ⟨s, h⟩ else none) (·.value)
    (fun b => dif_pos b.trimmed)

theorem trimmedText_dump_ne_null (t : TrimmedText) : trimmedText.dump t ≠ .null := nofun

def domainId : Codec DomainId :=
  record [required "value" text] (by decide) (fun i => (i.value, ())) (fun r => DomainId.of r.1)
    (fun i => dif_pos i.valid)

def walOffset : Codec WalOffset :=
  record [required "value" count] (by decide) (fun o => (o.value, ())) (fun r => some ⟨r.1⟩)
    (fun _ => rfl)

def walOffsetRange : Codec WalOffsetRange :=
  record [required "first" walOffset, required "last" walOffset] (by decide)
    (fun r => (r.first, r.last, ()))
    (fun (first, last, _) =>
      if h : first.value ≤ last.value then some ⟨first, last, h⟩ else none)
    (fun r => dif_pos r.ordered)

def instant : Codec DateTime :=
  text.refine (fun s => DateTime.parse s.toList) (fun t => String.ofList t.text)
    (fun t => by rw [String.toList_ofList, DateTime.parse_text])

def decimal : Codec Decimal :=
  text.refine (fun s => Decimal.parse s.toList) (fun d => String.ofList d.text)
    (fun d => by rw [String.toList_ofList, Decimal.parse_text])

def positiveDecimal : Codec PositiveDecimal :=
  decimal.where_ (fun d => d.positive = true)

def assetSymbol : Codec AssetSymbol :=
  record [required "value" text] (by decide) (fun a => (a.value, ()))
    (fun r => if h : 2 ≤ r.1.toList.length ∧ r.1.toList.length ≤ 16 ∧
        ∀ c ∈ r.1.toList, isAssetSymbolChar c = true then some ⟨r.1, h⟩ else none)
    (fun a => dif_pos a.valid)

theorem AssetAmount.rebuilt (a : AssetAmount) :
    (if h : a.amount.negative = false then some (⟨a.asset, a.amount, h⟩ : AssetAmount) else none) =
      some a :=
  dif_pos a.nonneg

def assetAmount : Codec AssetAmount :=
  record [required "asset" assetSymbol, required "amount" decimal] (by decide)
    (fun a => (a.asset, a.amount, ()))
    (fun (asset, amount, _) =>
      if h : amount.negative = false then some ⟨asset, amount, h⟩ else none)
    AssetAmount.rebuilt

def OrderSide.name : OrderSide → String
  | .BUY => "BUY"
  | .SELL => "SELL"

def orderSide : Codec OrderSide :=
  enumCodec [.BUY, .SELL] OrderSide.name (by intro a; cases a <;> rfl)

def OrderType.name : OrderType → String
  | .MARKET => "MARKET"
  | .LIMIT => "LIMIT"

def orderType : Codec OrderType :=
  enumCodec [.MARKET, .LIMIT] OrderType.name (by intro a; cases a <;> rfl)

/-- A time for the examples of the modules above. -/
def sampleTime : DateTime where
  year := 2026
  month := 1
  day := 2
  hour := 3
  minute := 4
  second := 5
  microsecond := 0
  date_ok := by decide
  time_ok := by decide

theorem newYear_date :
    1 ≤ 2024 ∧ 2024 ≤ 9999 ∧ 1 ≤ 1 ∧ 1 ≤ 12 ∧ 1 ≤ 1 ∧ 1 ≤ daysInMonth 2024 1 := by decide

theorem midnight_clock : 0 < 24 ∧ 0 < 60 ∧ 0 < 60 ∧ 0 < 1000000 := by decide

end FuturesBot
