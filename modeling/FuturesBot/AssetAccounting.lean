import FuturesBot.DecimalExactness
import FuturesBot.DomainValues
import Mathlib.Data.List.Perm.Subperm

/-! Amounts and movements of one asset: how they are added and subtracted, and when the results are
exact. -/
namespace FuturesBot.Accounting

open DecimalNumbers DecimalNumbers.Decimal

inductive AccountingError where
  | value (message : String)
  | decimal (signal : DecimalError)
  deriving DecidableEq, Repr

/-- What may be given for an amount. -/
inductive AmountInput where
  | bool
  | float
  | decimal (d : Decimal)
  | nonFinite
  | int (n : ℤ)
  | str (s : String)
  | other

/-- What `Decimal(text)` makes: a refusal, a number, or an infinity or NaN. -/
inductive DecimalReading where
  | invalid
  | finite (d : Decimal)
  | nonFinite

/-- `_coerce_decimal`. -/
def coerce_decimal (read : String → DecimalReading) : AmountInput → Except AccountingError Decimal
  | .bool => .error (.value "accounting amount must not be bool")
  | .float => .error (.value "float input is prohibited for accounting")
  | .decimal d => .ok d
  | .int n => .ok ⟨decide (n < 0), n.natAbs, 0⟩
  | .str s =>
    if TextLines.strip s.toList ≠ s.toList then
      .error (.value "accounting amount string must be trimmed")
    else
      match read s with
      | .invalid => .error (.value "accounting amount is not a valid decimal string")
      | .finite d => .ok d
      | .nonFinite => .error (.value "accounting amount must be finite")
  | .nonFinite => .error (.value "accounting amount must be finite")
  | .other => .error (.value "accounting amount must be Decimal, int, or string")

structure AssetDelta where
  asset : AssetSymbol
  amount : Decimal
  deriving DecidableEq

variable (read : String → DecimalReading)

def AssetAmount.of (asset : AssetSymbol) (amount : AmountInput) :
    Except AccountingError AssetAmount := do
  let amount ← coerce_decimal read amount
  if h : amount.negative = false then .ok ⟨asset, amount, h⟩
  else .error (.value "asset amount must be non-negative")

def AssetDelta.of (asset : AssetSymbol) (amount : AmountInput) :
    Except AccountingError AssetDelta := do
  let amount ← coerce_decimal read amount
  .ok ⟨asset, amount⟩

/-! Both kinds are added and subtracted alike: an operation on the amounts, and the model made
again of the result. -/

/-- A kind of account: its amounts, the values it admits, and the model that checks them. -/
structure AccountKind (α : Type) where
  asset : α → AssetSymbol
  amount : α → Decimal
  make : AssetSymbol → Decimal → Except AccountingError α
  admits : ℚ → Prop
  admits_amount : ∀ a, admits (amount a).value
  admits_add : ∀ {p q}, admits p → admits q → admits (p + q)
  make_ok : ∀ s d, admits d.value → ∃ c, make s d = .ok c ∧ asset c = s ∧ amount c = d
  make_refused : ∀ s d, ¬ admits d.value → ∃ e, make s d = .error e

namespace AccountKind

variable {α : Type} (kind : AccountKind α)

def ensure_same_asset (a b : α) : Except AccountingError Unit :=
  if kind.asset a ≠ kind.asset b then
    .error (.value "cross-asset accounting operation rejected")
  else .ok ()

def combine (op : Decimal → Decimal → Except DecimalError Decimal) (a b : α) :
    Except AccountingError α := do
  kind.ensure_same_asset a b
  let amount ← (op (kind.amount a) (kind.amount b)).mapError .decimal
  kind.make (kind.asset a) amount

/-- `__add__`. -/
def add (a b : α) : Except AccountingError α := kind.combine Decimal.add a b

/-- `__sub__`. -/
def sub (a b : α) : Except AccountingError α := kind.combine Decimal.sub a b

/-- `==` of the models: one asset, and amounts of one value. -/
def Same (a b : α) : Prop := kind.asset a = kind.asset b ∧ (kind.amount a).value = (kind.amount b).value

def value (a : α) : ℚ := (kind.amount a).value

end AccountKind

def amountKind : AccountKind AssetAmount where
  asset := (·.asset)
  amount := (·.amount)
  make asset amount := AssetAmount.of read asset (.decimal amount)
  admits q := 0 ≤ q
  admits_amount a := by
    have h := a.nonneg
    rw [Bool.eq_false_iff, Ne, negative_iff, not_lt] at h
    exact h
  admits_add := add_nonneg
  make_ok s d h := by
    have hneg : d.negative = false := by
      rw [Bool.eq_false_iff, Ne, negative_iff, not_lt]
      exact h
    exact ⟨⟨s, d, hneg⟩, dif_pos hneg, rfl, rfl⟩
  make_refused s d h := by
    have hneg : d.negative = true := by
      rw [negative_iff]
      exact not_le.mp h
    exact ⟨_, dif_neg (by rw [hneg]; decide)⟩

def deltaKind : AccountKind AssetDelta where
  asset := (·.asset)
  amount := (·.amount)
  make asset amount := AssetDelta.of read asset (.decimal amount)
  admits _ := True
  admits_amount _ := trivial
  admits_add _ _ := trivial
  make_ok s d _ := ⟨⟨s, d⟩, rfl, rfl, rfl⟩
  make_refused _ _ h := absurd trivial h

def AssetAmount.add (a b : AssetAmount) : Except AccountingError AssetAmount :=
  (amountKind read).add a b

def AssetAmount.sub (a b : AssetAmount) : Except AccountingError AssetAmount :=
  (amountKind read).sub a b

def AssetAmount.subtract_non_negative (a b : AssetAmount) : Except AccountingError AssetAmount :=
  AssetAmount.sub read a b

def AssetDelta.add (a b : AssetDelta) : Except AccountingError AssetDelta :=
  (deltaKind read).add a b

def AssetDelta.sub (a b : AssetDelta) : Except AccountingError AssetDelta :=
  (deltaKind read).sub a b

namespace AccountKind

variable {read} {α : Type} {kind : AccountKind α} {a b c : α}

theorem combine_across (h : kind.asset a ≠ kind.asset b)
    (op : Decimal → Decimal → Except DecimalError Decimal) :
    kind.combine op a b = .error (.value "cross-asset accounting operation rejected") := by
  rw [combine, ensure_same_asset, if_pos h]
  rfl

theorem combine_same (h : kind.asset a = kind.asset b)
    (op : Decimal → Decimal → Except DecimalError Decimal) :
    kind.combine op a b = ((op (kind.amount a) (kind.amount b)).mapError .decimal).bind
      (kind.make (kind.asset a)) := by
  rw [combine, ensure_same_asset, if_neg (not_not.mpr h)]
  rfl

theorem make_eq_ok {s : AssetSymbol} {d : Decimal} (h : kind.make s d = .ok c) :
    kind.admits d.value ∧ kind.asset c = s ∧ kind.amount c = d := by
  by_cases hadmits : kind.admits d.value
  · obtain ⟨c', hmake, hasset, hamount⟩ := kind.make_ok s d hadmits
    obtain rfl := Except.ok.inj (hmake.symm.trans h)
    exact ⟨hadmits, hasset, hamount⟩
  · obtain ⟨e, he⟩ := kind.make_refused s d hadmits
    cases he.symm.trans h

/-- An operation within one asset succeeds exactly where that on the amounts does and gives a
value that is admitted. -/
theorem combine_eq_ok {op : Decimal → Decimal → Except DecimalError Decimal} :
    (kind.asset a = kind.asset b ∧ kind.combine op a b = .ok c) ↔
      kind.asset a = kind.asset b ∧ op (kind.amount a) (kind.amount b) = .ok (kind.amount c) ∧
        kind.make (kind.asset a) (kind.amount c) = .ok c := by
  apply and_congr_right
  intro h
  rw [combine_same h]
  cases hop : op (kind.amount a) (kind.amount b) with
  | error e => simp [Except.mapError, Except.bind]
  | ok d =>
    change kind.make (kind.asset a) d = .ok c ↔ _
    constructor
    · intro hmake
      obtain ⟨-, -, hamount⟩ := make_eq_ok hmake
      rw [hamount]
      exact ⟨rfl, hmake⟩
    · rintro ⟨hd, hmake⟩
      rw [Except.ok.inj hd]
      exact hmake

theorem combine_refused {op : Decimal → Decimal → Except DecimalError Decimal}
    (h : kind.asset a = kind.asset b) : (∃ e, kind.combine op a b = .error e) ↔
      ∀ d, op (kind.amount a) (kind.amount b) = .ok d → ¬ kind.admits d.value := by
  rw [combine_same h]
  cases hop : op (kind.amount a) (kind.amount b) with
  | error e => simp [Except.mapError, Except.bind]
  | ok d =>
    change (∃ e, kind.make (kind.asset a) d = .error e) ↔ _
    constructor
    · rintro ⟨e, he⟩ d' hd' hadmits
      obtain rfl := Except.ok.inj hd'
      obtain ⟨c, hmake, -⟩ := kind.make_ok (kind.asset a) d hadmits
      cases hmake.symm.trans he
    · intro hrefused
      exact kind.make_refused _ d (hrefused d rfl)

/-- The sum is exact exactly where its value fits. -/
theorem add_exact_iff (h : kind.asset a = kind.asset b) :
    (∃ c, kind.add a b = .ok c ∧ kind.value c = kind.value a + kind.value b) ↔
      Fits (kind.value a + kind.value b) := by
  rw [value, value, ← Decimal.add_exact_iff]
  constructor
  · rintro ⟨c, hc, hvalue⟩
    exact ⟨_, (combine_eq_ok.mp ⟨h, hc⟩).2.1, hvalue⟩
  · rintro ⟨r, hr, hvalue⟩
    have hadmits : kind.admits r.value := by
      rw [hvalue]
      exact kind.admits_add (kind.admits_amount a) (kind.admits_amount b)
    obtain ⟨c, hmake, -, hamount⟩ := kind.make_ok (kind.asset a) r hadmits
    refine ⟨c, (combine_eq_ok.mpr ⟨h, ?_, ?_⟩).2, ?_⟩
    · rw [hamount, hr]
    · rw [hamount, hmake]
    · rw [value, hamount, hvalue]

theorem add_asset (h : kind.asset a = kind.asset b) (hc : kind.add a b = .ok c) :
    kind.asset c = kind.asset a :=
  (make_eq_ok (combine_eq_ok.mp ⟨h, hc⟩).2.2).2.1

theorem add_comm (h : kind.asset a = kind.asset b) : kind.add a b = kind.add b a := by
  rw [add, add, combine_same h, combine_same h.symm, Decimal.add_comm, h]

/-- A difference that is admitted is exact exactly where its value fits. -/
theorem sub_exact_iff (h : kind.asset a = kind.asset b)
    (hadmits : kind.admits (kind.value a - kind.value b)) :
    (∃ c, kind.sub a b = .ok c ∧ kind.value c = kind.value a - kind.value b) ↔
      Fits (kind.value a - kind.value b) := by
  rw [value, value, ← Decimal.sub_exact_iff]
  constructor
  · rintro ⟨c, hc, hvalue⟩
    exact ⟨_, (combine_eq_ok.mp ⟨h, hc⟩).2.1, hvalue⟩
  · rintro ⟨r, hr, hvalue⟩
    have hr' : kind.admits r.value := by
      rw [hvalue]
      exact hadmits
    obtain ⟨c, hmake, -, hamount⟩ := kind.make_ok (kind.asset a) r hr'
    refine ⟨c, (combine_eq_ok.mpr ⟨h, ?_, ?_⟩).2, ?_⟩
    · rw [hamount, hr]
    · rw [hamount, hmake]
    · rw [value, hamount, hvalue]

/-- The sum is exact, and taking one summand off gives the other back. -/
def AddsAndTakesBack (kind : AccountKind α) (a b : α) : Prop :=
  ∃ c, kind.add a b = .ok c ∧ kind.value c = kind.value a + kind.value b ∧
    ∃ d, kind.sub c b = .ok d ∧ kind.Same d a

theorem addsAndTakesBack_iff (h : kind.asset a = kind.asset b) :
    kind.AddsAndTakesBack a b ↔
      Fits (kind.value a + kind.value b) ∧ Fits (kind.value a) := by
  have hback : ∀ c, kind.add a b = .ok c → kind.value c = kind.value a + kind.value b →
      ((∃ d, kind.sub c b = .ok d ∧ kind.Same d a) ↔ Fits (kind.value a)) := by
    intro c hc hvalue
    have hasset := add_asset h hc
    have hcb : kind.asset c = kind.asset b := hasset.trans h
    have hdiff : kind.value c - kind.value b = kind.value a := by
      rw [hvalue, add_sub_cancel_right]
    have hadmits : kind.admits (kind.value c - kind.value b) := by
      rw [hdiff]
      exact kind.admits_amount a
    have hiff := sub_exact_iff hcb hadmits
    rw [hdiff] at hiff
    rw [← hiff]
    apply exists_congr
    intro d
    apply and_congr_right
    intro hd
    have hda : kind.asset d = kind.asset a :=
      (make_eq_ok (combine_eq_ok.mp ⟨hcb, hd⟩).2.2).2.1.trans hasset
    exact and_iff_right hda
  rw [AddsAndTakesBack, ← add_exact_iff h]
  constructor
  · rintro ⟨c, hc, hvalue, hd⟩
    exact ⟨⟨c, hc, hvalue⟩, (hback c hc hvalue).mp hd⟩
  · rintro ⟨⟨c, hc, hvalue⟩, hfits⟩
    exact ⟨c, hc, hvalue, (hback c hc hvalue).mpr hfits⟩

end AccountKind

end FuturesBot.Accounting
