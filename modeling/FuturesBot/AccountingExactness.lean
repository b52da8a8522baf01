import FuturesBot.AssetAccounting
import FuturesBot.Checks

/-! When sums of amounts are exact in every order and however they are bracketed, and which
differences are refused. -/
namespace FuturesBot.Accounting

open DecimalNumbers DecimalNumbers.Decimal

/-- A sum with its brackets. -/
inductive SumTree (α : Type) where
  | leaf (a : α)
  | node (left right : SumTree α)

namespace SumTree

variable {α : Type}

def leaves : SumTree α → List α
  | leaf a => [a]
  | node left right => left.leaves ++ right.leaves

theorem leaves_ne_nil (t : SumTree α) : t.leaves ≠ [] := by
  induction t with
  | leaf a => exact List.cons_ne_nil a []
  | node left right ihl _ => exact fun h => ihl (List.append_eq_nil_iff.mp h).1

/-- The sum from the left. -/
def comb (t : SumTree α) : List α → SumTree α
  | [] => t
  | a :: l => comb (node t (leaf a)) l

theorem leaves_comb (t : SumTree α) (l : List α) : (t.comb l).leaves = t.leaves ++ l := by
  induction l generalizing t with
  | nil => rw [comb, List.append_nil]
  | cons a l ih => rw [comb, ih, leaves, leaves, List.append_assoc, List.singleton_append]

end SumTree

namespace AccountKind

variable {α : Type} {kind : AccountKind α}

def eval (kind : AccountKind α) : SumTree α → Except AccountingError α
  | .leaf a => .ok a
  | .node left right => do
    let x ← kind.eval left
    let y ← kind.eval right
    kind.add x y

def totalValue (kind : AccountKind α) (l : List α) : ℚ := (l.map kind.value).sum

/-- The bracketed sum succeeds with the exact total. -/
def ExactTotal (kind : AccountKind α) (t : SumTree α) : Prop :=
  ∃ c, kind.eval t = .ok c ∧ kind.value c = kind.totalValue t.leaves

theorem totalValue_append (l m : List α) :
    kind.totalValue (l ++ m) = kind.totalValue l + kind.totalValue m := by
  rw [totalValue, List.map_append, List.sum_append]
  rfl

theorem eval_node {left right : SumTree α} {c : α} :
    kind.eval (.node left right) = .ok c ↔
      ∃ x y, kind.eval left = .ok x ∧ kind.eval right = .ok y ∧ kind.add x y = .ok c := by
  rw [eval]
  constructor
  · intro h
    obtain ⟨x, hx, h⟩ := Checks.bind_eq_ok.mp h
    obtain ⟨y, hy, h⟩ := Checks.bind_eq_ok.mp h
    exact ⟨x, y, hx, hy, h⟩
  · rintro ⟨x, y, hx, hy, h⟩
    exact Checks.bind_eq_ok.mpr ⟨x, hx, Checks.bind_eq_ok.mpr ⟨y, hy, h⟩⟩

/-- A sum of amounts of one asset is of that asset. -/
theorem eval_asset {s : AssetSymbol} {t : SumTree α} {c : α}
    (hassets : ∀ a ∈ t.leaves, kind.asset a = s) (h : kind.eval t = .ok c) :
    kind.asset c = s := by
  induction t generalizing c with
  | leaf a =>
    obtain rfl := Except.ok.inj h
    exact hassets a List.mem_cons_self
  | node left right ihl ihr =>
    obtain ⟨x, y, hx, hy, hadd⟩ := eval_node.mp h
    have hxs := ihl (fun a ha => hassets a (List.mem_append_left _ ha)) hx
    have hys := ihr (fun a ha => hassets a (List.mem_append_right _ ha)) hy
    exact (add_asset (hxs.trans hys.symm) hadd).trans hxs

/-- Two exact totals are added exactly exactly where their sum fits. -/
theorem exactTotal_node {s : AssetSymbol} {left right : SumTree α}
    (hassets : ∀ a ∈ (SumTree.node left right).leaves, kind.asset a = s)
    (hleft : kind.ExactTotal left) (hright : kind.ExactTotal right) :
    kind.ExactTotal (.node left right) ↔
      Fits (kind.totalValue (SumTree.node left right).leaves) := by
  obtain ⟨x, hx, hxv⟩ := hleft
  obtain ⟨y, hy, hyv⟩ := hright
  have hxs := eval_asset (fun a ha => hassets a (List.mem_append_left _ ha)) hx
  have hys := eval_asset (fun a ha => hassets a (List.mem_append_right _ ha)) hy
  have htotal : kind.totalValue (SumTree.node left right).leaves = kind.value x + kind.value y := by
    rw [SumTree.leaves, totalValue_append, hxv, hyv]
  rw [ExactTotal, htotal, ← add_exact_iff (hxs.trans hys.symm)]
  apply exists_congr
  intro c
  apply and_congr_left
  intro _
  rw [eval_node]
  constructor
  · rintro ⟨x', y', hx', hy', hadd⟩
    obtain rfl := Except.ok.inj (hx.symm.trans hx')
    obtain rfl := Except.ok.inj (hy.symm.trans hy')
    exact hadd
  · exact fun hadd => ⟨x, y, hx, hy, hadd⟩

/-- Every sum of some of the amounts, in every order and with every bracketing, is exact exactly
where the total of every two or more of them fits. -/
theorem exactTotals_iff {s : AssetSymbol} {amounts : List α}
    (hassets : ∀ a ∈ amounts, kind.asset a = s) :
    (∀ t : SumTree α, t.leaves.Subperm amounts → kind.ExactTotal t) ↔
      ∀ l : List α, l.Subperm amounts → 2 ≤ l.length → Fits (kind.totalValue l) := by
  constructor
  · intro h l hl hlength
    obtain ⟨a, m, rfl⟩ : ∃ a m, l = a :: m := by
      cases l with
      | nil => exact absurd hlength (by simp)
      | cons a m => exact ⟨a, m, rfl⟩
    -- the sum from the left, its last addend apart
    obtain ⟨n, b, rfl⟩ : ∃ n b, m = n ++ [b] := by
      rcases List.eq_nil_or_concat m with rfl | ⟨n, b, rfl⟩
      · exact absurd hlength (by simp)
      · exact ⟨n, b, by rw [List.concat_eq_append]⟩
    have hleaves : (SumTree.node ((SumTree.leaf a).comb n) (.leaf b)).leaves = a :: (n ++ [b]) := by
      rw [SumTree.leaves, SumTree.leaves_comb, SumTree.leaves, SumTree.leaves]
      rfl
    have hpart : ((SumTree.leaf a).comb n).leaves.Subperm amounts := by
      rw [SumTree.leaves_comb, SumTree.leaves]
      have hsub : ([a] ++ n).Sublist (a :: (n ++ [b])) :=
        (List.sublist_append_left n [b]).cons_cons a
      exact hsub.subperm.trans hl
    have hlast : (SumTree.leaf b).leaves.Subperm amounts := by
      have hsub : [b].Sublist (a :: (n ++ [b])) := (List.sublist_append_right n [b]).cons a
      exact hsub.subperm.trans hl
    have hall : ∀ c ∈ (SumTree.node ((SumTree.leaf a).comb n) (.leaf b)).leaves,
        kind.asset c = s := by
      rw [hleaves]
      exact fun c hc => hassets c (hl.subset hc)
    have hexact := (exactTotal_node hall (h _ hpart) (h _ hlast)).mp (h _ (hleaves ▸ hl))
    rwa [hleaves] at hexact
  · intro h t ht
    induction t with
    | leaf a => exact ⟨a, rfl, by simp [totalValue, SumTree.leaves]⟩
    | node left right ihl ihr =>
      have hl : left.leaves.Subperm amounts :=
        (List.sublist_append_left left.leaves right.leaves).subperm.trans ht
      have hr : right.leaves.Subperm amounts :=
        (List.sublist_append_right left.leaves right.leaves).subperm.trans ht
      have hlength : 2 ≤ (SumTree.node left right).leaves.length := by
        have h1 := List.length_pos_iff.mpr left.leaves_ne_nil
        have h2 := List.length_pos_iff.mpr right.leaves_ne_nil
        rw [SumTree.leaves, List.length_append]
        omega
      exact (exactTotal_node (fun a ha => hassets a (ht.subset ha)) (ihl hl) (ihr hr)).mpr
        (h _ ht hlength)

/-- What addition within one asset promises for a kind of account, and where. -/
structure Accounts (kind : AccountKind α) : Prop where
  pairs : ∀ a b, kind.asset a = kind.asset b → (kind.AddsAndTakesBack a b ↔
    Fits (kind.value a + kind.value b) ∧ Fits (kind.value a))
  commutes : ∀ a b, kind.asset a = kind.asset b → kind.add a b = kind.add b a
  totals : ∀ (s : AssetSymbol) (amounts : List α), (∀ a ∈ amounts, kind.asset a = s) →
    ((∀ t : SumTree α, t.leaves.Subperm amounts → kind.ExactTotal t) ↔
      ∀ l : List α, l.Subperm amounts → 2 ≤ l.length → Fits (kind.totalValue l))
  across : ∀ a b, kind.asset a ≠ kind.asset b →
    kind.add a b = .error (.value "cross-asset accounting operation rejected") ∧
      kind.sub a b = .error (.value "cross-asset accounting operation rejected")

theorem accounts (kind : AccountKind α) : kind.Accounts where
  pairs _ _ h := addsAndTakesBack_iff h
  commutes _ _ h := add_comm h
  totals _ _ h := exactTotals_iff h
  across _ _ h := ⟨combine_across h _, combine_across h _⟩

end AccountKind

/-! Differences of amounts. -/

variable {read : String → DecimalReading} {a b : AssetAmount}

theorem sub_value_cases (a b : AssetAmount) :
    (TooLarge (a.amount.value - b.amount.value) ∧ ∃ e, Decimal.sub a.amount b.amount = .error e) ∨
      (¬ TooLarge (a.amount.value - b.amount.value) ∧
        ∃ r, Decimal.sub a.amount b.amount = .ok r ∧
          (r.value = 0 ↔ Negligible (a.amount.value - b.amount.value)) ∧
          (0 ≤ a.amount.value - b.amount.value → 0 ≤ r.value) ∧
          (a.amount.value - b.amount.value ≤ 0 → r.value ≤ 0)) := by
  have hvalue : (exactSum a.amount b.amount.negated).value =
      a.amount.value - b.amount.value := by
    rw [exactSum_value, negated_value, sub_eq_add_neg]
  have hcases := fix_value_cases (exactSum a.amount b.amount.negated)
  rw [hvalue] at hcases
  rcases hcases with ⟨hlarge, e, he⟩ | ⟨hroom, r, hr, hzero⟩
  · exact .inl ⟨hlarge, e, he⟩
  · have hsign := fix_sign hr
    rw [hvalue] at hsign
    exact .inr ⟨hroom, r, hr, hzero, hsign⟩

/-- A larger amount is refused unless the difference is rounded to zero. -/
theorem sub_larger_refused_iff (hasset : a.asset = b.asset)
    (hlt : a.amount.value < b.amount.value) :
    (∃ e, AssetAmount.sub read a b = .error e) ↔
      ¬ Negligible (a.amount.value - b.amount.value) := by
  have hrefused : (∃ e, AssetAmount.sub read a b = .error e) ↔
      ∀ d, Decimal.sub a.amount b.amount = .ok d → ¬ 0 ≤ d.value :=
    show (∃ e, (amountKind read).combine Decimal.sub a b = .error e) ↔ _ from
      AccountKind.combine_refused hasset
  rw [hrefused]
  rcases sub_value_cases a b with ⟨hlarge, e, he⟩ | ⟨-, r, hr, hzero, -, hneg⟩
  · refine iff_of_true (fun d hd => ?_) hlarge.not_negligible
    cases hd.symm.trans he
  · have hle := hneg (by linarith)
    rw [← hzero]
    constructor
    · intro h hr0
      exact h r hr hr0.ge
    · intro hne d hd hd0
      obtain rfl := Except.ok.inj (hr.symm.trans hd)
      exact hne (le_antisymm hle hd0)

/-- A smaller or equal amount is taken off unless the difference has no room. -/
theorem sub_smaller_accepted_iff (hasset : a.asset = b.asset)
    (hle : b.amount.value ≤ a.amount.value) :
    (∃ c, AssetAmount.sub read a b = .ok c) ↔ ¬ TooLarge (a.amount.value - b.amount.value) := by
  have hrefused : (∃ e, AssetAmount.sub read a b = .error e) ↔
      ∀ d, Decimal.sub a.amount b.amount = .ok d → ¬ 0 ≤ d.value :=
    show (∃ e, (amountKind read).combine Decimal.sub a b = .error e) ↔ _ from
      AccountKind.combine_refused hasset
  have hok : (∃ c, AssetAmount.sub read a b = .ok c) ↔
      ¬ ∃ e, AssetAmount.sub read a b = .error e := by
    cases AssetAmount.sub read a b <;> simp
  rw [hok, hrefused]
  rcases sub_value_cases a b with ⟨hlarge, e, he⟩ | ⟨hroom, r, hr, -, hpos, -⟩
  · refine iff_of_false (not_not.mpr fun d hd => ?_) (not_not.mpr hlarge)
    cases hd.symm.trans he
  · refine iff_of_true (fun h => ?_) hroom
    exact h r hr (hpos (by linarith))

/-- Where the sum and the first amount fit, the difference of the two is neither rounded to zero
nor without room. -/
theorem fits_difference {p q : ℚ} (hsum : Fits (p + q)) (hp : Fits p) (hp0 : 0 ≤ p) (hq0 : 0 ≤ q) :
    (p < q → ¬ Negligible (p - q)) ∧ (q ≤ p → ¬ TooLarge (p - q)) := by
  have hpos : (0 : ℚ) < (10 : ℚ) ^ tinyExp := zpow_pos (by norm_num) _
  constructor
  · intro hlt
    obtain ⟨j, hj⟩ := hsum.units
    obtain ⟨k, hk⟩ := hp.units
    have hdiff : p - q = ((2 * k - j : ℤ) : ℚ) * (10 : ℚ) ^ tinyExp := by
      push_cast
      linarith
    have hne : (2 * k - j : ℤ) ≠ 0 := by
      intro h0
      rw [h0, Int.cast_zero, zero_mul] at hdiff
      linarith
    have hone : (1 : ℚ) ≤ |((2 * k - j : ℤ) : ℚ)| := by
      exact_mod_cast Int.one_le_abs hne
    rw [Negligible, not_le, hdiff, abs_mul, abs_of_pos hpos]
    nlinarith
  · intro hle
    apply hp.not_tooLarge
    rw [abs_of_nonneg (by linarith), abs_of_nonneg hp0]
    linarith

/-- Exact sums, taken back, with the larger amount refused and the smaller one taken off. -/
structure Exact (read : String → DecimalReading) (a b : AssetAmount) : Prop where
  adds : (amountKind read).AddsAndTakesBack a b
  larger_refused : a.amount.value < b.amount.value → ∃ e, AssetAmount.sub read a b = .error e
  smaller_accepted : b.amount.value ≤ a.amount.value → ∃ c, AssetAmount.sub read a b = .ok c

theorem exact_iff (hasset : a.asset = b.asset) : Exact read a b ↔
    Fits (a.amount.value + b.amount.value) ∧ Fits a.amount.value := by
  have hpairs : (amountKind read).AddsAndTakesBack a b ↔ _ :=
    AccountKind.addsAndTakesBack_iff hasset
  constructor
  · exact fun h => hpairs.mp h.adds
  · intro h
    have hpos : ∀ x : AssetAmount, 0 ≤ x.amount.value := (amountKind read).admits_amount
    obtain ⟨hlarger, hsmaller⟩ := fits_difference h.1 h.2 (hpos a) (hpos b)
    exact ⟨hpairs.mpr h, fun hlt => (sub_larger_refused_iff hasset hlt).mpr (hlarger hlt),
      fun hle => (sub_smaller_accepted_iff hasset hle).mpr (hsmaller hle)⟩

/-- Accounting within one asset is exact exactly where the totals fit, and refuses every operation
across two. -/
theorem asset_accounting (read : String → DecimalReading) :
    (amountKind read).Accounts ∧ (deltaKind read).Accounts ∧
      ∀ a b : AssetAmount, a.asset = b.asset →
        (Exact read a b ↔ Fits (a.amount.value + b.amount.value) ∧ Fits a.amount.value) ∧
        (a.amount.value < b.amount.value → ((∃ e, AssetAmount.sub read a b = .error e) ↔
          ¬ Negligible (a.amount.value - b.amount.value))) ∧
        (b.amount.value ≤ a.amount.value → ((∃ c, AssetAmount.sub read a b = .ok c) ↔
          ¬ TooLarge (a.amount.value - b.amount.value))) :=
  ⟨AccountKind.accounts _, AccountKind.accounts _, fun _ _ hasset =>
    ⟨exact_iff hasset, sub_larger_refused_iff hasset, sub_smaller_accepted_iff hasset⟩⟩

/-! A sum of 29 digits, and a difference far below the smallest unit. -/

def usdt : AssetSymbol := .ofText "USDT" (AssetSymbol.checked evaluates)

def usdtAmount (coeff : ℕ) (exp : ℤ) : AssetAmount := ⟨usdt, ⟨false, coeff, exp⟩, rfl⟩

def noText (_ : String) : DecimalReading := .invalid

theorem sum_rounded_and_larger_taken :
    ((∃ c, AssetAmount.add noText (usdtAmount 1 28) (usdtAmount 1 0) = .ok c) ∧
      ¬ Exact noText (usdtAmount 1 28) (usdtAmount 1 0)) ∧
    ∃ c, AssetAmount.sub noText (usdtAmount 1 (-1100000)) (usdtAmount 2 (-1100000)) = .ok c := by
  have hadd : AssetAmount.add noText (usdtAmount 1 28) (usdtAmount 1 0) =
      .ok (usdtAmount (10 ^ 27) 1) := by decide +kernel
  refine ⟨⟨⟨_, hadd⟩, fun h => ?_⟩, ⟨usdt, ⟨true, 0, -1000026⟩, rfl⟩, ?_⟩
  · obtain ⟨c, hc, hvalue, -⟩ := h.adds
    obtain rfl := Except.ok.inj (hadd.symm.trans hc)
    norm_num [AccountKind.value, amountKind, usdtAmount, Decimal.value] at hvalue
  · decide +kernel

end FuturesBot.Accounting
