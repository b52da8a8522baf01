import FuturesBot.MarketData

/-! The texts of asset and instrument symbols, and the spellings of a logical pair that are
normalized to `BASE/QUOTE`. -/
namespace FuturesBot

open JsonText (Text)
open TextLines

def AssetSymbol.of (value : String) : Option AssetSymbol :=
  if h : 2 ≤ value.toList.length ∧ value.toList.length ≤ 16 ∧
      value.toList.all isAssetSymbolChar = true then some (.ofText value h) else none

theorem AssetSymbol.of_value (a : AssetSymbol) : AssetSymbol.of a.value = some a :=
  dif_pos ⟨a.valid.1, a.valid.2.1, List.all_eq_true.mpr a.valid.2.2⟩

/-- The two parts of a text with exactly one separator. -/
def splitOnce (separator : Char) (t : Text) : Option (Text × Text) :=
  match t.dropWhile (· ≠ separator) with
  | [] => none
  | _ :: rest => if separator ∈ rest then none else some (t.takeWhile (· ≠ separator), rest)

theorem splitOnce_append {separator : Char} {a b : Text} (ha : separator ∉ a)
    (hb : separator ∉ b) : splitOnce separator (a ++ separator :: b) = some (a, b) := by
  have hall : ∀ c ∈ a, decide (c ≠ separator) = true := fun c hc =>
    decide_eq_true fun heq => ha (heq ▸ hc)
  have hstop : decide (separator ≠ separator) = false := by simp
  have hdrop : (a ++ separator :: b).dropWhile (· ≠ separator) = separator :: b := by
    rw [List.dropWhile_append_of_pos hall, List.dropWhile_cons, hstop]
    rfl
  have htake : (a ++ separator :: b).takeWhile (· ≠ separator) = a := by
    rw [List.takeWhile_append_of_pos hall, List.takeWhile_cons, hstop]
    exact List.append_nil a
  rw [splitOnce, hdrop]
  dsimp only
  rw [if_neg hb, htake]

def pairOf (base quote : Text) : Option InstrumentSymbol := do
  let base_asset ← AssetSymbol.of (String.ofList base)
  let quote_asset ← AssetSymbol.of (String.ofList quote)
  some ⟨base_asset, quote_asset⟩

/-- `InstrumentSymbol._validate_value`. -/
def InstrumentSymbol.of (value : String) : Option InstrumentSymbol :=
  (splitOnce '/' value.toList).bind fun parts => pairOf parts.1 parts.2

theorem AssetSymbol.no_slash (a : AssetSymbol) : '/' ∉ a.value.toList := fun h =>
  absurd (a.valid.2.2 _ h) (by decide)

theorem InstrumentSymbol.toList_value (i : InstrumentSymbol) :
    i.value.toList = i.base_asset.value.toList ++ '/' :: i.quote_asset.value.toList := by
  rw [value, String.toList_append, String.toList_append, List.append_assoc]
  rfl

theorem InstrumentSymbol.of_value (i : InstrumentSymbol) : InstrumentSymbol.of i.value = some i := by
  rw [of, toList_value, splitOnce_append i.base_asset.no_slash i.quote_asset.no_slash,
    Option.bind_some, pairOf]
  simp only [Option.bind_eq_bind, Option.bind_some, String.ofList_toList, AssetSymbol.of_value]

/-! External spellings of a pair. -/

/-- The quote assets of the source, the longest texts first. -/
def knownQuoteAssets : List Text := [['U', 'S', 'D', 'C'], ['U', 'S', 'D', 'T'], ['U', 'S', 'D']]

/-- `_normalize_slash_instrument_symbol`. -/
def normalizeSlash (t : Text) : Option InstrumentSymbol :=
  InstrumentSymbol.of (String.ofList t)

/-- `_normalize_separated_instrument_symbol`. -/
def normalizeSeparated (t : Text) : Option InstrumentSymbol :=
  if '-' ∈ t ∧ '_' ∈ t then none
  else (splitOnce (if '-' ∈ t then '-' else '_') t).bind fun parts =>
    if parts.2 ∈ knownQuoteAssets then pairOf parts.1 parts.2 else none

/-- `_normalize_compact_instrument_symbol`. -/
def normalizeCompact (t : Text) : Option InstrumentSymbol :=
  let matched := knownQuoteAssets.filterMap fun quote =>
    if quote.isSuffixOf t then
      (pairOf (t.take (t.length - quote.length)) quote).map fun i => (i, quote.length)
    else none
  match matched with
  | [] => none
  | (i, best) :: others => if ∃ other ∈ others, other.2 = best then none else some i

/-- `normalize_instrument_symbol` of a text. -/
def normalizeInstrumentSymbol (value : String) : Option InstrumentSymbol :=
  let stripped := strip value.toList
  if stripped.all fun c => c.toNat < 128 then
    let normalized := stripped.map Char.toUpper
    if '/' ∈ normalized then normalizeSlash normalized
    else if '-' ∈ normalized ∨ '_' ∈ normalized then normalizeSeparated normalized
    else normalizeCompact normalized
  else none

theorem AssetSymbol.char_upper (a : AssetSymbol) {c : Char} (h : c ∈ a.value.toList) :
    c.toNat < 128 ∧ c.toUpper = c ∧ isSpace c = false := by
  have hchar := a.valid.2.2 c h
  have hrange : (65 ≤ c.toNat ∧ c.toNat ≤ 90) ∨ (48 ≤ c.toNat ∧ c.toNat ≤ 57) := by
    simpa [isAssetSymbolChar, Char.le_def, UInt32.le_iff_toNat_le] using hchar
  refine ⟨by omega, ?_, ?_⟩
  · have hlower : c.toNat < 97 := by omega
    refine dif_neg ?_
    simp only [UInt32.le_iff_toNat_le, not_and]
    intro hge
    change 97 ≤ c.toNat at hge
    omega
  · simp only [isSpace, Bool.or_eq_false_iff, Bool.and_eq_false_imp, decide_eq_true_eq,
      decide_eq_false_iff_not]
    omega

/-- A logical pair is spelled in the normal form. -/
theorem normalizeInstrumentSymbol_value (i : InstrumentSymbol) :
    normalizeInstrumentSymbol i.value = some i := by
  have hplain : ∀ c ∈ i.value.toList, c.toNat < 128 ∧ c.toUpper = c ∧ isSpace c = false := by
    intro c hc
    rw [i.toList_value, List.mem_append, List.mem_cons] at hc
    rcases hc with hc | rfl | hc
    · exact i.base_asset.char_upper hc
    · decide
    · exact i.quote_asset.char_upper hc
  have hslash : '/' ∈ i.value.toList := by
    rw [i.toList_value]
    exact List.mem_append_right _ List.mem_cons_self
  have hstrip : strip i.value.toList = i.value.toList :=
    (trimmed_of_no_space (List.ne_nil_of_mem hslash) fun c hc => (hplain c hc).2.2).2
  have hascii : (i.value.toList.all fun c => c.toNat < 128) = true :=
    List.all_eq_true.mpr fun c hc => decide_eq_true (hplain c hc).1
  have hupper : i.value.toList.map Char.toUpper = i.value.toList := by
    conv_rhs => rw [← List.map_id i.value.toList]
    exact List.map_congr_left fun c hc => (hplain c hc).2.1
  simp only [normalizeInstrumentSymbol, hstrip, hascii, ↓reduceIte, hupper, hslash]
  rw [normalizeSlash, String.ofList_toList, i.of_value]

end FuturesBot
