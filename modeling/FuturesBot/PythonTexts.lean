import FuturesBot.JsonParse
import Mathlib.Data.Fin.Basic

/-! Texts as sequences of code points, surrogates among them, and their spelling in ASCII: what is
past the printable range is escaped, what is past U+FFFF as two surrogates. A reader takes a high
surrogate and a low one behind it for the code point they stand for. -/
namespace PythonTexts

open JsonText

abbrev CodePoint := Fin 0x110000

abbrev PyText := List CodePoint

instance codePoints_neZero : NeZero 0x110000 := ⟨by decide⟩

/-- The code point of a character; no character is a surrogate. -/
def codePoint (c : Char) : CodePoint := Fin.ofNat 0x110000 c.toNat

def ofText (t : Text) : PyText := t.map codePoint

def isHigh (u : CodePoint) : Bool := 0xD800 ≤ u.val && u.val < 0xDC00

def isLow (u : CodePoint) : Bool := 0xDC00 ≤ u.val && u.val < 0xE000

/-- The code point that two surrogates stand for. -/
def merge (high low : CodePoint) : CodePoint :=
  Fin.ofNat 0x110000 (0x10000 + (high.val - 0xD800) * 0x400 + (low.val - 0xDC00))

/-- A code point as the reader's escapes have it. -/
def units (u : CodePoint) : PyText :=
  if 0x10000 ≤ u.val then
    [Fin.ofNat 0x110000 (0xD800 + (u.val - 0x10000) / 0x400),
      Fin.ofNat 0x110000 (0xDC00 + (u.val - 0x10000) % 0x400)]
  else [u]

def escapeUnit (u : CodePoint) : Text :=
  if u.val = 0x22 then ['\\', '"']
  else if u.val = 0x5c then ['\\', '\\']
  else if u.val = 0x08 then ['\\', 'b']
  else if u.val = 0x0c then ['\\', 'f']
  else if u.val = 0x0a then ['\\', 'n']
  else if u.val = 0x0d then ['\\', 'r']
  else if u.val = 0x09 then ['\\', 't']
  else if 0x20 ≤ u.val ∧ u.val ≤ 0x7e then [Char.ofNat u.val]
  else unicodeEscape u.val

/-- The body of a string literal and its closing quote. -/
def asciiBody (s : PyText) : Text := (s.flatMap units).flatMap escapeUnit ++ ['"']

def asciiText (s : PyText) : Text := '"' :: asciiBody s

def prependUnit (u : CodePoint) : Option (PyText × Text) → Option (PyText × Text)
  | some (us, rest) => some (u :: us, rest)
  | none => none

/-- What follows an opening quote, escape by escape. -/
def scanUnits : Text → Option (PyText × Text)
  | [] => none
  | '"' :: rest => some ([], rest)
  | '\\' :: 'u' :: a :: b :: c :: d :: rest =>
    match hex4 a b c d with
    | some n => prependUnit (Fin.ofNat 0x110000 n) (scanUnits rest)
    | none => none
  | '\\' :: e :: rest =>
    match shortEscape e with
    | some c => prependUnit (codePoint c) (scanUnits rest)
    | none => none
  | c :: rest =>
    if c = '\\' ∨ c.toNat < 0x20 then none else prependUnit (codePoint c) (scanUnits rest)

def join : PyText → PyText
  | high :: low :: s =>
    if isHigh high && isLow low then merge high low :: join s else high :: join (low :: s)
  | s => s

/-- A text has no surrogates of its own, so all that stand in the units come from escapes, and
are joined after they are read. -/
def scanString (t : Text) : Option (PyText × Text) := (scanUnits t).map fun p => (join p.1, p.2)

/-- Nothing in the text is taken for another code point when it is read back. -/
def Joined (s : PyText) : Prop := join s = s

instance (s : PyText) : Decidable (Joined s) := inferInstanceAs (Decidable (join s = s))

/-! The escapes are read back, one unit at a time. -/

theorem hexDigit_digitChar {n : ℕ} (h : n < 16) : hexDigit (Nat.digitChar n) = some n := by
  have hall : ∀ k : Fin 16, hexDigit (Nat.digitChar k.val) = some k.val := by decide
  exact hall ⟨n, h⟩

theorem hex4_unicodeEscape {n : ℕ} (h : n < 0x10000) :
    hex4 (Nat.digitChar (n / 0x1000 % 16)) (Nat.digitChar (n / 0x100 % 16))
      (Nat.digitChar (n / 0x10 % 16)) (Nat.digitChar (n % 16)) = some n := by
  have hlt : ∀ k : ℕ, k % 16 < 16 := fun k => Nat.mod_lt k (by decide)
  simp only [hex4, hexDigit_digitChar (hlt _), Option.bind_eq_bind, Option.bind_some,
    Option.some.injEq]
  omega

theorem ofNat_val (u : CodePoint) : Fin.ofNat 0x110000 u.val = u := by
  apply Fin.ext
  exact Nat.mod_eq_of_lt u.isLt

theorem toNat_ascii {n : ℕ} (h : n ≤ 0x7e) : (Char.ofNat n).toNat = n := by
  have hall : ∀ k : Fin 0x7f, (Char.ofNat k.val).toNat = k.val := by decide
  exact hall ⟨n, by omega⟩

theorem scanUnits_plain {c : Char} (t : Text) (hq : c ≠ '"') (hb : c ≠ '\\')
    (hctrl : ¬ c.toNat < 0x20) :
    scanUnits (c :: t) = prependUnit (codePoint c) (scanUnits t) := by
  rw [scanUnits.eq_def]
  split
  case h_5 heq =>
    obtain ⟨rfl, rfl⟩ := List.cons.inj heq
    simp only [hb, hctrl, or_self, ↓reduceIte]
  all_goals simp_all

/-- The reader undoes the escape of one unit. -/
theorem scanUnits_escapeUnit {u : CodePoint} (h : u.val < 0x10000) (t : Text) :
    scanUnits (escapeUnit u ++ t) = prependUnit u (scanUnits t) := by
  have hshort : ∀ c : Char, u.val = c.toNat → codePoint c = u := by
    intro c hc
    rw [codePoint, ← hc, ofNat_val]
  unfold escapeUnit
  by_cases hq : u.val = 0x22
  · rw [if_pos hq, ← hshort '"' hq]
    rfl
  by_cases hb : u.val = 0x5c
  · rw [if_neg hq, if_pos hb, ← hshort '\\' hb]
    rfl
  by_cases h8 : u.val = 0x08
  · rw [if_neg hq, if_neg hb, if_pos h8, ← hshort '\x08' h8]
    rfl
  by_cases hf : u.val = 0x0c
  · rw [if_neg hq, if_neg hb, if_neg h8, if_pos hf, ← hshort '\x0c' hf]
    rfl
  by_cases hn : u.val = 0x0a
  · rw [if_neg hq, if_neg hb, if_neg h8, if_neg hf, if_pos hn, ← hshort '\n' hn]
    rfl
  by_cases hr : u.val = 0x0d
  · rw [if_neg hq, if_neg hb, if_neg h8, if_neg hf, if_neg hn, if_pos hr, ← hshort '\r' hr]
    rfl
  by_cases ht : u.val = 0x09
  · rw [if_neg hq, if_neg hb, if_neg h8, if_neg hf, if_neg hn, if_neg hr, if_pos ht,
      ← hshort '\t' ht]
    rfl
  rw [if_neg hq, if_neg hb, if_neg h8, if_neg hf, if_neg hn, if_neg hr, if_neg ht]
  by_cases hascii : 0x20 ≤ u.val ∧ u.val ≤ 0x7e
  · -- a printable character stands for itself
    have hnat : (Char.ofNat u.val).toNat = u.val := toNat_ascii hascii.2
    have hne : ∀ c : Char, u.val ≠ c.toNat → Char.ofNat u.val ≠ c := by
      rintro c hc rfl
      exact hc hnat.symm
    rw [if_pos hascii, List.cons_append, List.nil_append,
      scanUnits_plain t (hne '"' hq) (hne '\\' hb) (by omega), hshort _ hnat.symm]
  · rw [if_neg hascii]
    simp only [unicodeEscape, List.cons_append, List.nil_append, scanUnits,
      hex4_unicodeEscape h, ofNat_val]

theorem scanUnits_body {us : PyText} (h : ∀ u ∈ us, u.val < 0x10000) (rest : Text) :
    scanUnits (us.flatMap escapeUnit ++ '"' :: rest) = some (us, rest) := by
  induction us with
  | nil => rfl
  | cons u us ih =>
    obtain ⟨hu, hus⟩ := List.forall_mem_cons.mp h
    rw [List.flatMap_cons, List.append_assoc, scanUnits_escapeUnit hu, ih hus]
    rfl

theorem units_lt (u : CodePoint) : ∀ v ∈ units u, v.val < 0x10000 := by
  intro v hv
  have hu : u.val < 0x110000 := u.isLt
  rw [units] at hv
  split at hv
  · rcases List.mem_cons.mp hv with rfl | hv
    · simp only [Fin.ofNat]
      omega
    · obtain rfl := List.mem_singleton.mp hv
      simp only [Fin.ofNat]
      omega
  · obtain rfl := List.mem_singleton.mp hv
    omega

/-! Joining undoes the split into surrogates. -/

theorem join_cons {u : CodePoint} {s : PyText}
    (h : isHigh u = false ∨ ∀ v ∈ s.head?, isLow v = false) : join (u :: s) = u :: join s := by
  cases s with
  | nil => rfl
  | cons v s =>
    have hpair : (isHigh u && isLow v) = false := by
      rcases h with h | h
      · rw [h, Bool.false_and]
      · rw [h v rfl, Bool.and_false]
    rw [join, hpair]
    rfl

theorem join_pair {high low : CodePoint} (hh : isHigh high = true) (hl : isLow low = true)
    (s : PyText) : join (high :: low :: s) = merge high low :: join s := by
  rw [join, hh, hl]
  rfl

/-- A code point past U+FFFF is written as a high surrogate and a low one, which are joined to
it. -/
theorem units_large {u : CodePoint} (h : 0x10000 ≤ u.val) :
    ∃ high low, units u = [high, low] ∧ isHigh high = true ∧ isLow low = true ∧
      merge high low = u ∧ isHigh u = false ∧ isLow high = false := by
  have hu : u.val < 0x110000 := u.isLt
  refine ⟨_, _, by rw [units, if_pos h], ?_, ?_, ?_, ?_, ?_⟩
  · simp only [isHigh, Fin.ofNat, Bool.and_eq_true, decide_eq_true_eq]
    omega
  · simp only [isLow, Fin.ofNat, Bool.and_eq_true, decide_eq_true_eq]
    omega
  · apply Fin.ext
    simp only [merge, Fin.ofNat]
    omega
  · simp only [isHigh, Bool.and_eq_false_imp, decide_eq_true_eq, decide_eq_false_iff_not]
    omega
  · simp only [isLow, Fin.ofNat, Bool.and_eq_false_imp, decide_eq_true_eq,
      decide_eq_false_iff_not]
    omega

theorem units_small {u : CodePoint} (h : ¬ 0x10000 ≤ u.val) : units u = [u] := by
  rw [units, if_neg h]

/-- The split text starts with a low surrogate only when the text does. -/
theorem head_units_low {s : PyText} (h : ∀ v ∈ s.head?, isLow v = false) :
    ∀ v ∈ (s.flatMap units).head?, isLow v = false := by
  cases s with
  | nil => exact h
  | cons u s =>
    intro v hv
    by_cases hu : 0x10000 ≤ u.val
    · obtain ⟨high, low, hunits, -, -, -, -, hhigh⟩ := units_large hu
      rw [List.flatMap_cons, hunits] at hv
      obtain rfl := Option.some.inj hv
      exact hhigh
    · rw [List.flatMap_cons, units_small hu] at hv
      obtain rfl := Option.some.inj hv
      exact h u rfl

theorem isLow_small {u : CodePoint} (h : isLow u = true) : ¬ 0x10000 ≤ u.val := by
  simp only [isLow, Bool.and_eq_true, decide_eq_true_eq] at h
  omega

theorem isHigh_small {u : CodePoint} (h : isHigh u = true) : ¬ 0x10000 ≤ u.val := by
  simp only [isHigh, Bool.and_eq_true, decide_eq_true_eq] at h
  omega

theorem join_units (s : PyText) : join (s.flatMap units) = join s := by
  fun_induction join s with
  | case1 high low s hpair ih =>
    obtain ⟨hh, hl⟩ := Bool.and_eq_true_iff.mp hpair
    rw [List.flatMap_cons, List.flatMap_cons, units_small (isHigh_small hh),
      units_small (isLow_small hl), List.singleton_append, List.singleton_append,
      join_pair hh hl, ih]
  | case2 high low s hpair ih =>
    by_cases hlarge : 0x10000 ≤ high.val
    · obtain ⟨h, l, hunits, hh, hl, hmerge, -⟩ := units_large hlarge
      rw [List.flatMap_cons, hunits, List.cons_append, List.cons_append, List.nil_append,
        join_pair hh hl, hmerge, ih]
    · have hnext : isHigh high = false ∨ ∀ v ∈ ((low :: s).flatMap units).head?,
          isLow v = false := by
        cases hh : isHigh high with
        | false => exact .inl rfl
        | true =>
          have hl : isLow low = false := by simpa [hh] using hpair
          refine .inr (head_units_low fun v hv => ?_)
          obtain rfl := Option.some.inj hv
          exact hl
      rw [List.flatMap_cons, units_small hlarge, List.singleton_append, join_cons hnext, ih]
  | case3 s hs =>
    cases s with
    | nil => rfl
    | cons u s =>
      cases s with
      | cons v s => exact absurd rfl (hs u v s)
      | nil =>
        rw [List.flatMap_cons, List.flatMap_nil, List.append_nil]
        by_cases hlarge : 0x10000 ≤ u.val
        · obtain ⟨h, l, hunits, hh, hl, hmerge, -⟩ := units_large hlarge
          rw [hunits, join_pair hh hl, hmerge]
          rfl
        · rw [units_small hlarge]
          rfl

theorem units_merge {high low : CodePoint} (hh : isHigh high = true) (hl : isLow low = true) :
    units (merge high low) = [high, low] := by
  simp only [isHigh, isLow, Bool.and_eq_true, decide_eq_true_eq] at hh hl
  have hval : (merge high low).val =
      0x10000 + (high.val - 0xD800) * 0x400 + (low.val - 0xDC00) := by
    simp only [merge, Fin.ofNat]
    omega
  have hhigh : 0xD800 + ((merge high low).val - 0x10000) / 0x400 = high.val := by omega
  have hlow : 0xDC00 + ((merge high low).val - 0x10000) % 0x400 = low.val := by omega
  rw [units, if_pos (by omega), hhigh, hlow, ofNat_val, ofNat_val]

/-- Joining does not change what is written. -/
theorem units_join (s : PyText) : (join s).flatMap units = s.flatMap units := by
  fun_induction join s with
  | case1 high low s hpair ih =>
    obtain ⟨hh, hl⟩ := Bool.and_eq_true_iff.mp hpair
    rw [List.flatMap_cons, List.flatMap_cons, List.flatMap_cons, units_merge hh hl, ih,
      units_small (isHigh_small hh), units_small (isLow_small hl)]
    rfl
  | case2 high low s hpair ih => rw [List.flatMap_cons, ih, ← List.flatMap_cons]
  | case3 s hs => rfl

theorem asciiBody_join (s : PyText) : asciiBody (join s) = asciiBody s := by
  rw [asciiBody, units_join, asciiBody]

theorem join_join (s : PyText) : join (join s) = join s := by
  rw [← join_units (join s), units_join, join_units]

/-- A string is read back joined. -/
theorem scanString_asciiBody (s : PyText) (rest : Text) :
    scanString (asciiBody s ++ rest) = some (join s, rest) := by
  have hlt : ∀ u ∈ s.flatMap units, u.val < 0x10000 := by
    intro u hu
    obtain ⟨c, -, hc⟩ := List.mem_flatMap.mp hu
    exact units_lt c u hc
  rw [scanString, asciiBody, List.append_assoc, List.singleton_append, scanUnits_body hlt,
    Option.map_some, join_units]

/-- Two surrogates side by side are spelled as the one character they stand for. -/
example : asciiText [0xD83D, 0xDE00] = asciiText [0x1F600] ∧
    asciiText [0x1F600] = "\"\\ud83d\\ude00\"".toList := by decide +kernel

end PythonTexts
