import Mathlib.Data.List.Basic
import Mathlib.Data.List.Sort
import Mathlib.Data.Nat.Digits.Defs

/-! JSON values and the compact text a serializer writes for them: no blanks,
members in the order given, control characters escaped, everything from U+0020
on copied through except the quote and the backslash. -/
namespace JsonText

abbrev Text := List Char

/-- A number literal with a fraction or an exponent. A finite float is kept as the
shortest literal that denotes it, so no rounding enters the model. -/
structure FloatText where
  neg : Bool
  whole : ℕ
  frac : Text
  exp : Option ℤ
  frac_digits : ∀ c ∈ frac, c.isDigit = true
  marked : frac ≠ [] ∨ exp.isSome = true
  deriving DecidableEq

inductive Json where
  | null
  | bool (b : Bool)
  | int (n : ℤ)
  | float (f : FloatText)
  | str (s : String)
  | arr (items : List Json)
  | obj (members : List (String × Json))

def natText (n : ℕ) : Text := Nat.toDigits 10 n

def intText : ℤ → Text
  | .ofNat n => natText n
  | .negSucc n => '-' :: natText (n + 1)

def escapeChar (c : Char) : Text :=
  if c = '"' then ['\\', '"']
  else if c = '\\' then ['\\', '\\']
  else if c = '\x08' then ['\\', 'b']
  else if c = '\x0c' then ['\\', 'f']
  else if c = '\n' then ['\\', 'n']
  else if c = '\r' then ['\\', 'r']
  else if c = '\t' then ['\\', 't']
  else if c.toNat < 0x20 then
    ['\\', 'u', '0', '0', Nat.digitChar (c.toNat / 16), Nat.digitChar (c.toNat % 16)]
  else [c]

def stringBody (cs : Text) : Text := cs.flatMap escapeChar ++ ['"']

def stringText (s : String) : Text := '"' :: stringBody s.toList

def expText : Option ℤ → Text
  | none => []
  | some e => 'e' :: intText e

/-- What follows the digits before the point of a float literal. -/
def FloatText.tail (f : FloatText) : Text :=
  (if f.frac = [] then [] else '.' :: f.frac) ++ expText f.exp

def FloatText.text (f : FloatText) : Text :=
  (if f.neg then ['-'] else []) ++ (natText f.whole ++ f.tail)

mutual

def encode : Json → Text
  | .null => ['n', 'u', 'l', 'l']
  | .bool true => ['t', 'r', 'u', 'e']
  | .bool false => ['f', 'a', 'l', 's', 'e']
  | .int n => intText n
  | .float f => f.text
  | .str s => stringText s
  | .arr items => '[' :: encodeItems items
  | .obj members => '{' :: encodeMembers members

/-- What follows an opening bracket. -/
def encodeItems : List Json → Text
  | [] => [']']
  | v :: items => encode v ++ encodeMoreItems items

def encodeMoreItems : List Json → Text
  | [] => [']']
  | v :: items => ',' :: (encode v ++ encodeMoreItems items)

/-- What follows an opening brace. -/
def encodeMembers : List (String × Json) → Text
  | [] => ['}']
  | (k, v) :: members => stringText k ++ ':' :: (encode v ++ encodeMoreMembers members)

def encodeMoreMembers : List (String × Json) → Text
  | [] => ['}']
  | (k, v) :: members =>
    ',' :: (stringText k ++ ':' :: (encode v ++ encodeMoreMembers members))

end

theorem encodeMoreMembers_last (members : List (String × Json)) :
    ∃ t, encodeMoreMembers members = t ++ ['}'] := by
  induction members with
  | nil => exact ⟨[], rfl⟩
  | cons kv members ih =>
    obtain ⟨t, ht⟩ := ih
    refine ⟨',' :: (stringText kv.1 ++ ':' :: (encode kv.2 ++ t)), ?_⟩
    rw [encodeMoreMembers, ht]
    simp only [List.cons_append, List.append_assoc]

/-- An object's text closes with a brace. -/
theorem encode_obj_last (members : List (String × Json)) :
    ∃ t, encode (.obj members) = t ++ ['}'] := by
  cases members with
  | nil => exact ⟨['{'], rfl⟩
  | cons kv members =>
    obtain ⟨t, ht⟩ := encodeMoreMembers_last members
    refine ⟨'{' :: (stringText kv.1 ++ ':' :: (encode kv.2 ++ t)), ?_⟩
    rw [encode, encodeMembers, ht]
    simp only [List.cons_append, List.append_assoc]

/-! The canonical text: members sorted by name, everything outside the printable ASCII
range escaped. -/

mutual

def sortKeys : Json → Json
  | .arr items => .arr (sortKeysItems items)
  | .obj members => .obj ((sortKeysMembers members).insertionSort fun a b => a.1 ≤ b.1)
  | v => v

def sortKeysItems : List Json → List Json
  | [] => []
  | v :: items => sortKeys v :: sortKeysItems items

def sortKeysMembers : List (String × Json) → List (String × Json)
  | [] => []
  | (k, v) :: members => (k, sortKeys v) :: sortKeysMembers members

end

def unicodeEscape (n : ℕ) : Text :=
  ['\\', 'u', Nat.digitChar (n / 0x1000 % 16), Nat.digitChar (n / 0x100 % 16),
    Nat.digitChar (n / 0x10 % 16), Nat.digitChar (n % 16)]

/-- Characters past the printable ASCII range stand only inside strings, so they can be
escaped in the whole text at once; past U+FFFF as a surrogate pair. -/
def asciiEscape (c : Char) : Text :=
  if 0x20 ≤ c.toNat ∧ c.toNat ≤ 0x7e then [c]
  else if c.toNat < 0x10000 then unicodeEscape c.toNat
  else unicodeEscape (0xD800 + (c.toNat - 0x10000) / 0x400) ++
    unicodeEscape (0xDC00 + (c.toNat - 0x10000) % 0x400)

def canonicalText (v : Json) : Text := (encode (sortKeys v)).flatMap asciiEscape

/-! Nesting, which readers bound. -/

mutual

def Json.depth : Json → ℕ
  | .arr items => itemsDepth items + 1
  | .obj members => membersDepth members + 1
  | _ => 0

def itemsDepth : List Json → ℕ
  | [] => 0
  | v :: items => max v.depth (itemsDepth items)

def membersDepth : List (String × Json) → ℕ
  | [] => 0
  | (_, v) :: members => max v.depth (membersDepth members)

end

/-! The line boundaries of a text reader that follows Unicode, and which of them
survive in an encoded value. -/

def isLineBreak (c : Char) : Bool :=
  c = '\n' || c = '\r' || c = '\x0b' || c = '\x0c' || c = '\x1c' || c = '\x1d' ||
    c = '\x1e' || c = '\u0085' || c = '\u2028' || c = '\u2029'

/-- The boundaries that an encoder which only escapes below U+0020 copies through. -/
def isRawBreak (c : Char) : Bool := c = '\u0085' || c = '\u2028' || c = '\u2029'

mutual

/-- Some text inside the value (a string, or the name of a member) holds a boundary
that is copied through. -/
def Json.hasBreak : Json → Bool
  | .str s => s.toList.any isRawBreak
  | .arr items => itemsHaveBreak items
  | .obj members => membersHaveBreak members
  | _ => false

def itemsHaveBreak : List Json → Bool
  | [] => false
  | v :: items => v.hasBreak || itemsHaveBreak items

def membersHaveBreak : List (String × Json) → Bool
  | [] => false
  | (k, v) :: members => k.toList.any isRawBreak || (v.hasBreak || membersHaveBreak members)

end

theorem isDigit_not_break (c : Char) (h : c.isDigit = true) : isLineBreak c = false := by
  by_contra hb
  simp only [isLineBreak, Bool.not_eq_false, Bool.or_eq_true, decide_eq_true_eq] at hb
  rcases hb with ((((((((hb | hb) | hb) | hb) | hb) | hb) | hb) | hb) | hb) | hb <;>
    subst hb <;> exact absurd h (by decide)

theorem digitChar_not_break (n : ℕ) (h : n < 16) : isLineBreak (Nat.digitChar n) = false := by
  have hall : ∀ k : Fin 16, isLineBreak (Nat.digitChar k.val) = false := by decide
  exact hall ⟨n, h⟩

theorem natText_isDigit (n : ℕ) (c : Char) (h : c ∈ natText n) : c.isDigit = true :=
  Nat.isDigit_of_mem_toDigits (by decide) (by decide) h

theorem natText_no_break (n : ℕ) : (natText n).any isLineBreak = false := by
  rw [List.any_eq_false]
  intro c hc
  simp only [isDigit_not_break c (natText_isDigit n c hc), Bool.false_eq_true, not_false_eq_true]

theorem intText_no_break (n : ℤ) : (intText n).any isLineBreak = false := by
  cases n with
  | ofNat n => exact natText_no_break n
  | negSucc n =>
    have h : isLineBreak '-' = false := by decide
    simp only [intText, List.any_cons, h, natText_no_break, Bool.or_self]

theorem FloatText.text_no_break (f : FloatText) : f.text.any isLineBreak = false := by
  have hfrac : f.frac.any isLineBreak = false := by
    rw [List.any_eq_false]
    intro c hc
    simp only [isDigit_not_break c (f.frac_digits c hc), Bool.false_eq_true, not_false_eq_true]
  have hneg : isLineBreak '-' = false := by decide
  have hdot : isLineBreak '.' = false := by decide
  have he : isLineBreak 'e' = false := by decide
  have hexp : (expText f.exp).any isLineBreak = false := by
    cases f.exp with
    | none => rfl
    | some e => simp only [expText, List.any_cons, he, intText_no_break, Bool.or_self]
  unfold FloatText.text FloatText.tail
  by_cases hn : f.neg = true <;> by_cases hf : f.frac = [] <;>
    simp [hn, hf, hfrac, hneg, hdot, hexp, natText_no_break]

/-- Escaping removes exactly the boundaries below U+0020. -/
theorem escapeChar_any_break (c : Char) : (escapeChar c).any isLineBreak = isRawBreak c := by
  have hslash : isLineBreak '\\' = false := by decide
  have hu : isLineBreak 'u' = false := by decide
  have h0 : isLineBreak '0' = false := by decide
  unfold escapeChar
  by_cases hq : c = '"'
  · subst hq; decide
  by_cases hb : c = '\\'
  · subst hb; decide
  by_cases h8 : c = '\x08'
  · subst h8; decide
  by_cases hc : c = '\x0c'
  · subst hc; decide
  by_cases hn : c = '\n'
  · subst hn; decide
  by_cases hr : c = '\r'
  · subst hr; decide
  by_cases ht : c = '\t'
  · subst ht; decide
  simp only [hq, hb, h8, hc, hn, hr, ht, ↓reduceIte]
  by_cases hlt : c.toNat < 0x20
  · have hraw : isRawBreak c = false := by
      by_contra hraw
      simp only [isRawBreak, Bool.not_eq_false, Bool.or_eq_true, decide_eq_true_eq] at hraw
      rcases hraw with (hraw | hraw) | hraw <;> subst hraw <;> exact absurd hlt (by decide)
    simp only [hlt, ↓reduceIte, List.any_cons, List.any_nil, hslash, hu, h0, hraw,
      digitChar_not_break _ (by omega : c.toNat / 16 < 16),
      digitChar_not_break _ (by omega : c.toNat % 16 < 16), Bool.or_self]
  · have hnot : ∀ d : Char, d.toNat < 0x20 → c ≠ d := fun d hd he => hlt (he ▸ hd)
    have hctrl : isLineBreak c = isRawBreak c := by
      simp only [isLineBreak, isRawBreak, hnot '\n' (by decide), hnot '\r' (by decide),
        hnot '\x0b' (by decide), hnot '\x0c' (by decide), hnot '\x1c' (by decide),
        hnot '\x1d' (by decide), hnot '\x1e' (by decide), decide_false, Bool.false_or]
    simp only [hlt, ↓reduceIte, List.any_cons, List.any_nil, Bool.or_false, hctrl]

theorem stringText_any_break (s : String) :
    (stringText s).any isLineBreak = s.toList.any isRawBreak := by
  have hq : isLineBreak '"' = false := by decide
  have hbody (cs : Text) : (cs.flatMap escapeChar).any isLineBreak = cs.any isRawBreak := by
    induction cs with
    | nil => rfl
    | cons c cs ih =>
      simp only [List.flatMap_cons, List.any_append, escapeChar_any_break, ih, List.any_cons]
  simp only [stringText, stringBody, List.any_cons, List.any_append, List.any_nil, hq, hbody,
    Bool.or_false, Bool.false_or]

mutual

/-- A line boundary of the encoded value is one that some text inside the value holds. -/
theorem encode_any_break : ∀ v : Json, (encode v).any isLineBreak = v.hasBreak
  | .null => by decide
  | .bool true => by decide
  | .bool false => by decide
  | .int n => by simp only [encode, Json.hasBreak, intText_no_break]
  | .float f => by simp only [encode, Json.hasBreak, f.text_no_break]
  | .str s => by simp only [encode, Json.hasBreak, stringText_any_break]
  | .arr items => by
    have h : isLineBreak '[' = false := by decide
    simp only [encode, Json.hasBreak, List.any_cons, h, Bool.false_or, encodeItems_any_break]
  | .obj members => by
    have h : isLineBreak '{' = false := by decide
    simp only [encode, Json.hasBreak, List.any_cons, h, Bool.false_or, encodeMembers_any_break]

theorem encodeItems_any_break :
    ∀ items : List Json, (encodeItems items).any isLineBreak = itemsHaveBreak items
  | [] => by decide
  | v :: items => by
    simp only [encodeItems, itemsHaveBreak, List.any_append, encode_any_break v,
      encodeMoreItems_any_break items]

theorem encodeMoreItems_any_break :
    ∀ items : List Json, (encodeMoreItems items).any isLineBreak = itemsHaveBreak items
  | [] => by decide
  | v :: items => by
    have h : isLineBreak ',' = false := by decide
    simp only [encodeMoreItems, itemsHaveBreak, List.any_cons, List.any_append, h,
      Bool.false_or, encode_any_break v, encodeMoreItems_any_break items]

theorem encodeMembers_any_break :
    ∀ members : List (String × Json),
      (encodeMembers members).any isLineBreak = membersHaveBreak members
  | [] => by decide
  | (k, v) :: members => by
    have h : isLineBreak ':' = false := by decide
    simp only [encodeMembers, membersHaveBreak, List.any_cons, List.any_append, h,
      Bool.false_or, stringText_any_break, encode_any_break v,
      encodeMoreMembers_any_break members]

theorem encodeMoreMembers_any_break :
    ∀ members : List (String × Json),
      (encodeMoreMembers members).any isLineBreak = membersHaveBreak members
  | [] => by decide
  | (k, v) :: members => by
    have h : isLineBreak ':' = false := by decide
    have hc : isLineBreak ',' = false := by decide
    simp only [encodeMoreMembers, membersHaveBreak, List.any_cons, List.any_append, h, hc,
      Bool.false_or, stringText_any_break, encode_any_break v,
      encodeMoreMembers_any_break members]

end

end JsonText
