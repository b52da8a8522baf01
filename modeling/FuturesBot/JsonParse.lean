import FuturesBot.JsonText

/-! A reader for JSON text, and that it reads back what the encoder writes. -/
namespace JsonText

-- decides by the list, not by every character
attribute [local instance (2000)] List.decidableBAll

def isBlank (c : Char) : Bool := c = ' ' || c = '\t' || c = '\n' || c = '\r'

def skipBlanks (t : Text) : Text := t.dropWhile isBlank

def digitsValue (t : Text) : ℕ := Nat.ofDigitChars 10 t 0

def hexDigit (c : Char) : Option ℕ :=
  if '0' ≤ c ∧ c ≤ '9' then some (c.toNat - '0'.toNat)
  else if 'a' ≤ c ∧ c ≤ 'f' then some (c.toNat - 'a'.toNat + 10)
  else if 'A' ≤ c ∧ c ≤ 'F' then some (c.toNat - 'A'.toNat + 10)
  else none

def hex4 (a b c d : Char) : Option ℕ := do
  let a ← hexDigit a
  let b ← hexDigit b
  let c ← hexDigit c
  let d ← hexDigit d
  some (((a * 16 + b) * 16 + c) * 16 + d)

def shortEscape (c : Char) : Option Char :=
  if c = '"' then some '"'
  else if c = '\\' then some '\\'
  else if c = '/' then some '/'
  else if c = 'b' then some '\x08'
  else if c = 'f' then some '\x0c'
  else if c = 'n' then some '\n'
  else if c = 'r' then some '\r'
  else if c = 't' then some '\t'
  else none

/-- A high surrogate followed by a low one. -/
def surrogatePair (high low : ℕ) : Option Char :=
  if 0xD800 ≤ high ∧ high < 0xDC00 ∧ 0xDC00 ≤ low ∧ low < 0xE000 then
    some (Char.ofNat (0x10000 + (high - 0xD800) * 0x400 + (low - 0xDC00)))
  else none

def isSurrogate (n : ℕ) : Bool := 0xD800 ≤ n && n < 0xE000

def prepend (c : Char) : Option (Text × Text) → Option (Text × Text)
  | some (cs, rest) => some (c :: cs, rest)
  | none => none

/-- What follows an opening quote, up to the closing one. -/
def parseString : Text → Option (Text × Text)
  | [] => none
  | '"' :: rest => some ([], rest)
  | '\\' :: 'u' :: a :: b :: c :: d :: rest =>
    match hex4 a b c d with
    | none => none
    | some n =>
      if isSurrogate n then
        match rest with
        | '\\' :: 'u' :: a' :: b' :: c' :: d' :: rest' =>
          match (hex4 a' b' c' d').bind (surrogatePair n) with
          | some ch => prepend ch (parseString rest')
          | none => none
        | _ => none
      else prepend (Char.ofNat n) (parseString rest)
  | '\\' :: e :: rest =>
    match shortEscape e with
    | some ch => prepend ch (parseString rest)
    | none => none
  | c :: rest => if c = '\\' ∨ c.toNat < 0x20 then none else prepend c (parseString rest)

/-- A run of digits, with what follows it. -/
def takeDigits (t : Text) : Text × Text := (t.takeWhile Char.isDigit, t.dropWhile Char.isDigit)

/-- The digits before the point: no zero in front of another digit. -/
def wholeDigits (ds : Text) : Option ℕ :=
  match ds with
  | [] => none
  | ['0'] => some 0
  | '0' :: _ => none
  | _ => some (digitsValue ds)

def parseFrac : Text → Option (Text × Text)
  | '.' :: rest => if (takeDigits rest).1 = [] then none else some (takeDigits rest)
  | rest => some ([], rest)

def parseExpDigits (sign : ℤ) (t : Text) : Option (Option ℤ × Text) :=
  if (takeDigits t).1 = [] then none
  else some (some (sign * (digitsValue (takeDigits t).1 : ℤ)), (takeDigits t).2)

def parseExp : Text → Option (Option ℤ × Text)
  | c :: rest =>
    if c = 'e' ∨ c = 'E' then
      match rest with
      | '-' :: rest' => parseExpDigits (-1) rest'
      | '+' :: rest' => parseExpDigits 1 rest'
      | _ => parseExpDigits 1 rest
    else some (none, c :: rest)
  | [] => some (none, [])

def numberOf (neg : Bool) (whole : ℕ) (frac : Text) (exp : Option ℤ) : Option Json :=
  if h : (∀ c ∈ frac, c.isDigit = true) ∧ (frac ≠ [] ∨ exp.isSome = true) then
    some (.float ⟨neg, whole, frac, exp, h.1, h.2⟩)
  else if frac = [] ∧ exp = none then
    some (.int (if neg then -(whole : ℤ) else whole))
  else none

def parseUnsigned (neg : Bool) (t : Text) : Option (Json × Text) :=
  (wholeDigits (takeDigits t).1).bind fun whole =>
    (parseFrac (takeDigits t).2).bind fun (frac, t') =>
      (parseExp t').bind fun (exp, rest) =>
        (numberOf neg whole frac exp).bind fun v => some (v, rest)

def parseNumber : Text → Option (Json × Text)
  | '-' :: t => parseUnsigned true t
  | t => parseUnsigned false t

mutual

/-- The fuel bounds the nesting and the number of items together; the length of the
text is always enough. -/
def parseValue : ℕ → Text → Option (Json × Text)
  | 0, _ => none
  | fuel + 1, t =>
    match skipBlanks t with
    | 'n' :: 'u' :: 'l' :: 'l' :: rest => some (.null, rest)
    | 't' :: 'r' :: 'u' :: 'e' :: rest => some (.bool true, rest)
    | 'f' :: 'a' :: 'l' :: 's' :: 'e' :: rest => some (.bool false, rest)
    | '"' :: rest => (parseString rest).map fun p => (.str (String.ofList p.1), p.2)
    | '[' :: rest => (parseItems fuel rest).map fun p => (.arr p.1, p.2)
    | '{' :: rest => (parseMembers fuel rest).map fun p => (.obj p.1, p.2)
    | t' => parseNumber t'

def parseItems : ℕ → Text → Option (List Json × Text)
  | 0, _ => none
  | fuel + 1, t =>
    match skipBlanks t with
    | ']' :: rest => some ([], rest)
    | t' => do
      let (v, rest) ← parseValue fuel t'
      let (items, rest') ← parseMoreItems fuel rest
      some (v :: items, rest')

def parseMoreItems : ℕ → Text → Option (List Json × Text)
  | 0, _ => none
  | fuel + 1, t =>
    match skipBlanks t with
    | ']' :: rest => some ([], rest)
    | ',' :: t' => do
      let (v, rest) ← parseValue fuel t'
      let (items, rest') ← parseMoreItems fuel rest
      some (v :: items, rest')
    | _ => none

def parseMembers : ℕ → Text → Option (List (String × Json) × Text)
  | 0, _ => none
  | fuel + 1, t =>
    match skipBlanks t with
    | '}' :: rest => some ([], rest)
    | '"' :: t' => do
      let (k, rest) ← parseString t'
      let (v, rest') ← parseMember fuel rest
      let (members, rest'') ← parseMoreMembers fuel rest'
      some ((String.ofList k, v) :: members, rest'')
    | _ => none

/-- The colon of a member and its value. -/
def parseMember : ℕ → Text → Option (Json × Text)
  | 0, _ => none
  | fuel + 1, t =>
    match skipBlanks t with
    | ':' :: t' => parseValue fuel t'
    | _ => none

def parseMoreMembers : ℕ → Text → Option (List (String × Json) × Text)
  | 0, _ => none
  | fuel + 1, t =>
    match skipBlanks t with
    | '}' :: rest => some ([], rest)
    | ',' :: t' =>
      match skipBlanks t' with
      | '"' :: t'' => do
        let (k, rest) ← parseString t''
        let (v, rest') ← parseMember fuel rest
        let (members, rest'') ← parseMoreMembers fuel rest'
        some ((String.ofList k, v) :: members, rest'')
      | _ => none
    | _ => none

end

/-- One value and nothing after it but blanks. -/
def decode (t : Text) : Option Json :=
  match parseValue (t.length + 1) t with
  | some (v, rest) => if skipBlanks rest = [] then some v else none
  | none => none

/-! The round trip. A value in a text is followed by nothing, or by a character that
closes what contains it. -/

def Delimited (rest : Text) : Prop :=
  ∀ c ∈ rest.head?, c = ',' ∨ c = ']' ∨ c = '}'

theorem delimited_nil : Delimited [] := by
  intro c hc
  simp at hc

theorem delimited_cons {c : Char} {t : Text} (h : c = ',' ∨ c = ']' ∨ c = '}') :
    Delimited (c :: t) := by
  intro d hd
  obtain rfl : c = d := by simpa using hd
  exact h

def NoDigitHead (rest : Text) : Prop := ∀ c ∈ rest.head?, c.isDigit = false

theorem Delimited.noDigitHead {rest : Text} (h : Delimited rest) : NoDigitHead rest := by
  intro c hc
  rcases h c hc with rfl | rfl | rfl <;> decide

theorem digitsValue_natText (n : ℕ) : digitsValue (natText n) = n :=
  Nat.ofDigitChars_ten_toDigits

theorem natText_ne_nil (n : ℕ) : natText n ≠ [] := Nat.toDigits_ne_nil

theorem takeDigits_append (ds rest : Text) (hds : ∀ c ∈ ds, c.isDigit = true)
    (hrest : NoDigitHead rest) : takeDigits (ds ++ rest) = (ds, rest) := by
  have hstop : rest.takeWhile Char.isDigit = [] ∧ rest.dropWhile Char.isDigit = rest := by
    cases rest with
    | nil => exact ⟨rfl, rfl⟩
    | cons c t =>
      have hc : c.isDigit = false := hrest c rfl
      simp only [List.takeWhile_cons, List.dropWhile_cons, hc, Bool.false_eq_true, ↓reduceIte,
        and_self]
  rw [takeDigits, List.takeWhile_append_of_pos hds, List.dropWhile_append_of_pos hds, hstop.1,
    hstop.2, List.append_nil]

theorem takeDigits_natText (n : ℕ) (rest : Text) (hrest : NoDigitHead rest) :
    takeDigits (natText n ++ rest) = (natText n, rest) :=
  takeDigits_append _ _ (natText_isDigit n) hrest

/-- A decimal numeral starts with a zero only when it is the numeral of zero. -/
theorem natText_head_zero (n : ℕ) : (natText n).head? = some '0' → n = 0 := by
  induction n using Nat.strong_induction_on with
  | _ n ih =>
    intro h
    by_cases hlt : n < 10
    · have hone : natText n = [Nat.digitChar n] := Nat.toDigits_of_lt_base hlt
      have hall : ∀ k : Fin 10, Nat.digitChar k.val = '0' → k.val = 0 := by decide
      rw [hone] at h
      exact hall ⟨n, hlt⟩ (Option.some.inj h)
    · have happ : natText n = natText (n / 10) ++ [Nat.digitChar (n % 10)] :=
        Nat.toDigits_of_base_le (by decide) (by omega)
      have hhead : (natText (n / 10)).head? = some '0' := by
        rw [happ, List.head?_append_of_ne_nil _ (natText_ne_nil _)] at h
        exact h
      have hz := ih (n / 10) (by omega) hhead
      omega

theorem wholeDigits_natText (n : ℕ) : wholeDigits (natText n) = some n := by
  have hval : digitsValue (natText n) = n := digitsValue_natText n
  by_cases hz : n = 0
  · subst hz; rfl
  · rcases hds : natText n with _ | ⟨c, ds⟩
    · exact absurd hds (natText_ne_nil n)
    · have hc : c ≠ '0' := by
        rintro rfl
        exact hz (natText_head_zero n (by rw [hds]; rfl))
      rw [hds] at hval
      unfold wholeDigits
      split <;> simp_all

/-- The head of an integer literal. -/
theorem natText_head_digit (n : ℕ) (rest : Text) :
    ∃ c t, natText n ++ rest = c :: t ∧ c.isDigit = true := by
  rcases hds : natText n with _ | ⟨c, ds⟩
  · exact absurd hds (natText_ne_nil n)
  · exact ⟨c, ds ++ rest, rfl, natText_isDigit n c (by rw [hds]; exact List.mem_cons_self)⟩

theorem parseFrac_plain {rest : Text} (h : ∀ c ∈ rest.head?, c ≠ '.') :
    parseFrac rest = some ([], rest) := by
  unfold parseFrac
  split
  · exact absurd rfl (h '.' rfl)
  · rfl

theorem parseExp_plain {rest : Text} (h : ∀ c ∈ rest.head?, c ≠ 'e' ∧ c ≠ 'E') :
    parseExp rest = some (none, rest) := by
  cases rest with
  | nil => rfl
  | cons c t =>
    have hc := h c rfl
    simp only [parseExp, hc.1, hc.2, or_self, ↓reduceIte]

theorem parseExpDigits_natText (sign : ℤ) (n : ℕ) {rest : Text} (hrest : NoDigitHead rest) :
    parseExpDigits sign (natText n ++ rest) = some (some (sign * n), rest) := by
  simp only [parseExpDigits, takeDigits_natText n rest hrest, natText_ne_nil, ↓reduceIte,
    digitsValue_natText]

theorem parseExp_intText (e : ℤ) {rest : Text} (hrest : NoDigitHead rest) :
    parseExp ('e' :: (intText e ++ rest)) = some (some e, rest) := by
  cases e with
  | ofNat n =>
    obtain ⟨c, t, ht, hc⟩ := natText_head_digit n rest
    have hparse : parseExp ('e' :: (natText n ++ rest)) = parseExpDigits 1 (natText n ++ rest) := by
      rw [ht]
      simp only [parseExp, true_or, ↓reduceIte]
      split
      · rename_i heq
        obtain rfl := (List.cons.inj heq).1
        exact absurd hc (by decide)
      · rename_i heq
        obtain rfl := (List.cons.inj heq).1
        exact absurd hc (by decide)
      · rfl
    rw [intText, hparse, parseExpDigits_natText 1 n hrest, one_mul]
    rfl
  | negSucc n =>
    simp only [intText, List.cons_append, parseExp, true_or, ↓reduceIte,
      parseExpDigits_natText (-1) (n + 1) hrest, Option.some.injEq, Prod.mk.injEq, and_true]
    omega

theorem numberOf_float (f : FloatText) :
    numberOf f.neg f.whole f.frac f.exp = some (.float f) := by
  have h : (∀ c ∈ f.frac, c.isDigit = true) ∧ (f.frac ≠ [] ∨ f.exp.isSome = true) :=
    ⟨f.frac_digits, f.marked⟩
  rw [numberOf, dif_pos h]

theorem numberOf_int (neg : Bool) (n : ℕ) :
    numberOf neg n [] none = some (.int (if neg then -(n : ℤ) else n)) := by
  simp [numberOf]

theorem FloatText.parse_tail (f : FloatText) {rest : Text} (hrest : Delimited rest) :
    ∃ t, parseFrac (f.tail ++ rest) = some (f.frac, t) ∧ parseExp t = some (f.exp, rest) := by
  have hexp : parseExp (expText f.exp ++ rest) = some (f.exp, rest) := by
    cases f.exp with
    | none =>
      refine parseExp_plain fun c hc => ?_
      rcases hrest c hc with rfl | rfl | rfl <;> decide
    | some e => exact parseExp_intText e hrest.noDigitHead
  have hhead : NoDigitHead (expText f.exp ++ rest) ∧
      ∀ c ∈ (expText f.exp ++ rest).head?, c ≠ '.' := by
    cases f.exp with
    | none =>
      refine ⟨hrest.noDigitHead, fun c hc => ?_⟩
      rcases hrest c hc with rfl | rfl | rfl <;> decide
    | some e =>
      refine ⟨fun c hc => ?_, fun c hc => ?_⟩ <;>
        · obtain rfl : 'e' = c := by simpa [expText] using hc
          decide
  refine ⟨_, ?_, hexp⟩
  by_cases hfrac : f.frac = []
  · simp only [FloatText.tail, hfrac, ↓reduceIte, List.nil_append]
    exact parseFrac_plain hhead.2
  · simp only [FloatText.tail, hfrac, ↓reduceIte, List.cons_append, List.append_assoc, parseFrac]
    rw [takeDigits_append _ _ f.frac_digits hhead.1]
    simp only [hfrac, ↓reduceIte]

theorem FloatText.tail_noDigitHead (f : FloatText) {rest : Text} (hrest : Delimited rest) :
    NoDigitHead (f.tail ++ rest) := by
  intro c hc
  by_cases hfrac : f.frac = []
  · cases hf : f.exp with
    | none => exact hrest.noDigitHead c (by simpa [FloatText.tail, expText, hfrac, hf] using hc)
    | some e =>
      obtain rfl : 'e' = c := by simpa [FloatText.tail, expText, hfrac, hf] using hc
      decide
  · obtain rfl : '.' = c := by simpa [FloatText.tail, hfrac] using hc
    decide

/-- A number, part by part. -/
theorem parseUnsigned_of {neg : Bool} {t ds t₁ frac t₂ rest : Text} {whole : ℕ} {exp : Option ℤ}
    {v : Json} (hdigits : takeDigits t = (ds, t₁)) (hwhole : wholeDigits ds = some whole)
    (hfrac : parseFrac t₁ = some (frac, t₂)) (hexp : parseExp t₂ = some (exp, rest))
    (hv : numberOf neg whole frac exp = some v) : parseUnsigned neg t = some (v, rest) := by
  rw [parseUnsigned, hdigits, hwhole]
  apply Option.bind_eq_some_iff.mpr ⟨whole, rfl, ?_⟩
  apply Option.bind_eq_some_iff.mpr ⟨(frac, t₂), hfrac, ?_⟩
  apply Option.bind_eq_some_iff.mpr ⟨(exp, rest), hexp, ?_⟩
  exact Option.bind_eq_some_iff.mpr ⟨v, hv, rfl⟩

theorem parseUnsigned_float (f : FloatText) {rest : Text} (hrest : Delimited rest) :
    parseUnsigned f.neg (natText f.whole ++ (f.tail ++ rest)) = some (.float f, rest) := by
  obtain ⟨t, hfrac, hexp⟩ := f.parse_tail hrest
  exact parseUnsigned_of (takeDigits_natText _ _ (f.tail_noDigitHead hrest))
    (wholeDigits_natText _) hfrac hexp (numberOf_float f)

theorem parseUnsigned_nat (neg : Bool) (n : ℕ) {rest : Text} (hrest : Delimited rest) :
    parseUnsigned neg (natText n ++ rest) =
      some (.int (if neg then -(n : ℤ) else n), rest) := by
  have hfrac : parseFrac rest = some ([], rest) := by
    refine parseFrac_plain fun c hc => ?_
    rcases hrest c hc with rfl | rfl | rfl <;> decide
  have hexp : parseExp rest = some (none, rest) := by
    refine parseExp_plain fun c hc => ?_
    rcases hrest c hc with rfl | rfl | rfl <;> decide
  exact parseUnsigned_of (takeDigits_natText n rest hrest.noDigitHead) (wholeDigits_natText n)
    hfrac hexp (numberOf_int neg n)

theorem parseNumber_natText (n : ℕ) (t : Text) :
    parseNumber (natText n ++ t) = parseUnsigned false (natText n ++ t) := by
  obtain ⟨c, t', ht, hc⟩ := natText_head_digit n t
  rw [ht]
  unfold parseNumber
  split
  · rename_i heq
    obtain rfl := (List.cons.inj heq).1
    exact absurd hc (by decide)
  · rfl

theorem parseNumber_intText (n : ℤ) {rest : Text} (hrest : Delimited rest) :
    parseNumber (intText n ++ rest) = some (.int n, rest) := by
  cases n with
  | ofNat n =>
    rw [intText, parseNumber_natText, parseUnsigned_nat false n hrest]
    rfl
  | negSucc n =>
    simp only [intText, List.cons_append, parseNumber, parseUnsigned_nat true (n + 1) hrest,
      ↓reduceIte, Option.some.injEq, Prod.mk.injEq, Json.int.injEq, and_true]
    omega

theorem parseNumber_float (f : FloatText) {rest : Text} (hrest : Delimited rest) :
    parseNumber (f.text ++ rest) = some (.float f, rest) := by
  have hf := parseUnsigned_float f hrest
  rw [FloatText.text]
  cases hneg : f.neg with
  | true =>
    rw [hneg] at hf
    simpa only [↓reduceIte, List.cons_append, List.nil_append, List.append_assoc, parseNumber]
      using hf
  | false =>
    rw [hneg] at hf
    simp only [Bool.false_eq_true, ↓reduceIte, List.nil_append, List.append_assoc]
    rw [parseNumber_natText, hf]

/-- The head of a number literal. -/
def NumberHead (c : Char) : Prop := c = '-' ∨ c.isDigit = true

theorem intText_head (n : ℤ) (rest : Text) :
    ∃ c t, intText n ++ rest = c :: t ∧ NumberHead c := by
  cases n with
  | ofNat n =>
    obtain ⟨c, t, ht, hc⟩ := natText_head_digit n rest
    exact ⟨c, t, ht, .inr hc⟩
  | negSucc n => exact ⟨'-', _, rfl, .inl rfl⟩

theorem FloatText.text_head (f : FloatText) (rest : Text) :
    ∃ c t, f.text ++ rest = c :: t ∧ NumberHead c := by
  rw [FloatText.text]
  cases f.neg with
  | true => exact ⟨'-', _, rfl, .inl rfl⟩
  | false =>
    obtain ⟨c, t, ht, hc⟩ := natText_head_digit f.whole (f.tail ++ rest)
    exact ⟨c, t, by simpa using ht, .inr hc⟩

instance : DecidablePred NumberHead := fun c =>
  inferInstanceAs (Decidable (c = '-' ∨ c.isDigit = true))

theorem NumberHead.ne {c d : Char} (h : NumberHead c) (hd : ¬ NumberHead d) : c ≠ d := by
  rintro rfl
  exact hd h

theorem skipBlanks_cons {c : Char} (t : Text) (h : isBlank c = false) :
    skipBlanks (c :: t) = c :: t := by
  simp only [skipBlanks, List.dropWhile_cons, h, Bool.false_eq_true, ↓reduceIte]

theorem NumberHead.not_blank {c : Char} (h : NumberHead c) : isBlank c = false := by
  simp only [isBlank, h.ne (d := ' ') (by decide), h.ne (d := '\t') (by decide),
    h.ne (d := '\n') (by decide), h.ne (d := '\r') (by decide), decide_false, Bool.or_self]

theorem parseValue_number (fuel : ℕ) {c : Char} (t : Text) (h : NumberHead c) :
    parseValue (fuel + 1) (c :: t) = parseNumber (c :: t) := by
  rw [parseValue, skipBlanks_cons t h.not_blank]
  split
  case h_7 => rfl
  all_goals
    rename_i heq
    obtain rfl := (List.cons.inj heq).1
    exact absurd h (by decide)

theorem hex4_control (n : ℕ) (h : n < 0x20) :
    hex4 '0' '0' (Nat.digitChar (n / 16)) (Nat.digitChar (n % 16)) = some n := by
  have hall : ∀ k : Fin 0x20,
      hex4 '0' '0' (Nat.digitChar (k.val / 16)) (Nat.digitChar (k.val % 16)) = some k.val := by
    decide
  exact hall ⟨n, h⟩

theorem parseString_plain (c : Char) (t : Text) (hq : c ≠ '"') (hb : c ≠ '\\')
    (hctrl : ¬ c.toNat < 0x20) : parseString (c :: t) = prepend c (parseString t) := by
  rw [parseString.eq_def]
  split
  case h_5 heq =>
    obtain ⟨rfl, rfl⟩ := List.cons.inj heq
    simp only [hb, hctrl, or_self, ↓reduceIte]
  all_goals simp_all

/-- The reader undoes the escape of one character. -/
theorem parseString_escapeChar (c : Char) (t : Text) :
    parseString (escapeChar c ++ t) = prepend c (parseString t) := by
  unfold escapeChar
  by_cases hq : c = '"'
  · subst hq; rfl
  by_cases hb : c = '\\'
  · subst hb; rfl
  by_cases h8 : c = '\x08'
  · subst h8; rfl
  by_cases hf : c = '\x0c'
  · subst hf; rfl
  by_cases hn : c = '\n'
  · subst hn; rfl
  by_cases hr : c = '\r'
  · subst hr; rfl
  by_cases ht : c = '\t'
  · subst ht; rfl
  simp only [hq, hb, h8, hf, hn, hr, ht, ↓reduceIte]
  by_cases hctrl : c.toNat < 0x20
  · have hsur : isSurrogate c.toNat = false := by
      simp only [isSurrogate, Bool.and_eq_false_imp, decide_eq_true_eq, decide_eq_false_iff_not]
      omega
    simp only [hctrl, ↓reduceIte, List.cons_append, List.nil_append, parseString,
      hex4_control _ hctrl, hsur, Bool.false_eq_true, Char.ofNat_toNat]
  · simp only [hctrl, ↓reduceIte, List.cons_append, List.nil_append]
    exact parseString_plain c t hq hb hctrl

theorem parseString_stringBody (cs rest : Text) :
    parseString (stringBody cs ++ rest) = some (cs, rest) := by
  induction cs with
  | nil => rfl
  | cons c cs ih =>
    have hbody : stringBody (c :: cs) ++ rest = escapeChar c ++ (stringBody cs ++ rest) := by
      simp only [stringBody, List.flatMap_cons, List.append_assoc]
    rw [hbody, parseString_escapeChar, ih]
    rfl

theorem encode_length_pos (v : Json) : 0 < (encode v).length := by
  cases v with
  | null => decide
  | bool b => cases b <;> decide
  | int n =>
    obtain ⟨c, t, ht, -⟩ := intText_head n []
    rw [encode, ← List.append_nil (intText n), ht]
    exact Nat.succ_pos _
  | float f =>
    obtain ⟨c, t, ht, -⟩ := f.text_head []
    rw [encode, ← List.append_nil f.text, ht]
    exact Nat.succ_pos _
  | str s => exact Nat.succ_pos _
  | arr items => exact Nat.succ_pos _
  | obj members => exact Nat.succ_pos _

/-- An encoded value starts with no blank and closes nothing. -/
theorem encode_head (v : Json) (rest : Text) :
    ∃ c t, encode v ++ rest = c :: t ∧ isBlank c = false ∧ c ≠ ']' := by
  cases v with
  | null => exact ⟨'n', _, rfl, by decide, by decide⟩
  | bool b => cases b <;> exact ⟨_, _, rfl, by decide, by decide⟩
  | int n =>
    obtain ⟨c, t, ht, hc⟩ := intText_head n rest
    exact ⟨c, t, by rw [encode, ht], hc.not_blank, hc.ne (by decide)⟩
  | float f =>
    obtain ⟨c, t, ht, hc⟩ := f.text_head rest
    exact ⟨c, t, by rw [encode, ht], hc.not_blank, hc.ne (by decide)⟩
  | str s => exact ⟨'"', _, rfl, by decide, by decide⟩
  | arr items => exact ⟨'[', _, rfl, by decide, by decide⟩
  | obj members => exact ⟨'{', _, rfl, by decide, by decide⟩

theorem encodeMoreItems_delimited (items : List Json) (rest : Text) :
    Delimited (encodeMoreItems items ++ rest) := by
  cases items with
  | nil => exact delimited_cons (.inr (.inl rfl))
  | cons v items => exact delimited_cons (.inl rfl)

theorem encodeMoreMembers_delimited (members : List (String × Json)) (rest : Text) :
    Delimited (encodeMoreMembers members ++ rest) := by
  cases members with
  | nil => exact delimited_cons (.inr (.inr rfl))
  | cons kv members => exact delimited_cons (.inl rfl)

theorem encodeMoreItems_length_pos (items : List Json) : 0 < (encodeMoreItems items).length := by
  cases items <;> exact Nat.succ_pos _

theorem encodeMoreMembers_length_pos (members : List (String × Json)) :
    0 < (encodeMoreMembers members).length := by
  cases members <;> exact Nat.succ_pos _

theorem parseMember_colon (fuel : ℕ) (t : Text) :
    parseMember (fuel + 1) (':' :: t) = parseValue fuel t := rfl

theorem parseItems_cons (fuel : ℕ) (v : Json) (rest : Text) :
    parseItems (fuel + 1) (encode v ++ rest) = (do
      let (v, rest) ← parseValue fuel (encode v ++ rest)
      let (items, rest') ← parseMoreItems fuel rest
      some (v :: items, rest')) := by
  obtain ⟨c, t, ht, hblank, hclose⟩ := encode_head v rest
  rw [ht, parseItems, skipBlanks_cons t hblank]
  split
  · rename_i heq
    exact absurd (List.cons.inj heq).1 hclose
  · rfl

mutual

/-- With fuel for its length, the reader gives back an encoded value and what follows it. -/
theorem parseValue_encode : ∀ (v : Json) (fuel : ℕ) (rest : Text),
    (encode v).length ≤ fuel → Delimited rest → parseValue fuel (encode v ++ rest) = some (v, rest)
  | v, 0, _, hfuel, _ => by
    have hpos := encode_length_pos v
    omega
  | .null, _ + 1, _, _, _ => rfl
  | .bool true, _ + 1, _, _, _ => rfl
  | .bool false, _ + 1, _, _, _ => rfl
  | .int n, fuel + 1, rest, _, hrest => by
    obtain ⟨c, t, ht, hc⟩ := intText_head n rest
    rw [encode, ht, parseValue_number fuel t hc, ← ht, parseNumber_intText n hrest]
  | .float f, fuel + 1, rest, _, hrest => by
    obtain ⟨c, t, ht, hc⟩ := f.text_head rest
    rw [encode, ht, parseValue_number fuel t hc, ← ht, parseNumber_float f hrest]
  | .str s, fuel + 1, rest, _, _ => by
    have hbody := parseString_stringBody s.toList rest
    change (parseString (stringBody s.toList ++ rest)).map _ = _
    rw [hbody, Option.map_some, String.ofList_toList]
  | .arr items, fuel + 1, rest, hfuel, _ => by
    have hlen : (encodeItems items).length ≤ fuel := by simpa only [encode, List.length_cons,
      Nat.add_le_add_iff_right] using hfuel
    change (parseItems fuel (encodeItems items ++ rest)).map _ = _
    rw [parseItems_encode items fuel rest hlen, Option.map_some]
  | .obj members, fuel + 1, rest, hfuel, _ => by
    have hlen : (encodeMembers members).length ≤ fuel := by simpa only [encode,
      List.length_cons, Nat.add_le_add_iff_right] using hfuel
    change (parseMembers fuel (encodeMembers members ++ rest)).map _ = _
    rw [parseMembers_encode members fuel rest hlen, Option.map_some]

theorem parseItems_encode : ∀ (items : List Json) (fuel : ℕ) (rest : Text),
    (encodeItems items).length ≤ fuel →
    parseItems fuel (encodeItems items ++ rest) = some (items, rest)
  | [], 0, _, hfuel => absurd hfuel (by decide)
  | [], _ + 1, _, _ => rfl
  | v :: items, fuel, rest, hfuel => by
    have hpos := encode_length_pos v
    have hmore := encodeMoreItems_length_pos items
    simp only [encodeItems, List.length_append] at hfuel
    obtain ⟨fuel, rfl⟩ : ∃ k, fuel = k + 1 := ⟨fuel - 1, by omega⟩
    rw [encodeItems, List.append_assoc, parseItems_cons,
      parseValue_encode v fuel _ (by omega) (encodeMoreItems_delimited items rest)]
    simp only [Option.bind_eq_bind, Option.bind_some,
      parseMoreItems_encode items fuel rest (by omega)]

theorem parseMoreItems_encode : ∀ (items : List Json) (fuel : ℕ) (rest : Text),
    (encodeMoreItems items).length ≤ fuel →
    parseMoreItems fuel (encodeMoreItems items ++ rest) = some (items, rest)
  | [], 0, _, hfuel => absurd hfuel (by decide)
  | [], _ + 1, _, _ => rfl
  | v :: items, fuel, rest, hfuel => by
    have hpos := encode_length_pos v
    simp only [encodeMoreItems, List.length_cons, List.length_append] at hfuel
    obtain ⟨fuel, rfl⟩ : ∃ k, fuel = k + 1 := ⟨fuel - 1, by omega⟩
    rw [encodeMoreItems, List.cons_append, List.append_assoc, parseMoreItems,
      skipBlanks_cons _ (by decide)]
    simp only [Option.bind_eq_bind, Option.bind_some,
      parseValue_encode v fuel _ (by omega) (encodeMoreItems_delimited items rest),
      parseMoreItems_encode items fuel rest (by omega)]

theorem parseMembers_encode : ∀ (members : List (String × Json)) (fuel : ℕ) (rest : Text),
    (encodeMembers members).length ≤ fuel →
    parseMembers fuel (encodeMembers members ++ rest) = some (members, rest)
  | [], 0, _, hfuel => absurd hfuel (by decide)
  | [], _ + 1, _, _ => rfl
  | (k, v) :: members, fuel, rest, hfuel => by
    have hpos := encode_length_pos v
    have hmore := encodeMoreMembers_length_pos members
    simp only [encodeMembers, stringText, List.length_cons, List.length_append] at hfuel
    obtain ⟨fuel, rfl⟩ : ∃ k, fuel = k + 1 := ⟨fuel - 1, by omega⟩
    simp only [encodeMembers, stringText, List.cons_append, List.append_assoc]
    rw [parseMembers, skipBlanks_cons _ (by decide)]
    simp only [Option.bind_eq_bind, Option.bind_some, parseString_stringBody]
    obtain ⟨fuel, rfl⟩ : ∃ k, fuel = k + 1 := ⟨fuel - 1, by omega⟩
    rw [parseMember_colon, parseValue_encode v fuel _ (by omega)
      (encodeMoreMembers_delimited members rest)]
    simp only [Option.bind_some, String.ofList_toList,
      parseMoreMembers_encode members (fuel + 1) rest (by omega)]

theorem parseMoreMembers_encode : ∀ (members : List (String × Json)) (fuel : ℕ) (rest : Text),
    (encodeMoreMembers members).length ≤ fuel →
    parseMoreMembers fuel (encodeMoreMembers members ++ rest) = some (members, rest)
  | [], 0, _, hfuel => absurd hfuel (by decide)
  | [], _ + 1, _, _ => rfl
  | (k, v) :: members, fuel, rest, hfuel => by
    have hpos := encode_length_pos v
    have hmore := encodeMoreMembers_length_pos members
    simp only [encodeMoreMembers, stringText, List.length_cons, List.length_append] at hfuel
    obtain ⟨fuel, rfl⟩ : ∃ k, fuel = k + 1 := ⟨fuel - 1, by omega⟩
    simp only [encodeMoreMembers, stringText, List.cons_append, List.append_assoc]
    rw [parseMoreMembers, skipBlanks_cons _ (by decide)]
    simp only [skipBlanks_cons (c := '"') _ (by decide), Option.bind_eq_bind, Option.bind_some,
      parseString_stringBody]
    obtain ⟨fuel, rfl⟩ : ∃ k, fuel = k + 1 := ⟨fuel - 1, by omega⟩
    rw [parseMember_colon, parseValue_encode v fuel _ (by omega)
      (encodeMoreMembers_delimited members rest)]
    simp only [Option.bind_some, String.ofList_toList,
      parseMoreMembers_encode members (fuel + 1) rest (by omega)]

end

/-- Decoding is a left inverse of encoding. -/
theorem decode_encode (v : Json) : decode (encode v) = some v := by
  have hparse := parseValue_encode v ((encode v).length + 1) [] (by omega) delimited_nil
  rw [List.append_nil] at hparse
  simp only [decode, hparse, skipBlanks, List.dropWhile_nil, ↓reduceIte]

/-- Two objects one behind the other are no document. -/
theorem decode_obj_obj (ms ns : List (String × Json)) :
    decode (encode (.obj ms) ++ encode (.obj ns)) = none := by
  have hparse : parseValue ((encode (.obj ms) ++ encode (.obj ns)).length + 1)
      (encode (.obj ms) ++ encode (.obj ns)) = some (.obj ms, encode (.obj ns)) := by
    have hlen : (encodeMembers ms).length ≤ (encode (.obj ms) ++ encode (.obj ns)).length := by
      simp only [encode, List.length_append, List.length_cons]
      omega
    change (parseMembers _ (encodeMembers ms ++ _)).map _ = _
    rw [parseMembers_encode ms _ _ hlen, Option.map_some]
  have hrest : skipBlanks (encode (.obj ns)) ≠ [] := by
    rw [encode, skipBlanks_cons _ (by decide)]
    exact List.cons_ne_nil _ _
  simp only [decode, hparse, hrest, ↓reduceIte]

theorem encode_injective : Function.Injective encode := by
  intro v w h
  have hdec := congrArg decode h
  simpa only [decode_encode, Option.some.injEq] using hdec

instance : DecidableEq Json := fun v w => decidable_of_iff (encode v = encode w)
  encode_injective.eq_iff

end JsonText
