import FuturesBot.PythonWriters

/-! Reading JSON as a Python program does: the constants are read, whole numbers up to a number of
digits, every other number as a decimal. What is written is read back, its strings joined. -/
namespace PythonJson

open JsonText PythonTexts

/-- Longer whole numbers are neither read nor written. -/
def maxDigits : ℕ := 4300

/-- A node that the writer raises an error for. -/
def unwritable : Value → Bool
  | .decimal _ => true
  | .int n => decide (maxDigits < (natText n.natAbs).length)
  | _ => false

/-- `json.dumps(v, sort_keys=True, separators=(",", ":"), ensure_ascii=True)`. -/
def dumps (v : Value) : Option Text :=
  if anywhere unwritable v then none else some (encode (sortKeys v))

def keywords : List (Text × Value) :=
  [(['n', 'u', 'l', 'l'], .null), (['t', 'r', 'u', 'e'], .bool true),
    (['f', 'a', 'l', 's', 'e'], .bool false), (Constant.nan.text, .constant .nan),
    (Constant.infinity.text, .constant .infinity),
    (Constant.negInfinity.text, .constant .negInfinity)]

def readKeyword (t : Text) : Option (Value × Text) :=
  keywords.findSome? fun w => if w.1.isPrefixOf t then some (w.2, t.drop w.1.length) else none

/-- The digits before the point: a zero, or a run that starts with none. -/
def takeWhole (t : Text) : Option (Text × Text) :=
  match t with
  | '0' :: rest => some (['0'], rest)
  | _ => if (takeDigits t).1 = [] then none else some (takeDigits t)

/-- A point counts only with a digit behind it. -/
def takeFrac : Text → Text × Text
  | '.' :: t =>
    if (takeDigits t).1 = [] then ([], '.' :: t) else ('.' :: (takeDigits t).1, (takeDigits t).2)
  | t => ([], t)

def takeSign : Text → Text × Text
  | '-' :: t => (['-'], t)
  | '+' :: t => (['+'], t)
  | t => ([], t)

/-- An exponent counts only with a digit in it. -/
def takeExp : Text → Text × Text
  | c :: t =>
    let digits := takeDigits (takeSign t).2
    if (c = 'e' ∨ c = 'E') ∧ digits.1 ≠ [] then (c :: ((takeSign t).1 ++ digits.1), digits.2)
    else ([], c :: t)
  | [] => ([], [])

def readUnsigned (neg : Bool) (t : Text) : Option (Value × Text) :=
  (takeWhole t).bind fun (whole, t₁) =>
    let (frac, t₂) := takeFrac t₁
    let (exp, rest) := takeExp t₂
    if frac = [] ∧ exp = [] then
      if maxDigits < whole.length then none
      else some (.int (if neg then -(digitsValue whole : ℤ) else digitsValue whole), rest)
    else
      let sign := if neg then ['-'] else []
      some (.decimal (sign ++ (whole ++ (frac ++ exp))), rest)

def readNumber : Text → Option (Value × Text)
  | '-' :: t => readUnsigned true t
  | t => readUnsigned false t

mutual

/-- The fuel bounds the nesting and the number of items together; the length of the text is
always enough. -/
def readValue : ℕ → Text → Option (Value × Text)
  | 0, _ => none
  | fuel + 1, t =>
    match skipBlanks t with
    | '"' :: rest => (scanString rest).map fun p => (.str p.1, p.2)
    | '[' :: rest => (readItems fuel rest).map fun p => (.list p.1, p.2)
    | '{' :: rest => (readMembers fuel rest).map fun p => (.dict p.1, p.2)
    | t' => (readKeyword t').or (readNumber t')

def readItems : ℕ → Text → Option (List Value × Text)
  | 0, _ => none
  | fuel + 1, t =>
    match skipBlanks t with
    | ']' :: rest => some ([], rest)
    | t' => do
      let (v, rest) ← readValue fuel t'
      let (items, rest') ← readMoreItems fuel rest
      some (v :: items, rest')

def readMoreItems : ℕ → Text → Option (List Value × Text)
  | 0, _ => none
  | fuel + 1, t =>
    match skipBlanks t with
    | ']' :: rest => some ([], rest)
    | ',' :: t' => do
      let (v, rest) ← readValue fuel t'
      let (items, rest') ← readMoreItems fuel rest
      some (v :: items, rest')
    | _ => none

def readMembers : ℕ → Text → Option (Members × Text)
  | 0, _ => none
  | fuel + 1, t =>
    match skipBlanks t with
    | '}' :: rest => some ([], rest)
    | '"' :: t' => do
      let (k, rest) ← scanString t'
      let (v, rest') ← readMember fuel rest
      let (members, rest'') ← readMoreMembers fuel rest'
      some ((k, v) :: members, rest'')
    | _ => none

/-- The colon of a member and its value. -/
def readMember : ℕ → Text → Option (Value × Text)
  | 0, _ => none
  | fuel + 1, t =>
    match skipBlanks t with
    | ':' :: t' => readValue fuel t'
    | _ => none

def readMoreMembers : ℕ → Text → Option (Members × Text)
  | 0, _ => none
  | fuel + 1, t =>
    match skipBlanks t with
    | '}' :: rest => some ([], rest)
    | ',' :: t' =>
      match skipBlanks t' with
      | '"' :: t'' => do
        let (k, rest) ← scanString t''
        let (v, rest') ← readMember fuel rest
        let (members, rest'') ← readMoreMembers fuel rest'
        some ((k, v) :: members, rest'')
      | _ => none
    | _ => none

end

/-- The pairs of a text, before the dicts are made of them: one value and nothing after it but
blanks. -/
def readPairs (t : Text) : Option Value :=
  match readValue (t.length + 1) t with
  | some (v, rest) => if skipBlanks rest = [] then some v else none
  | none => none

/-- `json.loads(t, parse_float=Decimal)`. -/
def loads (t : Text) : Option Value := (readPairs t).map dicts

theorem joined_list (items : List Value) : joined (.list items) = .list (items.map joined) :=
  rebuild_list join id items

theorem joined_dict (members : Members) :
    joined (.dict members) = .dict (members.map fun m => (join m.1, joined m.2)) :=
  rebuild_dict join id members

/-- Writing in ASCII does not see whether a string is joined. -/
theorem encode_joined (v : Value) : encode (joined v) = encode v := by
  have hbody : ∀ s, asciiBody (join s) = (asciiBody s).map id := by
    intro s
    rw [asciiBody_join, List.map_id]
  have hwrite : writeWith id asciiBody (joined v) = (writeWith id asciiBody v).map id :=
    write_change (p := fun _ => false) (fun _ => rfl) (fun s _ => hbody s)
      (fun _ _ k _ => hbody k) v (nowhere_false v)
  rw [encode_eq_write, hwrite, List.map_id, encode_eq_write]

/-! What is written is read back. -/

theorem takeWhole_natText (n : ℕ) {rest : Text} (hrest : NoDigitHead rest) :
    takeWhole (natText n ++ rest) = some (natText n, rest) := by
  have htake := takeDigits_natText n rest hrest
  rw [takeWhole.eq_def]
  split
  · rename_i heq
    have hzero : n = 0 := natText_head_zero n (by
      rw [← List.head?_append_of_ne_nil _ (natText_ne_nil n), heq]
      rfl)
    subst hzero
    exact congrArg (fun t => some (['0'], t)) (List.cons.inj heq).2.symm
  · rw [htake, if_neg (natText_ne_nil n)]

theorem takeFrac_plain {rest : Text} (h : ∀ c ∈ rest.head?, c ≠ '.') :
    takeFrac rest = ([], rest) := by
  unfold takeFrac
  split
  · exact absurd rfl (h '.' rfl)
  · rfl

theorem takeExp_plain {rest : Text} (h : ∀ c ∈ rest.head?, c ≠ 'e' ∧ c ≠ 'E') :
    takeExp rest = ([], rest) := by
  cases rest with
  | nil => rfl
  | cons c t =>
    have hc := h c rfl
    simp only [takeExp, hc.1, hc.2, or_self, false_and, ↓reduceIte]

theorem readUnsigned_natText (neg : Bool) {n : ℕ} (hn : ¬ maxDigits < (natText n).length)
    {rest : Text} (hrest : Delimited rest) :
    readUnsigned neg (natText n ++ rest) =
      some (.int (if neg then -(n : ℤ) else n), rest) := by
  have hfrac : takeFrac rest = ([], rest) := by
    refine takeFrac_plain fun c hc => ?_
    rcases hrest c hc with rfl | rfl | rfl <;> decide
  have hexp : takeExp rest = ([], rest) := by
    refine takeExp_plain fun c hc => ?_
    rcases hrest c hc with rfl | rfl | rfl <;> decide
  rw [readUnsigned, takeWhole_natText n hrest.noDigitHead, Option.bind_some]
  simp only [hfrac, hexp, and_self, ↓reduceIte, hn, digitsValue_natText]

theorem readNumber_intText {n : ℤ} (hn : ¬ maxDigits < (natText n.natAbs).length) {rest : Text}
    (hrest : Delimited rest) : readNumber (intText n ++ rest) = some (.int n, rest) := by
  cases n with
  | ofNat n =>
    have hplain : readNumber (natText n ++ rest) = readUnsigned false (natText n ++ rest) := by
      obtain ⟨c, t, ht, hc⟩ := natText_head_digit n rest
      rw [ht]
      unfold readNumber
      split
      · rename_i heq
        obtain rfl := (List.cons.inj heq).1
        exact absurd hc (by decide)
      · rfl
    have hn' : ¬ maxDigits < (natText n).length := hn
    rw [intText, hplain, readUnsigned_natText false hn' hrest]
    rfl
  | negSucc n =>
    have hn' : ¬ maxDigits < (natText (n + 1)).length := hn
    rw [intText, List.cons_append, readNumber, readUnsigned_natText true hn' hrest]
    rfl

/-- A number is no keyword. -/
theorem readKeyword_intText (n : ℤ) (rest : Text) : readKeyword (intText n ++ rest) = none := by
  have hne : ∀ {c d : Char}, c.isDigit = true → d.isDigit = false → (d == c) = false := by
    intro c d hc hd
    rw [beq_eq_false_iff_ne]
    rintro rfl
    exact absurd hc (by rw [hd]; decide)
  cases n with
  | ofNat n =>
    obtain ⟨c, t, ht, hc⟩ := natText_head_digit n rest
    simp only [intText, ht, readKeyword, keywords, Constant.text, List.findSome?_cons,
      List.isPrefixOf, hne hc (d := 'n') (by decide), hne hc (d := 't') (by decide),
      hne hc (d := 'f') (by decide), hne hc (d := 'N') (by decide), hne hc (d := 'I') (by decide),
      hne hc (d := '-') (by decide), Bool.false_and, Bool.false_eq_true, ↓reduceIte,
      List.findSome?_nil]
  | negSucc n =>
    obtain ⟨c, t, ht, hc⟩ := natText_head_digit (n + 1) rest
    have hminus : ∀ {d : Char}, d ≠ '-' → (d == '-') = false := by
      intro d hd
      rwa [beq_eq_false_iff_ne]
    simp only [intText, List.cons_append, ht, readKeyword, keywords, Constant.text,
      List.findSome?_cons, List.isPrefixOf, hne hc (d := 'I') (by decide),
      hminus (d := 'n') (by decide), hminus (d := 't') (by decide), hminus (d := 'f') (by decide),
      hminus (d := 'N') (by decide), hminus (d := 'I') (by decide), beq_self_eq_true,
      Bool.true_and, Bool.false_and, Bool.false_eq_true, ↓reduceIte, List.findSome?_nil]

theorem readValue_plain (fuel : ℕ) {c : Char} (t : Text) (hblank : isBlank c = false)
    (hq : c ≠ '"') (hl : c ≠ '[') (hd : c ≠ '{') :
    readValue (fuel + 1) (c :: t) = (readKeyword (c :: t)).or (readNumber (c :: t)) := by
  rw [readValue, skipBlanks_cons t hblank]
  split
  case h_4 => rfl
  all_goals
    rename_i heq
    obtain rfl := (List.cons.inj heq).1
    contradiction

section Body

variable {body : PyText → Text}

/-- A written value starts with no blank and closes nothing. -/
theorem write_head {v : Value} (hv : unwritable v = false) (rest : Text) :
    ∃ c t, writeWith id body v ++ rest = c :: t ∧ isBlank c = false ∧ c ≠ ']' := by
  cases v with
  | null => exact ⟨'n', _, rfl, by decide, by decide⟩
  | bool b => cases b <;> exact ⟨_, _, rfl, by decide, by decide⟩
  | int n =>
    obtain ⟨c, t, ht, hc⟩ := intText_head n rest
    exact ⟨c, t, by rw [writeWith, List.map_id, ht], hc.not_blank, hc.ne (by decide)⟩
  | constant c => cases c <;> exact ⟨_, _, rfl, by decide, by decide⟩
  | decimal t => cases hv
  | str s => exact ⟨'"', _, rfl, by decide, by decide⟩
  | list items => exact ⟨'[', _, rfl, by decide, by decide⟩
  | dict members => exact ⟨'{', _, rfl, by decide, by decide⟩

theorem unwritable_of_nowhere {v : Value} (h : anywhere unwritable v = false) :
    unwritable v = false := by
  cases v with
  | list items => rfl
  | dict members => rfl
  | _ => exact h

theorem write_length_pos {v : Value} (hv : unwritable v = false) :
    0 < (writeWith id body v).length := by
  obtain ⟨c, t, ht, -⟩ := write_head hv []
  rw [List.append_nil] at ht
  rw [ht]
  exact Nat.succ_pos _

theorem writeMoreItems_delimited (items : List Value) (rest : Text) :
    Delimited (writeMoreItems id body items ++ rest) := by
  cases items with
  | nil => exact delimited_cons (.inr (.inl rfl))
  | cons v items => exact delimited_cons (.inl rfl)

theorem writeMoreMembers_delimited (members : Members) (rest : Text) :
    Delimited (writeMoreMembers id body members ++ rest) := by
  cases members with
  | nil => exact delimited_cons (.inr (.inr rfl))
  | cons m members => exact delimited_cons (.inl rfl)

theorem writeMoreItems_length_pos (items : List Value) :
    0 < (writeMoreItems id body items).length := by
  cases items <;> exact Nat.succ_pos _

theorem writeMoreMembers_length_pos (members : Members) :
    0 < (writeMoreMembers id body members).length := by
  cases members <;> exact Nat.succ_pos _

/-- With fuel for its length, the reader gives back the value and what follows it. -/
def ReadBack (body : PyText → Text) (v : Value) : Prop :=
  ∀ (fuel : ℕ) (rest : Text), (writeWith id body v).length ≤ fuel → Delimited rest →
    readValue fuel (writeWith id body v ++ rest) = some (joined v, rest)

theorem readMoreItems_write (items : List Value)
    (h : ∀ v ∈ items, unwritable v = false ∧ ReadBack body v) :
    ∀ (fuel : ℕ) (rest : Text), (writeMoreItems id body items).length ≤ fuel →
      readMoreItems fuel (writeMoreItems id body items ++ rest) = some (items.map joined, rest) := by
  induction items with
  | nil =>
    intro fuel rest hfuel
    obtain ⟨fuel, rfl⟩ : ∃ k, fuel = k + 1 := ⟨fuel - 1, (Nat.sub_add_cancel hfuel).symm⟩
    rfl
  | cons v items ih =>
    intro fuel rest hfuel
    obtain ⟨⟨-, hv⟩, hitems⟩ := List.forall_mem_cons.mp h
    simp only [writeMoreItems, List.length_cons, List.length_append] at hfuel
    obtain ⟨fuel, rfl⟩ : ∃ k, fuel = k + 1 := ⟨fuel - 1, by omega⟩
    rw [writeMoreItems, id_eq, List.cons_append, List.append_assoc, readMoreItems,
      skipBlanks_cons _ (by decide)]
    simp only [Option.bind_eq_bind, Option.bind_some, List.map_cons,
      hv fuel _ (by omega) (writeMoreItems_delimited items rest),
      ih hitems fuel rest (by omega)]

theorem readItems_write (items : List Value)
    (h : ∀ v ∈ items, unwritable v = false ∧ ReadBack body v) (fuel : ℕ) (rest : Text)
    (hfuel : (writeItems id body items).length ≤ fuel) :
    readItems fuel (writeItems id body items ++ rest) = some (items.map joined, rest) := by
  cases items with
  | nil =>
    obtain ⟨fuel, rfl⟩ : ∃ k, fuel = k + 1 := ⟨fuel - 1, (Nat.sub_add_cancel hfuel).symm⟩
    rfl
  | cons v items =>
    obtain ⟨⟨hwritable, hv⟩, hitems⟩ := List.forall_mem_cons.mp h
    have hpos : 0 < (writeWith id body v).length := write_length_pos hwritable
    have hmore : 0 < (writeMoreItems id body items).length := writeMoreItems_length_pos items
    simp only [writeItems, List.length_append] at hfuel
    obtain ⟨fuel, rfl⟩ : ∃ k, fuel = k + 1 := ⟨fuel - 1, by omega⟩
    have hstep : readItems (fuel + 1)
        (writeWith id body v ++ (writeMoreItems id body items ++ rest)) = (do
        let (v, rest) ← readValue fuel
          (writeWith id body v ++ (writeMoreItems id body items ++ rest))
        let (items, rest') ← readMoreItems fuel rest
        some (v :: items, rest')) := by
      obtain ⟨c, t, ht, hblank, hclose⟩ :=
        write_head hwritable (writeMoreItems id body items ++ rest)
      rw [ht, readItems, skipBlanks_cons t hblank]
      split
      · rename_i heq
        exact absurd (List.cons.inj heq).1 hclose
      · rfl
    rw [writeItems, List.append_assoc, hstep,
      hv fuel _ (by omega) (writeMoreItems_delimited items rest)]
    simp only [Option.bind_eq_bind, Option.bind_some, List.map_cons,
      readMoreItems_write items hitems fuel rest (by omega)]

theorem readMember_colon (fuel : ℕ) (t : Text) :
    readMember (fuel + 1) (':' :: t) = readValue fuel t := rfl

theorem readMoreMembers_write
    (hbody : ∀ s rest, scanString (body s ++ rest) = some (join s, rest)) (members : Members)
    (h : ∀ m ∈ members, unwritable m.2 = false ∧ ReadBack body m.2) :
    ∀ (fuel : ℕ) (rest : Text), (writeMoreMembers id body members).length ≤ fuel →
      readMoreMembers fuel (writeMoreMembers id body members ++ rest) =
        some (members.map fun m => (join m.1, joined m.2), rest) := by
  induction members with
  | nil =>
    intro fuel rest hfuel
    obtain ⟨fuel, rfl⟩ : ∃ k, fuel = k + 1 := ⟨fuel - 1, (Nat.sub_add_cancel hfuel).symm⟩
    rfl
  | cons m members ih =>
    intro fuel rest hfuel
    obtain ⟨k, v⟩ := m
    obtain ⟨⟨hwritable, hv⟩, hmembers⟩ := List.forall_mem_cons.mp h
    have hread : ReadBack body v := hv
    have hpos : 0 < (writeWith id body v).length := write_length_pos hwritable
    have hmore : 0 < (writeMoreMembers id body members).length :=
      writeMoreMembers_length_pos members
    simp only [writeMoreMembers, List.length_cons, List.length_append] at hfuel
    obtain ⟨fuel, rfl⟩ : ∃ k, fuel = k + 2 := ⟨fuel - 2, by omega⟩
    simp only [writeMoreMembers, id_eq, List.cons_append, List.append_assoc]
    rw [readMoreMembers, skipBlanks_cons _ (by decide)]
    simp only [skipBlanks_cons (c := '"') _ (by decide), Option.bind_eq_bind, Option.bind_some,
      hbody]
    rw [readMember_colon, hread fuel _ (by omega) (writeMoreMembers_delimited members rest)]
    simp only [Option.bind_some, List.map_cons, ih hmembers (fuel + 1) rest (by omega)]

theorem readMembers_write
    (hbody : ∀ s rest, scanString (body s ++ rest) = some (join s, rest)) (members : Members)
    (h : ∀ m ∈ members, unwritable m.2 = false ∧ ReadBack body m.2) (fuel : ℕ) (rest : Text)
    (hfuel : (writeMembers id body members).length ≤ fuel) :
    readMembers fuel (writeMembers id body members ++ rest) =
      some (members.map fun m => (join m.1, joined m.2), rest) := by
  cases members with
  | nil =>
    obtain ⟨fuel, rfl⟩ : ∃ k, fuel = k + 1 := ⟨fuel - 1, (Nat.sub_add_cancel hfuel).symm⟩
    rfl
  | cons m members =>
    obtain ⟨k, v⟩ := m
    obtain ⟨⟨hwritable, hv⟩, hmembers⟩ := List.forall_mem_cons.mp h
    have hread : ReadBack body v := hv
    have hpos : 0 < (writeWith id body v).length := write_length_pos hwritable
    have hmore : 0 < (writeMoreMembers id body members).length :=
      writeMoreMembers_length_pos members
    simp only [writeMembers, List.length_cons, List.length_append] at hfuel
    obtain ⟨fuel, rfl⟩ : ∃ k, fuel = k + 2 := ⟨fuel - 2, by omega⟩
    simp only [writeMembers, id_eq, List.cons_append, List.append_assoc]
    rw [readMembers, skipBlanks_cons _ (by decide)]
    simp only [Option.bind_eq_bind, Option.bind_some, hbody]
    rw [readMember_colon, hread fuel _ (by omega) (writeMoreMembers_delimited members rest)]
    simp only [Option.bind_some, List.map_cons,
      readMoreMembers_write hbody members hmembers (fuel + 1) rest (by omega)]

theorem readBack (hbody : ∀ s rest, scanString (body s ++ rest) = some (join s, rest))
    {v : Value} (hv : anywhere unwritable v = false) : ReadBack body v := by
  induction v using Value.induct with
  | decimal t => cases hv
  | int n =>
    intro fuel rest hfuel hrest
    have hpos : 0 < (writeWith id body (.int n)).length :=
      write_length_pos (unwritable_of_nowhere hv)
    obtain ⟨fuel, rfl⟩ : ∃ k, fuel = k + 1 := ⟨fuel - 1, by omega⟩
    have hshort : ¬ maxDigits < (natText n.natAbs).length := of_decide_eq_false hv
    have hkeyword := readKeyword_intText n rest
    have hnumber := readNumber_intText hshort hrest
    obtain ⟨c, t, ht, hc⟩ := intText_head n rest
    rw [ht] at hkeyword hnumber
    rw [writeWith, List.map_id, ht, readValue_plain fuel t hc.not_blank (hc.ne (by decide))
      (hc.ne (by decide)) (hc.ne (by decide)), hkeyword, hnumber]
    rfl
  | str s =>
    intro fuel rest hfuel hrest
    obtain ⟨fuel, rfl⟩ : ∃ k, fuel = k + 1 := ⟨fuel - 1, (Nat.sub_add_cancel (by
      exact (Nat.succ_pos _).trans_le hfuel)).symm⟩
    change (scanString (body s ++ rest)).map _ = _
    rw [hbody, Option.map_some]
    rfl
  | list items ih =>
    intro fuel rest hfuel hrest
    obtain ⟨-, hparts⟩ := nowhere_list.mp hv
    have hitems : ∀ v ∈ items, unwritable v = false ∧ ReadBack body v := fun v hv =>
      ⟨unwritable_of_nowhere (hparts v hv), ih v hv (hparts v hv)⟩
    rw [writeWith, List.length_cons] at hfuel
    obtain ⟨fuel, rfl⟩ : ∃ k, fuel = k + 1 := ⟨fuel - 1, by omega⟩
    change (readItems fuel (writeItems id body items ++ rest)).map _ = _
    rw [readItems_write items hitems fuel rest (by omega), Option.map_some, joined_list]
  | dict members ih =>
    intro fuel rest hfuel hrest
    obtain ⟨-, hparts⟩ := nowhere_dict.mp hv
    have hmembers : ∀ m ∈ members, unwritable m.2 = false ∧ ReadBack body m.2 := fun m hm =>
      ⟨unwritable_of_nowhere (hparts m hm), ih m hm (hparts m hm)⟩
    rw [writeWith, List.length_cons] at hfuel
    obtain ⟨fuel, rfl⟩ : ∃ k, fuel = k + 1 := ⟨fuel - 1, by omega⟩
    change (readMembers fuel (writeMembers id body members ++ rest)).map _ = _
    rw [readMembers_write hbody members hmembers fuel rest (by omega), Option.map_some,
      joined_dict]
  | null =>
    intro fuel rest hfuel hrest
    obtain ⟨fuel, rfl⟩ : ∃ k, fuel = k + 1 := ⟨fuel - 1, (Nat.sub_add_cancel (by
      exact (Nat.succ_pos _).trans_le hfuel)).symm⟩
    rfl
  | bool b =>
    intro fuel rest hfuel hrest
    obtain ⟨fuel, rfl⟩ : ∃ k, fuel = k + 1 := ⟨fuel - 1, (Nat.sub_add_cancel (by
      exact (write_length_pos (v := .bool b) rfl).trans_le hfuel)).symm⟩
    cases b <;> rfl
  | constant c =>
    intro fuel rest hfuel hrest
    obtain ⟨fuel, rfl⟩ : ∃ k, fuel = k + 1 := ⟨fuel - 1, (Nat.sub_add_cancel (by
      exact (write_length_pos (v := .constant c) rfl).trans_le hfuel)).symm⟩
    cases c <;> rfl

/-- Whatever the spelling of strings, as long as these are read back joined. -/
theorem readPairs_write (hbody : ∀ s rest, scanString (body s ++ rest) = some (join s, rest))
    {v : Value} (hv : anywhere unwritable v = false) :
    readPairs (writeWith id body v) = some (joined v) := by
  have hread := readBack hbody hv ((writeWith id body v).length + 1) [] (by omega) delimited_nil
  rw [List.append_nil] at hread
  simp only [readPairs, hread, skipBlanks, List.dropWhile_nil, ↓reduceIte]

end Body

theorem readPairs_encode {v : Value} (hv : anywhere unwritable v = false) :
    readPairs (encode v) = some (joined v) := by
  rw [encode_eq_write, readPairs_write scanString_asciiBody hv]

/-- Two values have one text exactly when their joined forms are one. -/
theorem encode_eq_iff {v w : Value} (hv : anywhere unwritable v = false)
    (hw : anywhere unwritable w = false) : encode v = encode w ↔ joined v = joined w := by
  constructor
  · intro h
    have hread := readPairs_encode hv
    rw [h, readPairs_encode hw] at hread
    exact (Option.some.inj hread).symm
  · intro h
    rw [← encode_joined v, h, encode_joined]

end PythonJson
