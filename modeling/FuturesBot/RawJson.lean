import FuturesBot.SettledJson

/-! JSON written with every character as it is but quotes, backslashes and controls, and what is
read of such a text: the value that was written, when no surrogate is in it. -/
namespace PythonJson

open JsonText PythonTexts KeySorting

/-- What has no spelling but itself: all but quotes, backslashes and controls. -/
def standsForItself (u : CodePoint) : Bool := 0x20 ≤ u.val && u.val ≠ 0x22 && u.val ≠ 0x5c

def rawUnit (u : CodePoint) : PyText :=
  if standsForItself u then [u] else ofText (escapeUnit u)

/-- The body of a string literal and its closing quote, with `ensure_ascii=False`. -/
def rawBody (s : PyText) : PyText := s.flatMap rawUnit ++ [codePoint '"']

/-- `json.dumps(v, sort_keys=True, separators=(",", ":"), ensure_ascii=False)`. -/
def dumpsRaw (v : Value) : Option PyText :=
  if anywhere unwritable v then none else some (writeWith codePoint rawBody (sortKeys v))

def isSurrogate (u : CodePoint) : Bool := isHigh u || isLow u

/-- A string or a name that is no sequence of characters. -/
def hasSurrogate : Value → Bool
  | .str s => s.any isSurrogate
  | .dict members => (names members).any fun k => k.any isSurrogate
  | _ => false

/-! Texts of characters. -/

theorem val_codePoint (c : Char) : (codePoint c).val = c.toNat := by
  have hc : c.toNat < 0x110000 := by
    rcases c.valid with h | h
    · exact h.trans (by decide)
    · exact h.2
  exact Nat.mod_eq_of_lt hc

theorem not_surrogate_codePoint (c : Char) : isSurrogate (codePoint c) = false := by
  have hvalid : c.toNat < 0xD800 ∨ 0xDFFF < c.toNat ∧ c.toNat < 0x110000 := c.valid
  simp only [isSurrogate, isHigh, isLow, val_codePoint, Bool.or_eq_false_iff,
    Bool.and_eq_false_imp, decide_eq_true_eq, decide_eq_false_iff_not]
  omega

theorem ofText_injective : Function.Injective ofText := by
  apply List.map_injective_iff.mpr
  intro c d h
  have hval := congrArg Fin.val h
  rw [val_codePoint, val_codePoint] at hval
  exact Char.toNat_inj.mp hval

theorem toNat_ofNat {u : CodePoint} (h : isSurrogate u = false) :
    (Char.ofNat u.val).toNat = u.val := by
  have hu : u.val < 0x110000 := u.isLt
  have hvalid : u.val.isValidChar := by
    simp only [isSurrogate, isHigh, isLow, Bool.or_eq_false_iff, Bool.and_eq_false_imp,
      decide_eq_true_eq, decide_eq_false_iff_not] at h
    unfold Nat.isValidChar
    omega
  rw [Char.ofNat, dif_pos hvalid]
  rfl

/-- A unit as a text has it. A surrogate, which no text has, is escaped here. -/
def charUnit (u : CodePoint) : Text :=
  if standsForItself u && !isSurrogate u then [Char.ofNat u.val] else escapeUnit u

def charBody (s : PyText) : Text := s.flatMap charUnit ++ ['"']

theorem scanUnits_charUnit (u : CodePoint) (t : Text) :
    scanUnits (charUnit u ++ t) = prependUnit u (scanUnits t) := by
  unfold charUnit
  by_cases hself : (standsForItself u && !isSurrogate u) = true
  · obtain ⟨hstands, hchar⟩ := Bool.and_eq_true_iff.mp hself
    have hnat := toNat_ofNat (by simpa using hchar)
    simp only [standsForItself, Bool.and_eq_true, decide_eq_true_eq] at hstands
    obtain ⟨⟨hctrl, hquote⟩, hslash⟩ := hstands
    have hne : ∀ c : Char, u.val ≠ c.toNat → Char.ofNat u.val ≠ c := by
      rintro c hc rfl
      exact hc hnat.symm
    have hpoint : codePoint (Char.ofNat u.val) = u := by rw [codePoint, hnat, ofNat_val]
    rw [if_pos hself, List.cons_append, List.nil_append,
      scanUnits_plain t (hne '"' hquote) (hne '\\' hslash) (by omega), hpoint]
  · -- what is escaped is below the surrogates or one of them
    rw [if_neg hself, scanUnits_escapeUnit]
    simp only [standsForItself, isSurrogate, isHigh, isLow, Bool.and_eq_true,
      decide_eq_true_eq, Bool.not_eq_true', Bool.or_eq_false_iff, Bool.and_eq_false_imp,
      decide_eq_false_iff_not] at hself
    omega

theorem scanString_charBody (s : PyText) (rest : Text) :
    scanString (charBody s ++ rest) = some (join s, rest) := by
  have hunits : scanUnits (s.flatMap charUnit ++ '"' :: rest) = some (s, rest) := by
    induction s with
    | nil => rfl
    | cons u s ih =>
      rw [List.flatMap_cons, List.append_assoc, scanUnits_charUnit, ih]
      rfl
  rw [scanString, charBody, List.append_assoc, List.singleton_append, hunits, Option.map_some]

theorem rawBody_eq {s : PyText} (h : s.any isSurrogate = false) :
    rawBody s = ofText (charBody s) := by
  have hunit : ∀ u ∈ s, rawUnit u = ofText (charUnit u) := by
    intro u hu
    have hchar : isSurrogate u = false := by
      simpa using List.any_eq_false.mp h u hu
    rw [rawUnit, charUnit, hchar, Bool.not_false, Bool.and_true]
    by_cases hself : standsForItself u = true
    · rw [if_pos hself, if_pos hself, ofText, List.map_singleton, codePoint, toNat_ofNat hchar,
        ofNat_val]
    · rw [if_neg hself, if_neg hself]
  have hflat : s.flatMap rawUnit = ofText (s.flatMap charUnit) := by
    rw [ofText, List.map_flatMap]
    exact List.flatMap_congr hunit
  rw [rawBody, hflat, charBody, ofText, ofText, List.map_append, List.map_singleton]

theorem join_of_characters {s : PyText} (h : s.any isSurrogate = false) : join s = s := by
  induction s with
  | nil => rfl
  | cons u s ih =>
    rw [List.any_cons, Bool.or_eq_false_iff] at h
    rw [join_cons (.inl (Bool.or_eq_false_iff.mp h.1).1), ih h.2]

/-! A text written raw is one of characters exactly when no string has a surrogate in it. -/

theorem hasSurrogate_dict {members : Members} : hasSurrogate (.dict members) = false ↔
    ∀ k ∈ names members, k.any isSurrogate = false := by
  rw [hasSurrogate, List.any_eq_false]
  simp only [Bool.not_eq_true]

theorem writeRaw_eq {v : Value} (h : anywhere hasSurrogate v = false) :
    writeWith codePoint rawBody v = ofText (writeWith id charBody v) := by
  have hsame : rebuild id id v = v :=
    rebuild_eq_self (p := fun _ => false) (fun _ _ => rfl) (fun _ _ => ⟨fun _ _ => rfl, rfl⟩) v
      (nowhere_false v)
  have hwrite : writeWith codePoint rawBody (rebuild id id v) =
      (writeWith id charBody v).map codePoint :=
    write_change (fun _ => rfl) (fun _ hs => rawBody_eq hs)
      (fun _ hms k hk => rawBody_eq (hasSurrogate_dict.mp hms k hk)) v h
  rw [hsame] at hwrite
  exact hwrite

/-- Only strings and names give surrogates. -/
theorem ofText_clean (t : Text) : (ofText t).any isSurrogate = false := by
  rw [ofText, List.any_map, List.any_eq_false]
  intro c _
  rw [Function.comp_apply, not_surrogate_codePoint]
  decide

theorem rawBody_clean (s : PyText) : (rawBody s).any isSurrogate = s.any isSurrogate := by
  have hunit : ∀ u, (rawUnit u).any isSurrogate = isSurrogate u := by
    intro u
    rw [rawUnit]
    by_cases hself : standsForItself u = true
    · rw [if_pos hself, List.any_cons, List.any_nil, Bool.or_false]
    · rw [if_neg hself, ofText_clean]
      simp only [standsForItself, Bool.and_eq_true, decide_eq_true_eq] at hself
      symm
      simp only [isSurrogate, isHigh, isLow, Bool.or_eq_false_iff, Bool.and_eq_false_imp,
        decide_eq_true_eq, decide_eq_false_iff_not]
      omega
  rw [rawBody, List.any_append, List.any_flatMap, List.any_cons, not_surrogate_codePoint]
  simp only [hunit, List.any_nil, Bool.or_false]

theorem writeMoreItems_clean {items : List Value} :
    (writeMoreItems codePoint rawBody items).any isSurrogate = false ↔
      ∀ v ∈ items, (writeWith codePoint rawBody v).any isSurrogate = false := by
  induction items with
  | nil => simp [writeMoreItems, not_surrogate_codePoint]
  | cons v items ih =>
    rw [writeMoreItems, List.any_cons, List.any_append, not_surrogate_codePoint, Bool.false_or,
      Bool.or_eq_false_iff, ih, List.forall_mem_cons]

theorem writeMoreMembers_clean {members : Members} :
    (writeMoreMembers codePoint rawBody members).any isSurrogate = false ↔
      ∀ m ∈ members, m.1.any isSurrogate = false ∧
        (writeWith codePoint rawBody m.2).any isSurrogate = false := by
  induction members with
  | nil => simp [writeMoreMembers, not_surrogate_codePoint]
  | cons m members ih =>
    simp only [writeMoreMembers, List.any_cons, List.any_append, not_surrogate_codePoint,
      rawBody_clean, Bool.false_or, Bool.or_eq_false_iff, ih, List.forall_mem_cons, and_assoc]

theorem write_clean (v : Value) : (writeWith codePoint rawBody v).any isSurrogate = false ↔
    anywhere hasSurrogate v = false := by
  induction v using Value.induct with
  | null => exact iff_of_true (ofText_clean _) rfl
  | bool b => cases b <;> exact iff_of_true (ofText_clean _) rfl
  | int n => exact iff_of_true (ofText_clean _) rfl
  | constant c => exact iff_of_true (ofText_clean _) rfl
  | decimal t => exact iff_of_true (ofText_clean _) rfl
  | str s =>
    rw [writeWith, List.any_cons, not_surrogate_codePoint, Bool.false_or, rawBody_clean]
    exact Iff.rfl
  | list items ih =>
    have hsame : (writeWith codePoint rawBody (.list items)).any isSurrogate = false ↔
        ∀ v ∈ items, (writeWith codePoint rawBody v).any isSurrogate = false := by
      cases items with
      | nil => simp [writeWith, writeItems, not_surrogate_codePoint]
      | cons v items =>
        rw [writeWith, writeItems, List.any_cons, List.any_append, not_surrogate_codePoint,
          Bool.false_or, Bool.or_eq_false_iff, writeMoreItems_clean, List.forall_mem_cons]
    rw [hsame, nowhere_list, and_iff_right (by rfl)]
    exact forall₂_congr ih
  | dict members ih =>
    have hsame : (writeWith codePoint rawBody (.dict members)).any isSurrogate = false ↔
        ∀ m ∈ members, m.1.any isSurrogate = false ∧
          (writeWith codePoint rawBody m.2).any isSurrogate = false := by
      cases members with
      | nil => simp [writeWith, writeMembers, not_surrogate_codePoint]
      | cons m members =>
        simp only [writeWith, writeMembers, List.any_cons, List.any_append,
          not_surrogate_codePoint, rawBody_clean, Bool.false_or, Bool.or_eq_false_iff,
          writeMoreMembers_clean, List.forall_mem_cons, and_assoc]
    rw [hsame, nowhere_dict, hasSurrogate_dict, names, List.forall_mem_map, ← forall₂_and]
    exact forall₂_congr fun m hm => and_congr_right fun _ => ih m hm

/-! Reading what was written. -/

theorem dumpsRaw_eq_some {v : Value} {t : PyText} : dumpsRaw v = some t ↔
    anywhere unwritable v = false ∧ writeWith codePoint rawBody (sortKeys v) = t := by
  rw [dumpsRaw]
  cases anywhere unwritable v <;> simp

/-- A dict whose names are apart is read back sorted, and nothing else changes. -/
theorem loads_dumpsRaw {v : Value} {t : Text} (h : dumpsRaw v = some (ofText t))
    (hnames : anywhere repeatsName v = false) : loads t = some (sortKeys v) := by
  obtain ⟨hwritable, htext⟩ := dumpsRaw_eq_some.mp h
  have hchars : anywhere hasSurrogate (sortKeys v) = false := by
    rw [← write_clean, htext]
    exact ofText_clean t
  have ht : writeWith id charBody (sortKeys v) = t := by
    apply ofText_injective
    rw [← writeRaw_eq hchars, htext]
  have hjoined : anywhere unjoined (sortKeys v) = false := by
    apply nowhere_mono (q := hasSurrogate) ?_ _ hchars
    intro w hw
    cases w with
    | str s => exact unjoined_str.mpr (join_of_characters hw)
    | dict members =>
      exact unjoined_dict.mpr fun k hk => join_of_characters (hasSurrogate_dict.mp hw k hk)
    | _ => rfl
  have hapart : anywhere repeatsName (sortKeys v) = false :=
    apart_of_ordered (sortKeys_ordered hnames)
  have hread := readPairs_write scanString_charBody
    ((unwritable_ofLeaves.nowhere_sortKeys v).mpr hwritable)
  rw [loads, ← ht, hread, Option.map_some, joined_eq_self hjoined, dicts_eq_self hapart]

theorem sortKeys_sortKeys {v : Value} (hnames : anywhere repeatsName v = false) :
    sortKeys (sortKeys v) = sortKeys v := sortKeys_eq_self (sortKeys_ordered hnames)

theorem dumpsRaw_sortKeys {v : Value} (hnames : anywhere repeatsName v = false) :
    dumpsRaw (sortKeys v) = dumpsRaw v := by
  have hwritable : anywhere unwritable (sortKeys v) = anywhere unwritable v := by
    rw [Bool.eq_iff_iff, ← not_iff_not, Bool.not_eq_true, Bool.not_eq_true]
    exact unwritable_ofLeaves.nowhere_sortKeys v
  rw [dumpsRaw, dumpsRaw, hwritable, sortKeys_sortKeys hnames]

end PythonJson
