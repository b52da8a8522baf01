import FuturesBot.JsonParse
import Mathlib.Data.List.Infix
import Mathlib.Tactic.FinCases

/-! Truncated JSON text: a text that stops inside an array, an object or a string is not
a value, so a reader can tell a cut line from a whole one. -/
namespace JsonText

theorem prefix_append_cases {α : Type*} {p a b : List α} (h : p <+: a ++ b) :
    (p <+: a ∧ p ≠ a) ∨ ∃ t, t <+: b ∧ p = a ++ t := by
  rcases List.prefix_or_prefix_of_prefix h (List.prefix_append a b) with hp | ⟨t, rfl⟩
  · by_cases he : p = a
    · exact .inr ⟨[], List.nil_prefix, by rw [he, List.append_nil]⟩
    · exact .inl ⟨hp, he⟩
  · exact .inr ⟨t, (List.prefix_append_right_inj a).mp h, rfl⟩

theorem Delimited.of_cut {p t : Text} (h : Delimited t) (hp : p <+: t) : Delimited p := by
  intro c hc
  obtain ⟨s, rfl⟩ := hp
  refine h c ?_
  cases p with
  | nil => simp at hc
  | cons d p => simpa using hc

/-- More fuel never changes a result. -/
theorem parse_fuel_succ (fuel : ℕ) :
    (∀ t r, parseValue fuel t = some r → parseValue (fuel + 1) t = some r) ∧
    (∀ t r, parseItems fuel t = some r → parseItems (fuel + 1) t = some r) ∧
    (∀ t r, parseMoreItems fuel t = some r → parseMoreItems (fuel + 1) t = some r) ∧
    (∀ t r, parseMembers fuel t = some r → parseMembers (fuel + 1) t = some r) ∧
    (∀ t r, parseMember fuel t = some r → parseMember (fuel + 1) t = some r) ∧
    (∀ t r, parseMoreMembers fuel t = some r → parseMoreMembers (fuel + 1) t = some r) := by
  induction fuel with
  | zero =>
    refine ⟨?_, ?_, ?_, ?_, ?_, ?_⟩ <;> intro t r h
    · exact absurd h (by simp [parseValue])
    · exact absurd h (by simp [parseItems])
    · exact absurd h (by simp [parseMoreItems])
    · exact absurd h (by simp [parseMembers])
    · exact absurd h (by simp [parseMember])
    · exact absurd h (by simp [parseMoreMembers])
  | succ fuel ih =>
    obtain ⟨hvalue, hitems, hmoreItems, hmembers, hmember, hmoreMembers⟩ := ih
    refine ⟨?_, ?_, ?_, ?_, ?_, ?_⟩ <;> intro t r h
    · rw [parseValue] at h ⊢
      generalize skipBlanks t = s at h ⊢
      split at h
      case h_5 rest =>
        obtain ⟨q, hq, rfl⟩ := Option.map_eq_some_iff.mp h
        exact Option.map_eq_some_iff.mpr ⟨q, hitems rest q hq, rfl⟩
      case h_6 rest =>
        obtain ⟨q, hq, rfl⟩ := Option.map_eq_some_iff.mp h
        exact Option.map_eq_some_iff.mpr ⟨q, hmembers rest q hq, rfl⟩
      all_goals exact h
    · rw [parseItems] at h ⊢
      generalize skipBlanks t = s at h ⊢
      split at h
      · exact h
      · simp only [Option.bind_eq_bind, Option.bind_eq_some_iff] at h ⊢
        obtain ⟨v, hv, items, hi, hr⟩ := h
        exact ⟨v, hvalue _ _ hv, items, hmoreItems _ _ hi, hr⟩
    · rw [parseMoreItems] at h ⊢
      generalize skipBlanks t = s at h ⊢
      split at h
      · exact h
      · simp only [Option.bind_eq_bind, Option.bind_eq_some_iff] at h ⊢
        obtain ⟨v, hv, items, hi, hr⟩ := h
        exact ⟨v, hvalue _ _ hv, items, hmoreItems _ _ hi, hr⟩
      · exact absurd h (by simp)
    · rw [parseMembers] at h ⊢
      generalize skipBlanks t = s at h ⊢
      split at h
      · exact h
      · simp only [Option.bind_eq_bind, Option.bind_eq_some_iff] at h ⊢
        obtain ⟨k, hk, v, hv, members, hm, hr⟩ := h
        exact ⟨k, hk, v, hmember _ _ hv, members, hmoreMembers _ _ hm, hr⟩
      · exact absurd h (by simp)
    · rw [parseMember] at h ⊢
      generalize skipBlanks t = s at h ⊢
      split at h
      · exact hvalue _ _ h
      · exact absurd h (by simp)
    · rw [parseMoreMembers] at h ⊢
      generalize skipBlanks t = s at h ⊢
      split at h
      · exact h
      · rename_i t'
        simp only at h ⊢
        generalize skipBlanks t' = s' at h ⊢
        split at h
        · simp only [Option.bind_eq_bind, Option.bind_eq_some_iff] at h ⊢
          obtain ⟨k, hk, v, hv, members, hm, hr⟩ := h
          exact ⟨k, hk, v, hmember _ _ hv, members, hmoreMembers _ _ hm, hr⟩
        · exact absurd h (by simp)
      · exact absurd h (by simp)

theorem parseValue_fuel_add (fuel extra : ℕ) {t : Text} {r : Json × Text}
    (h : parseValue fuel t = some r) : parseValue (fuel + extra) t = some r := by
  induction extra with
  | zero => exact h
  | succ extra ih => exact (parse_fuel_succ (fuel + extra)).1 t r ih

/-- Whatever the fuel, a result on an encoded value is that value. -/
theorem parseValue_encode_some {v : Json} {fuel : ℕ} {rest : Text} {r : Json × Text}
    (hrest : Delimited rest) (h : parseValue fuel (encode v ++ rest) = some r) :
    r = (v, rest) := by
  have hmore := parseValue_fuel_add fuel (encode v).length h
  rw [parseValue_encode v _ rest (by omega) hrest] at hmore
  exact (Option.some.inj hmore).symm

/-! A number literal has no closing character, so what the reader leaves of a cut one is
no continuation of an array or an object. -/

def isNumberChar (c : Char) : Bool :=
  c.isDigit || c = '-' || c = '+' || c = '.' || c = 'e' || c = 'E'

def NumberRest (t : Text) : Prop := ∀ c ∈ t, isNumberChar c = true

theorem NumberRest.of_sublist {s t : Text} (h : NumberRest t) (hs : s.Sublist t) :
    NumberRest s := fun c hc => h c (hs.subset hc)

theorem takeDigits_sublist (t : Text) : (takeDigits t).2.Sublist t :=
  (List.dropWhile_suffix _).sublist

theorem parseFrac_sublist {t : Text} {r : Text × Text} (h : parseFrac t = some r) :
    r.2.Sublist t := by
  unfold parseFrac at h
  split at h
  · rename_i rest
    split at h
    · exact absurd h (by simp)
    · obtain rfl := Option.some.inj h
      exact (takeDigits_sublist rest).cons '.'
  · obtain rfl := Option.some.inj h
    exact List.Sublist.refl _

theorem parseExpDigits_sublist {sign : ℤ} {t : Text} {r : Option ℤ × Text}
    (h : parseExpDigits sign t = some r) : r.2.Sublist t := by
  unfold parseExpDigits at h
  split at h
  · exact absurd h (by simp)
  · obtain rfl := Option.some.inj h
    exact takeDigits_sublist t

theorem parseExp_sublist {t : Text} {r : Option ℤ × Text} (h : parseExp t = some r) :
    r.2.Sublist t := by
  unfold parseExp at h
  split at h
  · rename_i c rest
    split at h
    · split at h
      · exact ((parseExpDigits_sublist h).cons '-').cons c
      · exact ((parseExpDigits_sublist h).cons '+').cons c
      · exact (parseExpDigits_sublist h).cons c
    · obtain rfl := Option.some.inj h
      exact List.Sublist.refl _
  · obtain rfl := Option.some.inj h
    exact List.Sublist.refl _

theorem parseUnsigned_sublist {neg : Bool} {t : Text} {r : Json × Text}
    (h : parseUnsigned neg t = some r) : r.2.Sublist t := by
  simp only [parseUnsigned, Option.bind_eq_some_iff] at h
  obtain ⟨whole, -, frac, hfrac, exp, hexp, v, -, hr⟩ := h
  obtain rfl := Option.some.inj hr
  exact ((parseExp_sublist hexp).trans (parseFrac_sublist hfrac)).trans (takeDigits_sublist t)

theorem parseNumber_sublist {t : Text} {r : Json × Text} (h : parseNumber t = some r) :
    r.2.Sublist t := by
  unfold parseNumber at h
  split at h
  · exact (parseUnsigned_sublist h).cons '-'
  · exact parseUnsigned_sublist h

theorem natText_numberRest (n : ℕ) : NumberRest (natText n) := fun c hc => by
  simp only [isNumberChar, natText_isDigit n c hc, Bool.true_or]

theorem NumberRest.append {s t : Text} (hs : NumberRest s) (ht : NumberRest t) :
    NumberRest (s ++ t) := fun c hc => (List.mem_append.mp hc).elim (hs c) (ht c)

theorem NumberRest.cons {c : Char} {t : Text} (hc : isNumberChar c = true) (ht : NumberRest t) :
    NumberRest (c :: t) := by
  intro d hd
  rcases List.mem_cons.mp hd with rfl | hd
  · exact hc
  · exact ht d hd

theorem numberRest_nil : NumberRest [] := fun _ hc => absurd hc List.not_mem_nil

theorem intText_numberRest (n : ℤ) : NumberRest (intText n) := by
  cases n with
  | ofNat n => exact natText_numberRest n
  | negSucc n => exact (natText_numberRest (n + 1)).cons (by decide)

theorem FloatText.text_numberRest (f : FloatText) : NumberRest f.text := by
  have hfrac : NumberRest f.frac := fun c hc => by
    simp only [isNumberChar, f.frac_digits c hc, Bool.true_or]
  have hexp : NumberRest (expText f.exp) := by
    cases f.exp with
    | none => exact numberRest_nil
    | some e => exact (intText_numberRest e).cons (by decide)
  refine .append ?_ ((natText_numberRest f.whole).append (.append ?_ hexp))
  · split
    · exact numberRest_nil.cons (by decide)
    · exact numberRest_nil
  · split
    · exact numberRest_nil
    · exact hfrac.cons (by decide)

theorem parseValue_nil (fuel : ℕ) : parseValue fuel [] = none := by
  cases fuel <;> rfl

/-- What the reader leaves of a prefix of a number literal. -/
theorem parseValue_number_cut {t p : Text} {fuel : ℕ} {r : Json × Text}
    (ht : NumberRest t) (hhead : ∃ c s, t = c :: s ∧ NumberHead c) (hp : p <+: t)
    (h : parseValue fuel p = some r) : NumberRest r.2 := by
  obtain ⟨c, s, rfl, hc⟩ := hhead
  cases fuel with
  | zero => exact absurd h (by simp [parseValue])
  | succ fuel =>
    cases p with
    | nil => exact absurd h (by simp [parseValue_nil])
    | cons d p =>
      obtain ⟨rfl, -⟩ := List.cons_prefix_cons.mp hp
      rw [parseValue_number fuel p hc] at h
      exact (ht.of_sublist hp.sublist).of_sublist (parseNumber_sublist h)

theorem NumberRest.skipBlanks {t : Text} (h : NumberRest t) : skipBlanks t = t := by
  cases t with
  | nil => rfl
  | cons c t =>
    refine skipBlanks_cons t ?_
    by_contra hb
    have hc := h c List.mem_cons_self
    simp only [isBlank, Bool.not_eq_false, Bool.or_eq_true, decide_eq_true_eq] at hb
    rcases hb with ((rfl | rfl) | rfl) | rfl <;> exact absurd hc (by decide)

theorem parseMoreItems_numberRest (fuel : ℕ) {t : Text} (h : NumberRest t) :
    parseMoreItems fuel t = none := by
  cases fuel with
  | zero => rfl
  | succ fuel =>
    rw [parseMoreItems, h.skipBlanks]
    split
    · exact absurd (h ']' List.mem_cons_self) (by decide)
    · exact absurd (h ',' List.mem_cons_self) (by decide)
    · rfl

theorem parseMoreMembers_numberRest (fuel : ℕ) {t : Text} (h : NumberRest t) :
    parseMoreMembers fuel t = none := by
  cases fuel with
  | zero => rfl
  | succ fuel =>
    rw [parseMoreMembers, h.skipBlanks]
    split
    · exact absurd (h '}' List.mem_cons_self) (by decide)
    · exact absurd (h ',' List.mem_cons_self) (by decide)
    · rfl

/-! Strings. -/

theorem escapeChar_shape (c : Char) :
    escapeChar c = [c] ∨ (∃ e, escapeChar c = ['\\', e]) ∨
      ∃ x y, escapeChar c = ['\\', 'u', '0', '0', x, y] := by
  unfold escapeChar
  by_cases hq : c = '"'
  · exact .inr (.inl ⟨'"', by simp only [hq, ↓reduceIte]⟩)
  by_cases hb : c = '\\'
  · exact .inr (.inl ⟨'\\', by simp only [hb]; rfl⟩)
  by_cases h8 : c = '\x08'
  · exact .inr (.inl ⟨'b', by subst h8; rfl⟩)
  by_cases hf : c = '\x0c'
  · exact .inr (.inl ⟨'f', by subst hf; rfl⟩)
  by_cases hn : c = '\n'
  · exact .inr (.inl ⟨'n', by subst hn; rfl⟩)
  by_cases hr : c = '\r'
  · exact .inr (.inl ⟨'r', by subst hr; rfl⟩)
  by_cases ht : c = '\t'
  · exact .inr (.inl ⟨'t', by subst ht; rfl⟩)
  simp only [hq, hb, h8, hf, hn, hr, ht, ↓reduceIte]
  split
  · exact .inr (.inr ⟨_, _, rfl⟩)
  · exact .inl rfl

/-- A cut escape is no end of a string. -/
theorem parseString_escape_cut {c : Char} {p : Text} (hp : p <+: escapeChar c)
    (hne : p ≠ escapeChar c) : parseString p = none := by
  rcases escapeChar_shape c with hc | ⟨e, hc⟩ | ⟨x, y, hc⟩ <;> rw [hc] at hp hne
  · rcases p with _ | ⟨a, _ | ⟨b, p⟩⟩
    · rfl
    · simp_all
    · simp_all
  · rcases p with _ | ⟨a, _ | ⟨b, _ | ⟨d, p⟩⟩⟩
    · rfl
    · obtain ⟨rfl, -⟩ := List.cons_prefix_cons.mp hp
      rfl
    · simp_all
    · simp_all
  · rcases p with _ | ⟨a, p⟩
    · rfl
    obtain ⟨rfl, hp'⟩ := List.cons_prefix_cons.mp hp
    rcases p with _ | ⟨b, p⟩
    · rfl
    obtain ⟨rfl, -⟩ := List.cons_prefix_cons.mp hp'
    rcases p with _ | ⟨d, _ | ⟨e, _ | ⟨f, _ | ⟨g, p⟩⟩⟩⟩
    · rfl
    · rfl
    · rfl
    · rfl
    · simp_all

/-- A string is read only when its closing quote is there. -/
theorem parseString_cut {cs p : Text} {r : Text × Text} (hp : p <+: stringBody cs)
    (h : parseString p = some r) : p = stringBody cs := by
  induction cs generalizing p r with
  | nil =>
    rcases p with _ | ⟨a, p⟩
    · exact absurd h (by simp [parseString])
    · obtain ⟨rfl, hp'⟩ := List.cons_prefix_cons.mp hp
      rw [List.prefix_nil.mp hp']
      rfl
  | cons c cs ih =>
    have hbody : stringBody (c :: cs) = escapeChar c ++ stringBody cs := by
      simp only [stringBody, List.flatMap_cons, List.append_assoc]
    rw [hbody] at hp ⊢
    rcases prefix_append_cases hp with ⟨hp, hne⟩ | ⟨t, ht, rfl⟩
    · rw [parseString_escape_cut hp hne] at h
      exact absurd h (by simp)
    · rw [parseString_escapeChar] at h
      cases htail : parseString t with
      | none => exact absurd h (by simp [htail, prepend])
      | some q => rw [ih ht htail]

/-! Values. -/

theorem parseItems_cut_cons (fuel : ℕ) {v : Json} {p : Text} (hp : p <+: encode v) :
    parseItems (fuel + 1) p = (do
      let (v, rest) ← parseValue fuel p
      let (items, rest') ← parseMoreItems fuel rest
      some (v :: items, rest')) := by
  rw [parseItems]
  rcases p with _ | ⟨a, p⟩
  · rfl
  · obtain ⟨c, t, ht, hblank, hclose⟩ := encode_head v []
    rw [List.append_nil] at ht
    rw [ht] at hp
    obtain ⟨rfl, -⟩ := List.cons_prefix_cons.mp hp
    rw [skipBlanks_cons p hblank]
    split
    · rename_i heq
      exact absurd (List.cons.inj heq).1 hclose
    · rfl

theorem parseValue_null_cut (fuel : ℕ) {p : Text} {r : Json × Text}
    (hp : p <+: encode .null) (h : parseValue (fuel + 1) p = some r) : r.2 = [] := by
  have hmem : p ∈ [[], ['n'], ['n', 'u'], ['n', 'u', 'l'], ['n', 'u', 'l', 'l']] :=
    (List.mem_inits _ _).mpr hp
  fin_cases hmem
  · exact absurd h (by simp [parseValue_nil])
  · cases h
  · cases h
  · cases h
  · cases h; rfl

theorem parseValue_bool_cut (fuel : ℕ) (b : Bool) {p : Text} {r : Json × Text}
    (hp : p <+: encode (.bool b)) (h : parseValue (fuel + 1) p = some r) : r.2 = [] := by
  cases b with
  | true =>
    have hmem : p ∈ [[], ['t'], ['t', 'r'], ['t', 'r', 'u'], ['t', 'r', 'u', 'e']] :=
      (List.mem_inits _ _).mpr hp
    fin_cases hmem
    · exact absurd h (by simp [parseValue_nil])
    · cases h
    · cases h
    · cases h
    · cases h; rfl
  | false =>
    have hmem : p ∈ [[], ['f'], ['f', 'a'], ['f', 'a', 'l'], ['f', 'a', 'l', 's'],
        ['f', 'a', 'l', 's', 'e']] := (List.mem_inits _ _).mpr hp
    fin_cases hmem
    · exact absurd h (by simp [parseValue_nil])
    · cases h
    · cases h
    · cases h
    · cases h
    · cases h; rfl

/-- What the first member of an object and the later ones share: a cut after the opening
quote of a member is no object, when the value and the members after it obey the rule. -/
theorem member_cut {k : Text} {v : Json} {members : List (String × Json)} {fuel : ℕ}
    {p : Text} {name : Text × Text} {q : Json × Text} {r : List (String × Json) × Text}
    (hvalue : ∀ (fuel : ℕ) (p : Text) (r : Json × Text), p <+: encode v →
      parseValue fuel p = some r → NumberRest r.2)
    (hmore : ∀ (fuel : ℕ) (p : Text) (r : List (String × Json) × Text),
      p <+: encodeMoreMembers members → parseMoreMembers fuel p = some r →
      p = encodeMoreMembers members)
    (hp : p <+: stringBody k ++ ':' :: (encode v ++ encodeMoreMembers members))
    (hname : parseString p = some name) (hq : parseMember fuel name.2 = some q)
    (hr : parseMoreMembers fuel q.2 = some r) :
    p = stringBody k ++ ':' :: (encode v ++ encodeMoreMembers members) := by
  rcases prefix_append_cases hp with ⟨hk, hne⟩ | ⟨t, ht, rfl⟩
  · exact absurd (parseString_cut hk hname) hne
  · rw [parseString_stringBody] at hname
    obtain rfl := Option.some.inj hname
    cases fuel with
    | zero => exact absurd hq (by simp [parseMember])
    | succ fuel =>
      rcases t with _ | ⟨a, t⟩
      · exact absurd hq (by simp [parseMember, skipBlanks])
      · obtain ⟨rfl, ht'⟩ := List.cons_prefix_cons.mp ht
        rw [parseMember_colon] at hq
        rcases prefix_append_cases ht' with ⟨hv, -⟩ | ⟨s, hs, rfl⟩
        · rw [parseMoreMembers_numberRest _ (hvalue fuel t q hv hq)] at hr
          exact absurd hr (by simp)
        · have hdel : Delimited s := by
            have hend := encodeMoreMembers_delimited members []
            rw [List.append_nil] at hend
            exact hend.of_cut hs
          obtain rfl := parseValue_encode_some hdel hq
          rw [hmore (fuel + 1) s r hs hr]

mutual

/-- A prefix of an encoded value is read as nothing, or leaves nothing but characters of
a number. -/
theorem parseValue_cut : ∀ (v : Json) (fuel : ℕ) (p : Text) (r : Json × Text),
    p <+: encode v → parseValue fuel p = some r → NumberRest r.2
  | _, 0, _, _, _, h => absurd h (by simp [parseValue])
  | v, _ + 1, [], _, _, h => absurd h (by simp [parseValue_nil])
  | .null, fuel + 1, p, r, hp, h => by
    have hr := parseValue_null_cut fuel hp h
    rw [hr]
    exact numberRest_nil
  | .bool b, fuel + 1, p, r, hp, h => by
    have hr := parseValue_bool_cut fuel b hp h
    rw [hr]
    exact numberRest_nil
  | .int n, fuel + 1, p, r, hp, h => by
    obtain ⟨c, t, ht, hc⟩ := intText_head n []
    rw [List.append_nil] at ht
    exact parseValue_number_cut (intText_numberRest n) ⟨c, t, ht, hc⟩ hp h
  | .float f, fuel + 1, p, r, hp, h => by
    obtain ⟨c, t, ht, hc⟩ := f.text_head []
    rw [List.append_nil] at ht
    exact parseValue_number_cut f.text_numberRest ⟨c, t, ht, hc⟩ hp h
  | .str s, fuel + 1, a :: p, r, hp, h => by
    obtain ⟨rfl, hp'⟩ := List.cons_prefix_cons.mp hp
    change (parseString p).map _ = _ at h
    obtain ⟨q, hq, rfl⟩ := Option.map_eq_some_iff.mp h
    obtain rfl := parseString_cut hp' hq
    have hbody := parseString_stringBody s.toList []
    rw [List.append_nil] at hbody
    obtain rfl := Option.some.inj (hbody.symm.trans hq)
    exact numberRest_nil
  | .arr items, fuel + 1, a :: p, r, hp, h => by
    obtain ⟨rfl, hp'⟩ := List.cons_prefix_cons.mp hp
    have hitems := h
    change (parseItems fuel p).map _ = _ at hitems
    obtain ⟨q, hq, -⟩ := Option.map_eq_some_iff.mp hitems
    obtain rfl := parseItems_cut items fuel p q hp' hq
    have hfull : parseValue (fuel + 1) (encode (.arr items) ++ []) = some r := by
      rw [List.append_nil]
      exact h
    rw [parseValue_encode_some delimited_nil hfull]
    exact numberRest_nil
  | .obj members, fuel + 1, a :: p, r, hp, h => by
    obtain ⟨rfl, hp'⟩ := List.cons_prefix_cons.mp hp
    have hmembers := h
    change (parseMembers fuel p).map _ = _ at hmembers
    obtain ⟨q, hq, -⟩ := Option.map_eq_some_iff.mp hmembers
    obtain rfl := parseMembers_cut members fuel p q hp' hq
    have hfull : parseValue (fuel + 1) (encode (.obj members) ++ []) = some r := by
      rw [List.append_nil]
      exact h
    rw [parseValue_encode_some delimited_nil hfull]
    exact numberRest_nil

theorem parseItems_cut : ∀ (items : List Json) (fuel : ℕ) (p : Text) (r : List Json × Text),
    p <+: encodeItems items → parseItems fuel p = some r → p = encodeItems items
  | _, 0, _, _, _, h => absurd h (by simp [parseItems])
  | [], fuel + 1, p, r, hp, h => by
    rcases p with _ | ⟨a, p⟩
    · simp [parseItems, skipBlanks, parseValue_nil] at h
    · obtain ⟨rfl, hp'⟩ := List.cons_prefix_cons.mp hp
      rw [List.prefix_nil.mp hp']
      rfl
  | v :: items, fuel + 1, p, r, hp, h => by
    rw [encodeItems] at hp ⊢
    rcases prefix_append_cases hp with ⟨hp, -⟩ | ⟨t, ht, rfl⟩
    · rw [parseItems_cut_cons fuel hp] at h
      simp only [Option.bind_eq_bind, Option.bind_eq_some_iff] at h
      obtain ⟨q, hq, items', hitems, -⟩ := h
      have hrest := parseValue_cut v fuel p q hp hq
      rw [parseMoreItems_numberRest fuel hrest] at hitems
      exact absurd hitems (by simp)
    · rw [parseItems_cons] at h
      simp only [Option.bind_eq_bind, Option.bind_eq_some_iff] at h
      obtain ⟨q, hq, items', hitems, -⟩ := h
      have hdel : Delimited t := by
        have hmore := encodeMoreItems_delimited items []
        rw [List.append_nil] at hmore
        exact hmore.of_cut ht
      obtain rfl := parseValue_encode_some hdel hq
      rw [parseMoreItems_cut items fuel t items' ht hitems]

theorem parseMoreItems_cut :
    ∀ (items : List Json) (fuel : ℕ) (p : Text) (r : List Json × Text),
    p <+: encodeMoreItems items → parseMoreItems fuel p = some r → p = encodeMoreItems items
  | _, 0, _, _, _, h => absurd h (by simp [parseMoreItems])
  | _, fuel + 1, [], _, _, h => absurd h (by simp [parseMoreItems, skipBlanks])
  | [], fuel + 1, a :: p, r, hp, h => by
    obtain ⟨rfl, hp'⟩ := List.cons_prefix_cons.mp hp
    rw [List.prefix_nil.mp hp']
    rfl
  | v :: items, fuel + 1, a :: p, r, hp, h => by
    obtain ⟨rfl, hp'⟩ := List.cons_prefix_cons.mp hp
    rw [parseMoreItems, skipBlanks_cons _ (by decide)] at h
    simp only [Option.bind_eq_bind, Option.bind_eq_some_iff] at h
    obtain ⟨q, hq, items', hitems, -⟩ := h
    rcases prefix_append_cases hp' with ⟨hv, -⟩ | ⟨t, ht, rfl⟩
    · have hrest := parseValue_cut v fuel p q hv hq
      rw [parseMoreItems_numberRest fuel hrest] at hitems
      exact absurd hitems (by simp)
    · have hdel : Delimited t := by
        have hmore := encodeMoreItems_delimited items []
        rw [List.append_nil] at hmore
        exact hmore.of_cut ht
      obtain rfl := parseValue_encode_some hdel hq
      rw [parseMoreItems_cut items fuel t items' ht hitems]
      rfl

theorem parseMembers_cut :
    ∀ (members : List (String × Json)) (fuel : ℕ) (p : Text) (r : List (String × Json) × Text),
    p <+: encodeMembers members → parseMembers fuel p = some r → p = encodeMembers members
  | _, 0, _, _, _, h => absurd h (by simp [parseMembers])
  | _, fuel + 1, [], _, _, h => absurd h (by simp [parseMembers, skipBlanks])
  | [], fuel + 1, a :: p, r, hp, h => by
    obtain ⟨rfl, hp'⟩ := List.cons_prefix_cons.mp hp
    rw [List.prefix_nil.mp hp']
    rfl
  | (k, v) :: members, fuel + 1, a :: p, r, hp, h => by
    obtain ⟨rfl, hp'⟩ := List.cons_prefix_cons.mp hp
    rw [parseMembers, skipBlanks_cons _ (by decide)] at h
    simp only [Option.bind_eq_bind, Option.bind_eq_some_iff] at h
    obtain ⟨name, hname, q, hq, members', hm, -⟩ := h
    rw [member_cut (parseValue_cut v) (parseMoreMembers_cut members) hp' hname hq hm]
    rfl

theorem parseMoreMembers_cut :
    ∀ (members : List (String × Json)) (fuel : ℕ) (p : Text) (r : List (String × Json) × Text),
    p <+: encodeMoreMembers members → parseMoreMembers fuel p = some r →
    p = encodeMoreMembers members
  | _, 0, _, _, _, h => absurd h (by simp [parseMoreMembers])
  | _, fuel + 1, [], _, _, h => absurd h (by simp [parseMoreMembers, skipBlanks])
  | [], fuel + 1, a :: p, r, hp, h => by
    obtain ⟨rfl, hp'⟩ := List.cons_prefix_cons.mp hp
    rw [List.prefix_nil.mp hp']
    rfl
  | (k, v) :: members, fuel + 1, [a], r, hp, h => by
    obtain ⟨rfl, -⟩ := List.cons_prefix_cons.mp hp
    exact absurd h (by simp [parseMoreMembers, skipBlanks, isBlank])
  | (k, v) :: members, fuel + 1, a :: b :: p, r, hp, h => by
    obtain ⟨rfl, hp'⟩ := List.cons_prefix_cons.mp hp
    obtain ⟨rfl, hp''⟩ := List.cons_prefix_cons.mp hp'
    rw [parseMoreMembers, skipBlanks_cons _ (by decide)] at h
    simp only [skipBlanks_cons (c := '"') p (by decide), Option.bind_eq_bind,
      Option.bind_eq_some_iff] at h
    obtain ⟨name, hname, q, hq, members', hm, -⟩ := h
    rw [member_cut (parseValue_cut v) (parseMoreMembers_cut members) hp'' hname hq hm]
    rfl

end

/-- An object cut short is no value. -/
theorem decode_prefix_obj {members : List (String × Json)} {p : Text}
    (hp : p <+: encode (.obj members)) (hne : p ≠ encode (.obj members)) : decode p = none := by
  unfold decode
  split
  · rename_i v rest hparse
    rcases p with _ | ⟨a, p⟩
    · exact absurd hparse (by simp [parseValue_nil])
    · obtain ⟨rfl, hp'⟩ := List.cons_prefix_cons.mp hp
      change (parseMembers _ p).map _ = _ at hparse
      obtain ⟨q, hq, -⟩ := Option.map_eq_some_iff.mp hparse
      exact absurd (congrArg ('{' :: ·) (parseMembers_cut members _ p q hp' hq)) hne
  · rfl

end JsonText
