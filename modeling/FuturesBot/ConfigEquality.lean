import FuturesBot.ConfigCanonicalTexts
import FuturesBot.DecimalExactness
import FuturesBot.DecimalNormal
import FuturesBot.RawJson

/-! When two config payloads are equal, and when they have one canonical text: the members of
mappings in order of their names, then position by position. -/
namespace FuturesBot.Configs

open JsonText (Text)
open PythonTexts PythonJson DecimalNumbers Dicts Checks KeySorting

/-! Payloads in order. -/

def ConfigKey.name : ConfigKey → PyText
  | .str s => s
  | .other => []

mutual

/-- Mappings with their members in order of the names, sequences as lists. -/
def ordered : ConfigValue → ConfigValue
  | .tuple items => .list (orderedItems items)
  | .list items => .list (orderedItems items)
  | .mapping members => .mapping (sortBy (·.1.name) (orderedMembers members))
  | v => v

def orderedItems : List ConfigValue → List ConfigValue
  | [] => []
  | v :: items => ordered v :: orderedItems items

def orderedMembers : ConfigMapping → ConfigMapping
  | [] => []
  | (k, v) :: members => (k, ordered v) :: orderedMembers members

end

theorem orderedItems_eq (items : List ConfigValue) : orderedItems items = items.map ordered := by
  induction items with
  | nil => rfl
  | cons v items ih => rw [orderedItems, List.map_cons, ih]

theorem orderedMembers_eq (members : ConfigMapping) :
    orderedMembers members = members.map fun m => (m.1, ordered m.2) := by
  induction members with
  | nil => rfl
  | cons m members ih => rw [orderedMembers, List.map_cons, ih]

/-- Two values of one structure, their names and their leaves related. -/
inductive Agree (name : ConfigKey → ConfigKey → Prop) (leaf : ConfigValue → ConfigValue → Prop) :
    ConfigValue → ConfigValue → Prop
  | leaf {a b : ConfigValue} (h : leaf a b) : Agree name leaf a b
  | list {xs ys : List ConfigValue} (h : List.Forall₂ (Agree name leaf) xs ys) :
    Agree name leaf (.list xs) (.list ys)
  | mapping {ms ns : ConfigMapping} (names : List.Forall₂ name (ms.map (·.1)) (ns.map (·.1)))
    (values : List.Forall₂ (Agree name leaf) (ms.map (·.2)) (ns.map (·.2))) :
    Agree name leaf (.mapping ms) (.mapping ns)

/-! Equal payloads. -/

/-- Numbers are equal by their values. -/
inductive SameLeaf : ConfigValue → ConfigValue → Prop
  | null : SameLeaf .null .null
  | bool (b : Bool) : SameLeaf (.bool b) (.bool b)
  | int (n : ℤ) : SameLeaf (.int n) (.int n)
  | str (s : PyText) : SameLeaf (.str s) (.str s)
  | decimal {a b : Decimal} (h : a.value = b.value) : SameLeaf (.decimal a) (.decimal b)

/-- Equal up to the order of members, lists and tuples, and the spelling of Decimals. -/
def Same (a b : ConfigMapping) : Prop :=
  Agree Eq SameLeaf (ordered (.mapping a)) (ordered (.mapping b))

/-! Payloads that look alike in JSON. -/

/-- Names that are read as one, a pair of surrogates as the character it spells. -/
def NameAlike (k l : ConfigKey) : Prop := join k.name = join l.name

/-- The value of a number in the precision of the context. -/
def rounded (d : Decimal) : Except DecimalError ℚ := (Decimal.fix d).map Decimal.value

/-- The text is that of the rounded number. -/
def Spells (s : PyText) (d : Decimal) : Prop :=
  ∃ n : Decimal, n.Plain ∧ rounded d = .ok n.value ∧ join s = join (ofText n.fixedText)

inductive LeafAlike : ConfigValue → ConfigValue → Prop
  | null : LeafAlike .null .null
  | bool (b : Bool) : LeafAlike (.bool b) (.bool b)
  | int (n : ℤ) : LeafAlike (.int n) (.int n)
  | str {s t : PyText} (h : join s = join t) : LeafAlike (.str s) (.str t)
  | decimal {a b : Decimal} (h : rounded a = rounded b) : LeafAlike (.decimal a) (.decimal b)
  | spelled {s : PyText} {d : Decimal} (h : Spells s d) : LeafAlike (.decimal d) (.str s)
  | spelling {s : PyText} {d : Decimal} (h : Spells s d) : LeafAlike (.str s) (.decimal d)

/-- The same as in `Same`, but for texts and names that are read as one, numbers that are rounded to
one, and texts that spell a rounded number. -/
def WrittenAlike (a b : ConfigMapping) : Prop :=
  Agree NameAlike LeafAlike (ordered (.mapping a)) (ordered (.mapping b))

theorem forall₂_imp_mem {α β : Type} {R S : α → β → Prop} {l : List α} {m : List β}
    (h : ∀ a ∈ l, ∀ b, R a b → S a b) (hR : List.Forall₂ R l m) : List.Forall₂ S l m := by
  induction hR with
  | nil => exact .nil
  | cons hab _ ih =>
    obtain ⟨hhead, htail⟩ := List.forall_mem_cons.mp h
    exact .cons (hhead _ hab) (ih htail)

theorem Agree.mono {name name' : ConfigKey → ConfigKey → Prop}
    {leaf leaf' : ConfigValue → ConfigValue → Prop} (hname : ∀ k l, name k l → name' k l)
    (hleaf : ∀ a b, leaf a b → leaf' a b) (a : ConfigValue) :
    ∀ b, Agree name leaf a b → Agree name' leaf' a b := by
  induction a using ConfigValue.induct with
  | list xs ih =>
    intro b h
    cases h with
    | leaf h => exact .leaf (hleaf _ _ h)
    | list h => exact .list (forall₂_imp_mem ih h)
  | mapping ms ih =>
    intro b h
    cases h with
    | leaf h => exact .leaf (hleaf _ _ h)
    | mapping hnames hvalues =>
      refine .mapping (hnames.imp hname) (forall₂_imp_mem ?_ hvalues)
      intro a ha
      obtain ⟨m, hm, rfl⟩ := List.mem_map.mp ha
      exact ih m hm
  | _ =>
    intro b h
    cases h with
    | leaf h => exact .leaf (hleaf _ _ h)

/-- Equal payloads look alike. -/
theorem Same.writtenAlike {a b : ConfigMapping} (h : Same a b) : WrittenAlike a b := by
  refine Agree.mono ?_ ?_ _ _ h
  · intro k l hkl
    rw [hkl, NameAlike]
  · intro x y hxy
    cases hxy with
    | null => exact .null
    | bool b => exact .bool b
    | int n => exact .int n
    | str s => exact .str rfl
    | decimal hvalue => exact .decimal (Decimal.fix_value_eq hvalue)

/-! Numbers. -/

theorem same_negZero_iff {d : Decimal} : d.same ⟨true, 0, 0⟩ = true ↔ d.coeff = 0 := by
  rw [Decimal.same_iff, Decimal.value_zero, Decimal.value_zero_iff]

/-- The text of a number is that of the rounded one, which has no other. -/
theorem normalize_decimal_spec {d : Decimal} {t : Text} (h : normalize_decimal d = .ok t) :
    ∃ n : Decimal, n.Plain ∧ rounded d = .ok n.value ∧ t = n.fixedText := by
  have hnormalize : normalize d = d.normalize := rfl
  rw [normalize_decimal, hnormalize] at h
  cases hfix : Decimal.fix d with
  | error e =>
    rw [Decimal.normalize, hfix] at h
    cases h
  | ok r =>
    obtain ⟨n, hn, hvalue, hreduced⟩ := Decimal.normalize_spec hfix
    have hrounded : rounded d = .ok n.value := by
      rw [rounded, hfix, hvalue]
      rfl
    rw [hn] at h
    have ht := (Except.ok.inj h).symm
    by_cases hzero : n.coeff = 0
    · rw [if_pos (same_negZero_iff.mpr hzero)] at ht
      refine ⟨⟨false, 0, 0⟩, ⟨.inl rfl, fun _ => rfl⟩, ?_, ht⟩
      rw [hrounded, Decimal.value_zero, (Decimal.value_zero_iff n).mpr hzero]
    · rw [if_neg fun hsame => hzero (same_negZero_iff.mp hsame)] at ht
      exact ⟨n, ⟨hreduced, fun h0 => absurd h0 hzero⟩, hrounded, ht⟩

/-- Two numbers have one text exactly when they are rounded to one. -/
theorem normalize_decimal_iff {a b : Decimal} {t u : Text} (ha : normalize_decimal a = .ok t)
    (hb : normalize_decimal b = .ok u) : t = u ↔ rounded a = rounded b := by
  obtain ⟨m, hm, hrm, rfl⟩ := normalize_decimal_spec ha
  obtain ⟨n, hn, hrn, rfl⟩ := normalize_decimal_spec hb
  rw [hm.fixedText_eq_iff hn, hrm, hrn, Except.ok.injEq]

theorem spells_iff {s : PyText} {d : Decimal} {t : Text} (h : normalize_decimal d = .ok t) :
    Spells s d ↔ join s = join (ofText t) := by
  obtain ⟨n, hn, hrn, rfl⟩ := normalize_decimal_spec h
  constructor
  · rintro ⟨m, hm, hrm, hs⟩
    have hvalue : m.value = n.value := Except.ok.inj (hrm.symm.trans hrn)
    rw [hs, (hm.fixedText_eq_iff hn).mpr hvalue]
  · exact fun hs => ⟨n, hn, hrn, hs⟩

/-! What is made of a payload in order. -/

/-- What the normalizer makes of a value, name by name and item by item. -/
inductive Made : ConfigValue → Value → Prop
  | null : Made .null .null
  | bool (b : Bool) : Made (.bool b) (.bool b)
  | int (n : ℤ) : Made (.int n) (.int n)
  | str (s : PyText) : Made (.str s) (.str s)
  | decimal {d : Decimal} {t : Text} (h : normalize_decimal d = .ok t) :
    Made (.decimal d) (.str (ofText t))
  | list {xs : List ConfigValue} {vs : List Value} (h : List.Forall₂ Made xs vs) :
    Made (.list xs) (.list vs)
  | mapping {ms : ConfigMapping} {out : Members} (hnames : ms.map (·.1) = (names out).map .str)
    (hvalues : List.Forall₂ Made (ms.map (·.2)) (out.map (·.2))) : Made (.mapping ms) (.dict out)

theorem normalize_items_eq (items : List ConfigValue) :
    normalize_items items = buildAll normalize_value items := by
  induction items with
  | nil => rfl
  | cons v items ih => rw [normalize_items, buildAll, ih]

/-- A member with the name and the value that were made of it. -/
def MemberMade (m : ConfigKey × ConfigValue) (o : PyText × Value) : Prop :=
  m.1 = .str o.1 ∧ normalize_value m.2 = .ok o.2

/-- Members with names of their own are made one by one. -/
theorem normalize_members_made (members : ConfigMapping) :
    ∀ {normalized out : Members}, (names normalized ++ strNames members).Nodup →
      normalize_members normalized members = .ok out →
      ∃ new, out = normalized ++ new ∧ List.Forall₂ MemberMade members new := by
  induction members with
  | nil =>
    intro normalized out _ h
    exact ⟨[], by rw [List.append_nil, Except.ok.inj h], .nil⟩
  | cons m members ih =>
    intro normalized out hnodup h
    obtain ⟨k, value⟩ := m
    cases k with
    | other => cases h
    | str key =>
      have hsplit : strNames ((.str key, value) :: members) = key :: strNames members := rfl
      rw [hsplit] at hnodup
      obtain ⟨v, hv, h⟩ := bind_eq_ok.mp h
      have hnew : key ∉ normalized.map (·.1) := fun hold =>
        (List.nodup_append'.mp hnodup).2.2 hold List.mem_cons_self
      rw [put_of_new v hnew] at h
      have hnodup' : (names (normalized ++ [(key, v)]) ++ strNames members).Nodup := by
        rwa [names, List.map_append, List.append_assoc]
      obtain ⟨new, rfl, hmade⟩ := ih hnodup' h
      refine ⟨(key, v) :: new, ?_, .cons ⟨rfl, hv⟩ hmade⟩
      rw [List.append_assoc, List.singleton_append]

theorem forall₂_orderedInsert {α β κ : Type} [LinearOrder κ] {key : α → κ} {key' : β → κ}
    {R : α → β → Prop} (hkey : ∀ a b, R a b → key a = key' b) {a : α} {b : β} (hab : R a b)
    {l : List α} {m : List β} (h : List.Forall₂ R l m) :
    List.Forall₂ R (l.orderedInsert (fun x y => key x ≤ key y) a)
      (m.orderedInsert (fun x y => key' x ≤ key' y) b) := by
  induction h with
  | nil => exact .cons hab .nil
  | @cons c d l m hcd hrest ih =>
    rw [List.orderedInsert_cons, List.orderedInsert_cons, hkey a b hab, hkey c d hcd]
    split
    · exact .cons hab (.cons hcd hrest)
    · exact .cons hcd ih

/-- Lists that are related item by item are so when both are sorted. -/
theorem forall₂_sortBy {α β κ : Type} [LinearOrder κ] {key : α → κ} {key' : β → κ}
    {R : α → β → Prop} (hkey : ∀ a b, R a b → key a = key' b) {l : List α} {m : List β}
    (h : List.Forall₂ R l m) : List.Forall₂ R (sortBy key l) (sortBy key' m) := by
  induction h with
  | nil => exact .nil
  | cons hab _ ih => exact forall₂_orderedInsert hkey hab ih

theorem made_items {items : List ConfigValue} {vs : List Value}
    (ih : ∀ a ∈ items, ∀ {v : Value}, normalize_value a = .ok v →
      a.anywhere repeatsKey = false → Made (ordered a) (sortKeys v))
    (hparts : ∀ a ∈ items, a.anywhere repeatsKey = false) (h : normalize_items items = .ok vs) :
    Made (.list (orderedItems items)) (sortKeys (.list vs)) := by
  rw [normalize_items_eq, buildAll_eq_ok] at h
  rw [orderedItems_eq, sortKeys, rebuild_list]
  refine .list (List.forall₂_map_left_iff.mpr (List.forall₂_map_right_iff.mpr ?_))
  exact forall₂_imp_mem (fun a ha v hv => ih a ha hv (hparts a ha)) h

theorem made_members {members : ConfigMapping} {new : Members}
    (ih : ∀ m ∈ members, ∀ {v : Value}, normalize_value m.2 = .ok v →
      m.2.anywhere repeatsKey = false → Made (ordered m.2) (sortKeys v))
    (hparts : ∀ m ∈ members, m.2.anywhere repeatsKey = false)
    (h : List.Forall₂ MemberMade members new) :
    Made (.mapping (sortBy (·.1.name) (orderedMembers members))) (sortKeys (.dict new)) := by
  -- the members in order, each with the name and the value made of it
  let R : ConfigKey × ConfigValue → PyText × Value → Prop :=
    fun m o => m.1 = .str o.1 ∧ Made m.2 o.2
  have hitems : List.Forall₂ R (members.map fun m => (m.1, ordered m.2))
      (new.map fun o => (id o.1, sortKeys o.2)) := by
    refine List.forall₂_map_left_iff.mpr (List.forall₂_map_right_iff.mpr ?_)
    exact forall₂_imp_mem (fun m hm o ho => ⟨ho.1, ih m hm ho.2 (hparts m hm)⟩) h
  have hname : ∀ m o, R m o → m.1.name = o.1 := by
    intro m o hmo
    rw [hmo.1, ConfigKey.name]
  have hsorted := forall₂_sortBy hname hitems
  rw [orderedMembers_eq, sortKeys, rebuild_dict]
  refine .mapping ?_ ?_
  · rw [names, List.map_map, ← List.forall₂_eq_eq_eq]
    refine List.forall₂_map_left_iff.mpr (List.forall₂_map_right_iff.mpr ?_)
    exact hsorted.imp fun m o hmo => hmo.1
  · refine List.forall₂_map_left_iff.mpr (List.forall₂_map_right_iff.mpr ?_)
    exact hsorted.imp fun m o hmo => hmo.2

theorem made_of_normalize (value : ConfigValue) :
    ∀ {v : Value}, normalize_value value = .ok v →
      value.anywhere repeatsKey = false → Made (ordered value) (sortKeys v) := by
  induction value using ConfigValue.induct with
  | null =>
    intro v h _
    cases h
    exact .null
  | bool b =>
    intro v h _
    cases h
    exact .bool b
  | int n =>
    intro v h _
    cases h
    exact .int n
  | str s =>
    intro v h _
    cases h
    exact .str s
  | decimal d =>
    intro v h _
    obtain ⟨t, ht, rfl⟩ := map_eq_ok.mp h
    exact .decimal ht
  | tuple items ih =>
    intro v h hdistinct
    obtain ⟨vs, hvs, rfl⟩ := map_eq_ok.mp h
    exact made_items ih (ConfigValue.nowhere_tuple.mp hdistinct).2 hvs
  | list items ih =>
    intro v h hdistinct
    obtain ⟨vs, hvs, rfl⟩ := map_eq_ok.mp h
    exact made_items ih (ConfigValue.nowhere_list.mp hdistinct).2 hvs
  | mapping members ih =>
    intro v h hdistinct
    obtain ⟨out, hout, rfl⟩ := map_eq_ok.mp h
    obtain ⟨hself, hparts⟩ := ConfigValue.nowhere_mapping.mp hdistinct
    have hnodup : (names [] ++ strNames members).Nodup := repeatsKey_mapping.mp hself
    obtain ⟨new, rfl, hmade⟩ := normalize_members_made members hnodup hout
    exact made_members ih hparts hmade
  | _ =>
    intro v h _
    cases h

/-! One text for two payloads. -/

theorem map_pair_eq_iff {α β γ δ : Type} (f : α → γ) (g : β → δ) (l m : List (α × β)) :
    (l.map fun p => (f p.1, g p.2)) = (m.map fun p => (f p.1, g p.2)) ↔
      (l.map (·.1)).map f = (m.map (·.1)).map f ∧ (l.map (·.2)).map g = (m.map (·.2)).map g := by
  induction l generalizing m with
  | nil =>
    cases m with
    | nil => simp
    | cons q m => simp
  | cons p l ih =>
    cases m with
    | nil => simp
    | cons q m =>
      simp only [List.map_cons, List.cons.injEq, Prod.mk.injEq, ih m]
      exact and_and_and_comm

theorem joined_items_iff {P : ConfigValue → ConfigValue → Prop} {xs ys : List ConfigValue}
    {vs ws : List Value}
    (ih : ∀ x ∈ xs, ∀ {v y w}, Made x v → Made y w → (joined v = joined w ↔ P x y))
    (hxs : List.Forall₂ Made xs vs) (hys : List.Forall₂ Made ys ws) :
    vs.map joined = ws.map joined ↔ List.Forall₂ P xs ys := by
  induction hxs generalizing ys ws with
  | nil =>
    cases hys with
    | nil => exact iff_of_true rfl .nil
    | cons _ _ => exact iff_of_false nofun nofun
  | cons hx _ ihs =>
    obtain ⟨hhead, htail⟩ := List.forall_mem_cons.mp ih
    cases hys with
    | nil => exact iff_of_false nofun nofun
    | cons hy hys =>
      rw [List.map_cons, List.map_cons, List.cons.injEq, List.forall₂_cons, hhead hx hy,
        ihs htail hys]

theorem joined_names_iff {ms ns : ConfigMapping} {l m : List PyText}
    (hms : ms.map (·.1) = l.map .str) (hns : ns.map (·.1) = m.map .str) :
    l.map join = m.map join ↔ List.Forall₂ NameAlike (ms.map (·.1)) (ns.map (·.1)) := by
  rw [hms, hns, List.forall₂_map_left_iff, List.forall₂_map_right_iff, ← List.forall₂_eq_eq_eq,
    List.forall₂_map_left_iff, List.forall₂_map_right_iff]
  exact Iff.rfl

theorem joined_text_iff {t u : Text} : join (ofText t) = join (ofText u) ↔ t = u := by
  rw [join_of_characters (ofText_clean t), join_of_characters (ofText_clean u),
    ofText_injective.eq_iff]

def isNested : ConfigValue → Bool
  | .list _ => true
  | .mapping _ => true
  | _ => false

/-- A value without parts agrees as a leaf. -/
theorem agree_leaf_iff {name : ConfigKey → ConfigKey → Prop}
    {leaf : ConfigValue → ConfigValue → Prop} {x y : ConfigValue} (hx : isNested x = false) :
    Agree name leaf x y ↔ leaf x y := by
  constructor
  · intro h
    cases h with
    | leaf h => exact h
    | list _ => cases hx
    | mapping _ _ => cases hx
  · exact .leaf

/-- What is made of two values is read as one value exactly when they look alike. -/
theorem Made.alike_iff (x : ConfigValue) : ∀ {v : Value} {y : ConfigValue} {w : Value},
    Made x v → Made y w → (joined v = joined w ↔ Agree NameAlike LeafAlike x y) := by
  induction x using ConfigValue.induct with
  | list xs ih =>
    intro v y w hx hy
    cases hx with
    | list hxs =>
      rw [joined_list]
      cases hy with
      | list hys =>
        rw [joined_list, Value.list.injEq, joined_items_iff ih hxs hys]
        constructor
        · exact .list
        · intro h
          cases h with
          | leaf h => cases h
          | list h => exact h
      | mapping _ _ =>
        rw [joined_dict]
        refine iff_of_false (by rintro ⟨⟩) fun h => ?_
        cases h with
        | leaf h => cases h
      | _ =>
        refine iff_of_false (by rintro ⟨⟩) fun h => ?_
        cases h with
        | leaf h => cases h
  | mapping ms ih =>
    intro v y w hx hy
    cases hx with
    | mapping hnames hvalues =>
      have hparts : ∀ x ∈ ms.map (·.2), ∀ {v y w}, Made x v → Made y w →
          (joined v = joined w ↔ Agree NameAlike LeafAlike x y) := by
        intro x hx
        obtain ⟨m, hm, rfl⟩ := List.mem_map.mp hx
        exact ih m hm
      rw [joined_dict]
      cases hy with
      | mapping hnames' hvalues' =>
        rw [joined_dict, Value.dict.injEq, map_pair_eq_iff,
          joined_items_iff hparts hvalues hvalues']
        change (names _).map join = (names _).map join ∧ _ ↔ _
        rw [joined_names_iff hnames hnames']
        constructor
        · exact fun h => .mapping h.1 h.2
        · intro h
          cases h with
          | leaf h => cases h
          | mapping hn hv => exact ⟨hn, hv⟩
      | list _ =>
        rw [joined_list]
        refine iff_of_false (by rintro ⟨⟩) fun h => ?_
        cases h with
        | leaf h => cases h
      | _ =>
        refine iff_of_false (by rintro ⟨⟩) fun h => ?_
        cases h with
        | leaf h => cases h
  | null =>
    intro v y w hx hy
    cases hx
    rw [agree_leaf_iff rfl]
    cases hy with
    | null => exact iff_of_true rfl .null
    | _ => exact iff_of_false (by simp [joined, rebuild]) (by rintro ⟨⟩)
  | bool b =>
    intro v y w hx hy
    cases hx
    rw [agree_leaf_iff rfl]
    cases hy with
    | bool c =>
      constructor
      · intro h
        cases h
        exact .bool b
      · intro h
        cases h
        rfl
    | _ => exact iff_of_false (by simp [joined, rebuild]) (by rintro ⟨⟩)
  | int n =>
    intro v y w hx hy
    cases hx
    rw [agree_leaf_iff rfl]
    cases hy with
    | int m =>
      constructor
      · intro h
        cases h
        exact .int n
      · intro h
        cases h
        rfl
    | _ => exact iff_of_false (by simp [joined, rebuild]) (by rintro ⟨⟩)
  | str s =>
    intro v y w hx hy
    cases hx
    rw [agree_leaf_iff rfl]
    change Value.str (join s) = _ ↔ _
    cases hy with
    | str t =>
      constructor
      · exact fun h => .str (Value.str.inj h)
      · intro h
        cases h with
        | str h => exact congrArg Value.str h
    | decimal hd =>
      constructor
      · exact fun h => .spelling ((spells_iff hd).mpr (Value.str.inj h))
      · intro h
        cases h with
        | spelling h => exact congrArg Value.str ((spells_iff hd).mp h)
    | _ => exact iff_of_false (by simp [joined, rebuild]) (by rintro ⟨⟩)
  | decimal d =>
    intro v y w hx hy
    cases hx with
    | decimal hd =>
      rw [agree_leaf_iff rfl]
      change Value.str (join _) = _ ↔ _
      cases hy with
      | str t =>
        constructor
        · exact fun h => .spelled ((spells_iff hd).mpr (Value.str.inj h).symm)
        · intro h
          cases h with
          | spelled h => exact congrArg Value.str ((spells_iff hd).mp h).symm
      | decimal hd' =>
        change _ = Value.str (join _) ↔ _
        rw [Value.str.injEq, joined_text_iff, normalize_decimal_iff hd hd']
        constructor
        · exact .decimal
        · intro h
          cases h with
          | decimal h => exact h
      | _ => exact iff_of_false (by simp [joined, rebuild]) (by rintro ⟨⟩)
  | _ =>
    intro v y w hx _
    cases hx

/-- Two payloads have one canonical text exactly when they look alike. -/
theorem canonicalize_eq_iff {a b : ConfigPayload} {t u : Text}
    (ha : canonicalize a.members = .ok t) (hb : canonicalize b.members = .ok u) :
    t = u ↔ WrittenAlike a.members b.members := by
  have hmade : ∀ (p : ConfigPayload) {text : Text}, canonicalize p.members = .ok text →
      ∃ v, Made (ordered (.mapping p.members)) v ∧ anywhere unwritable v = false ∧
        encode v = text := by
    intro p text h
    obtain ⟨members, hmembers, hdumps⟩ := canonicalize_eq_ok.mp h
    obtain ⟨hwritable, htext⟩ := dumps_eq_some.mp hdumps
    have hvalue : normalize_value (.mapping p.members) = .ok (.dict members) :=
      congrArg (Except.map Value.dict) hmembers
    exact ⟨_, made_of_normalize _ hvalue p.distinct,
      (unwritable_ofLeaves.nowhere_sortKeys _).mpr hwritable, htext⟩
  obtain ⟨v, hv, hwritable, rfl⟩ := hmade a ha
  obtain ⟨w, hw, hwritable', rfl⟩ := hmade b hb
  rw [encode_eq_iff hwritable hwritable', Made.alike_iff _ hv hw, WrittenAlike]

end FuturesBot.Configs
