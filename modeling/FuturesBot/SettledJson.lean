import FuturesBot.PythonJsonReader

/-! Values that reading and writing leave alone: names in order and apart, strings joined. A text
that was written is written again from what is read of it exactly when the names stay apart and in
order as they are joined. -/
namespace PythonJson

open JsonText PythonTexts KeySorting

/-- A dict with two members of one name, which no Python dict is. -/
def repeatsName : Value → Bool
  | .dict members => decide ¬ (names members).Nodup
  | _ => false

def disordered : Value → Bool
  | .dict members => decide ¬ ((names members).Nodup ∧ SortedBy id (names members))
  | _ => false

/-- The names of a dict as a reader takes them from its text. -/
def readNames (members : Members) : List PyText := (sortBy id (names members)).map join

/-- A dict whose names, once they are read back, are no longer apart and in order. -/
def movesName : Value → Bool
  | .dict members => decide ¬ ((readNames members).Nodup ∧ SortedBy id (readNames members))
  | _ => false

/-- A string or a name that is read as another one. -/
def unjoined : Value → Bool
  | .str s => decide ¬ Joined s
  | .dict members => !(names members).all fun k => decide (Joined k)
  | _ => false

theorem repeatsName_dict {members : Members} :
    repeatsName (.dict members) = false ↔ (names members).Nodup := by
  rw [repeatsName, decide_eq_false_iff_not, not_not]

theorem disordered_dict {members : Members} : disordered (.dict members) = false ↔
    (names members).Nodup ∧ SortedBy id (names members) := by
  rw [disordered, decide_eq_false_iff_not, not_not]

theorem movesName_dict {members : Members} : movesName (.dict members) = false ↔
    (readNames members).Nodup ∧ SortedBy id (readNames members) := by
  rw [movesName, decide_eq_false_iff_not, not_not]

theorem unjoined_dict {members : Members} :
    unjoined (.dict members) = false ↔ ∀ k ∈ names members, join k = k := by
  simp only [unjoined, Bool.not_eq_false', List.all_eq_true, decide_eq_true_eq]
  exact Iff.rfl

theorem unjoined_str {s : PyText} : unjoined (.str s) = false ↔ join s = s := by
  rw [unjoined, decide_eq_false_iff_not, not_not]
  exact Iff.rfl

theorem sortedBy_names {members : Members} :
    SortedBy id (names members) ↔ SortedBy (·.1) members := List.pairwise_map

/-! Properties of the leaves are those of the rebuilt tree. -/

theorem nowhere_mono {p q : Value → Bool} (hpq : ∀ v, q v = false → p v = false) (v : Value)
    (h : anywhere q v = false) : anywhere p v = false := by
  induction v using Value.induct with
  | null => exact hpq _ h
  | bool b => exact hpq _ h
  | int n => exact hpq _ h
  | constant c => exact hpq _ h
  | decimal t => exact hpq _ h
  | str s => exact hpq _ h
  | list items ih =>
    obtain ⟨hself, hparts⟩ := nowhere_list.mp h
    exact nowhere_list.mpr ⟨hpq _ hself, fun v hv => ih v hv (hparts v hv)⟩
  | dict members ih =>
    obtain ⟨hself, hparts⟩ := nowhere_dict.mp h
    exact nowhere_dict.mpr ⟨hpq _ hself, fun m hm => ih m hm (hparts m hm)⟩

theorem nowhere_or {p q : Value → Bool} (v : Value) :
    anywhere (fun v => p v || q v) v = false ↔ anywhere p v = false ∧ anywhere q v = false := by
  constructor
  · intro h
    exact ⟨nowhere_mono (fun v hv => (Bool.or_eq_false_iff.mp hv).1) v h,
      nowhere_mono (fun v hv => (Bool.or_eq_false_iff.mp hv).2) v h⟩
  · rintro ⟨hp, hq⟩
    induction v using Value.induct with
    | list items ih =>
      obtain ⟨hp, hps⟩ := nowhere_list.mp hp
      obtain ⟨hq, hqs⟩ := nowhere_list.mp hq
      exact nowhere_list.mpr ⟨Bool.or_eq_false_iff.mpr ⟨hp, hq⟩,
        fun v hv => ih v hv (hps v hv) (hqs v hv)⟩
    | dict members ih =>
      obtain ⟨hp, hps⟩ := nowhere_dict.mp hp
      obtain ⟨hq, hqs⟩ := nowhere_dict.mp hq
      exact nowhere_dict.mpr ⟨Bool.or_eq_false_iff.mpr ⟨hp, hq⟩,
        fun m hm => ih m hm (hps m hm) (hqs m hm)⟩
    | _ => exact Bool.or_eq_false_iff.mpr ⟨hp, hq⟩

theorem nowhere_rebuild_iff {f : PyText → PyText} {g : Members → Members} {p q : Value → Bool}
    (hg : ∀ ms m, m ∈ g ms ↔ m ∈ ms)
    (hnode : ∀ v, p (rebuild f g v) = false ↔ q v = false) (v : Value) :
    anywhere p (rebuild f g v) = false ↔ anywhere q v = false :=
  ⟨nowhere_of_rebuild (fun ms m => (hg ms m).mpr) (fun v => (hnode v).mp) v,
    nowhere_rebuild (fun ms m => (hg ms m).mp) (fun v => (hnode v).mpr) v⟩

/-- A property that only leaves other than strings have. -/
def OfLeaves (p : Value → Bool) : Prop :=
  (∀ s, p (.str s) = false) ∧ (∀ items, p (.list items) = false) ∧
    ∀ members, p (.dict members) = false

theorem OfLeaves.rebuild {p : Value → Bool} (h : OfLeaves p) (f : PyText → PyText)
    (g : Members → Members) (v : Value) : p (rebuild f g v) = p v := by
  obtain ⟨hstr, hlist, hdict⟩ := h
  cases v with
  | str s => exact (hstr _).trans (hstr s).symm
  | list items => rw [rebuild_list, hlist, hlist]
  | dict members => rw [rebuild_dict, hdict, hdict]
  | _ => rfl

theorem unwritable_ofLeaves : OfLeaves unwritable := ⟨fun _ => rfl, fun _ => rfl, fun _ => rfl⟩

theorem isConstant_ofLeaves : OfLeaves isConstant := ⟨fun _ => rfl, fun _ => rfl, fun _ => rfl⟩

theorem isDecimal_ofLeaves : OfLeaves isDecimal := ⟨fun _ => rfl, fun _ => rfl, fun _ => rfl⟩

theorem mem_sortBy_names (members : Members) (m : PyText × Value) :
    m ∈ sortBy (·.1) members ↔ m ∈ members := mem_sortBy _

theorem OfLeaves.nowhere_sortKeys {p : Value → Bool} (h : OfLeaves p) (v : Value) :
    anywhere p (sortKeys v) = false ↔ anywhere p v = false :=
  nowhere_rebuild_iff mem_sortBy_names (fun v => by rw [h.rebuild]) v

theorem OfLeaves.nowhere_joined {p : Value → Bool} (h : OfLeaves p) (v : Value) :
    anywhere p (joined v) = false ↔ anywhere p v = false :=
  nowhere_rebuild_iff (fun _ _ => Iff.rfl) (fun v => by rw [h.rebuild]) v

theorem OfLeaves.nowhere_dicts {p : Value → Bool} (h : OfLeaves p) (v : Value)
    (hv : anywhere p v = false) : anywhere p (dicts v) = false :=
  nowhere_rebuild (fun _ _ => mem_dictOf) (fun v hv => by rw [h.rebuild, hv]) v hv

/-! Names. -/

theorem names_rebuilt (g : Members → Members) (members : Members) :
    names (members.map fun m => (id m.1, rebuild id g m.2)) = names members := by
  rw [names_map, List.map_id]

theorem dicts_no_repeats (v : Value) : anywhere repeatsName (dicts v) = false := by
  apply nowhere_rebuild (q := fun _ => false) (fun _ _ => mem_dictOf) ?_ v (nowhere_false v)
  intro v _
  cases v with
  | dict members =>
    rw [rebuild_dict, repeatsName_dict]
    exact dictOf_nodup _
  | list items => rw [rebuild_list]; rfl
  | _ => rfl

theorem dicts_eq_self {v : Value} (h : anywhere repeatsName v = false) : dicts v = v := by
  apply rebuild_eq_self (p := repeatsName) (fun _ _ => rfl) ?_ v h
  intro members hmembers
  exact ⟨fun _ _ => rfl, dictOf_eq_self (repeatsName_dict.mp hmembers)⟩

theorem sortKeys_eq_self {v : Value} (h : anywhere disordered v = false) : sortKeys v = v := by
  apply rebuild_eq_self (p := disordered) (fun _ _ => rfl) ?_ v h
  intro members hmembers
  have hsorted := sortedBy_names.mp (disordered_dict.mp hmembers).2
  exact ⟨fun _ _ => rfl, (sortBy_eq_self _).mpr hsorted⟩

/-- Sorting the members of dicts puts every name in order. -/
theorem sortKeys_ordered {v : Value} (h : anywhere repeatsName v = false) :
    anywhere disordered (sortKeys v) = false := by
  apply nowhere_rebuild (q := repeatsName) (fun ms m => (mem_sortBy_names ms m).mp) ?_ v h
  intro v hv
  cases v with
  | dict members =>
    have hnodup := repeatsName_dict.mp hv
    rw [rebuild_dict, disordered_dict, names_sortBy, names_rebuilt]
    exact ⟨(sortBy_perm id _).nodup_iff.mpr hnodup, sortBy_sorted id _⟩
  | list items => rw [rebuild_list]; rfl
  | _ => rfl

/-- Names in order are apart. -/
theorem apart_of_ordered {v : Value} (h : anywhere disordered v = false) :
    anywhere repeatsName v = false := by
  apply nowhere_mono (q := disordered) ?_ v h
  intro v hv
  cases v with
  | dict members => exact repeatsName_dict.mpr (disordered_dict.mp hv).1
  | _ => rfl

/-- Making dicts and sorting them changes nothing exactly where the names are in order and
apart. -/
theorem sortKeys_dicts_eq_self {v : Value} :
    sortKeys (dicts v) = v ↔ anywhere disordered v = false := by
  constructor
  · intro h
    rw [← h]
    exact sortKeys_ordered (dicts_no_repeats v)
  · intro h
    rw [dicts_eq_self (apart_of_ordered h), sortKeys_eq_self h]

/-- The names of what is read of a value are in order and apart exactly when reading moves
none. -/
theorem ordered_read_iff (v : Value) :
    anywhere disordered (joined (sortKeys v)) = false ↔ anywhere movesName v = false := by
  -- names joined, their order not looked at
  let q : Value → Bool := fun v => disordered (joined v)
  have hjoin : anywhere disordered (joined (sortKeys v)) = false ↔
      anywhere q (sortKeys v) = false :=
    nowhere_rebuild_iff (fun _ _ => Iff.rfl) (fun _ => Iff.rfl) _
  rw [hjoin]
  apply nowhere_rebuild_iff mem_sortBy_names
  intro v
  cases v with
  | dict members =>
    have hnames : names ((sortBy (·.1) (members.map fun m => (id m.1, sortKeys m.2))).map
        fun m => (join m.1, joined m.2)) = readNames members := by
      rw [names_map, names_sortBy, sortKeys, names_rebuilt]
      rfl
    change disordered (joined (rebuild id (sortBy (·.1)) (.dict members))) = false ↔ _
    rw [rebuild_dict, joined_dict, disordered_dict, movesName_dict]
    change (names ((sortBy (·.1) (members.map fun m => (id m.1, sortKeys m.2))).map
      fun m => (join m.1, joined m.2))).Nodup ∧ SortedBy id (names ((sortBy (·.1)
        (members.map fun m => (id m.1, sortKeys m.2))).map fun m => (join m.1, joined m.2))) ↔ _
    rw [hnames]
  | list items => exact iff_of_true (by simp only [q, rebuild_list, joined_list]; rfl) rfl
  | _ => exact iff_of_true rfl rfl

/-! Strings. -/

theorem joined_no_unjoined (v : Value) : anywhere unjoined (joined v) = false := by
  apply nowhere_rebuild (q := fun _ => false) (fun _ _ hm => hm) ?_ v (nowhere_false v)
  intro v _
  cases v with
  | str s => exact unjoined_str.mpr (join_join s)
  | dict members =>
    rw [rebuild_dict, unjoined_dict]
    intro k hk
    have hnames : names (members.map fun m => (join m.1, rebuild join id m.2)) =
        (names members).map join := names_map join _ members
    obtain ⟨k', -, rfl⟩ := List.mem_map.mp (hnames ▸ hk)
    exact join_join k'
  | list items => rw [rebuild_list]; rfl
  | _ => rfl

theorem unjoined_rebuild {g : Members → Members} (hg : ∀ ms, ∀ m ∈ g ms, m ∈ ms) (v : Value)
    (h : anywhere unjoined v = false) : anywhere unjoined (rebuild id g v) = false := by
  apply nowhere_rebuild hg ?_ v h
  intro v hv
  cases v with
  | dict members =>
    rw [rebuild_dict, unjoined_dict]
    intro k hk
    obtain ⟨m, hm, rfl⟩ := List.mem_map.mp hk
    have hname : m.1 ∈ names (members.map fun m => (id m.1, rebuild id g m.2)) :=
      List.mem_map_of_mem (hg _ m hm)
    rw [names_rebuilt] at hname
    exact unjoined_dict.mp hv _ hname
  | list items => rw [rebuild_list]; rfl
  | _ => exact hv

theorem joined_eq_self {v : Value} (h : anywhere unjoined v = false) : joined v = v := by
  apply rebuild_eq_self (p := unjoined) (fun s hs => unjoined_str.mp hs) ?_ v h
  intro members hmembers
  exact ⟨unjoined_dict.mp hmembers, rfl⟩

/-! Reading what was written. -/

theorem dumps_eq_some {v : Value} {t : Text} :
    dumps v = some t ↔ anywhere unwritable v = false ∧ encode (sortKeys v) = t := by
  rw [dumps]
  cases anywhere unwritable v <;> simp

theorem loads_dumps {v : Value} {t : Text} (h : dumps v = some t) :
    loads t = some (dicts (joined (sortKeys v))) := by
  obtain ⟨hwritable, rfl⟩ := dumps_eq_some.mp h
  rw [loads, readPairs_encode ((unwritable_ofLeaves.nowhere_sortKeys v).mpr hwritable),
    Option.map_some]

/-- What is read of a text is written as that text exactly when reading moves no name. -/
theorem dumps_loads {v : Value} {t : Text} (h : dumps v = some t) :
    dumps (dicts (joined (sortKeys v))) = some t ↔ anywhere movesName v = false := by
  obtain ⟨hwritable, htext⟩ := dumps_eq_some.mp h
  have hread : anywhere unwritable (joined (sortKeys v)) = false :=
    (unwritable_ofLeaves.nowhere_joined _).mpr
      ((unwritable_ofLeaves.nowhere_sortKeys v).mpr hwritable)
  have hdicts := unwritable_ofLeaves.nowhere_dicts _ hread
  have hjoined := joined_no_unjoined (sortKeys v)
  rw [dumps_eq_some, and_iff_right hdicts, ← htext, ← encode_joined (sortKeys v),
    encode_eq_iff ((unwritable_ofLeaves.nowhere_sortKeys _).mpr hdicts) hread,
    joined_eq_self hjoined, ← ordered_read_iff, ← sortKeys_dicts_eq_self]
  -- the strings of what was read are joined, and stay so
  have hsame : joined (sortKeys (dicts (joined (sortKeys v)))) =
      sortKeys (dicts (joined (sortKeys v))) := by
    apply joined_eq_self
    apply unjoined_rebuild fun ms m => (mem_sortBy_names ms m).mp
    exact unjoined_rebuild (fun _ _ => mem_dictOf) _ hjoined
  rw [hsame]

end PythonJson
