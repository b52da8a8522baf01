import FuturesBot.Dicts
import FuturesBot.KeySorting
import FuturesBot.PythonTexts
import Mathlib.Data.List.Lex
import Mathlib.Order.Fin.Basic

/-! JSON as a Python program holds and writes it: whole numbers of any size, the constants that are
no JSON, dicts in insertion order. A tree is changed node by node, and asked whether a node has a
property. -/
namespace PythonJson

open JsonText PythonTexts Dicts KeySorting

inductive Constant where
  | nan
  | infinity
  | negInfinity
  deriving DecidableEq, Repr

def Constant.text : Constant → Text
  | .nan => ['N', 'a', 'N']
  | .infinity => ['I', 'n', 'f', 'i', 'n', 'i', 't', 'y']
  | .negInfinity => ['-', 'I', 'n', 'f', 'i', 'n', 'i', 't', 'y']

/-- A decimal is kept as its literal. -/
inductive Value where
  | null
  | bool (b : Bool)
  | int (n : ℤ)
  | constant (c : Constant)
  | decimal (literal : Text)
  | str (s : PyText)
  | list (items : List Value)
  | dict (members : List (PyText × Value))

def isDecimal : Value → Bool
  | .decimal _ => true
  | _ => false

def isConstant : Value → Bool
  | .constant _ => true
  | _ => false

abbrev Members := List (PyText × Value)

def names (members : Members) : List PyText := members.map (·.1)

/-- Case analysis with the induction hypotheses of the parts. -/
theorem Value.induct {motive : Value → Prop} (null : motive .null) (bool : ∀ b, motive (.bool b))
    (int : ∀ n, motive (.int n)) (constant : ∀ c, motive (.constant c))
    (decimal : ∀ t, motive (.decimal t)) (str : ∀ s, motive (.str s))
    (list : ∀ items, (∀ v ∈ items, motive v) → motive (.list items))
    (dict : ∀ members, (∀ m ∈ members, motive m.2) → motive (.dict members)) (v : Value) :
    motive v := by
  apply Value.rec (motive_1 := motive) (motive_2 := fun items => ∀ v ∈ items, motive v)
    (motive_3 := fun members => ∀ m ∈ members, motive m.2) (motive_4 := fun m => motive m.2)
  case null => exact null
  case bool => exact bool
  case int => exact int
  case constant => exact constant
  case decimal => exact decimal
  case str => exact str
  case list => exact list
  case dict => exact dict
  · exact fun _ h => absurd h List.not_mem_nil
  · exact fun _ _ hv hvs => List.forall_mem_cons.mpr ⟨hv, hvs⟩
  · exact fun _ h => absurd h List.not_mem_nil
  · exact fun _ _ hm hms => List.forall_mem_cons.mpr ⟨hm, hms⟩
  · exact fun _ _ h => h

/-! Writing. -/

mutual

/-- `json.dumps` without blanks, the members in their order. A decimal is refused before it is
written. -/
def encode : Value → Text
  | .null => ['n', 'u', 'l', 'l']
  | .bool true => ['t', 'r', 'u', 'e']
  | .bool false => ['f', 'a', 'l', 's', 'e']
  | .int n => intText n
  | .constant c => c.text
  | .decimal literal => literal
  | .str s => asciiText s
  | .list items => '[' :: encodeItems items
  | .dict members => '{' :: encodeMembers members

def encodeItems : List Value → Text
  | [] => [']']
  | v :: items => encode v ++ encodeMoreItems items

def encodeMoreItems : List Value → Text
  | [] => [']']
  | v :: items => ',' :: (encode v ++ encodeMoreItems items)

def encodeMembers : Members → Text
  | [] => ['}']
  | (k, v) :: members => asciiText k ++ ':' :: (encode v ++ encodeMoreMembers members)

def encodeMoreMembers : Members → Text
  | [] => ['}']
  | (k, v) :: members =>
    ',' :: (asciiText k ++ ':' :: (encode v ++ encodeMoreMembers members))

end

/-! A tree changed node by node, its parts first. -/

mutual

/-- The strings and names changed by `f`, the members of a dict by `g`. -/
def rebuild (f : PyText → PyText) (g : Members → Members) : Value → Value
  | .str s => .str (f s)
  | .list items => .list (rebuildItems f g items)
  | .dict members => .dict (g (rebuildMembers f g members))
  | .null => .null
  | .bool b => .bool b
  | .int n => .int n
  | .constant c => .constant c
  | .decimal literal => .decimal literal

def rebuildItems (f : PyText → PyText) (g : Members → Members) : List Value → List Value
  | [] => []
  | v :: items => rebuild f g v :: rebuildItems f g items

def rebuildMembers (f : PyText → PyText) (g : Members → Members) : Members → Members
  | [] => []
  | (k, v) :: members => (f k, rebuild f g v) :: rebuildMembers f g members

end

/-- `sort_keys=True`. -/
def sortKeys : Value → Value := rebuild id (sortBy (·.1))

/-- Every string and name as a reader takes it. -/
def joined : Value → Value := rebuild join id

/-- `dict(pairs)`: of two members with one name the last counts, in the place of the first. -/
def dictOf (members : Members) : Members :=
  members.foldl (fun d m => put m.1 m.2 d) []

def dicts : Value → Value := rebuild id dictOf

theorem rebuildItems_eq (f : PyText → PyText) (g : Members → Members) (items : List Value) :
    rebuildItems f g items = items.map (rebuild f g) := by
  induction items with
  | nil => rfl
  | cons v items ih => rw [rebuildItems, List.map_cons, ih]

theorem rebuildMembers_eq (f : PyText → PyText) (g : Members → Members) (members : Members) :
    rebuildMembers f g members = members.map fun m => (f m.1, rebuild f g m.2) := by
  induction members with
  | nil => rfl
  | cons m members ih => rw [rebuildMembers, List.map_cons, ih]

theorem rebuild_list (f : PyText → PyText) (g : Members → Members) (items : List Value) :
    rebuild f g (.list items) = .list (items.map (rebuild f g)) := by
  rw [rebuild, rebuildItems_eq]

theorem rebuild_dict (f : PyText → PyText) (g : Members → Members) (members : Members) :
    rebuild f g (.dict members) = .dict (g (members.map fun m => (f m.1, rebuild f g m.2))) := by
  rw [rebuild, rebuildMembers_eq]

/-! A property of some node. -/

mutual

def anywhere (p : Value → Bool) : Value → Bool
  | .list items => p (.list items) || anyItem p items
  | .dict members => p (.dict members) || anyMember p members
  | v => p v

def anyItem (p : Value → Bool) : List Value → Bool
  | [] => false
  | v :: items => anywhere p v || anyItem p items

def anyMember (p : Value → Bool) : Members → Bool
  | [] => false
  | (_, v) :: members => anywhere p v || anyMember p members

end

theorem anyItem_eq (p : Value → Bool) (items : List Value) :
    anyItem p items = items.any (anywhere p) := by
  induction items with
  | nil => rfl
  | cons v items ih => rw [anyItem, List.any_cons, ih]

theorem anyMember_eq (p : Value → Bool) (members : Members) :
    anyMember p members = members.any fun m => anywhere p m.2 := by
  induction members with
  | nil => rfl
  | cons m members ih => rw [anyMember, List.any_cons, ih]

theorem nowhere_list {p : Value → Bool} {items : List Value} :
    anywhere p (.list items) = false ↔
      p (.list items) = false ∧ ∀ v ∈ items, anywhere p v = false := by
  rw [anywhere, anyItem_eq, Bool.or_eq_false_iff, List.any_eq_false]
  simp only [Bool.not_eq_true]

theorem nowhere_dict {p : Value → Bool} {members : Members} :
    anywhere p (.dict members) = false ↔
      p (.dict members) = false ∧ ∀ m ∈ members, anywhere p m.2 = false := by
  rw [anywhere, anyMember_eq, Bool.or_eq_false_iff, List.any_eq_false]
  simp only [Bool.not_eq_true]

theorem nowhere_false (v : Value) : anywhere (fun _ => false) v = false := by
  induction v using Value.induct with
  | list items ih => exact nowhere_list.mpr ⟨rfl, ih⟩
  | dict members ih => exact nowhere_dict.mpr ⟨rfl, ih⟩
  | _ => rfl

/-- A change that leaves each node without a fault, and adds no members, leaves the tree without
one. -/
theorem nowhere_rebuild {f : PyText → PyText} {g : Members → Members} {p q : Value → Bool}
    (hg : ∀ ms, ∀ m ∈ g ms, m ∈ ms)
    (hnode : ∀ v, q v = false → p (rebuild f g v) = false) (v : Value)
    (h : anywhere q v = false) : anywhere p (rebuild f g v) = false := by
  induction v using Value.induct with
  | null => exact hnode .null h
  | bool b => exact hnode (.bool b) h
  | int n => exact hnode (.int n) h
  | constant c => exact hnode (.constant c) h
  | decimal t => exact hnode (.decimal t) h
  | str s => exact hnode (.str s) h
  | list items ih =>
    obtain ⟨hself, hparts⟩ := nowhere_list.mp h
    have hnew := hnode _ hself
    rw [rebuild_list] at hnew ⊢
    refine nowhere_list.mpr ⟨hnew, fun v hv => ?_⟩
    obtain ⟨w, hw, rfl⟩ := List.mem_map.mp hv
    exact ih w hw (hparts w hw)
  | dict members ih =>
    obtain ⟨hself, hparts⟩ := nowhere_dict.mp h
    have hnew := hnode _ hself
    rw [rebuild_dict] at hnew ⊢
    refine nowhere_dict.mpr ⟨hnew, fun m hm => ?_⟩
    obtain ⟨w, hw, rfl⟩ := List.mem_map.mp (hg _ m hm)
    exact ih w hw (hparts w hw)

/-- What the changed tree does not have, the tree itself does not have, where no member is
lost. -/
theorem nowhere_of_rebuild {f : PyText → PyText} {g : Members → Members} {p q : Value → Bool}
    (hg : ∀ ms, ∀ m ∈ ms, m ∈ g ms)
    (hnode : ∀ v, p (rebuild f g v) = false → q v = false) (v : Value)
    (h : anywhere p (rebuild f g v) = false) : anywhere q v = false := by
  induction v using Value.induct with
  | null => exact hnode .null h
  | bool b => exact hnode (.bool b) h
  | int n => exact hnode (.int n) h
  | constant c => exact hnode (.constant c) h
  | decimal t => exact hnode (.decimal t) h
  | str s => exact hnode (.str s) h
  | list items ih =>
    have hnew := hnode (.list items)
    rw [rebuild_list] at h hnew
    obtain ⟨hself, hparts⟩ := nowhere_list.mp h
    refine nowhere_list.mpr ⟨hnew hself, fun v hv => ?_⟩
    exact ih v hv (hparts _ (List.mem_map_of_mem hv))
  | dict members ih =>
    have hnew := hnode (.dict members)
    rw [rebuild_dict] at h hnew
    obtain ⟨hself, hparts⟩ := nowhere_dict.mp h
    refine nowhere_dict.mpr ⟨hnew hself, fun m hm => ?_⟩
    exact ih m hm (hparts _ (hg _ _ (List.mem_map_of_mem hm)))

/-- A tree whose nodes a change leaves alone. -/
theorem rebuild_eq_self {f : PyText → PyText} {g : Members → Members} {p : Value → Bool}
    (hstr : ∀ s, p (.str s) = false → f s = s)
    (hdict : ∀ ms, p (.dict ms) = false → (∀ k ∈ names ms, f k = k) ∧ g ms = ms) (v : Value)
    (h : anywhere p v = false) : rebuild f g v = v := by
  induction v using Value.induct with
  | null => rfl
  | bool b => rfl
  | int n => rfl
  | constant c => rfl
  | decimal t => rfl
  | str s => exact congrArg Value.str (hstr s h)
  | list items ih =>
    obtain ⟨-, hparts⟩ := nowhere_list.mp h
    have hitems : items.map (rebuild f g) = items.map id :=
      List.map_congr_left fun v hv => ih v hv (hparts v hv)
    rw [rebuild_list, hitems, List.map_id]
  | dict members ih =>
    obtain ⟨hself, hparts⟩ := nowhere_dict.mp h
    obtain ⟨hnames, hg⟩ := hdict members hself
    have hmembers : (members.map fun m => (f m.1, rebuild f g m.2)) = members.map id := by
      apply List.map_congr_left
      intro m hm
      rw [hnames m.1 (List.mem_map_of_mem hm), ih m hm (hparts m hm)]
      rfl
    rw [rebuild_dict, hmembers, List.map_id, hg]

/-! Sorted, joined, and with the last of several members only. -/

theorem names_map (f : PyText → PyText) (h : Value → Value) (members : Members) :
    names (members.map fun m => (f m.1, h m.2)) = (names members).map f := by
  rw [names, names, List.map_map, List.map_map]
  rfl

theorem names_sortBy (members : Members) :
    names (sortBy (·.1) members) = sortBy id (names members) :=
  map_sortBy _ _ members fun _ _ => rfl

theorem dictOf_keeps (members : Members) : ∀ d m, m ∈ members.foldl (fun d m => put m.1 m.2 d) d →
    m ∈ d ∨ m ∈ members := by
  induction members with
  | nil => exact fun d m h => .inl h
  | cons m' members ih =>
    intro d m h
    rcases ih _ m h with hd | hmem
    · rcases mem_put hd with rfl | hold
      · exact .inr List.mem_cons_self
      · exact .inl hold
    · exact .inr (List.mem_cons_of_mem _ hmem)

theorem mem_dictOf {members : Members} {m : PyText × Value} (h : m ∈ dictOf members) :
    m ∈ members :=
  (dictOf_keeps members [] m h).resolve_left List.not_mem_nil

theorem dictOf_nodup (members : Members) : (names (dictOf members)).Nodup := by
  have hfold : ∀ d : Members, (names d).Nodup →
      (names (members.foldl (fun d m => put m.1 m.2 d) d)).Nodup := by
    induction members with
    | nil => exact fun d hd => hd
    | cons m members ih => exact fun d hd => ih _ (put_nodup m.1 m.2 hd)
  exact hfold [] List.nodup_nil

/-- Members with names of their own are all kept. -/
theorem dictOf_eq_self {members : Members} (h : (names members).Nodup) :
    dictOf members = members := by
  have hfold : ∀ d : Members, (names (d ++ members)).Nodup →
      members.foldl (fun d m => put m.1 m.2 d) d = d ++ members := by
    clear h
    induction members with
    | nil => exact fun d _ => (List.append_nil d).symm
    | cons m members ih =>
      intro d hd
      have hnew : m.1 ∉ d.map (·.1) := by
        intro hm
        rw [names, List.map_append, List.nodup_append'] at hd
        exact hd.2.2 hm List.mem_cons_self
      have happ : d ++ m :: members = (d ++ [m]) ++ members := by
        rw [List.append_assoc, List.singleton_append]
      rw [List.foldl_cons, put_of_new m.2 hnew, happ]
      exact ih _ (happ ▸ hd)
  exact hfold [] h

end PythonJson
