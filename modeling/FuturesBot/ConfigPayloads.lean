import FuturesBot.DecimalNumbers
import FuturesBot.PythonTexts

/-! Config payloads: mappings of scalars, sequences and mappings, as the fingerprinter receives
them. -/
namespace FuturesBot.Configs

open PythonTexts DecimalNumbers

inductive ConfigKey where
  | str (s : PyText)
  | other
  deriving DecidableEq

/-- What a payload is made of: decimals with a value and without one, objects of other types with
the name of the type. -/
inductive ConfigValue where
  | null
  | bool (b : Bool)
  | int (n : ℤ)
  | float
  | decimal (d : Decimal)
  | nonFinite
  | str (s : PyText)
  | tuple (items : List ConfigValue)
  | list (items : List ConfigValue)
  | mapping (members : List (ConfigKey × ConfigValue))
  | other (type_name : String)

abbrev ConfigMapping := List (ConfigKey × ConfigValue)

/-- Case analysis with the induction hypotheses of the parts; the scalars in one case. -/
theorem ConfigValue.induct {motive : ConfigValue → Prop} (null : motive .null)
    (bool : ∀ b, motive (.bool b)) (int : ∀ n, motive (.int n)) (float : motive .float)
    (decimal : ∀ d, motive (.decimal d)) (nonFinite : motive .nonFinite)
    (str : ∀ s, motive (.str s)) (other : ∀ t, motive (.other t))
    (tuple : ∀ items, (∀ v ∈ items, motive v) → motive (.tuple items))
    (list : ∀ items, (∀ v ∈ items, motive v) → motive (.list items))
    (mapping : ∀ members, (∀ m ∈ members, motive m.2) → motive (.mapping members))
    (v : ConfigValue) : motive v := by
  apply ConfigValue.rec (motive_1 := motive) (motive_2 := fun items => ∀ v ∈ items, motive v)
    (motive_3 := fun members => ∀ m ∈ members, motive m.2) (motive_4 := fun m => motive m.2)
  case null => exact null
  case bool => exact bool
  case int => exact int
  case float => exact float
  case decimal => exact decimal
  case nonFinite => exact nonFinite
  case str => exact str
  case tuple => exact tuple
  case list => exact list
  case mapping => exact mapping
  case other => exact other
  · exact fun _ h => absurd h List.not_mem_nil
  · exact fun _ _ hv hvs => List.forall_mem_cons.mpr ⟨hv, hvs⟩
  · exact fun _ h => absurd h List.not_mem_nil
  · exact fun _ _ hm hms => List.forall_mem_cons.mpr ⟨hm, hms⟩
  · exact fun _ _ h => h

namespace ConfigValue

mutual

/-- Some node has the property. -/
def anywhere (p : ConfigValue → Bool) : ConfigValue → Bool
  | .tuple items => p (.tuple items) || anyItem p items
  | .list items => p (.list items) || anyItem p items
  | .mapping members => p (.mapping members) || anyMember p members
  | v => p v

def anyItem (p : ConfigValue → Bool) : List ConfigValue → Bool
  | [] => false
  | v :: items => anywhere p v || anyItem p items

def anyMember (p : ConfigValue → Bool) : ConfigMapping → Bool
  | [] => false
  | (_, v) :: members => anywhere p v || anyMember p members

end

theorem anyItem_eq_false {p : ConfigValue → Bool} {items : List ConfigValue} :
    anyItem p items = false ↔ ∀ v ∈ items, anywhere p v = false := by
  induction items with
  | nil => exact iff_of_true rfl fun _ h => absurd h List.not_mem_nil
  | cons v items ih => rw [anyItem, Bool.or_eq_false_iff, ih, List.forall_mem_cons]

theorem anyMember_eq_false {p : ConfigValue → Bool} {members : ConfigMapping} :
    anyMember p members = false ↔ ∀ m ∈ members, anywhere p m.2 = false := by
  induction members with
  | nil => exact iff_of_true rfl fun _ h => absurd h List.not_mem_nil
  | cons m members ih => rw [anyMember, Bool.or_eq_false_iff, ih, List.forall_mem_cons]

theorem nowhere_tuple {p : ConfigValue → Bool} {items : List ConfigValue} :
    anywhere p (.tuple items) = false ↔
      p (.tuple items) = false ∧ ∀ v ∈ items, anywhere p v = false := by
  rw [anywhere, Bool.or_eq_false_iff, anyItem_eq_false]

theorem nowhere_list {p : ConfigValue → Bool} {items : List ConfigValue} :
    anywhere p (.list items) = false ↔
      p (.list items) = false ∧ ∀ v ∈ items, anywhere p v = false := by
  rw [anywhere, Bool.or_eq_false_iff, anyItem_eq_false]

theorem nowhere_mapping {p : ConfigValue → Bool} {members : ConfigMapping} :
    anywhere p (.mapping members) = false ↔
      p (.mapping members) = false ∧ ∀ m ∈ members, anywhere p m.2 = false := by
  rw [anywhere, Bool.or_eq_false_iff, anyMember_eq_false]

end ConfigValue

def ConfigKey.str? : ConfigKey → Option PyText
  | .str s => some s
  | .other => none

/-- The names of a mapping that are strings. -/
def strNames (members : ConfigMapping) : List PyText := members.filterMap fun m => m.1.str?

def repeatsKey : ConfigValue → Bool
  | .mapping members => decide ¬ (strNames members).Nodup
  | _ => false

theorem repeatsKey_mapping {members : ConfigMapping} :
    repeatsKey (.mapping members) = false ↔ (strNames members).Nodup := by
  rw [repeatsKey, decide_eq_false_iff_not, not_not]

/-- A payload: no mapping in it has a name twice. -/
structure ConfigPayload where
  members : ConfigMapping
  distinct : ConfigValue.anywhere repeatsKey (.mapping members) = false

end FuturesBot.Configs
