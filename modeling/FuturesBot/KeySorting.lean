import Mathlib.Data.List.Sort

/-! Stable sorting of a list by a key. -/
namespace KeySorting

variable {α κ : Type} [LinearOrder κ] (key : α → κ)

/-- `sorted(l, key=key)`. -/
def sortBy (l : List α) : List α := l.insertionSort fun a b => key a ≤ key b

def SortedBy (l : List α) : Prop := l.Pairwise fun a b => key a ≤ key b

instance (l : List α) : Decidable (SortedBy key l) := inferInstanceAs (Decidable (List.Pairwise _ l))

instance total_le : Std.Total fun a b : α => key a ≤ key b := ⟨fun a b => le_total (key a) (key b)⟩

instance trans_le : IsTrans α fun a b => key a ≤ key b := ⟨fun _ _ _ => le_trans⟩

theorem sortBy_perm (l : List α) : (sortBy key l).Perm l := List.perm_insertionSort _ l

theorem sortBy_sorted (l : List α) : SortedBy key (sortBy key l) := List.pairwise_insertionSort _ l

theorem mem_sortBy {l : List α} {a : α} : a ∈ sortBy key l ↔ a ∈ l := (sortBy_perm key l).mem_iff

/-- Sorting changes nothing exactly when the list is sorted. -/
theorem sortBy_eq_self {l : List α} : sortBy key l = l ↔ SortedBy key l := by
  constructor
  · intro h
    rw [← h]
    exact sortBy_sorted key l
  · intro h
    exact List.Pairwise.insertionSort_eq h

/-- A list sorted by a key that tells its elements apart is the only sorted arrangement of
them. -/
theorem sorted_unique {l m : List α} (hperm : l.Perm m) (hl : SortedBy key l)
    (hm : SortedBy key m) (hinj : ∀ a ∈ l, ∀ b ∈ l, key a = key b → a = b) : l = m := by
  apply List.Perm.eq_of_pairwise ?_ hl hm hperm
  intro a b ha hb hab hba
  exact hinj a ha b (hperm.mem_iff.mpr hb) (le_antisymm hab hba)

theorem sortBy_perm_eq {l m : List α} (hperm : l.Perm m)
    (hinj : ∀ a ∈ l, ∀ b ∈ l, key a = key b → a = b) : sortBy key l = sortBy key m := by
  have hsorted : (sortBy key l).Perm (sortBy key m) :=
    (sortBy_perm key l).trans (hperm.trans (sortBy_perm key m).symm)
  apply sorted_unique key hsorted (sortBy_sorted key l) (sortBy_sorted key m)
  intro a ha b hb
  exact hinj a ((mem_sortBy key).mp ha) b ((mem_sortBy key).mp hb)

/-- A key cuts a sorted list in two. -/
theorem SortedBy.split {l : List α} (h : SortedBy key l) (k : κ) :
    ∃ before after, l = before ++ after ∧ (∀ a ∈ before, key a < k) ∧ ∀ a ∈ after, k ≤ key a := by
  induction l with
  | nil => exact ⟨[], [], rfl, nofun, nofun⟩
  | cons x l ih =>
    obtain ⟨hx, hl⟩ := List.pairwise_cons.mp h
    by_cases hlt : key x < k
    · obtain ⟨before, after, rfl, hbefore, hafter⟩ := ih hl
      exact ⟨x :: before, after, rfl, List.forall_mem_cons.mpr ⟨hlt, hbefore⟩, hafter⟩
    · have hk : k ≤ key x := not_lt.mp hlt
      exact ⟨[], x :: l, rfl, nofun,
        List.forall_mem_cons.mpr ⟨hk, fun a ha => hk.trans (hx a ha)⟩⟩

/-- Sorting commutes with a map under which the keys agree. -/
theorem map_sortBy {β : Type} {key' : β → κ} (f : α → β) (l : List α)
    (h : ∀ a ∈ l, key' (f a) = key a) : (sortBy key l).map f = sortBy key' (l.map f) := by
  apply List.map_insertionSort
  intro a ha b hb
  rw [h a ha, h b hb]

end KeySorting
