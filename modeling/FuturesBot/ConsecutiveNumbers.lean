import FuturesBot.StepRuns
import Mathlib.Data.List.Chain
import Mathlib.Data.List.Range
import Mathlib.Data.List.Sort

/-! Lists of numbers that count up by one. -/
namespace ConsecutiveNumbers

def Consecutive (l : List ℕ) : Prop := l.IsChain fun a b => b = a + 1

instance (l : List ℕ) : Decidable (Consecutive l) := inferInstanceAs (Decidable (List.IsChain _ l))

theorem consecutive_cons {a : ℕ} {l : List ℕ} :
    Consecutive (a :: l) ↔ a :: l = List.range' a (l.length + 1) := by
  induction l generalizing a with
  | nil => simp [Consecutive]
  | cons b l ih =>
    rw [Consecutive, List.isChain_cons_cons]
    constructor
    · rintro ⟨rfl, hl⟩
      rw [List.length_cons, List.range'_succ, ← ih.mp hl]
    · intro h
      rw [List.length_cons, List.range'_succ] at h
      obtain ⟨-, hl⟩ := List.cons.inj h
      have hb : b = a + 1 := by
        rw [List.range'_succ] at hl
        exact (List.cons.inj hl).1
      subst hb
      exact ⟨rfl, ih.mpr hl⟩

theorem consecutive_range' (a n : ℕ) : Consecutive (List.range' a n) := by
  cases n with
  | zero => exact List.isChain_nil
  | succ n =>
    rw [List.range'_succ, consecutive_cons, List.length_range', ← List.range'_succ]

theorem Consecutive.pairwise_le {l : List ℕ} (h : Consecutive l) : l.Pairwise (· ≤ ·) := by
  cases l with
  | nil => exact List.Pairwise.nil
  | cons a l =>
    rw [consecutive_cons.mp h]
    exact List.pairwise_le_range'

/-- Sorting leaves consecutive numbers as they are. -/
theorem Consecutive.insertionSort_eq {l : List ℕ} (h : Consecutive l) :
    l.insertionSort (· ≤ ·) = l := List.Pairwise.insertionSort_eq h.pairwise_le

/-- Consecutive numbers leave none out between the first and the last. -/
theorem Consecutive.mem_iff {l : List ℕ} {a b n : ℕ} (h : Consecutive l) (ha : l.head? = some a)
    (hb : l.getLast? = some b) : n ∈ l ↔ a ≤ n ∧ n ≤ b := by
  obtain ⟨l, rfl⟩ : ∃ l', l = a :: l' := by
    cases l with
    | nil => exact absurd ha (by simp)
    | cons c l => exact ⟨l, by rw [Option.some.inj ha]⟩
  rw [consecutive_cons.mp h, List.getLast?_range'] at hb
  simp only [Nat.add_one_ne_zero, ↓reduceIte, Option.some.injEq] at hb
  rw [consecutive_cons.mp h, List.mem_range'_1]
  omega

end ConsecutiveNumbers

/-! Logs of numbers in which a number may come again, but none before all smaller ones, and a
reader that takes the next number only. -/
namespace GapFreeLogs

open StepRuns

/-- Every number of the log stands after all smaller ones. -/
def GapFree (l : List ℕ) : Prop := ∀ bs k, bs ++ [k] <+: l → ∀ j < k, j ∈ bs

def CoveredTo (l : List ℕ) (n : ℕ) : Prop := ∀ j < n, j ∈ l

theorem gapFree_nil : GapFree [] := by
  intro bs k h
  have hnil := List.prefix_nil.mp h
  exact absurd hnil (List.append_ne_nil_of_right_ne_nil bs (List.cons_ne_nil k []))

theorem CoveredTo.mono {l l' : List ℕ} {n : ℕ} (h : CoveredTo l n) (hsub : l ⊆ l') :
    CoveredTo l' n :=
  fun j hj => hsub (h j hj)

theorem GapFree.append_one {l : List ℕ} {k : ℕ} (h : GapFree l) (hk : CoveredTo l k) :
    GapFree (l ++ [k]) := by
  intro bs k' hprefix
  rcases List.prefix_concat_iff.mp hprefix with heq | hbefore
  · obtain ⟨rfl, hlast⟩ := List.append_inj' heq rfl
    obtain rfl := List.singleton_inj.mp hlast
    exact hk
  · exact h bs k' hbefore

/-- Numbers that count up from one that has all smaller ones before it. -/
theorem GapFree.append_range' {l : List ℕ} (h : GapFree l) (a m : ℕ) (ha : CoveredTo l a) :
    GapFree (l ++ List.range' a m) := by
  induction m with
  | zero => simpa using h
  | succ m ih =>
    rw [List.range'_concat, ← List.append_assoc, Nat.one_mul]
    apply ih.append_one
    intro j hj
    rw [List.mem_append, List.mem_range'_1]
    by_cases hlow : j < a
    · exact .inl (ha j hlow)
    · exact .inr ⟨by omega, hj⟩

theorem CoveredTo.append_range' {l : List ℕ} {a : ℕ} (h : CoveredTo l a) (m : ℕ) :
    CoveredTo (l ++ List.range' a m) (a + m) := by
  intro j hj
  rw [List.mem_append, List.mem_range'_1]
  by_cases hlow : j < a
  · exact .inl (h j hlow)
  · exact .inr ⟨by omega, hj⟩

/-- The reader stands at the number it waits for. -/
def takeNext (n k : ℕ) : ℕ := if k = n then n + 1 else n

/-- The reader of a log without gaps has taken exactly the numbers of the log. -/
theorem GapFree.mem_iff {l : List ℕ} (h : GapFree l) (k : ℕ) : k ∈ l ↔ k < run takeNext 0 l := by
  induction l using List.reverseRecOn generalizing k with
  | nil => simp [run_nil]
  | append_singleton l a ih =>
    have hl : GapFree l := fun bs j hbs => h bs j (hbs.trans (List.prefix_append l [a]))
    have hbefore : a ≤ run takeNext 0 l := by
      -- all smaller numbers have been taken
      by_contra hlt
      have hmem := h l a (List.prefix_refl _) (run takeNext 0 l) (by omega)
      exact absurd ((ih hl _).mp hmem) (lt_irrefl _)
    rw [List.mem_append, List.mem_singleton, ih hl, run_append, run_cons, run_nil, takeNext]
    split_ifs with ha
    · omega
    · constructor
      · rintro (hk | rfl)
        · exact hk
        · omega
      · exact .inl

/-- Nothing in a log without gaps is ahead of the reader. -/
theorem GapFree.le_reader {l bs : List ℕ} {k : ℕ} (h : GapFree l) (hk : bs ++ [k] <+: l) :
    k ≤ run takeNext 0 bs := by
  have hbs : GapFree bs := by
    intro cs j hcs
    exact h cs j (hcs.trans ((List.prefix_append bs [k]).trans hk))
  by_contra hlt
  have hmem := h bs k hk (run takeNext 0 bs) (by omega)
  exact absurd ((hbs.mem_iff _).mp hmem) (lt_irrefl _)

end GapFreeLogs
