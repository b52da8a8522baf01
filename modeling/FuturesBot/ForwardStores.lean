import FuturesBot.StepRuns
import Mathlib.Data.List.Infix
import Mathlib.Order.Basic

/-! Stores that keep one position and are offered items, each at a position of its own: when what
is kept is the latest of the positions offered, whatever the order they come in. -/
namespace ForwardStores

open StepRuns

variable {σ α π : Type} [Preorder π]
variable (step : σ → α → σ) (stored : σ → Option π) (position : α → π)

/-- A step stores the position of its item, or leaves the position stored before. -/
def Selects (s : σ) (a : α) : Prop :=
  stored (step s a) = some (position a) ∨
    (stored s).isSome = true ∧ stored (step s a) = stored s

/-- After the step the position stored is not before the item's nor before the one stored. -/
def StepForward (s : σ) (a : α) : Prop :=
  ∃ q ∈ stored (step s a), position a ≤ q ∧ ∀ p ∈ stored s, p ≤ q

/-- What is stored at the end is the position of one of the items and before none of them, and
what is stored at one time is not before what was stored earlier. -/
structure ForwardOnly (s : σ) (as : List α) : Prop where
  latest : ∀ a ∈ as, ∃ q ∈ stored (run step s as), position a ≤ q
  offered : ∀ q ∈ stored (run step s as), ∃ a ∈ as, position a = q
  monotone : ∀ bs cs, bs ++ cs <+: as → ∀ p ∈ stored (run step s bs),
    ∃ q ∈ stored (run step s (bs ++ cs)), p ≤ q

variable {step stored position} {s : σ} {as : List α}

theorem le_run_of_meets (h : Meets step (StepForward step stored position) s as) {p : π}
    (hp : p ∈ stored s) : ∃ q ∈ stored (run step s as), p ≤ q := by
  induction as generalizing s p with
  | nil => exact ⟨p, hp, le_refl p⟩
  | cons a as ih =>
    obtain ⟨⟨q, hq, _, hle⟩, hrest⟩ := h
    obtain ⟨r, hr, hqr⟩ := ih hrest hq
    exact ⟨r, hr, le_trans (hle p hp) hqr⟩

theorem latest_of_meets (h : Meets step (StepForward step stored position) s as) {a : α}
    (ha : a ∈ as) : ∃ q ∈ stored (run step s as), position a ≤ q := by
  induction as generalizing s with
  | nil => exact absurd ha List.not_mem_nil
  | cons b as ih =>
    obtain ⟨⟨q, hq, hb, _⟩, hrest⟩ := h
    rcases List.mem_cons.mp ha with rfl | ha
    · -- its own step stores it or a later one, and the rest of the run does not go back
      obtain ⟨r, hr, hqr⟩ := le_run_of_meets hrest hq
      exact ⟨r, hr, le_trans hb hqr⟩
    · exact ih hrest ha

omit [Preorder π] in
theorem offered_of_selects (hsel : ∀ s, ∀ a ∈ as, Selects step stored position s a) {q : π}
    (hq : q ∈ stored (run step s as)) : q ∈ stored s ∨ ∃ a ∈ as, position a = q := by
  induction as generalizing s with
  | nil => exact .inl hq
  | cons a as ih =>
    rcases ih (fun s b hb => hsel s b (List.mem_cons_of_mem a hb)) hq with hq | ⟨b, hb, hq⟩
    · rcases hsel s a List.mem_cons_self with hnew | ⟨_, hold⟩
      · rw [hnew] at hq
        exact .inr ⟨a, List.mem_cons_self, Option.some.inj hq⟩
      · rw [hold] at hq
        exact .inl hq
    · exact .inr ⟨b, List.mem_cons_of_mem a hb, hq⟩

theorem forwardOnly_of_meets (hsel : ∀ s, ∀ a ∈ as, Selects step stored position s a)
    (hs : stored s = none) (h : Meets step (StepForward step stored position) s as) :
    ForwardOnly step stored position s as where
  latest _ ha := latest_of_meets h ha
  offered q hq := by
    rcases offered_of_selects hsel hq with hq | hq
    · rw [hs] at hq
      cases hq
    · exact hq
  monotone bs cs hprefix p hp := by
    obtain ⟨ds, rfl⟩ := hprefix
    have hbefore := (meets_append.mp h).1
    have hafter := (meets_append.mp hbefore).2
    rw [run_append]
    exact le_run_of_meets hafter hp

/-- A delivery and everything delivered on the way end at the latest position, and never go back,
exactly when every step goes forward. -/
theorem forwardOnly_iff (hsel : ∀ s, ∀ a ∈ as, Selects step stored position s a)
    (hs : stored s = none) :
    (∀ bs, bs <+: as → ForwardOnly step stored position s bs) ↔
      Meets step (StepForward step stored position) s as := by
  constructor
  · intro h
    rw [meets_prefix_iff]
    intro bs a hbs
    have hforward := h _ hbs
    obtain ⟨q, hq, ha⟩ := hforward.latest a (List.mem_append_right bs List.mem_cons_self)
    have hstep : run step s (bs ++ [a]) = step (run step s bs) a := by
      rw [run_append, run_cons, run_nil]
    rw [hstep] at hq
    refine ⟨q, hq, ha, fun p hp => ?_⟩
    obtain ⟨q', hq', hle⟩ := hforward.monotone bs [a] (List.prefix_refl _) p hp
    rw [hstep] at hq'
    obtain rfl : q' = q := Option.mem_unique hq' hq
    exact hle
  · intro h bs hbs
    obtain ⟨cs, rfl⟩ := hbs
    exact forwardOnly_of_meets (fun s a ha => hsel s a (List.mem_append_left cs ha)) hs
      (meets_append.mp h).1

end ForwardStores
