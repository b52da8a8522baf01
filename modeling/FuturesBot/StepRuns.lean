import Mathlib.Data.List.Basic
import Mathlib.Data.List.Infix

/-! Runs of a machine that takes one action after another, with a condition on each step and
invariants that the steps under this condition keep. -/
namespace StepRuns

variable {σ α : Type} (step : σ → α → σ)

def run (s : σ) (as : List α) : σ := as.foldl step s

/-- Every action of the run meets the condition in the state where it is taken. -/
def Meets (cond : σ → α → Prop) : σ → List α → Prop
  | _, [] => True
  | s, a :: as => cond s a ∧ Meets cond (step s a) as

variable {step} {cond : σ → α → Prop} {Inv : σ → Prop}

theorem run_nil (s : σ) : run step s [] = s := rfl

theorem run_cons (s : σ) (a : α) (as : List α) : run step s (a :: as) = run step (step s a) as :=
  rfl

theorem run_append (s : σ) (as bs : List α) :
    run step s (as ++ bs) = run step (run step s as) bs := List.foldl_append

theorem meets_append {s : σ} {as bs : List α} :
    Meets step cond s (as ++ bs) ↔ Meets step cond s as ∧ Meets step cond (run step s as) bs := by
  induction as generalizing s with
  | nil => simp only [List.nil_append, Meets, true_and, run_nil]
  | cons a as ih => simp only [List.cons_append, Meets, ih, run_cons, and_assoc]

/-- What every step under the condition keeps holds at the end of every run. -/
theorem invariant (hstep : ∀ s a, Inv s → cond s a → Inv (step s a)) {s : σ} {as : List α}
    (hs : Inv s) (has : Meets step cond s as) : Inv (run step s as) := by
  induction as generalizing s with
  | nil => exact hs
  | cons a as ih =>
    -- the step keeps the invariant, and the rest of the run starts from its result
    obtain ⟨ha, has⟩ := has
    rw [run_cons]
    exact ih (hstep s a hs ha) has

/-- What every step keeps, under no condition. -/
theorem run_keeps (hstep : ∀ s a, Inv s → Inv (step s a)) {s : σ} (hs : Inv s) (as : List α) :
    Inv (run step s as) := by
  induction as generalizing s with
  | nil => exact hs
  | cons a as ih =>
    rw [run_cons]
    exact ih (hstep s a hs)

/-- A condition on the actions alone, which every action meets. -/
theorem meets_of_mem {p : α → Prop} {as : List α} (h : ∀ a ∈ as, p a) (s : σ) :
    Meets step (fun _ a => p a) s as := by
  induction as generalizing s with
  | nil => trivial
  | cons a as ih =>
    exact ⟨h a List.mem_cons_self, ih (fun b hb => h b (List.mem_cons_of_mem a hb)) (step s a)⟩

/-- The condition told by what was done before each action. -/
theorem meets_prefix_iff {s : σ} {as : List α} :
    Meets step cond s as ↔ ∀ bs a, bs ++ [a] <+: as → cond (run step s bs) a := by
  induction as generalizing s with
  | nil =>
    simp only [Meets, true_iff]
    intro bs a h
    have hnil := List.prefix_nil.mp h
    exact absurd hnil (List.append_ne_nil_of_right_ne_nil bs (List.cons_ne_nil a []))
  | cons b as ih =>
    simp only [Meets, ih]
    constructor
    · rintro ⟨hb, hrest⟩ bs a h
      cases bs with
      | nil =>
        obtain ⟨rfl, _⟩ := List.cons_prefix_cons.mp h
        exact hb
      | cons c bs =>
        obtain ⟨rfl, hprefix⟩ := List.cons_prefix_cons.mp h
        exact hrest bs a hprefix
    · intro h
      refine ⟨h [] b (List.cons_prefix_cons.mpr ⟨rfl, List.nil_prefix⟩), fun bs a hbs => ?_⟩
      exact h (b :: bs) a (List.cons_prefix_cons.mpr ⟨rfl, hbs⟩)

/-- Where a step keeps the invariant exactly under the condition, a run has it all along exactly when
each of its steps meets the condition. -/
theorem always_iff_meets {s : σ} {as : List α}
    (hstep : ∀ s a, Inv s → (Inv (step s a) ↔ cond s a)) (hs : Inv s) :
    (∀ bs, bs <+: as → Inv (run step s bs)) ↔ Meets step cond s as := by
  constructor
  · intro h
    rw [meets_prefix_iff]
    intro bs a hbs
    have hbefore := h bs ((List.prefix_append bs [a]).trans hbs)
    have hafter := h (bs ++ [a]) hbs
    rw [run_append] at hafter
    exact (hstep _ a hbefore).mp hafter
  · rintro h bs ⟨rest, rfl⟩
    -- the steps up to here are steps of the whole run
    exact invariant (fun s a hinv hcond => (hstep s a hinv).mpr hcond) hs (meets_append.mp h).1

/-- Two conditions that agree wherever the invariant holds. -/
theorem meets_congr {as : List α} {cond' : σ → α → Prop} (hstep : ∀ s, ∀ a ∈ as, Inv s → Inv (step s a))
    (hcond : ∀ s, ∀ a ∈ as, Inv s → (cond s a ↔ cond' s a)) {s : σ} (hs : Inv s) :
    Meets step cond s as ↔ Meets step cond' s as := by
  induction as generalizing s with
  | nil => exact Iff.rfl
  | cons a as ih =>
    have hrest := ih (fun s b hb => hstep s b (List.mem_cons_of_mem a hb))
      (fun s b hb => hcond s b (List.mem_cons_of_mem a hb)) (hstep s a List.mem_cons_self hs)
    exact and_congr (hcond s a List.mem_cons_self hs) hrest

end StepRuns

/-! Crashes in a sequence of steps: a device whose steps change its state one at a time,
and that may stop after any of them or in the middle of one. -/
namespace CrashPoints

/-- `cut e k` is what a step leaves when it is stopped at point `k`. -/
structure Device (σ ε : Type) where
  apply : σ → ε → σ
  cut : ε → ℕ → List ε

namespace Device

variable {σ ε : Type} (d : Device σ ε)

def run (s : σ) (es : List ε) : σ := es.foldl d.apply s

/-- The first `n` steps, and the next one stopped at point `k`. -/
def crashAt : List ε → ℕ → ℕ → List ε
  | [], _, _ => []
  | e :: _, 0, k => d.cut e k
  | e :: es, n + 1, k => e :: crashAt es n k

theorem run_cons (s : σ) (e : ε) (es : List ε) : d.run s (e :: es) = d.run (d.apply s e) es := rfl

theorem run_append (s : σ) (es fs : List ε) : d.run s (es ++ fs) = d.run (d.run s es) fs :=
  List.foldl_append

/-- Wherever the steps stop, the state satisfies `P`. -/
def Safe (P : σ → Prop) (s : σ) (es : List ε) : Prop := ∀ n k, P (d.run s (d.crashAt es n k))

variable {d} {P : σ → Prop} {s : σ}

theorem safe_nil (h : P s) : d.Safe P s [] := fun _ _ => h

theorem safe_cons {e : ε} {es : List ε} (hcut : ∀ k, P (d.run s (d.cut e k)))
    (hrest : d.Safe P (d.apply s e) es) : d.Safe P s (e :: es) := by
  intro n k
  cases n with
  | zero => exact hcut k
  | succ n => exact hrest n k

theorem safe_append {es fs : List ε} (hes : d.Safe P s es) (hfs : d.Safe P (d.run s es) fs) :
    d.Safe P s (es ++ fs) := by
  induction es generalizing s with
  | nil => exact hfs
  | cons e es ih =>
    exact safe_cons (fun k => hes 0 k) (ih (fun n k => hes (n + 1) k) hfs)

theorem Safe.mono {Q : σ → Prop} {es : List ε} (h : d.Safe P s es) (hPQ : ∀ s, P s → Q s) :
    d.Safe Q s es := fun n k => hPQ _ (h n k)

end Device

end CrashPoints
