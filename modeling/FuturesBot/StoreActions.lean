import Mathlib.Data.List.Basic

/-! Computations over stores that may stop with an error, which undoes none of their writes. -/
namespace StoreActions

def Action (σ ε α : Type) : Type := σ → σ × Except ε α

namespace Action

variable {σ ε α β : Type}

instance : Monad (Action σ ε) where
  pure a s := (s, .ok a)
  bind m f s :=
    match m s with
    | (t, .ok a) => f a t
    | (t, .error e) => (t, .error e)

/-- A step that only reads. -/
def reading (f : σ → Except ε α) : Action σ ε α := fun s => (s, f s)

/-- A write that is made, or refused with an error. -/
def writing (f : σ → Except ε σ) : Action σ ε Unit := fun s =>
  match f s with
  | .ok t => (t, .ok ())
  | .error e => (s, .error e)

/-- What holds however the computation ends from `s`. -/
def Ends (m : Action σ ε α) (s : σ) (post : σ → Except ε α → Prop) : Prop := post (m s).1 (m s).2

variable {m : Action σ ε α} {f : α → Action σ ε β} {s : σ} {post post' : σ → Except ε α → Prop}
  {after : σ → Except ε β → Prop}

theorem ends_pure {a : α} (h : post s (.ok a)) : Ends (pure a : Action σ ε α) s post := h

theorem ends_reading {g : σ → Except ε α} (h : post s (g s)) : Ends (reading g) s post := h

theorem ends_writing {g : σ → Except ε σ} {post : σ → Except ε Unit → Prop}
    (hok : ∀ t, g s = .ok t → post t (.ok ())) (herror : ∀ e, g s = .error e → post s (.error e)) :
    Ends (writing g) s post := by
  rw [Ends, writing]
  cases hg : g s with
  | ok t => exact hok t hg
  | error e => exact herror e hg

theorem bind_apply (m : Action σ ε α) (f : α → Action σ ε β) (s : σ) :
    (m >>= f) s = match m s with
      | (t, .ok a) => f a t
      | (t, .error e) => (t, .error e) := rfl

/-- One computation after the other: an error of the first is the error of both. -/
theorem Ends.bind (h : Ends m s post) (hok : ∀ t a, post t (.ok a) → Ends (f a) t after)
    (herror : ∀ t e, post t (.error e) → after t (.error e)) : Ends (m >>= f) s after := by
  rw [Ends, bind_apply]
  rw [Ends] at h
  rcases hm : m s with ⟨t, e | a⟩
  · rw [hm] at h
    exact herror t e h
  · rw [hm] at h
    exact hok t a h

theorem ends_bind_reading {g : σ → Except ε α} (hok : ∀ a, g s = .ok a → Ends (f a) s after)
    (herror : ∀ e, after s (.error e)) : Ends (reading g >>= f) s after := by
  have hread : Ends (reading g) s fun t r => t = s ∧ g s = r := ⟨rfl, rfl⟩
  apply hread.bind
  · rintro t a ⟨rfl, ha⟩
    exact hok a ha
  · rintro t e ⟨rfl, -⟩
    exact herror e

theorem ends_bind_writing_part {γ : Type} {g : σ → Except ε γ} {set : σ → γ → σ}
    {f : Unit → Action σ ε β} (hok : ∀ c, g s = .ok c → Ends (f ()) (set s c) after)
    (herror : ∀ e, after s (.error e)) :
    Ends (writing (fun s => (g s).map (set s)) >>= f) s after := by
  rw [Ends, bind_apply, writing]
  cases hg : g s with
  | ok c => exact hok c hg
  | error e => exact herror e

/-! Inversion: the steps a computation has gone through when it ends in a given way. -/

section Inversion

variable {t : σ} {a : α} {b : β} {e : ε}

theorem bind_eq_ok :
    (m >>= f) s = (t, .ok b) ↔ ∃ u a, m s = (u, .ok a) ∧ f a u = (t, .ok b) := by
  rw [bind_apply]
  rcases hm : m s with ⟨u, e | a⟩
  · simp
  · simp

theorem bind_eq_error :
    (m >>= f) s = (t, .error e) ↔
      m s = (t, .error e) ∨ ∃ u a, m s = (u, .ok a) ∧ f a u = (t, .error e) := by
  rw [bind_apply]
  rcases hm : m s with ⟨u, e | a⟩
  · simp
  · simp

theorem pure_eq_ok {a' : α} : (pure a : Action σ ε α) s = (t, .ok a') ↔ s = t ∧ a = a' := by
  constructor
  · intro h
    cases h
    exact ⟨rfl, rfl⟩
  · rintro ⟨rfl, rfl⟩
    rfl

theorem reading_eq_ok {g : σ → Except ε α} : reading g s = (t, .ok a) ↔ s = t ∧ g s = .ok a :=
  Prod.mk.injEq .. ▸ Iff.rfl

theorem reading_eq_error {g : σ → Except ε α} :
    reading g s = (t, .error e) ↔ s = t ∧ g s = .error e :=
  Prod.mk.injEq .. ▸ Iff.rfl

theorem writing_eq_ok {g : σ → Except ε σ} : writing g s = (t, .ok ()) ↔ g s = .ok t := by
  rw [writing]
  cases g s <;> simp

theorem writing_eq_error {g : σ → Except ε σ} :
    writing g s = (t, .error e) ↔ s = t ∧ g s = .error e := by
  rw [writing]
  cases g s <;> simp

/-- A write of one part of the stores. -/
theorem writing_part_eq_ok {γ : Type} {g : σ → Except ε γ} {set : σ → γ → σ} :
    writing (fun s => (g s).map (set s)) s = (t, .ok ()) ↔ ∃ c, g s = .ok c ∧ t = set s c := by
  rw [writing_eq_ok]
  cases g s with
  | ok c => simp [Except.map, eq_comm]
  | error e => simp [Except.map]

end Inversion

/-! Frames: what relates the stores that a computation leaves to those it starts from. -/

/-- A relation that goes along with any number of writes. -/
structure IsFrame (R : σ → σ → Prop) : Prop where
  refl : ∀ s, R s s
  trans : ∀ {s t u}, R s t → R t u → R s u

/-- The relation holds however the computation ends. -/
def Keeps (R : σ → σ → Prop) (m : Action σ ε α) : Prop := ∀ s, R s (m s).1

/-- The relation holds when the computation ends in an error. -/
def KeepsOnError (R : σ → σ → Prop) (m : Action σ ε α) : Prop :=
  ∀ s t e, m s = (t, .error e) → R s t

section Frames

variable {R : σ → σ → Prop}

theorem isFrame_eq {γ : Type} (get : σ → γ) : IsFrame fun s t => get t = get s :=
  ⟨fun _ => rfl, fun h h' => h'.trans h⟩

theorem keeps_pure (hR : IsFrame R) (a : α) : Keeps R (pure a : Action σ ε α) := hR.refl

theorem keeps_reading (hR : IsFrame R) (g : σ → Except ε α) : Keeps R (reading g) := hR.refl

theorem keeps_writing (hR : IsFrame R) {g : σ → Except ε σ} (h : ∀ s t, g s = .ok t → R s t) :
    Keeps R (writing g) := by
  intro s
  rw [writing]
  cases hg : g s with
  | ok t => exact h s t hg
  | error e => exact hR.refl s

theorem keeps_writing_part (hR : IsFrame R) {γ : Type} {g : σ → Except ε γ} {set : σ → γ → σ}
    (h : ∀ s c, g s = .ok c → R s (set s c)) : Keeps R (writing fun s => (g s).map (set s)) := by
  apply keeps_writing hR
  intro s t ht
  obtain ⟨c, hc, rfl⟩ := writing_part_eq_ok.mp (writing_eq_ok.mpr ht)
  exact h s c hc

theorem Keeps.bind (hR : IsFrame R) (hm : Keeps R m) (hf : ∀ a, Keeps R (f a)) :
    Keeps R (m >>= f) := by
  intro s
  have hs := hm s
  rw [bind_apply]
  rcases hms : m s with ⟨u, e | a⟩
  · rw [hms] at hs
    exact hs
  · rw [hms] at hs
    exact hR.trans hs (hf a u)

theorem Keeps.of_eq {r : Except ε α} {t : σ} (hm : Keeps R m) (h : m s = (t, r)) : R s t := by
  have hs := hm s
  rw [h] at hs
  exact hs

theorem Keeps.onError (hm : Keeps R m) : KeepsOnError R m := fun _ _ _ h => hm.of_eq h

theorem keepsOnError_writing (hR : IsFrame R) (g : σ → Except ε σ) :
    KeepsOnError R (writing g) := by
  intro s t e h
  rw [(writing_eq_error.mp h).1]
  exact hR.refl t

/-- An error of the second computation comes after a success of the first. -/
theorem KeepsOnError.bind (hR : IsFrame R) (hm : Keeps R m) (hf : ∀ a, KeepsOnError R (f a)) :
    KeepsOnError R (m >>= f) := by
  intro s t e h
  rcases bind_eq_error.mp h with h | ⟨u, a, hu, h⟩
  · exact hm.of_eq h
  · exact hR.trans (hm.of_eq hu) (hf a u t e h)

/-- The second computation does not fail. -/
theorem KeepsOnError.bind_total (hm : KeepsOnError R m)
    (hf : ∀ a u t e, f a u ≠ (t, .error e)) : KeepsOnError R (m >>= f) := by
  intro s t e h
  rcases bind_eq_error.mp h with h | ⟨u, a, -, h⟩
  · exact hm s t e h
  · exact absurd h (hf a u t e)

end Frames

end Action

end StoreActions
