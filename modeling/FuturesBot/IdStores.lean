import FuturesBot.Dicts
import Mathlib.Data.List.MinMax

/-! Stores that take a value again when it equals the one under its key, and refuse another.
Values are equal when their shapes are. -/
namespace Dicts.KeyedDict

variable {κ ν τ : Type} [DecidableEq κ] {key : ν → κ} (shape : ν → τ)
  {d e : KeyedDict key} {v w : ν}

/-- Nothing else stands under the key of the value. -/
def Admits (d : KeyedDict key) (v : ν) : Prop := ∀ w ∈ d.get? (key v), shape w = shape v

/-- An equal value stands under the key of the value. -/
def Holds (d : KeyedDict key) (v : ν) : Prop := ∃ w ∈ d.get? (key v), shape w = shape v

/-- What stands under a key stays. -/
def Extends (d e : KeyedDict key) : Prop := ∀ k, ∀ w ∈ d.get? k, w ∈ e.get? k

theorem Extends.refl (d : KeyedDict key) : d.Extends d := fun _ _ h => h

theorem Extends.trans {f : KeyedDict key} (h : d.Extends e) (h' : e.Extends f) : d.Extends f :=
  fun k w hw => h' k w (h k w hw)

variable {shape}

theorem Holds.admits (h : d.Holds shape v) : d.Admits shape v := by
  obtain ⟨w, hw, hshape⟩ := h
  intro w' hw'
  rw [← Option.some.inj (hw.symm.trans hw'), hshape]

theorem Holds.mono (h : d.Holds shape v) (hext : d.Extends e) : e.Holds shape v := by
  obtain ⟨w, hw, hshape⟩ := h
  exact ⟨w, hext _ w hw, hshape⟩

/-- Values that are held under one key are equal. -/
theorem Holds.unique (hv : d.Holds shape v) (hw : d.Holds shape w) (h : key v = key w) :
    shape v = shape w := by
  obtain ⟨x, hx, hxv⟩ := hv
  rw [← hxv]
  rw [h] at hx
  exact hw.admits x hx

variable [DecidableEq τ]

variable (shape) in
/-- A put: an equal value again changes nothing. -/
def putEqual (d : KeyedDict key) (v : ν) : Option (KeyedDict key) :=
  match d.get? (key v) with
  | some existing => if shape existing = shape v then some d else none
  | none => some (d.put v)

variable (shape) in
/-- One put after the other, up to the first that is refused, and whether none is. -/
def putEachEqual (d : KeyedDict key) : List ν → KeyedDict key × Bool
  | [] => (d, true)
  | v :: vs =>
    match d.putEqual shape v with
    | some d => putEachEqual d vs
    | none => (d, false)

/-- What a put does: it is made exactly when the value is admitted, and then the value is held. -/
theorem putEqual_eq_some : d.putEqual shape v = some e ↔
    d.Admits shape v ∧ (d.Holds shape v ∧ e = d ∨ d.get? (key v) = none ∧ e = d.put v) := by
  rw [putEqual]
  cases hget : d.get? (key v) with
  | none =>
    have hadmits : d.Admits shape v := fun w hw => absurd (hget.symm.trans hw) (by simp)
    have hnot : ¬ d.Holds shape v := fun ⟨w, hw, _⟩ => absurd (hget.symm.trans hw) (by simp)
    simp only [Option.some.injEq, hadmits, hnot, false_and, false_or, true_and]
    exact eq_comm
  | some w =>
    by_cases hshape : shape w = shape v
    · have hholds : d.Holds shape v := ⟨w, hget, hshape⟩
      simp only [hshape, if_true, Option.some.injEq, hholds, hholds.admits, true_and,
        reduceCtorEq, false_and, or_false]
      exact eq_comm
    · have hnot : ¬ d.Admits shape v := fun h => hshape (h w hget)
      simp only [hshape, if_false, reduceCtorEq, hnot, false_and]

theorem putEqual_eq_none : d.putEqual shape v = none ↔ ¬ d.Admits shape v := by
  rw [putEqual]
  cases hget : d.get? (key v) with
  | none => simp [Admits, hget]
  | some w => simp [Admits, hget]

theorem putEqual_extends (h : d.putEqual shape v = some e) : d.Extends e := by
  obtain ⟨-, ⟨-, rfl⟩ | ⟨hnew, rfl⟩⟩ := putEqual_eq_some.mp h
  · exact Extends.refl e
  · intro k w hw
    have hne : key v ≠ k := by
      rintro rfl
      exact absurd (hnew.symm.trans hw) (by simp)
    rw [get?_put_ne d hne]
    exact hw

theorem putEqual_holds (h : d.putEqual shape v = some e) : e.Holds shape v := by
  obtain ⟨-, ⟨hholds, rfl⟩ | ⟨-, rfl⟩⟩ := putEqual_eq_some.mp h
  · exact hholds
  · exact ⟨v, get?_put_self d v, rfl⟩

theorem putEqual_of_holds (h : d.Holds shape v) : d.putEqual shape v = some d :=
  putEqual_eq_some.mpr ⟨h.admits, .inl ⟨h, rfl⟩⟩

theorem Admits.put (h : d.Admits shape v) : ∃ e, d.putEqual shape v = some e :=
  Option.ne_none_iff_exists'.mp fun hnone => putEqual_eq_none.mp hnone h

/-- After a put, the value that was put is the only new one that others meet. -/
theorem Admits.after (h : d.putEqual shape v = some e) (hw : d.Admits shape w)
    (hsame : key v = key w → shape v = shape w) : e.Admits shape w := by
  obtain ⟨-, ⟨-, rfl⟩ | ⟨-, rfl⟩⟩ := putEqual_eq_some.mp h
  · exact hw
  · intro x hx
    rw [get?_put] at hx
    split_ifs at hx with hkey
    · rw [← Option.some.inj hx]
      exact hsame hkey
    · exact hw x hx

/-! Several puts. -/

theorem putEachEqual_extends {vs : List ν} : d.Extends (d.putEachEqual shape vs).1 := by
  induction vs generalizing d with
  | nil => exact Extends.refl d
  | cons v vs ih =>
    rw [putEachEqual]
    split
    · rename_i e hput
      exact (putEqual_extends hput).trans ih
    · exact Extends.refl d

/-- When no put is refused, every value is held. -/
theorem putEachEqual_holds {vs : List ν} (h : (d.putEachEqual shape vs).2 = true) :
    ∀ v ∈ vs, (d.putEachEqual shape vs).1.Holds shape v := by
  induction vs generalizing d with
  | nil => exact fun v hv => absurd hv List.not_mem_nil
  | cons v vs ih =>
    rw [putEachEqual] at h ⊢
    split at h
    · rename_i e hput
      intro w hw
      rcases List.mem_cons.mp hw with rfl | hw
      · exact (putEqual_holds hput).mono putEachEqual_extends
      · exact ih h w hw
    · exact absurd h (by simp)

/-- A value that is refused is not admitted by the store that is left. -/
theorem putEachEqual_refused {vs : List ν} (h : (d.putEachEqual shape vs).2 = false) :
    ∃ v ∈ vs, ¬ (d.putEachEqual shape vs).1.Admits shape v := by
  induction vs generalizing d with
  | nil => exact absurd h (by simp [putEachEqual])
  | cons v vs ih =>
    rw [putEachEqual] at h ⊢
    split at h
    · obtain ⟨w, hw, hnot⟩ := ih h
      exact ⟨w, List.mem_cons_of_mem v hw, hnot⟩
    · rename_i hnone
      exact ⟨v, List.mem_cons_self, putEqual_eq_none.mp hnone⟩

/-- Values under one key are equal. -/
def Consistent (key : ν → κ) (shape : ν → τ) (vs : List ν) : Prop :=
  ∀ v ∈ vs, ∀ w ∈ vs, key v = key w → shape v = shape w

theorem putEachEqual_of_consistent {vs : List ν} (hadmits : ∀ v ∈ vs, d.Admits shape v)
    (h : Consistent key shape vs) : (d.putEachEqual shape vs).2 = true := by
  induction vs generalizing d with
  | nil => rfl
  | cons v vs ih =>
    obtain ⟨e, hput⟩ := (hadmits v List.mem_cons_self).put
    rw [putEachEqual, hput]
    refine ih (fun w hw => ?_) fun w hw x hx => ?_
    · exact (hadmits w (List.mem_cons_of_mem v hw)).after hput
        (h v List.mem_cons_self w (List.mem_cons_of_mem v hw))
    · exact h w (List.mem_cons_of_mem v hw) x (List.mem_cons_of_mem v hx)

/-- Values that are admitted one by one are all put exactly when they do not collide with each
other. -/
theorem putEachEqual_iff {vs : List ν} (hadmits : ∀ v ∈ vs, d.Admits shape v) :
    (d.putEachEqual shape vs).2 = true ↔ Consistent key shape vs := by
  refine ⟨fun h v hv w hw hkey => ?_, putEachEqual_of_consistent hadmits⟩
  exact (putEachEqual_holds h v hv).unique (putEachEqual_holds h w hw) hkey

/-- A refusal among values that are admitted one by one leaves a changed store. -/
theorem putEachEqual_changed {vs : List ν} (hadmits : ∀ v ∈ vs, d.Admits shape v)
    (h : (d.putEachEqual shape vs).2 = false) : (d.putEachEqual shape vs).1 ≠ d := by
  intro hsame
  obtain ⟨v, hv, hnot⟩ := putEachEqual_refused h
  rw [hsame] at hnot
  exact hnot (hadmits v hv)

/-- Puts of values that are held change nothing. -/
theorem putEachEqual_of_holds {vs : List ν} (h : ∀ v ∈ vs, d.Holds shape v) :
    d.putEachEqual shape vs = (d, true) := by
  induction vs with
  | nil => rfl
  | cons v vs ih =>
    rw [putEachEqual, putEqual_of_holds (h v List.mem_cons_self)]
    exact ih fun w hw => h w (List.mem_cons_of_mem v hw)

end Dicts.KeyedDict

/-! Stores that keep, beside the values under their ids, the ids of each scope: what a scope
holds, and the latest of it. -/
namespace Dicts

variable {κ ν σ τ : Type} [DecidableEq κ] [DecidableEq σ]

/-- Values under their ids, and an index of the ids of each scope. -/
structure ScopedStore (key : ν → κ) (scope : ν → σ) where
  by_id : KeyedDict key
  ids_by_scope : Dict σ (List κ)
  indexed : ∀ s k, k ∈ (ids_by_scope.get? s).getD [] ↔ ∃ v ∈ by_id.get? k, scope v = s

namespace ScopedStore

variable {key : ν → κ} {scope : ν → σ}

def empty : ScopedStore key scope where
  by_id := .empty
  ids_by_scope := .empty
  indexed s k := by simp

def get? (d : ScopedStore key scope) (k : κ) : Option ν := d.by_id.get? k

def ids (d : ScopedStore key scope) (s : σ) : List κ := (d.ids_by_scope.get? s).getD []

/-- The put of a value whose id is new. -/
def insert (d : ScopedStore key scope) (v : ν) (h : d.by_id.get? (key v) = none) :
    ScopedStore key scope where
  by_id := d.by_id.put v
  ids_by_scope := d.ids_by_scope.set (scope v) (d.ids (scope v) ++ [key v])
  indexed s k := by
    have hold := d.indexed s k
    rw [Dict.get?_set, KeyedDict.get?_put]
    by_cases hk : key v = k
    · -- the new id stands in the index of its own scope only
      subst hk
      have hnew : key v ∉ (d.ids_by_scope.get? s).getD [] := by
        rw [hold, h]
        simp
      by_cases hs : scope v = s
      · simp [hs]
      · simpa [hs] using hnew
    · rw [if_neg hk, ← hold]
      by_cases hs : scope v = s
      · subst hs
        simp [ids, Ne.symm hk]
      · rw [if_neg hs]

/-- A put: an equal value again changes nothing, another under its id is refused. -/
def put {ρ : Type} [DecidableEq ρ] (shape : ν → ρ) (d : ScopedStore key scope) (v : ν) :
    Option (ScopedStore key scope) :=
  match h : d.by_id.get? (key v) with
  | some existing => if shape existing ≠ shape v then none else some d
  | none => some (d.insert v h)

/-- The values of a scope, as its index lists them. -/
def ofScope (d : ScopedStore key scope) (s : σ) : List ν := (d.ids s).filterMap d.by_id.get?

theorem mem_ofScope {d : ScopedStore key scope} {s : σ} {v : ν} :
    v ∈ d.ofScope s ↔ v ∈ d.by_id.values ∧ scope v = s := by
  rw [ofScope, List.mem_filterMap]
  constructor
  · rintro ⟨k, hk, hv⟩
    obtain ⟨w, hw, hscope⟩ := (d.indexed s k).mp hk
    obtain rfl := Option.some.inj (hw.symm.trans hv)
    exact ⟨KeyedDict.mem_values_of_get? hv, hscope⟩
  · rintro ⟨hv, hscope⟩
    have hget := KeyedDict.mem_values.mp hv
    exact ⟨key v, (d.indexed s (key v)).mpr ⟨v, hget, hscope⟩, hget⟩

variable [LinearOrder τ] {time : ν → τ}

variable (time) in
/-- The latest value of a scope. -/
def latest (d : ScopedStore key scope) (s : σ) : Option ν := (d.ofScope s).argmax time

variable (time) in
/-- No other stored value of its scope is later. -/
structure IsLatest (d : ScopedStore key scope) (s : σ) (v : ν) : Prop where
  stored : v ∈ d.by_id.values
  in_scope : scope v = s
  newest : ∀ w ∈ d.by_id.values, scope w = s → time w ≤ time v

theorem latest_isLatest {d : ScopedStore key scope} {s : σ} {v : ν}
    (h : d.latest time s = some v) : d.IsLatest time s v := by
  have hmem := mem_ofScope.mp (List.argmax_mem h)
  refine ⟨hmem.1, hmem.2, fun w hw hscope => ?_⟩
  exact List.le_of_mem_argmax (mem_ofScope.mpr ⟨hw, hscope⟩) h

end ScopedStore

end Dicts
