import FuturesBot.Dicts
import FuturesBot.KeySorting

/-! Append-only stores: a value is saved once, and stays under its key. -/
namespace Dicts.KeyedDict

open KeySorting

variable {κ ν : Type} [DecidableEq κ] {key : ν → κ} {d e : KeyedDict key}

/-- No other value stands under the key of the value. -/
def Accepts (d : KeyedDict key) (v : ν) : Prop := ∀ w, d.get? (key v) = some w → w = v

/-- The second store holds what the first holds. -/
def Grows (d e : KeyedDict key) : Prop := ∀ v ∈ d.values, v ∈ e.values

theorem Grows.refl (d : KeyedDict key) : d.Grows d := fun _ hv => hv

theorem Grows.trans {f : KeyedDict key} (h : d.Grows e) (h' : e.Grows f) : d.Grows f :=
  fun v hv => h' v (h v hv)

theorem eq_of_key {v w : ν} (hv : v ∈ d.values) (hw : w ∈ d.values) (h : key v = key w) :
    v = w := by
  rw [mem_values] at hv hw
  rw [h, hw] at hv
  exact (Option.some.inj hv).symm

/-- What a later store holds was accepted before. -/
theorem Grows.accepts {v : ν} (h : d.Grows e) (hv : v ∈ e.values) : d.Accepts v := by
  intro w hw
  exact eq_of_key (h w (mem_values_of_get? hw)) hv (key_of_get? hw)

theorem mem_values_put_accepted {v w : ν} (h : d.Accepts v) :
    w ∈ (d.put v).values ↔ w = v ∨ w ∈ d.values := by
  rw [mem_values_put]
  constructor
  · rintro (rfl | ⟨-, hw⟩)
    · exact .inl rfl
    · exact .inr hw
  · rintro (rfl | hw)
    · exact .inl rfl
    · by_cases hkey : key v = key w
      · refine .inl (h w ?_)
        rw [hkey]
        exact mem_values.mp hw
      · exact .inr ⟨hkey, hw⟩

theorem grows_put {v : ν} (h : d.Accepts v) : d.Grows (d.put v) :=
  fun _ hw => (mem_values_put_accepted h).mpr (.inr hw)

/-- An accepted value goes last, or is there already. -/
theorem put_accepted {v : ν} (h : d.Accepts v) :
    (v ∈ d.values ∧ d.put v = d) ∨ (v ∉ d.values ∧ (d.put v).values = d.values ++ [v]) := by
  cases hget : d.get? (key v) with
  | none =>
    refine .inr ⟨fun hv => ?_, put_of_new hget⟩
    rw [mem_values, hget] at hv
    exact absurd hv (by simp)
  | some w =>
    obtain rfl := h w hget
    exact .inl ⟨mem_values_of_get? hget, put_of_get? hget⟩

/-! Stores with the same values. -/

theorem values_keys_nodup (d : KeyedDict key) : (d.values.map key).Nodup := by
  have hkeys : d.values.map key = d.dict.keys := by
    rw [values, Dict.values, List.map_map]
    exact List.map_congr_left fun e he => (d.keyed e he).symm
  rw [hkeys]
  exact d.dict.nodup

theorem values_nodup (d : KeyedDict key) : d.values.Nodup :=
  List.Nodup.of_map key d.values_keys_nodup

theorem mem_values_congr (h : ∀ k, d.get? k = e.get? k) {v : ν} : v ∈ d.values ↔ v ∈ e.values := by
  rw [mem_values, mem_values, h]

theorem get?_congr_of_values (h : ∀ v, v ∈ d.values ↔ v ∈ e.values) (k : κ) :
    d.get? k = e.get? k := by
  have hhalf : ∀ {d e : KeyedDict key}, (∀ v, v ∈ d.values ↔ v ∈ e.values) →
      ∀ {v}, d.get? k = some v → e.get? k = some v := by
    intro d e hsame v hv
    obtain rfl := key_of_get? hv
    exact mem_values.mp ((hsame v).mp (mem_values_of_get? hv))
  cases hd : d.get? k with
  | some v => exact (hhalf h hd).symm
  | none =>
    cases he : e.get? k with
    | none => rfl
    | some v => exact absurd (hd.symm.trans (hhalf (fun v => (h v).symm) he)) (by simp)

/-- The values of two stores that agree under every key are the same, sorted by their keys. -/
theorem sortBy_values_eq {κ' : Type} [LinearOrder κ'] {order : ν → κ'}
    (h : ∀ k, d.get? k = e.get? k) (hinj : ∀ v w, order v = order w → key v = key w) :
    sortBy order d.values = sortBy order e.values := by
  have hperm : d.values.Perm e.values :=
    (List.perm_ext_iff_of_nodup d.values_nodup e.values_nodup).mpr fun _ => mem_values_congr h
  apply sortBy_perm_eq order hperm
  intro v hv w hw hsame
  exact eq_of_key hv hw (hinj v w hsame)

/-- Sorted by a key that tells them apart, the values come in one order. -/
theorem sortBy_filter_eq {κ' : Type} [LinearOrder κ'] {order : ν → κ'} {p : ν → Bool}
    (hvalues : ∀ v, v ∈ d.values ↔ v ∈ e.values)
    (hinj : ∀ v w, order v = order w → key v = key w) :
    sortBy order (d.values.filter p) = sortBy order (e.values.filter p) := by
  have hperm : d.values.Perm e.values :=
    (List.perm_ext_iff_of_nodup d.values_nodup e.values_nodup).mpr hvalues
  apply sortBy_perm_eq order (hperm.filter p)
  intro v hv w hw h
  exact eq_of_key (List.mem_of_mem_filter hv) (List.mem_of_mem_filter hw) (hinj v w h)

/-! Several values. -/

variable [DecidableEq ν]

theorem saveOnce_accepted {v : ν} (h : d.Accepts v) : d.saveOnce v = some (d.put v) :=
  saveOnce_eq_some.mpr ⟨h, rfl⟩

/-- Saves one value after the other, up to the first that is refused. -/
def saveEach (d : KeyedDict key) : List ν → KeyedDict key × Option ν
  | [] => (d, none)
  | v :: vs =>
    match d.saveOnce v with
    | none => (d, some v)
    | some d => saveEach d vs

theorem saveEach_cons_ok {v : ν} {vs : List ν} (h : d.Accepts v) :
    d.saveEach (v :: vs) = (d.put v).saveEach vs := by
  rw [saveEach, saveOnce_accepted h]

theorem saveEach_cons_refused {v : ν} {vs : List ν} (h : ¬ d.Accepts v) :
    d.saveEach (v :: vs) = (d, some v) := by
  have hnone : d.saveOnce v = none := by
    by_contra hne
    obtain ⟨d', hd'⟩ := Option.ne_none_iff_exists'.mp hne
    exact h (saveOnce_eq_some.mp hd').1
  rw [saveEach, hnone]

/-- What holds of the store and is kept by each save that is accepted holds after the saves. -/
theorem saveEach_keeps {P : KeyedDict key → Prop} {vs : List ν}
    (hstep : ∀ d v, v ∈ vs → P d → d.Accepts v → P (d.put v)) (hd : P d) :
    P (d.saveEach vs).1 := by
  induction vs generalizing d with
  | nil => exact hd
  | cons v vs ih =>
    by_cases h : d.Accepts v
    · rw [saveEach_cons_ok h]
      exact ih (fun d w hw => hstep d w (List.mem_cons_of_mem v hw))
        (hstep d v List.mem_cons_self hd h)
    · rw [saveEach_cons_refused h]
      exact hd

theorem saveEach_grows (d : KeyedDict key) (vs : List ν) : d.Grows (d.saveEach vs).1 :=
  saveEach_keeps (fun _ _ _ hgrows haccepts => hgrows.trans (grows_put haccepts)) (Grows.refl d)

/-- The saves add nothing else. -/
theorem saveEach_mem {vs : List ν} {w : ν} (h : w ∈ (d.saveEach vs).1.values) :
    w ∈ vs ∨ w ∈ d.values := by
  have hkeeps : ∀ w ∈ (d.saveEach vs).1.values, w ∈ vs ∨ w ∈ d.values := by
    apply saveEach_keeps (P := fun d' => ∀ w ∈ d'.values, w ∈ vs ∨ w ∈ d.values)
    · intro d' v hv hd' haccepts w hw
      rcases (mem_values_put_accepted haccepts).mp hw with rfl | hw
      · exact .inl hv
      · exact hd' w hw
    · exact fun w hw => .inr hw
  exact hkeeps w h

/-- Without a refusal every value is saved. -/
theorem saveEach_saved {vs : List ν} (h : (d.saveEach vs).2 = none) :
    ∀ v ∈ vs, v ∈ (d.saveEach vs).1.values := by
  induction vs generalizing d with
  | nil => exact fun v hv => absurd hv List.not_mem_nil
  | cons v vs ih =>
    by_cases haccepts : d.Accepts v
    · rw [saveEach_cons_ok haccepts] at h ⊢
      intro w hw
      rcases List.mem_cons.mp hw with rfl | hw
      · exact saveEach_grows _ vs w ((mem_values_put_accepted haccepts).mpr (.inl rfl))
      · exact ih h w hw
    · rw [saveEach_cons_refused haccepts] at h
      exact absurd h (by simp)

/-- Values that the store accepts and that agree among themselves are saved. -/
theorem saveEach_ok {vs : List ν} (haccepts : ∀ v ∈ vs, d.Accepts v)
    (hagree : ∀ v ∈ vs, ∀ w ∈ vs, key v = key w → v = w) : (d.saveEach vs).2 = none := by
  induction vs generalizing d with
  | nil => rfl
  | cons v vs ih =>
    rw [saveEach_cons_ok (haccepts v List.mem_cons_self)]
    apply ih
    · intro w hw u hu
      rw [get?_put] at hu
      split at hu
      · rename_i hkey
        obtain rfl := Option.some.inj hu
        exact hagree v List.mem_cons_self w (List.mem_cons_of_mem v hw) hkey
      · exact haccepts w (List.mem_cons_of_mem v hw) u hu
    · intro w hw u hu
      exact hagree w (List.mem_cons_of_mem v hw) u (List.mem_cons_of_mem v hu)

end Dicts.KeyedDict
