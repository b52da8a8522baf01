import FuturesBot.Dicts
import Mathlib.Algebra.GroupWithZero.Nat

/-! Dictionaries built from a list, where the last value of a key stands, and when what they say
does not depend on the order of the list. -/
namespace Dicts.KeyedDict

variable {κ ν : Type} [DecidableEq κ] {key : ν → κ}

/-- `{key(v): v for v in vs}`. -/
def ofList (key : ν → κ) (vs : List ν) : KeyedDict key := vs.foldl put empty

theorem get?_foldl_last (d : KeyedDict key) (k : κ) (vs : List ν) :
    (vs.foldl put d).get? k = (vs.reverse.find? fun v => key v = k).or (d.get? k) := by
  induction vs generalizing d with
  | nil => rfl
  | cons v vs ih =>
    rw [List.foldl_cons, ih, get?_put, List.reverse_cons, List.find?_append]
    by_cases h : key v = k
    · simp [h]
    · simp [h]

theorem get?_ofList (k : κ) (vs : List ν) :
    (ofList key vs).get? k = vs.reverse.find? fun v => key v = k := by
  rw [ofList, get?_foldl_last, get?_empty, Option.or_none]

theorem mem_of_get?_ofList {k : κ} {v : ν} {vs : List ν} (h : (ofList key vs).get? k = some v) :
    v ∈ vs ∧ key v = k := by
  rw [get?_ofList] at h
  exact ⟨List.mem_reverse.mp (List.mem_of_find?_eq_some h), by simpa using List.find?_some h⟩

theorem exists_get?_ofList {k : κ} {vs : List ν} (h : ∃ v ∈ vs, key v = k) :
    ∃ w, (ofList key vs).get? k = some w := by
  obtain ⟨v, hv, hk⟩ := h
  rw [← Option.isSome_iff_exists, get?_ofList, List.find?_isSome]
  exact ⟨v, List.mem_reverse.mpr hv, by simpa using hk⟩

/-- A list of values put behind another decides every key that it has. -/
theorem get?_ofList_append {k : κ} {vs ws : List ν} (h : ∃ w ∈ ws, key w = k) :
    (ofList key (vs ++ ws)).get? k = (ofList key ws).get? k := by
  obtain ⟨w, hw⟩ := exists_get?_ofList h
  rw [get?_ofList] at hw
  rw [get?_ofList, get?_ofList, List.reverse_append, List.find?_append, hw, Option.some_or]

/-- Every key has a value, and the one that stands passes. -/
def AllPass (p : ν → Bool) (ks : List κ) (d : KeyedDict key) : Prop :=
  ∀ k ∈ ks, ∃ v ∈ d.get? k, p v = true

/-- Some key has no value that passes, or all values of the keys pass. -/
def Uniform (key : ν → κ) (p : ν → Bool) (ks : List κ) (vs : List ν) : Prop :=
  (∃ k ∈ ks, ∀ v ∈ vs, key v = k → p v = false) ∨ ∀ v ∈ vs, key v ∈ ks → p v = true

theorem filter_perm (p : ν → Bool) (vs : List ν) :
    (vs.filter (fun v => !p v) ++ vs.filter p).Perm vs := by
  have h := List.filter_append_perm p vs
  exact List.perm_append_comm.trans h

/-- Whether the last values pass does not depend on the order exactly when the values of the keys
are uniform. -/
theorem allPass_perm_iff {p : ν → Bool} {ks : List κ} {vs : List ν} :
    (∀ ws, ws.Perm vs → (AllPass p ks (ofList key ws) ↔ AllPass p ks (ofList key vs))) ↔
      Uniform key p ks vs := by
  constructor
  · intro h
    by_contra hmixed
    obtain ⟨hsome, hfail⟩ := not_or.mp hmixed
    push Not at hsome hfail
    -- with the passing values last every key passes, and with the others last some key fails
    have hpass : AllPass p ks (ofList key (vs.filter (fun v => !p v) ++ vs.filter p)) := by
      intro k hk
      obtain ⟨v, hv, hvk, hvp⟩ := hsome k hk
      have hmem : ∃ w ∈ vs.filter p, key w = k :=
        ⟨v, List.mem_filter.mpr ⟨hv, by simpa using hvp⟩, hvk⟩
      obtain ⟨w, hw⟩ := exists_get?_ofList hmem
      refine ⟨w, by rw [get?_ofList_append hmem]; exact hw, ?_⟩
      exact (List.mem_filter.mp (mem_of_get?_ofList hw).1).2
    have hnot : ¬ AllPass p ks (ofList key (vs.filter p ++ vs.filter fun v => !p v)) := by
      intro hall
      obtain ⟨v, hv, hvk, hvp⟩ := hfail
      have hmem : ∃ w ∈ vs.filter (fun v => !p v), key w = key v :=
        ⟨v, List.mem_filter.mpr ⟨hv, by simpa using hvp⟩, rfl⟩
      obtain ⟨w, hw, hwp⟩ := hall (key v) hvk
      rw [get?_ofList_append hmem] at hw
      have hwfail := (List.mem_filter.mp (mem_of_get?_ofList hw).1).2
      rw [hwp] at hwfail
      cases hwfail
    have hfirst := h _ (filter_perm p vs)
    have hsecond := h _ (List.filter_append_perm p vs)
    exact hnot (hsecond.mpr (hfirst.mp hpass))
  · rintro (⟨k, hk, hnone⟩ | hall) ws hperm
    · have hfail : ∀ us : List ν, us.Perm vs → ¬ AllPass p ks (ofList key us) := by
        intro us hus hpass
        obtain ⟨v, hv, hvp⟩ := hpass k hk
        obtain ⟨hmem, hvk⟩ := mem_of_get?_ofList hv
        rw [hnone v (hus.mem_iff.mp hmem) hvk] at hvp
        cases hvp
      exact iff_of_false (hfail ws hperm) (hfail vs (List.Perm.refl vs))
    · have hexists : ∀ us : List ν, us.Perm vs →
          (AllPass p ks (ofList key us) ↔ ∀ k ∈ ks, ∃ v ∈ vs, key v = k) := by
        intro us hus
        constructor
        · intro hpass k hk
          obtain ⟨v, hv, _⟩ := hpass k hk
          obtain ⟨hmem, hvk⟩ := mem_of_get?_ofList hv
          exact ⟨v, hus.mem_iff.mp hmem, hvk⟩
        · intro hkeys k hk
          obtain ⟨v, hv, hvk⟩ := hkeys k hk
          obtain ⟨w, hw⟩ := exists_get?_ofList ⟨v, hus.mem_iff.mpr hv, hvk⟩
          obtain ⟨hmem, hwk⟩ := mem_of_get?_ofList hw
          exact ⟨w, hw, hall w (hus.mem_iff.mp hmem) (hwk ▸ hk)⟩
      rw [hexists ws hperm, hexists vs (List.Perm.refl vs)]

end Dicts.KeyedDict

/-! Dictionaries of counts: counting the keys of a list, and what a dictionary of counts says. -/
namespace Dicts

variable {κ : Type} [DecidableEq κ]

/-- `counts[k] = counts.get(k, 0) + 1`. -/
def Dict.bump (d : Dict κ ℕ) (k : κ) : Dict κ ℕ := d.set k ((d.get? k).getD 0 + 1)

def countKeys (ks : List κ) : Dict κ ℕ := ks.foldl Dict.bump Dict.empty

/-- `counts.get(k, 0)`. -/
def Dict.count (d : Dict κ ℕ) (k : κ) : ℕ := (d.get? k).getD 0

/-- `sum(counts.values())`. -/
def Dict.total (d : Dict κ ℕ) : ℕ := d.values.sum

/-- `d == e`, where the order of insertion does not count. -/
def Dict.Same {ν : Type} [DecidableEq ν] (d e : Dict κ ν) : Prop :=
  (∀ k ∈ d.keys, e.get? k = d.get? k) ∧ ∀ k ∈ e.keys, d.get? k = e.get? k

instance {ν : Type} [DecidableEq ν] (d e : Dict κ ν) : Decidable (d.Same e) :=
  inferInstanceAs (Decidable (_ ∧ _))

theorem Dict.same_iff {ν : Type} [DecidableEq ν] {d e : Dict κ ν} :
    d.Same e ↔ ∀ k, d.get? k = e.get? k := by
  constructor
  · rintro ⟨hd, he⟩ k
    by_cases hk : k ∈ e.keys
    · exact he k hk
    · by_cases hk' : k ∈ d.keys
      · exact (hd k hk').symm
      · rw [Dict.get?_eq_none.mpr hk, Dict.get?_eq_none.mpr hk']
  · intro h
    exact ⟨fun k _ => (h k).symm, fun k _ => h k⟩

theorem Dict.get?_bump (d : Dict κ ℕ) (k k' : κ) :
    (d.bump k).get? k' = if k = k' then some (d.count k + 1) else d.get? k' :=
  d.get?_set k k' _

theorem get?_foldl_bump (d : Dict κ ℕ) (ks : List κ) (k : κ) :
    (ks.foldl Dict.bump d).get? k = if k ∈ ks then some (d.count k + ks.count k) else d.get? k := by
  induction ks generalizing d with
  | nil => rfl
  | cons k' ks ih =>
    rw [List.foldl_cons, ih, Dict.count, Dict.get?_bump]
    by_cases h : k' = k
    · subst h
      have hcount : (k' :: ks).count k' = ks.count k' + 1 := List.count_cons_self
      rw [if_pos rfl, if_pos List.mem_cons_self, hcount, Option.getD_some]
      split_ifs with hmem
      · rw [Nat.add_assoc, Nat.add_comm 1]
      · rw [List.count_eq_zero.mpr hmem]
    · rw [if_neg h, List.count_cons_of_ne h, Dict.count]
      have hmem : k ∈ k' :: ks ↔ k ∈ ks := by
        rw [List.mem_cons]
        exact ⟨fun hor => hor.resolve_left fun heq => h heq.symm, .inr⟩
      simp only [hmem]

/-- A key that occurs stands with the number of its occurrences, another does not stand. -/
theorem get?_countKeys (ks : List κ) (k : κ) :
    (countKeys ks).get? k = if k ∈ ks then some (ks.count k) else none := by
  have hempty : (Dict.empty : Dict κ ℕ).count k = 0 := rfl
  rw [countKeys, get?_foldl_bump, hempty, Nat.zero_add, Dict.get?_empty]

theorem mem_keys_countKeys {ks : List κ} {k : κ} : k ∈ (countKeys ks).keys ↔ k ∈ ks := by
  have h := Dict.get?_eq_none (d := countKeys ks) (k := k)
  rw [get?_countKeys] at h
  by_cases hk : k ∈ ks
  · rw [if_pos hk] at h
    simpa [hk] using h
  · rw [if_neg hk] at h
    simpa [hk] using h

theorem sum_put (k : κ) (v : ℕ) (es : List (κ × ℕ)) :
    ((put k v es).map (·.2)).sum + (find k es).getD 0 = (es.map (·.2)).sum + v := by
  induction es with
  | nil => simp [put, find]
  | cons e es ih =>
    obtain ⟨k', w⟩ := e
    rw [put, find]
    by_cases h : k' = k
    · simp only [h, ↓reduceIte, List.map_cons, List.sum_cons, Option.getD_some]
      omega
    · simp only [h, ↓reduceIte, List.map_cons, List.sum_cons]
      omega

theorem Dict.total_bump (d : Dict κ ℕ) (k : κ) : (d.bump k).total = d.total + 1 := by
  have h := sum_put k (d.count k + 1) d.entries
  change (d.bump k).total + d.count k = d.total + (d.count k + 1) at h
  omega

theorem total_foldl_bump (d : Dict κ ℕ) (ks : List κ) :
    (ks.foldl Dict.bump d).total = d.total + ks.length := by
  induction ks generalizing d with
  | nil => rfl
  | cons k ks ih =>
    rw [List.foldl_cons, ih, Dict.total_bump, List.length_cons]
    omega

/-- The counts add up to the length of the list. -/
@[simp] theorem total_countKeys (ks : List κ) : (countKeys ks).total = ks.length := by
  rw [countKeys, total_foldl_bump]
  exact Nat.zero_add _

end Dicts
