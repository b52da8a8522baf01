import Mathlib.Data.List.Nodup
import Mathlib.Data.List.Basic

/-! Dictionaries in insertion order: setting a key that is there keeps its place, a new
key goes last. -/
namespace Dicts

variable {κ ν : Type} [DecidableEq κ]

def find (k : κ) : List (κ × ν) → Option ν
  | [] => none
  | (k', v) :: es => if k' = k then some v else find k es

def put (k : κ) (v : ν) : List (κ × ν) → List (κ × ν)
  | [] => [(k, v)]
  | (k', v') :: es => if k' = k then (k, v) :: es else (k', v') :: put k v es

theorem find_put_self (k : κ) (v : ν) (es : List (κ × ν)) : find k (put k v es) = some v := by
  induction es with
  | nil => simp only [put, find, ↓reduceIte]
  | cons e es ih =>
    by_cases h : e.1 = k
    · simp only [put, h, ↓reduceIte, find]
    · simp only [put, h, ↓reduceIte, find, ih]

theorem find_put_ne {k k' : κ} (h : k ≠ k') (v : ν) (es : List (κ × ν)) :
    find k' (put k v es) = find k' es := by
  induction es with
  | nil => simp only [put, find, h, ↓reduceIte]
  | cons e es ih =>
    by_cases he : e.1 = k
    · simp only [put, he, ↓reduceIte, find, h]
    · simp only [put, he, ↓reduceIte, find, ih]

theorem find_eq_none {k : κ} {es : List (κ × ν)} : find k es = none ↔ k ∉ es.map (·.1) := by
  induction es with
  | nil => simp [find]
  | cons e es ih =>
    by_cases h : e.1 = k
    · simp [find, h]
    · rw [find, if_neg h, ih, List.map_cons, List.mem_cons, not_or]
      exact ⟨fun ht => ⟨Ne.symm h, ht⟩, fun ht => ht.2⟩

theorem mem_of_find {k : κ} {v : ν} {es : List (κ × ν)} (h : find k es = some v) :
    (k, v) ∈ es := by
  induction es with
  | nil => exact absurd h (by simp [find])
  | cons e es ih =>
    obtain ⟨k', v'⟩ := e
    by_cases he : k' = k
    · simp only [find, he, ↓reduceIte, Option.some.injEq] at h
      rw [he, h]
      exact List.mem_cons_self
    · simp only [find, he, ↓reduceIte] at h
      exact List.mem_cons_of_mem _ (ih h)

theorem find_of_mem {k : κ} {v : ν} {es : List (κ × ν)} (hnd : (es.map (·.1)).Nodup)
    (h : (k, v) ∈ es) : find k es = some v := by
  induction es with
  | nil => exact absurd h List.not_mem_nil
  | cons e es ih =>
    rw [List.map_cons, List.nodup_cons] at hnd
    rcases List.mem_cons.mp h with rfl | htail
    · simp only [find, ↓reduceIte]
    · have hne : e.1 ≠ k := fun he => hnd.1 (List.mem_map.mpr ⟨(k, v), htail, he.symm⟩)
      simp only [find, hne, ↓reduceIte, ih hnd.2 htail]

theorem put_of_find {k : κ} {v : ν} {es : List (κ × ν)} (h : find k es = some v) :
    put k v es = es := by
  induction es with
  | nil => exact absurd h (by simp [find])
  | cons e es ih =>
    rw [find] at h
    by_cases hk : e.1 = k
    · rw [if_pos hk, Option.some.injEq] at h
      rw [put, if_pos hk, ← h, ← hk]
    · rw [if_neg hk] at h
      rw [put, if_neg hk, ih h]

theorem put_of_new {k : κ} (v : ν) {es : List (κ × ν)} (h : k ∉ es.map (·.1)) :
    put k v es = es ++ [(k, v)] := by
  induction es with
  | nil => rfl
  | cons e es ih =>
    simp only [List.map_cons, List.mem_cons, not_or] at h
    simp only [put, Ne.symm h.1, ↓reduceIte, ih h.2, List.cons_append]

theorem put_keys_of_old {k : κ} (v : ν) {es : List (κ × ν)} (h : k ∈ es.map (·.1)) :
    (put k v es).map (·.1) = es.map (·.1) := by
  induction es with
  | nil => exact absurd h List.not_mem_nil
  | cons e es ih =>
    by_cases he : e.1 = k
    · simp only [put, he, ↓reduceIte, List.map_cons]
    · have htail : k ∈ es.map (·.1) := by
        rcases List.mem_cons.mp h with hk | hk
        · exact absurd hk.symm he
        · exact hk
      simp only [put, he, ↓reduceIte, List.map_cons, ih htail]

theorem put_nodup (k : κ) (v : ν) {es : List (κ × ν)} (h : (es.map (·.1)).Nodup) :
    ((put k v es).map (·.1)).Nodup := by
  by_cases hk : k ∈ es.map (·.1)
  · rw [put_keys_of_old v hk]
    exact h
  · rw [put_of_new v hk, List.map_append, List.map_cons, List.map_nil]
    refine List.nodup_append'.mpr ⟨h, List.nodup_singleton k, ?_⟩
    intro a ha ha'
    obtain rfl := List.mem_singleton.mp ha'
    exact hk ha

theorem mem_put {k : κ} {v : ν} {es : List (κ × ν)} {e : κ × ν} (h : e ∈ put k v es) :
    e = (k, v) ∨ e ∈ es := by
  induction es with
  | nil => exact .inl (List.mem_singleton.mp h)
  | cons e' es ih =>
    rw [put] at h
    split at h
    · rcases List.mem_cons.mp h with h | h
      · exact .inl h
      · exact .inr (List.mem_cons_of_mem _ h)
    · rcases List.mem_cons.mp h with rfl | h
      · exact .inr List.mem_cons_self
      · exact (ih h).imp id (List.mem_cons_of_mem _)

structure Dict (κ ν : Type) where
  entries : List (κ × ν)
  nodup : (entries.map (·.1)).Nodup

namespace Dict

omit [DecidableEq κ] in
theorem ext {d e : Dict κ ν} (h : d.entries = e.entries) : d = e := by
  cases d
  cases e
  cases h
  rfl

def empty : Dict κ ν := ⟨[], List.nodup_nil⟩

def get? (d : Dict κ ν) (k : κ) : Option ν := find k d.entries

def set (d : Dict κ ν) (k : κ) (v : ν) : Dict κ ν := ⟨put k v d.entries, put_nodup k v d.nodup⟩

def erase (d : Dict κ ν) (k : κ) : Dict κ ν where
  entries := d.entries.filter fun e => e.1 ≠ k
  nodup := d.nodup.sublist (List.filter_sublist.map _)

def keys (d : Dict κ ν) : List κ := d.entries.map (·.1)

def values (d : Dict κ ν) : List ν := d.entries.map (·.2)

instance [DecidableEq ν] : DecidableEq (Dict κ ν) := fun d e =>
  decidable_of_iff (d.entries = e.entries) ⟨ext, fun h => h ▸ rfl⟩

@[simp] theorem get?_empty (k : κ) : (empty : Dict κ ν).get? k = none := rfl

@[simp] theorem get?_set_self (d : Dict κ ν) (k : κ) (v : ν) : (d.set k v).get? k = some v :=
  find_put_self k v d.entries

theorem get?_set_ne (d : Dict κ ν) {k k' : κ} (h : k ≠ k') (v : ν) :
    (d.set k v).get? k' = d.get? k' := find_put_ne h v d.entries

theorem get?_set (d : Dict κ ν) (k k' : κ) (v : ν) :
    (d.set k v).get? k' = if k = k' then some v else d.get? k' := by
  split
  · rename_i h
    rw [← h, get?_set_self]
  · rename_i h
    exact get?_set_ne d h v

theorem get?_eq_none {d : Dict κ ν} {k : κ} : d.get? k = none ↔ k ∉ d.keys := find_eq_none

theorem get?_eq_some {d : Dict κ ν} {k : κ} {v : ν} : d.get? k = some v ↔ (k, v) ∈ d.entries :=
  ⟨mem_of_find, find_of_mem d.nodup⟩

theorem mem_keys_of_get? {d : Dict κ ν} {k : κ} {v : ν} (h : d.get? k = some v) : k ∈ d.keys :=
  List.mem_map_of_mem (get?_eq_some.mp h)

theorem entries_set_new {d : Dict κ ν} {k : κ} (v : ν) (h : k ∉ d.keys) :
    (d.set k v).entries = d.entries ++ [(k, v)] := put_of_new v h

theorem put_put (k : κ) (v w : ν) (es : List (κ × ν)) : put k w (put k v es) = put k w es := by
  induction es with
  | nil => simp only [put, ↓reduceIte]
  | cons e es ih =>
    by_cases h : e.1 = k
    · simp only [put, h, ↓reduceIte]
    · simp only [put, h, ↓reduceIte, ih]

theorem set_set (d : Dict κ ν) (k : κ) (v w : ν) : (d.set k v).set k w = d.set k w :=
  ext (put_put k v w d.entries)

theorem put_append_last {k : κ} (v w : ν) {es : List (κ × ν)} (h : k ∉ es.map (·.1)) :
    put k w (es ++ [(k, v)]) = es ++ [(k, w)] := by
  induction es with
  | nil => simp only [List.nil_append, put, ↓reduceIte]
  | cons e es ih =>
    simp only [List.map_cons, List.mem_cons, not_or] at h
    simp only [List.cons_append, put, Ne.symm h.1, ↓reduceIte, ih h.2]

/-- Setting the key that stands last. -/
theorem entries_set_last {d : Dict κ ν} {es : List (κ × ν)} {k : κ} {v : ν} (w : ν)
    (h : d.entries = es ++ [(k, v)]) : (d.set k w).entries = es ++ [(k, w)] := by
  have hnd := d.nodup
  rw [h, List.map_append, List.map_cons, List.map_nil] at hnd
  have hk : k ∉ es.map (·.1) := fun hk =>
    (List.nodup_append'.mp hnd).2.2 hk (List.mem_singleton.mpr rfl)
  change put k w d.entries = _
  rw [h, put_append_last v w hk]

end Dict

/-- A dictionary whose values tell the key they stand under. -/
structure KeyedDict {κ ν : Type} [DecidableEq κ] (key : ν → κ) where
  dict : Dict κ ν
  keyed : ∀ e ∈ dict.entries, e.1 = key e.2

namespace KeyedDict

variable {key : ν → κ}

def empty : KeyedDict key := ⟨Dict.empty, fun _ he => absurd he List.not_mem_nil⟩

def get? (d : KeyedDict key) (k : κ) : Option ν := d.dict.get? k

def put (d : KeyedDict key) (v : ν) : KeyedDict key where
  dict := d.dict.set (key v) v
  keyed e he := by
    rcases mem_put he with rfl | he
    · rfl
    · exact d.keyed e he

def values (d : KeyedDict key) : List ν := d.dict.values

/-- `d.update(e)`. -/
def update (d e : KeyedDict key) : KeyedDict key := e.values.foldl put d

instance [DecidableEq ν] : DecidableEq (KeyedDict key) := fun d e =>
  decidable_of_iff (d.dict = e.dict) ⟨fun h => by cases d; cases e; cases h; rfl, fun h => h ▸ rfl⟩

@[simp] theorem get?_empty (k : κ) : (empty : KeyedDict key).get? k = none := rfl

theorem get?_put (d : KeyedDict key) (v : ν) (k : κ) :
    (d.put v).get? k = if key v = k then some v else d.get? k := d.dict.get?_set _ _ _

@[simp] theorem get?_put_self (d : KeyedDict key) (v : ν) : (d.put v).get? (key v) = some v := by
  rw [get?_put, if_pos rfl]

theorem get?_put_ne (d : KeyedDict key) {v : ν} {k : κ} (h : key v ≠ k) :
    (d.put v).get? k = d.get? k := by
  rw [get?_put, if_neg h]

theorem key_of_get? {d : KeyedDict key} {k : κ} {v : ν} (h : d.get? k = some v) : key v = k :=
  (d.keyed _ (Dict.get?_eq_some.mp h)).symm

theorem mem_values {d : KeyedDict key} {v : ν} : v ∈ d.values ↔ d.get? (key v) = some v := by
  constructor
  · intro h
    obtain ⟨⟨k, w⟩, he, rfl⟩ := List.mem_map.mp h
    obtain rfl : k = key w := d.keyed _ he
    exact Dict.get?_eq_some.mpr he
  · intro h
    exact List.mem_map.mpr ⟨_, Dict.get?_eq_some.mp h, rfl⟩

theorem mem_values_of_get? {d : KeyedDict key} {k : κ} {v : ν} (h : d.get? k = some v) :
    v ∈ d.values := by
  obtain rfl := key_of_get? h
  exact mem_values.mpr h

theorem mem_values_put {d : KeyedDict key} {v w : ν} :
    w ∈ (d.put v).values ↔ w = v ∨ key v ≠ key w ∧ w ∈ d.values := by
  rw [mem_values, mem_values, get?_put]
  by_cases h : key v = key w
  · simp only [h, ↓reduceIte, Option.some.injEq, ne_eq, not_true_eq_false, false_and, or_false]
    exact eq_comm
  · have hne : w ≠ v := fun heq => h (heq ▸ rfl)
    simp only [h, ↓reduceIte, ne_eq, not_false_eq_true, true_and, hne, false_or]

theorem put_of_new {d : KeyedDict key} {v : ν} (h : d.get? (key v) = none) :
    (d.put v).values = d.values ++ [v] := by
  have hentries := Dict.entries_set_new v (Dict.get?_eq_none.mp h)
  rw [values, values, Dict.values, Dict.values, put, hentries, List.map_append, List.map_cons,
    List.map_nil]

theorem get?_foldl_put (d : KeyedDict key) (k : κ) :
    ∀ es : List (κ × ν), (es.map (·.1)).Nodup → (∀ e ∈ es, e.1 = key e.2) →
      ((es.map (·.2)).foldl put d).get? k = (find k es).or (d.get? k) := by
  intro es
  induction es generalizing d with
  | nil => intros; rfl
  | cons e es ih =>
    intro hnd hkeyed
    rw [List.map_cons, List.nodup_cons] at hnd
    rw [List.map_cons, List.foldl_cons, ih (d.put e.2) hnd.2
      (fun x hx => hkeyed x (List.mem_cons_of_mem _ hx)), get?_put,
      ← hkeyed e List.mem_cons_self]
    by_cases h : e.1 = k
    · have hnone : find k es = none := find_eq_none.mpr (h ▸ hnd.1)
      simp only [find, h, hnone, ↓reduceIte, Option.none_or, Option.some_or]
    · simp only [find, h, ↓reduceIte]

theorem get?_update (d e : KeyedDict key) (k : κ) :
    (d.update e).get? k = (e.get? k).or (d.get? k) :=
  get?_foldl_put d k e.dict.entries e.dict.nodup e.keyed

theorem put_of_get? {d : KeyedDict key} {v : ν} (h : d.get? (key v) = some v) : d.put v = d := by
  have hdict : d.dict.set (key v) v = d.dict := Dict.ext (put_of_find h)
  cases d
  simp only [KeyedDict.put, KeyedDict.mk.injEq]
  exact hdict

/-- A save of an append-only store: the same value again changes nothing, another value under
its key is refused. -/
def saveOnce [DecidableEq ν] (d : KeyedDict key) (v : ν) : Option (KeyedDict key) :=
  match d.get? (key v) with
  | some existing => if existing ≠ v then none else some d
  | none => some (d.put v)

theorem saveOnce_eq_some [DecidableEq ν] {d d' : KeyedDict key} {v : ν} :
    d.saveOnce v = some d' ↔ (∀ w, d.get? (key v) = some w → w = v) ∧ d' = d.put v := by
  rw [saveOnce]
  cases hget : d.get? (key v) with
  | none =>
    simp only [Option.some.injEq, reduceCtorEq, false_implies, implies_true, true_and]
    exact eq_comm
  | some w =>
    by_cases hw : w = v
    · subst hw
      simp only [ne_eq, not_true_eq_false, ↓reduceIte, Option.some.injEq, forall_eq', true_and,
        put_of_get? hget]
      exact eq_comm
    · simp only [ne_eq, hw, not_false_eq_true, ↓reduceIte, reduceCtorEq, Option.some.injEq,
        forall_eq', false_and]

end KeyedDict

end Dicts
