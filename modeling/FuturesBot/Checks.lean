import Mathlib.Data.List.Basic
import Mathlib.Data.List.Forall2

/-! Checks made one after the other, the first that fails giving the error. -/
namespace Checks

variable {ε : Type}

structure Check (ε : Type) where
  passed : Bool
  error : ε

def require (p : Prop) [Decidable p] (e : ε) : Check ε := ⟨decide p, e⟩

def checkAll : List (Check ε) → Except ε Unit
  | [] => .ok ()
  | c :: cs => if c.passed then checkAll cs else .error c.error

@[simp] theorem checkAll_nil : checkAll ([] : List (Check ε)) = .ok () := rfl

@[simp] theorem checkAll_require {p : Prop} [Decidable p] {e : ε} {cs : List (Check ε)} :
    checkAll (require p e :: cs) = .ok () ↔ p ∧ checkAll cs = .ok () := by
  by_cases h : p
  · simp [checkAll, require, h]
  · simp [checkAll, require, h]

@[simp] theorem checkAll_append {cs ds : List (Check ε)} :
    checkAll (cs ++ ds) = .ok () ↔ checkAll cs = .ok () ∧ checkAll ds = .ok () := by
  induction cs with
  | nil => simp
  | cons c cs ih =>
    cases hc : c.passed with
    | true => simpa [checkAll, hc] using ih
    | false => simp [checkAll, hc]

/-- The checks of a list of values, one value after the other. -/
@[simp] theorem checkAll_flatMap {α : Type} {f : α → List (Check ε)} {l : List α} :
    checkAll (l.flatMap f) = .ok () ↔ ∀ a ∈ l, checkAll (f a) = .ok () := by
  induction l with
  | nil => simp
  | cons a l ih => rw [List.flatMap_cons, checkAll_append, ih, List.forall_mem_cons]

theorem bind_eq_ok {α β : Type} {x : Except ε α} {f : α → Except ε β} {b : β} :
    (x >>= f) = .ok b ↔ ∃ a, x = .ok a ∧ f a = .ok b := by
  cases x with
  | ok a => exact ⟨fun h => ⟨a, rfl, h⟩, fun ⟨_, ha, h⟩ => Except.ok.inj ha ▸ h⟩
  | error e => exact ⟨fun h => absurd h (by simp [bind, Except.bind]), fun ⟨_, ha, _⟩ => by cases ha⟩

/-- A value that carries the proof of its own check. -/
def validated {α : Type} (check : Except ε Unit) (make : check = .ok () → α) : Except ε α :=
  match check, make with
  | .ok (), make => .ok (make rfl)
  | .error e, _ => .error e

theorem validated_eq_ok {α : Type} {check : Except ε Unit} {make : check = .ok () → α} {a : α} :
    validated check make = .ok a ↔ ∃ h, make h = a := by
  cases check with
  | ok u => exact ⟨fun heq => ⟨rfl, Except.ok.inj heq⟩, fun ⟨_, heq⟩ => congrArg Except.ok heq⟩
  | error e => exact ⟨fun heq => absurd heq (by simp [validated]), fun ⟨h, _⟩ => by cases h⟩

theorem map_eq_ok {α β : Type} {x : Except ε α} {f : α → β} {b : β} :
    x.map f = .ok b ↔ ∃ a, x = .ok a ∧ f a = b := by
  cases x with
  | ok a => simp [Except.map]
  | error e => simp [Except.map]

/-- Values built one after the other, up to the first that is refused. -/
def buildAll {α β : Type} (build : α → Except ε β) : List α → Except ε (List β)
  | [] => .ok []
  | a :: l => do
    let b ← build a
    let bs ← buildAll build l
    .ok (b :: bs)

theorem buildAll_eq_ok {α β : Type} {build : α → Except ε β} {l : List α} {bs : List β} :
    buildAll build l = .ok bs ↔ List.Forall₂ (fun a b => build a = .ok b) l bs := by
  induction l generalizing bs with
  | nil =>
    rw [List.forall₂_nil_left_iff, buildAll]
    exact ⟨fun h => (Except.ok.inj h).symm, fun h => congrArg Except.ok h.symm⟩
  | cons a l ih =>
    rw [buildAll, bind_eq_ok, List.forall₂_cons_left_iff]
    constructor
    · rintro ⟨b, hb, h⟩
      obtain ⟨bs', hbs, h⟩ := bind_eq_ok.mp h
      exact ⟨b, bs', hb, ih.mp hbs, (Except.ok.inj h).symm⟩
    · rintro ⟨b, bs', hb, hbs, rfl⟩
      exact ⟨b, hb, bind_eq_ok.mpr ⟨bs', ih.mpr hbs, rfl⟩⟩

/-- A list of values can be built exactly when each of them can. -/
theorem buildAll_total {α β : Type} {build : α → Except ε β} {l : List α} :
    (∃ bs, buildAll build l = .ok bs) ↔ ∀ a ∈ l, ∃ b, build a = .ok b := by
  simp only [buildAll_eq_ok]
  induction l with
  | nil => simp
  | cons a l ih =>
    rw [List.forall_mem_cons, ← ih]
    simp only [List.forall₂_cons_left_iff]
    constructor
    · rintro ⟨-, b, bs, hb, hbs, rfl⟩
      exact ⟨⟨b, hb⟩, bs, hbs⟩
    · rintro ⟨⟨b, hb⟩, bs, hbs⟩
      exact ⟨b :: bs, b, bs, hb, hbs, rfl⟩

theorem checkAll_mem {cs : List (Check ε)} {e : ε} (h : checkAll cs = .error e) :
    ∃ c ∈ cs, c.error = e := by
  induction cs with
  | nil => exact absurd h (by simp)
  | cons c cs ih =>
    rw [checkAll] at h
    split at h
    · obtain ⟨d, hd, he⟩ := ih h
      exact ⟨d, List.mem_cons_of_mem _ hd, he⟩
    · exact ⟨c, List.mem_cons_self, Except.error.inj h⟩

/-! Values taken one after the other, each checked against the earlier ones. -/

variable {α : Type}

def checkSeen (check : List α → α → List (Check ε)) : List α → List α → Except ε Unit
  | _, [] => .ok ()
  | seen, a :: rest => do
    checkAll (check seen a)
    checkSeen check (seen ++ [a]) rest

/-- Where a value passes by what it is and by what sets it apart from every earlier one, all pass
when each is so and they are set apart from each other. -/
theorem checkSeen_iff {check : List α → α → List (Check ε)} {Own : α → Prop} {Apart : α → α → Prop}
    (h : ∀ seen a, checkAll (check seen a) = .ok () ↔ Own a ∧ ∀ s ∈ seen, Apart s a)
    (values : List α) :
    checkSeen check [] values = .ok () ↔ (∀ a ∈ values, Own a) ∧ values.Pairwise Apart := by
  -- going on from the values that were met already
  have hrest : ∀ seen, checkSeen check seen values = .ok () ↔
      (∀ a ∈ values, Own a) ∧ (∀ s ∈ seen, ∀ a ∈ values, Apart s a) ∧ values.Pairwise Apart := by
    induction values with
    | nil => simp [checkSeen]
    | cons a rest ih =>
      intro seen
      rw [checkSeen, bind_eq_ok, List.pairwise_cons, List.forall_mem_cons]
      constructor
      · rintro ⟨⟨⟩, hfirst, hchecked⟩
        obtain ⟨hown, hseen⟩ := (h seen a).mp hfirst
        obtain ⟨howns, happart, hpairwise⟩ := (ih _).mp hchecked
        refine ⟨⟨hown, howns⟩, fun s hs b hb => ?_, fun b hb => ?_, hpairwise⟩
        · rcases List.mem_cons.mp hb with rfl | hb
          · exact hseen s hs
          · exact happart s (List.mem_append_left _ hs) b hb
        · exact happart a (List.mem_append_right _ (List.mem_singleton_self a)) b hb
      · rintro ⟨⟨hown, howns⟩, happart, hfirst, hpairwise⟩
        have hseen : ∀ s ∈ seen, Apart s a := fun s hs => happart s hs a List.mem_cons_self
        refine ⟨(), (h seen a).mpr ⟨hown, hseen⟩,
          (ih _).mpr ⟨howns, fun s hs b hb => ?_, hpairwise⟩⟩
        rcases List.mem_append.mp hs with hs | hs
        · exact happart s hs b (List.mem_cons_of_mem a hb)
        · rw [List.mem_singleton.mp hs]
          exact hfirst b hb
  rw [hrest []]
  simp

end Checks
