import FuturesBot.Dicts
import Mathlib.Data.List.Perm.Subperm
import Mathlib.Data.List.Dedup

/-! The latest of several candidates by pairwise comparison: each candidate is set against the
one selected so far, and two that cannot be compared stop the selection. When does the order
of the candidates not matter? -/
namespace Selections

open Dicts

variable {α ε κ : Type}

/-- Both end in an error, or in the same value. -/
def SameOutcome : Except ε α → Except ε α → Prop
  | .ok a, .ok b => a = b
  | .error _, .error _ => True
  | _, _ => False

instance [DecidableEq α] : (x y : Except ε α) → Decidable (SameOutcome x y)
  | .ok a, .ok b => inferInstanceAs (Decidable (a = b))
  | .error _, .error _ => isTrue trivial
  | .ok _, .error _ => isFalse id
  | .error _, .ok _ => isFalse id

theorem SameOutcome.ok {x y : Except ε α} {a : α} (h : SameOutcome x y) (hx : x = .ok a) :
    y = .ok a := by
  subst hx
  cases y with
  | ok b => exact congrArg Except.ok (Eq.symm h)
  | error e => exact absurd h id

/-- Whether a candidate replaces the current one, or an error when they cannot be compared. -/
structure IsComparison (replaces : α → α → Except ε Bool) : Prop where
  self : ∀ a, replaces a a = .ok false
  asymm : ∀ {a b}, replaces a b = .ok true → replaces b a = .ok false
  comparable : ∀ {a b r}, replaces a b = .ok r → ∃ s, replaces b a = .ok s

section OneStream

variable (replaces : α → α → Except ε Bool)

/-- The candidates set against the current one in turn. -/
def runUp : Option α → List α → Except ε (Option α)
  | current, [] => .ok current
  | none, a :: as => runUp (some a) as
  | some c, a :: as =>
    match replaces a c with
    | .ok true => runUp (some a) as
    | .ok false => runUp (some c) as
    | .error e => .error e

/-- Any two can be compared, and one replaces all others. -/
def Settled (l : List α) : Prop :=
  (∀ a ∈ l, ∀ b ∈ l, ∃ r, replaces a b = .ok r) ∧
    ∃ w ∈ l, ∀ a ∈ l, a = w ∨ replaces w a = .ok true

/-- Candidates of which each replaces the one before, and to one of which every other gives
way. -/
structure Ladder (l cs : List α) : Prop where
  within : cs.Subperm l
  rising : cs.IsChain fun a b => replaces b a = .ok true
  covers : ∀ a ∈ l, ∃ c ∈ cs, replaces a c = .ok false

variable {replaces} {l : List α} {c w : α}

theorem runUp_stays {rest : List α} (h : ∀ a ∈ l, replaces a c = .ok false) :
    runUp replaces (some c) (l ++ rest) = runUp replaces (some c) rest := by
  induction l with
  | nil => rfl
  | cons a as ih =>
    rw [List.cons_append, runUp, h a List.mem_cons_self]
    exact ih fun b hb => h b (List.mem_cons_of_mem a hb)

theorem runUp_some_mem {r : Option α} (h : runUp replaces (some c) l = .ok r) :
    ∃ b ∈ c :: l, r = some b := by
  induction l generalizing c with
  | nil =>
    rw [runUp, Except.ok.injEq] at h
    exact ⟨c, List.mem_cons_self, h.symm⟩
  | cons a as ih =>
    rw [runUp] at h
    split at h
    · obtain ⟨b, hb, hr⟩ := ih h
      exact ⟨b, List.mem_cons_of_mem c hb, hr⟩
    · obtain ⟨b, hb, hr⟩ := ih h
      refine ⟨b, ?_, hr⟩
      rcases List.mem_cons.mp hb with hb | hb
      · exact hb ▸ List.mem_cons_self
      · exact List.mem_cons_of_mem c (List.mem_cons_of_mem a hb)
    · exact absurd h (by simp)

/-- One that replaces all others is selected once it comes, and stays. -/
theorem runUp_of_top (hcmp : IsComparison replaces) (hw : w ∈ c :: l)
    (hall : ∀ a ∈ c :: l, ∀ b ∈ c :: l, ∃ r, replaces a b = .ok r)
    (htop : ∀ a ∈ c :: l, a = w ∨ replaces w a = .ok true) :
    runUp replaces (some c) l = .ok (some w) := by
  induction l generalizing c with
  | nil => rw [runUp, List.mem_singleton.mp hw]
  | cons a as ih =>
    have hc : c ∈ c :: a :: as := List.mem_cons_self
    have ha : a ∈ c :: a :: as := List.mem_cons_of_mem c List.mem_cons_self
    have hsub : ∀ d ∈ [c, a], ∀ b ∈ d :: as, b ∈ c :: a :: as := by
      intro d hd b hb
      simp only [List.mem_cons, List.not_mem_nil, or_false] at hd hb ⊢
      rcases hb with rfl | hb
      · exact hd.imp id .inl
      · exact .inr (.inr hb)
    -- whichever of the two stays, the top one is not lost
    have hnext : ∀ d ∈ [c, a], w ∈ d :: as → runUp replaces (some d) as = .ok (some w) :=
      fun d hd hwd => ih hwd
        (fun x hx y hy => hall x (hsub d hd x hx) y (hsub d hd y hy))
        (fun x hx => htop x (hsub d hd x hx))
    have hkept : w ∈ as → ∀ d, w ∈ d :: as := fun h d => List.mem_cons_of_mem d h
    rw [runUp]
    obtain ⟨r, hr⟩ := hall a ha c hc
    simp only [List.mem_cons] at hw
    cases r with
    | true =>
      rw [hr]
      apply hnext a (by simp)
      rcases hw with rfl | rfl | hw
      · -- nothing replaces the top one
        rcases htop a ha with rfl | hbeat
        · exact List.mem_cons_self
        · exact absurd (hr.symm.trans (hcmp.asymm hbeat)) (by simp)
      · exact List.mem_cons_self
      · exact hkept hw a
    | false =>
      rw [hr]
      apply hnext c (by simp)
      rcases hw with rfl | rfl | hw
      · exact List.mem_cons_self
      · rcases htop c hc with rfl | hbeat
        · exact List.mem_cons_self
        · exact absurd (hr.symm.trans hbeat) (by simp)
      · exact hkept hw c

theorem Settled.runUp_eq (hcmp : IsComparison replaces) {l : List α}
    (hall : ∀ a ∈ l, ∀ b ∈ l, ∃ r, replaces a b = .ok r) (hw : w ∈ l)
    (htop : ∀ a ∈ l, a = w ∨ replaces w a = .ok true) :
    runUp replaces none l = .ok (some w) := by
  cases l with
  | nil => exact absurd hw List.not_mem_nil
  | cons a as => exact runUp_of_top hcmp hw hall htop

/-! The way up of a selection that comes to an end is a ladder. -/

theorem ladder_of_runUp (hcmp : IsComparison replaces) {r : Option α}
    (h : runUp replaces (some c) l = .ok r) :
    ∃ cs, cs.Subperm l ∧ (c :: cs).IsChain (fun a b => replaces b a = .ok true) ∧
      ∀ a ∈ c :: l, ∃ d ∈ c :: cs, replaces a d = .ok false := by
  induction l generalizing c with
  | nil =>
    refine ⟨[], List.Subperm.refl _, List.IsChain.singleton c, fun a ha => ?_⟩
    exact ⟨c, List.mem_cons_self, List.mem_singleton.mp ha ▸ hcmp.self c⟩
  | cons a as ih =>
    rw [runUp] at h
    split at h
    · rename_i hr
      obtain ⟨cs, hsub, hchain, hcover⟩ := ih h
      refine ⟨a :: cs, (List.subperm_cons a).mpr hsub, hchain.cons_cons hr, fun b hb => ?_⟩
      rcases List.mem_cons.mp hb with rfl | hb
      · exact ⟨b, List.mem_cons_self, hcmp.self b⟩
      · obtain ⟨d, hd, hgives⟩ := hcover b hb
        exact ⟨d, List.mem_cons_of_mem c hd, hgives⟩
    · rename_i hr
      obtain ⟨cs, hsub, hchain, hcover⟩ := ih h
      refine ⟨cs, hsub.cons_right a, hchain, fun b hb => ?_⟩
      simp only [List.mem_cons] at hb
      rcases hb with rfl | rfl | hb
      · exact hcover b List.mem_cons_self
      · exact ⟨c, List.mem_cons_self, hr⟩
      · exact hcover b (List.mem_cons_of_mem c hb)
    · exact absurd h (by simp)

theorem Ladder.of_runUp (hcmp : IsComparison replaces) {r : Option α}
    (h : runUp replaces none l = .ok r) : ∃ cs, Ladder replaces l cs := by
  cases l with
  | nil => exact ⟨[], List.Subperm.refl _, List.IsChain.nil, fun a ha => absurd ha List.not_mem_nil⟩
  | cons a as =>
    obtain ⟨cs, hsub, hchain, hcover⟩ := ladder_of_runUp hcmp h
    exact ⟨a :: cs, (List.subperm_cons a).mpr hsub, hchain, hcover⟩

/-- Each of the others right after the first step of the ladder to which it gives way. -/
theorem runUp_of_ladder {cs rest : List α}
    (hchain : (c :: cs).IsChain fun a b => replaces b a = .ok true)
    (hcover : ∀ a ∈ rest, ∃ d ∈ c :: cs, replaces a d = .ok false) :
    ∃ m, m.Perm (cs ++ rest) ∧ ∃ r, runUp replaces (some c) m = .ok r := by
  classical
  induction cs generalizing c rest with
  | nil =>
    refine ⟨rest, List.Perm.refl _, some c, ?_⟩
    have hall : ∀ a ∈ rest, replaces a c = .ok false := by
      intro a ha
      obtain ⟨d, hd, hgives⟩ := hcover a ha
      rwa [List.mem_singleton.mp hd] at hgives
    have hstays : runUp replaces (some c) (rest ++ []) = runUp replaces (some c) [] :=
      runUp_stays hall
    rwa [List.append_nil] at hstays
  | cons b bs ih =>
    rw [List.isChain_cons_cons] at hchain
    -- what gives way to the first step comes before the second
    let now := rest.filter fun a => decide (replaces a c = .ok false)
    let later := rest.filter fun a => !decide (replaces a c = .ok false)
    have hsplit : (now ++ later).Perm rest := List.filter_append_perm _ rest
    have hnow : ∀ a ∈ now, replaces a c = .ok false := fun a ha => by
      simpa using (List.mem_filter.mp ha).2
    have hlater : ∀ a ∈ later, ∃ d ∈ b :: bs, replaces a d = .ok false := by
      intro a ha
      obtain ⟨hmem, hnot⟩ := List.mem_filter.mp ha
      obtain ⟨d, hd, hgives⟩ := hcover a hmem
      rcases List.mem_cons.mp hd with rfl | hd
      · exact absurd hgives (by simpa using hnot)
      · exact ⟨d, hd, hgives⟩
    obtain ⟨m, hperm, r, hrun⟩ := ih hchain.2 hlater
    refine ⟨now ++ b :: m, ?_, r, ?_⟩
    · calc (now ++ b :: m).Perm (b :: (now ++ m)) := List.perm_middle
        _ |>.Perm (b :: (now ++ (bs ++ later))) := (hperm.append_left now).cons b
        _ |>.Perm (b :: (bs ++ (now ++ later))) := by
          refine List.Perm.cons b ?_
          rw [← List.append_assoc, ← List.append_assoc]
          exact List.perm_append_comm.append_right later
        _ |>.Perm (b :: bs ++ rest) := (hsplit.append_left bs).cons b
    · rw [runUp_stays hnow, runUp, hchain.1]
      exact hrun

/-- Some order of the candidates is selected from without an error exactly when they have a
ladder. -/
theorem exists_runUp_iff (hcmp : IsComparison replaces) :
    (∃ m, m.Perm l ∧ ∃ r, runUp replaces none m = .ok r) ↔ ∃ cs, Ladder replaces l cs := by
  constructor
  · rintro ⟨m, hperm, r, hrun⟩
    obtain ⟨cs, hwithin, hrising, hcovers⟩ := Ladder.of_runUp hcmp hrun
    exact ⟨cs, hperm.subperm_left.mp hwithin, hrising, fun a ha => hcovers a (hperm.mem_iff.mpr ha)⟩
  · rintro ⟨cs, hwithin, hrising, hcovers⟩
    obtain ⟨ds, hds, hsub⟩ := hwithin
    obtain ⟨rest, hsplit⟩ := hsub.exists_perm_append
    have hrest : l.Perm (cs ++ rest) := hsplit.trans (hds.append_right rest)
    cases cs with
    | nil =>
      have hnil : l = [] := by
        refine List.eq_nil_iff_forall_not_mem.mpr fun a ha => ?_
        obtain ⟨c, hc, -⟩ := hcovers a ha
        exact absurd hc List.not_mem_nil
      exact ⟨[], hnil ▸ List.Perm.refl _, none, rfl⟩
    | cons c cs =>
      have hothers : ∀ a ∈ rest, ∃ d ∈ c :: cs, replaces a d = .ok false := fun a ha =>
        hcovers a (hrest.mem_iff.mpr (List.mem_append_right _ ha))
      obtain ⟨m, hperm, r, hrun⟩ := runUp_of_ladder hrising hothers
      exact ⟨c :: m, (hperm.cons c).trans hrest.symm, r, hrun⟩

/-- Where every order of the candidates selects the same one, any two can be compared and it
replaces all others. -/
theorem settled_of_same (hcmp : IsComparison replaces) (hw : w ∈ l)
    (h : ∀ m : List α, m.Perm l → runUp replaces none m = .ok (some w)) :
    Settled replaces l := by
  classical
  -- two candidates are compared in an order that they begin
  have hpair : ∀ a ∈ l, ∀ b ∈ l, a ≠ b → ∃ r, replaces b a = .ok r := by
    intro a ha b hb hne
    obtain ⟨m, hm⟩ : ∃ m, l.Perm (a :: m) := ⟨_, List.perm_cons_erase ha⟩
    have hbm : b ∈ m := (List.mem_cons.mp (hm.mem_iff.mp hb)).resolve_left hne.symm
    obtain ⟨n, hn⟩ : ∃ n, m.Perm (b :: n) := ⟨_, List.perm_cons_erase hbm⟩
    have hrun := h (a :: b :: n) ((hn.symm.cons a).trans hm.symm)
    rw [runUp, runUp] at hrun
    cases hr : replaces b a with
    | ok r => exact ⟨r, rfl⟩
    | error e =>
      rw [hr] at hrun
      exact absurd hrun (by simp)
  refine ⟨fun a ha b hb => ?_, w, hw, fun a ha => ?_⟩
  · by_cases hne : b = a
    · exact ⟨false, hne ▸ hcmp.self b⟩
    · exact hpair b hb a ha hne
  · by_contra hnot
    rw [not_or] at hnot
    -- begin with this one, then every copy of the selected one: it is never selected again
    let copies := l.filter fun b => decide (b = w)
    let others := l.filter fun b => !decide (b = w)
    have hsplit : (copies ++ others).Perm l := List.filter_append_perm _ l
    have haothers : a ∈ others := List.mem_filter.mpr ⟨ha, by simpa using hnot.1⟩
    obtain ⟨rest, hrest⟩ : ∃ rest, others.Perm (a :: rest) := ⟨_, List.perm_cons_erase haothers⟩
    have hstays : ∀ b ∈ copies, replaces b a = .ok false := by
      intro b hb
      have hbw : b = w := by simpa using (List.mem_filter.mp hb).2
      obtain ⟨r, hr⟩ := hpair a ha w hw hnot.1
      cases r with
      | true => exact absurd hr hnot.2
      | false => exact hbw ▸ hr
    have horder : (a :: (copies ++ rest)).Perm l := by
      calc (a :: (copies ++ rest)).Perm (copies ++ a :: rest) := List.perm_middle.symm
        _ |>.Perm (copies ++ others) := hrest.symm.append_left copies
        _ |>.Perm l := hsplit
    have hrun := h _ horder
    rw [runUp, runUp_stays hstays] at hrun
    obtain ⟨b, hb, hbw⟩ := runUp_some_mem hrun
    have hbothers : b ∈ others := hrest.mem_iff.mpr hb
    exact absurd (List.mem_filter.mp hbothers).2 (by simp [Option.some.inj hbw])

end OneStream

section Streams

variable [DecidableEq κ] (key : α → κ) (check : α → Except ε Unit)
  (replaces : α → α → Except ε Bool)

/-- The candidates under one key. -/
def stream (k : κ) (l : List α) : List α := l.filter fun a => decide (key a = k)

variable {key} in
/-- The selection under each key, kept in a dictionary. -/
def selectLatest (d : KeyedDict key) : List α → Except ε (KeyedDict key)
  | [] => .ok d
  | a :: as =>
    match check a with
    | .error e => .error e
    | .ok () =>
      match d.get? (key a) with
      | none => selectLatest (d.put a) as
      | some current =>
        match replaces a current with
        | .error e => .error e
        | .ok true => selectLatest (d.put a) as
        | .ok false => selectLatest d as

variable {key check replaces} {d e : KeyedDict key} {l m : List α} {a : α} {k : κ}

theorem mem_stream : a ∈ stream key k l ↔ a ∈ l ∧ key a = k := by
  simp only [stream, List.mem_filter, decide_eq_true_eq]

theorem stream_perm (h : l.Perm m) : (stream key k l).Perm (stream key k m) := h.filter _

theorem stream_eq_nil (h : k ∉ l.map key) : stream key k l = [] := by
  refine List.eq_nil_iff_forall_not_mem.mpr fun a ha => ?_
  obtain ⟨hal, hak⟩ := mem_stream.mp ha
  exact h (List.mem_map.mpr ⟨a, hal, hak⟩)

theorem stream_cons_self (a : α) (l : List α) :
    stream key (key a) (a :: l) = a :: stream key (key a) l := by
  simp [stream]

theorem stream_cons_ne (h : key a ≠ k) : stream key k (a :: l) = stream key k l := by
  simp [stream, h]

/-- Under each key, what is selected is what the candidates under it select. -/
theorem selectLatest_ok (h : selectLatest check replaces d l = .ok e) :
    (∀ a ∈ l, check a = .ok ()) ∧
      ∀ k, runUp replaces (d.get? k) (stream key k l) = .ok (e.get? k) := by
  induction l generalizing d with
  | nil =>
    rw [selectLatest, Except.ok.injEq] at h
    exact ⟨fun a ha => absurd ha List.not_mem_nil, fun k => by rw [h]; rfl⟩
  | cons a as ih =>
    rw [selectLatest] at h
    split at h
    · exact absurd h (by simp)
    rename_i hcheck
    have hchecks : ∀ {d' : KeyedDict key}, selectLatest check replaces d' as = .ok e →
        ∀ b ∈ a :: as, check b = .ok () := by
      intro d' h' b hb
      rcases List.mem_cons.mp hb with rfl | hb
      · exact hcheck
      · exact (ih h').1 b hb
    -- a key other than the candidate's reads the rest only
    have hother : ∀ {d' : KeyedDict key}, selectLatest check replaces d' as = .ok e →
        ∀ k, key a ≠ k → d'.get? k = d.get? k →
          runUp replaces (d.get? k) (stream key k (a :: as)) = .ok (e.get? k) := by
      intro d' h' k hk hget
      rw [stream_cons_ne hk, ← hget]
      exact (ih h').2 k
    split at h
    · rename_i hnone
      refine ⟨hchecks h, fun k => ?_⟩
      by_cases hk : key a = k
      · subst hk
        rw [hnone, stream_cons_self, runUp, ← KeyedDict.get?_put_self d a]
        exact (ih h).2 (key a)
      · exact hother h k hk (KeyedDict.get?_put_ne d hk)
    · rename_i current hsome
      split at h
      · exact absurd h (by simp)
      · rename_i hr
        refine ⟨hchecks h, fun k => ?_⟩
        by_cases hk : key a = k
        · subst hk
          rw [hsome, stream_cons_self, runUp, hr, ← KeyedDict.get?_put_self d a]
          exact (ih h).2 (key a)
        · exact hother h k hk (KeyedDict.get?_put_ne d hk)
      · rename_i hr
        refine ⟨hchecks h, fun k => ?_⟩
        by_cases hk : key a = k
        · subst hk
          rw [hsome, stream_cons_self, runUp, hr, ← hsome]
          exact (ih h).2 (key a)
        · exact hother h k hk rfl

/-- Nothing but a check or a comparison under one key stops the selection. -/
theorem selectLatest_of_runUp (hcheck : ∀ a ∈ l, check a = .ok ())
    (h : ∀ k, ∃ r, runUp replaces (d.get? k) (stream key k l) = .ok r) :
    ∃ e, selectLatest check replaces d l = .ok e := by
  induction l generalizing d with
  | nil => exact ⟨d, rfl⟩
  | cons a as ih =>
    have hrest : ∀ b ∈ as, check b = .ok () := fun b hb => hcheck b (List.mem_cons_of_mem a hb)
    -- the dictionary that the candidate leaves changes at most its own key
    have hnext : ∀ d' : KeyedDict key, (∀ k, key a ≠ k → d'.get? k = d.get? k) →
        (∃ r, runUp replaces (d'.get? (key a)) (stream key (key a) as) = .ok r) →
        ∃ e, selectLatest check replaces d' as = .ok e := by
      intro d' hsame hown
      refine ih hrest fun k => ?_
      by_cases hk : key a = k
      · exact hk ▸ hown
      · rw [hsame k hk, ← stream_cons_ne hk]
        exact h k
    have hput : ∀ k, key a ≠ k → (d.put a).get? k = d.get? k := fun k => KeyedDict.get?_put_ne d
    obtain ⟨r, hr⟩ := h (key a)
    rw [stream_cons_self] at hr
    rw [selectLatest, hcheck a List.mem_cons_self]
    cases hget : d.get? (key a) with
    | none =>
      rw [hget, runUp] at hr
      exact hnext _ hput ⟨r, by rwa [KeyedDict.get?_put_self]⟩
    | some current =>
      rw [hget, runUp] at hr
      cases hcmp : replaces a current with
      | error e =>
        rw [hcmp] at hr
        exact absurd hr (by simp)
      | ok replaced =>
        cases replaced with
        | true =>
          rw [hcmp] at hr
          simp only [hcmp]
          exact hnext _ hput ⟨r, by rwa [KeyedDict.get?_put_self]⟩
        | false =>
          rw [hcmp] at hr
          simp only [hcmp]
          exact hnext d (fun _ _ => rfl) ⟨r, by rwa [hget]⟩

theorem stream_flatMap {f : κ → List α} (hf : ∀ k, ∀ a ∈ f k, key a = k) {ks : List κ}
    (hks : ks.Nodup) (k : κ) : stream key k (ks.flatMap f) = if k ∈ ks then f k else [] := by
  induction ks with
  | nil => rfl
  | cons k' ks ih =>
    rw [List.nodup_cons] at hks
    have hhead : stream key k (f k') = if k' = k then f k else [] := by
      split
      · rename_i hk
        subst hk
        exact List.filter_eq_self.mpr fun a ha => decide_eq_true (hf k' a ha)
      · rename_i hk
        refine List.filter_eq_nil_iff.mpr fun a ha => ?_
        rw [decide_eq_true_eq, hf k' a ha]
        exact hk
    have happend : stream key k ((k' :: ks).flatMap f) =
        stream key k (f k') ++ stream key k (ks.flatMap f) := by
      rw [List.flatMap_cons, stream, List.filter_append]
      rfl
    rw [happend, hhead, ih hks.2]
    by_cases hk : k' = k
    · subst hk
      simp [hks.1]
    · have hmem : k ∈ k' :: ks ↔ k ∈ ks := by simp [Ne.symm hk]
      simp only [hk, if_false, List.nil_append, hmem]

/-- The candidates can be put in an order that has any given order under each key. -/
theorem exists_order {f : κ → List α} (hf : ∀ k, (f k).Perm (stream key k l)) :
    ∃ m, m.Perm l ∧ ∀ k, stream key k m = f k := by
  classical
  have hkey : ∀ k, ∀ a ∈ f k, key a = k := fun k a ha =>
    (mem_stream.mp ((hf k).mem_iff.mp ha)).2
  have hstream : ∀ k, stream key k ((l.map key).dedup.flatMap f) = f k := by
    intro k
    simp only [stream_flatMap hkey (List.nodup_dedup _), List.mem_dedup]
    split
    · rfl
    · rename_i hk
      -- no candidate stands under this key
      exact (List.perm_nil.mp ((hf k).trans (List.Perm.of_eq (stream_eq_nil hk)))).symm
  refine ⟨_, List.perm_iff_count.mpr fun a => ?_, hstream⟩
  have hcount : ∀ n : List α, List.count a (stream key (key a) n) = List.count a n := fun n =>
    List.count_filter (by simp)
  rw [← hcount, hstream, (hf (key a)).count_eq, hcount]

/-- Some order of the candidates goes through exactly when each of them passes its check and the
candidates under each key have a ladder. -/
theorem exists_selectLatest_iff (hcmp : IsComparison replaces) :
    (∃ m, m.Perm l ∧ ∃ e, selectLatest check replaces (KeyedDict.empty : KeyedDict key) m = .ok e)
      ↔ (∀ a ∈ l, check a = .ok ()) ∧
        ∀ a ∈ l, ∃ cs, Ladder replaces (stream key (key a) l) cs := by
  classical
  constructor
  · rintro ⟨m, hperm, e, hselect⟩
    obtain ⟨hcheck, hrun⟩ := selectLatest_ok hselect
    refine ⟨fun a ha => hcheck a (hperm.mem_iff.mpr ha), fun a ha => ?_⟩
    exact (exists_runUp_iff hcmp).mp ⟨_, stream_perm hperm, _, hrun (key a)⟩
  · rintro ⟨hcheck, hladder⟩
    -- an order under each key that goes through
    have hkeys : ∀ k, ∃ n, n.Perm (stream key k l) ∧ ∃ r, runUp replaces none n = .ok r := by
      intro k
      by_cases hk : k ∈ l.map key
      · obtain ⟨a, ha, rfl⟩ := List.mem_map.mp hk
        exact (exists_runUp_iff hcmp).mpr (hladder a ha)
      · exact ⟨[], List.Perm.of_eq (stream_eq_nil hk).symm, none, rfl⟩
    choose f hf hrun using hkeys
    obtain ⟨m, hperm, hstream⟩ := exists_order hf
    refine ⟨m, hperm, selectLatest_of_runUp (fun a ha => hcheck a (hperm.mem_iff.mp ha)) ?_⟩
    intro k
    rw [hstream k]
    exact hrun k

/-- Every order of the candidates goes through, and selects the same, exactly when each of them
passes its check and the candidates under each key are settled. -/
theorem same_selectLatest_iff (hcmp : IsComparison replaces) :
    (∃ e : KeyedDict key, ∀ m, m.Perm l → ∃ e' : KeyedDict key,
        selectLatest check replaces KeyedDict.empty m = .ok e' ∧ ∀ k, e'.get? k = e.get? k) ↔
      (∀ a ∈ l, check a = .ok ()) ∧ ∀ a ∈ l, Settled replaces (stream key (key a) l) := by
  constructor
  · rintro ⟨e, hsame⟩
    obtain ⟨e', hselect, -⟩ := hsame l (List.Perm.refl l)
    refine ⟨(selectLatest_ok hselect).1, fun a ha => ?_⟩
    -- any order of the candidates under the key is taken within an order of all
    have horders : ∀ n : List α, n.Perm (stream key (key a) l) →
        runUp replaces none n = .ok (e.get? (key a)) := by
      intro n hn
      let f := fun k => if k = key a then n else stream key k l
      have hf : ∀ k, (f k).Perm (stream key k l) := by
        intro k
        by_cases hk : k = key a
        · subst hk
          simpa only [f, if_true] using hn
        · simp only [f, hk, if_false]
          exact List.Perm.refl _
      obtain ⟨m, hperm, hstream⟩ := exists_order hf
      obtain ⟨e', hselect, hget⟩ := hsame m hperm
      have hrun := (selectLatest_ok hselect).2 (key a)
      rw [hstream (key a), hget] at hrun
      simpa only [f, if_true, KeyedDict.get?_empty] using hrun
    have hmem : a ∈ stream key (key a) l := mem_stream.mpr ⟨ha, rfl⟩
    have hown := horders _ (List.Perm.refl _)
    obtain ⟨w, hw, hget⟩ : ∃ w ∈ stream key (key a) l, e.get? (key a) = some w := by
      cases hl : stream key (key a) l with
      | nil => exact absurd (hl ▸ hmem) List.not_mem_nil
      | cons c cs =>
        rw [hl] at hown
        exact runUp_some_mem hown
    exact settled_of_same hcmp hw fun n hn => hget ▸ horders n hn
  · rintro ⟨hcheck, hsettled⟩
    have hrun : ∀ k, ∃ r, ∀ m, m.Perm l → runUp replaces none (stream key k m) = .ok r := by
      intro k
      by_cases hk : k ∈ l.map key
      · obtain ⟨a, ha, rfl⟩ := List.mem_map.mp hk
        obtain ⟨hall, w, hw, htop⟩ := hsettled a ha
        refine ⟨some w, fun m hm => Settled.runUp_eq hcmp ?_ ?_ ?_⟩
        · intro b hb c hc
          exact hall b ((stream_perm hm).mem_iff.mp hb) c ((stream_perm hm).mem_iff.mp hc)
        · exact (stream_perm hm).mem_iff.mpr hw
        · exact fun b hb => htop b ((stream_perm hm).mem_iff.mp hb)
      · refine ⟨none, fun m hm => ?_⟩
        rw [stream_eq_nil fun hm' => hk ((hm.map key).mem_iff.mp hm'), runUp]
    have hselect : ∀ m, m.Perm l →
        ∃ e, selectLatest check replaces (KeyedDict.empty : KeyedDict key) m = .ok e := by
      intro m hm
      refine selectLatest_of_runUp (fun a ha => hcheck a (hm.mem_iff.mp ha)) fun k => ?_
      obtain ⟨r, hr⟩ := hrun k
      exact ⟨r, hr m hm⟩
    obtain ⟨e, he⟩ := hselect l (List.Perm.refl l)
    refine ⟨e, fun m hm => ?_⟩
    obtain ⟨e', he'⟩ := hselect m hm
    refine ⟨e', he', fun k => ?_⟩
    obtain ⟨r, hr⟩ := hrun k
    have h1 := (selectLatest_ok he').2 k
    have h2 := (selectLatest_ok he).2 k
    rw [KeyedDict.get?_empty, hr m hm] at h1
    rw [KeyedDict.get?_empty, hr l (List.Perm.refl l)] at h2
    exact (Except.ok.inj h1).symm.trans (Except.ok.inj h2)

/-- What is selected under a key is one of the candidates under it. -/
theorem selectLatest_mem (h : selectLatest check replaces KeyedDict.empty l = .ok e)
    (ha : e.get? k = some a) : a ∈ stream key k l := by
  have hrun := (selectLatest_ok h).2 k
  rw [KeyedDict.get?_empty, ha] at hrun
  cases hl : stream key k l with
  | nil =>
    rw [hl, runUp] at hrun
    exact absurd hrun (by simp)
  | cons c cs =>
    rw [hl] at hrun
    obtain ⟨b, hb, hab⟩ := runUp_some_mem hrun
    rwa [Option.some.inj hab]

theorem selectLatest_subset (h : selectLatest check replaces KeyedDict.empty l = .ok e)
    (ha : a ∈ e.values) : a ∈ l :=
  (mem_stream.mp (selectLatest_mem h (KeyedDict.mem_values.mp ha))).1

end Streams

end Selections
