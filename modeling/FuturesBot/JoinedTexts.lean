import Mathlib.Data.List.Infix
import Mathlib.Data.List.Nodup

/-! Parts of a text with a separator between them, where a part may have the separator in it. Which
parts make one text. -/
namespace SeparatorTexts

variable {α : Type} {c : α}

/-- The separator stands further on in the second pair: what lies between the two places is at the
start of the second part of one and at the end of the first part of the other. -/
def Moved (c : α) (x y x' y' : List α) : Prop :=
  ∃ between, x' = x ++ c :: between ∧ y = between ++ c :: y'

theorem Moved.length_lt {x y x' y' : List α} (h : Moved c x y x' y') : x.length < x'.length := by
  obtain ⟨between, rfl, -⟩ := h
  simp only [List.length_append, List.length_cons]
  omega

theorem moved_of_append {x y x' y' mid : List α} (hx : x' = x ++ mid)
    (hy : c :: y = mid ++ c :: y') : (x = x' ∧ y = y') ∨ Moved c x y x' y' := by
  cases mid with
  | nil =>
    rw [List.append_nil] at hx
    exact .inl ⟨hx.symm, (List.cons.inj hy).2⟩
  | cons d between =>
    obtain ⟨rfl, hrest⟩ := List.cons.inj hy
    exact .inr ⟨between, hx, hrest⟩

/-- Two pairs make one text when they are the same, or the separator has moved. -/
theorem pair_eq_iff {x y x' y' : List α} : x ++ c :: y = x' ++ c :: y' ↔
    (x = x' ∧ y = y') ∨ Moved c x y x' y' ∨ Moved c x' y' x y := by
  constructor
  · intro h
    rcases List.append_eq_append_iff.mp h with ⟨mid, hx, hy⟩ | ⟨mid, hx, hy⟩
    · exact (moved_of_append hx hy).imp_right .inl
    · exact (moved_of_append hx hy).imp (fun h => ⟨h.1.symm, h.2.symm⟩) .inr
  · rintro (⟨rfl, rfl⟩ | ⟨between, rfl, rfl⟩ | ⟨between, rfl, rfl⟩)
    · rfl
    · simp only [List.append_assoc, List.cons_append]
    · simp only [List.append_assoc, List.cons_append]

/-- A last part without the separator is cut off in one way. -/
theorem last_inj {x y x' y' : List α} (hy : c ∉ y) (hy' : c ∉ y')
    (h : x ++ c :: y = x' ++ c :: y') : x = x' ∧ y = y' := by
  have hmem : ∀ {a b : List α}, c ∈ a ++ c :: b := List.mem_append_right _ List.mem_cons_self
  rcases pair_eq_iff.mp h with h | ⟨between, -, rfl⟩ | ⟨between, -, rfl⟩
  · exact h
  · exact absurd hmem hy
  · exact absurd hmem hy'

/-- A first part without the separator is cut off in one way. -/
theorem first_inj {x y x' y' : List α} (hx : c ∉ x) (hx' : c ∉ x')
    (h : x ++ c :: y = x' ++ c :: y') : x = x' ∧ y = y' := by
  have hmem : ∀ {a b : List α}, c ∈ a ++ c :: b := List.mem_append_right _ List.mem_cons_self
  rcases pair_eq_iff.mp h with h | ⟨between, rfl, -⟩ | ⟨between, rfl, -⟩
  · exact h
  · exact absurd hmem hx'
  · exact absurd hmem hx

/-! Any number of parts behind a first one. -/

/-- Every part with the separator before it. -/
def tails (c : α) (parts : List (List α)) : List α := parts.flatMap (c :: ·)

theorem tails_append (parts more : List (List α)) :
    tails c (parts ++ more) = tails c parts ++ tails c more := List.flatMap_append

theorem tails_nil : tails c [] = [] := List.flatMap_nil

theorem tails_cons (part : List α) (parts : List (List α)) :
    tails c (part :: parts) = c :: (part ++ tails c parts) := rfl

theorem tails_concat (parts : List (List α)) (part : List α) :
    tails c (parts ++ [part]) = tails c parts ++ c :: part := by
  rw [tails_append, tails_cons, tails_nil, List.append_nil]

theorem intercalate_cons (part : List α) (parts : List (List α)) :
    List.intercalate [c] (part :: parts) = part ++ tails c parts := by
  induction parts generalizing part with
  | nil => simp [List.intercalate, tails]
  | cons next parts ih =>
    rw [tails_cons, ← ih next]
    simp [List.intercalate]

/-- Of two lists of parts without the separator, one is the end of the other, and what it lacks
stands at the end of its first part. -/
theorem tails_eq_iff {parts parts' : List (List α)} (h : ∀ part ∈ parts, c ∉ part)
    (h' : ∀ part ∈ parts', c ∉ part) {x x' : List α} :
    x ++ tails c parts = x' ++ tails c parts' ↔
      (∃ more, parts' = more ++ parts ∧ x = x' ++ tails c more) ∨
        ∃ more, parts = more ++ parts' ∧ x' = x ++ tails c more := by
  constructor
  · -- from the last part back
    induction parts using List.reverseRecOn generalizing parts' with
    | nil =>
      intro heq
      rw [tails_nil, List.append_nil] at heq
      exact .inl ⟨parts', (List.append_nil parts').symm, heq⟩
    | append_singleton parts part ih =>
      rcases List.eq_nil_or_concat parts' with rfl | ⟨front', part', rfl⟩
      · intro heq
        rw [tails_nil, List.append_nil] at heq
        exact .inr ⟨parts ++ [part], (List.append_nil _).symm, heq.symm⟩
      · intro heq
        rw [List.concat_eq_append] at h' heq ⊢
        have hfront : ∀ p ∈ parts, c ∉ p := fun p hp => h p (List.mem_append_left _ hp)
        have hfront' : ∀ p ∈ front', c ∉ p := fun p hp => h' p (List.mem_append_left _ hp)
        have hlast : c ∉ part := h part (List.mem_append_right _ List.mem_cons_self)
        have hlast' : c ∉ part' := h' part' (List.mem_append_right _ List.mem_cons_self)
        rw [tails_concat, tails_concat, ← List.append_assoc, ← List.append_assoc] at heq
        obtain ⟨hrest, rfl⟩ := last_inj hlast hlast' heq
        rcases ih hfront hfront' hrest with ⟨more, rfl, hx⟩ | ⟨more, rfl, hx⟩
        · exact .inl ⟨more, List.append_assoc _ _ _, hx⟩
        · exact .inr ⟨more, List.append_assoc _ _ _, hx⟩
  · rintro (⟨more, rfl, rfl⟩ | ⟨more, rfl, rfl⟩)
    · rw [tails_append, List.append_assoc]
    · rw [tails_append, List.append_assoc]

end SeparatorTexts

/-! Texts that start with one of several tags, no tag being the start of another: the tag and the
rest can be read off. -/
namespace TaggedTexts

variable {α : Type}

/-- No tag starts with another one. -/
def PrefixFree (tags : List (List α)) : Prop := ∀ a ∈ tags, ∀ b ∈ tags, a <+: b → a = b

instance [DecidableEq α] (tags : List (List α)) : Decidable (PrefixFree tags) :=
  inferInstanceAs (Decidable (∀ a ∈ tags, ∀ b ∈ tags, a <+: b → a = b))

/-- A tagged text is read in one way. -/
theorem PrefixFree.append_inj {tags : List (List α)} (h : PrefixFree tags) {a b x y : List α}
    (ha : a ∈ tags) (hb : b ∈ tags) (heq : a ++ x = b ++ y) : a = b ∧ x = y := by
  have htag : a = b := by
    have ha' : a <+: b ++ y := ⟨x, heq⟩
    have hb' : b <+: b ++ y := List.prefix_append b y
    rcases List.prefix_or_prefix_of_prefix ha' hb' with hab | hba
    · exact h a ha b hb hab
    · exact (h b hb a ha hba).symm
  subst htag
  exact ⟨rfl, List.append_cancel_left heq⟩

/-- Before a separator that neither text has, the texts can be read off. -/
theorem separator_inj {c : α} {x x' y y' : List α} (hx : c ∉ x) (hx' : c ∉ x')
    (heq : x ++ c :: y = x' ++ c :: y') : x = x' ∧ y = y' := by
  induction x generalizing x' with
  | nil =>
    cases x' with
    | nil => exact ⟨rfl, (List.cons.inj heq).2⟩
    | cons a x' => exact absurd ((List.cons.inj heq).1 ▸ List.mem_cons_self) hx'
  | cons a x ih =>
    cases x' with
    | nil => exact absurd ((List.cons.inj heq).1 ▸ List.mem_cons_self) hx
    | cons b x' =>
      obtain ⟨rfl, htail⟩ := List.cons.inj heq
      obtain ⟨rfl, rfl⟩ := ih (List.not_mem_of_not_mem_cons hx) (List.not_mem_of_not_mem_cons hx')
        htail
      exact ⟨rfl, rfl⟩

/-! Ids made of a base, a tag and a rest. -/

/-- The ids of groups, each with its tag and the rests under it. -/
def groupIds (base : String) (groups : List (String × List String)) : List String :=
  groups.flatMap fun group => group.2.map fun rest => base ++ group.1 ++ rest

theorem tagged_inj {tags : List String} (h : PrefixFree (tags.map (·.toList)))
    {base a b x y : String} (ha : a ∈ tags) (hb : b ∈ tags)
    (heq : base ++ a ++ x = base ++ b ++ y) : a = b ∧ x = y := by
  have hchars := congrArg String.toList heq
  simp only [String.toList_append, List.append_assoc] at hchars
  obtain ⟨htag, hrest⟩ := h.append_inj (List.mem_map_of_mem ha) (List.mem_map_of_mem hb)
    (List.append_cancel_left hchars)
  exact ⟨String.ext htag, String.ext hrest⟩

/-- The ids of groups differ when their tags do, and the rests under each tag do. -/
theorem groupIds_nodup (base : String) {groups : List (String × List String)}
    (hfree : PrefixFree ((groups.map (·.1)).map (·.toList))) (htags : (groups.map (·.1)).Nodup)
    (hrests : ∀ group ∈ groups, group.2.Nodup) : (groupIds base groups).Nodup := by
  refine List.nodup_flatMap.mpr ⟨fun group hgroup => ?_, ?_⟩
  · refine (hrests group hgroup).map_on fun x _ y _ heq => ?_
    have htag : group.1 ∈ groups.map (·.1) := List.mem_map_of_mem hgroup
    exact (tagged_inj hfree htag htag heq).2
  · refine (List.pairwise_map.mp htags).imp_of_mem fun {g g'} hg hg' hne => ?_
    refine List.disjoint_left.mpr fun id hid hid' => ?_
    obtain ⟨x, -, rfl⟩ := List.mem_map.mp hid
    obtain ⟨y, -, heq⟩ := List.mem_map.mp hid'
    exact hne (tagged_inj hfree (List.mem_map_of_mem hg) (List.mem_map_of_mem hg') heq.symm).1

end TaggedTexts
