import FuturesBot.JsonCodec

/-! What sorting the members of objects does to a value, and codecs that read the sorted form of
what they write. -/
namespace JsonText

/-- Induction over the parts of a value. -/
theorem Json.induction {P : Json → Prop} (hnull : P .null) (hbool : ∀ b, P (.bool b))
    (hint : ∀ n, P (.int n)) (hfloat : ∀ f, P (.float f)) (hstr : ∀ s, P (.str s))
    (harr : ∀ items, (∀ v ∈ items, P v) → P (.arr items))
    (hobj : ∀ members, (∀ kv ∈ members, P kv.2) → P (.obj members)) (v : Json) : P v :=
  @Json.rec P (fun items => ∀ v ∈ items, P v) (fun members => ∀ kv ∈ members, P kv.2)
    (fun kv => P kv.2) hnull hbool hint hfloat hstr harr hobj
    (List.forall_mem_nil _) (fun _ _ hv hitems => List.forall_mem_cons.mpr ⟨hv, hitems⟩)
    (List.forall_mem_nil _) (fun _ _ hkv hmembers => List.forall_mem_cons.mpr ⟨hkv, hmembers⟩)
    (fun _ _ hv => hv) v

theorem sortKeysItems_eq_map (items : List Json) : sortKeysItems items = items.map sortKeys := by
  induction items with
  | nil => rfl
  | cons v items ih => rw [sortKeysItems, ih, List.map_cons]

theorem sortKeysMembers_eq_map (members : List (String × Json)) :
    sortKeysMembers members = members.map fun kv => (kv.1, sortKeys kv.2) := by
  induction members with
  | nil => rfl
  | cons kv members ih => rw [sortKeysMembers, ih, List.map_cons]

def ByName (a b : String × Json) : Prop := a.1 ≤ b.1

instance : DecidableRel ByName := fun a b => inferInstanceAs (Decidable (a.1 ≤ b.1))

/-- The members of a sorted object. -/
def sortedMembers (members : List (String × Json)) : List (String × Json) :=
  (members.map fun kv => (kv.1, sortKeys kv.2)).insertionSort ByName

theorem sortKeys_obj (members : List (String × Json)) :
    sortKeys (.obj members) = .obj (sortedMembers members) := by
  rw [sortKeys, sortKeysMembers_eq_map]
  rfl

theorem sortKeys_arr (items : List Json) : sortKeys (.arr items) = .arr (items.map sortKeys) := by
  rw [sortKeys, sortKeysItems_eq_map]

theorem sortedMembers_perm (members : List (String × Json)) :
    (sortedMembers members).Perm (members.map fun kv => (kv.1, sortKeys kv.2)) :=
  List.perm_insertionSort _ _

theorem mem_sortedMembers {members : List (String × Json)} {kv : String × Json} :
    kv ∈ sortedMembers members ↔ ∃ m ∈ members, (m.1, sortKeys m.2) = kv := by
  rw [(sortedMembers_perm members).mem_iff, List.mem_map]

theorem sortedMembers_names (members : List (String × Json)) :
    ((sortedMembers members).map (·.1)).Perm (members.map (·.1)) := by
  have h := (sortedMembers_perm members).map (·.1)
  rwa [List.map_map] at h

theorem sortedMembers_sorted (members : List (String × Json)) :
    (sortedMembers members).Pairwise ByName := by
  have htotal : Std.Total ByName := ⟨fun a b => String.le_total a.1 b.1⟩
  have htrans : IsTrans (String × Json) ByName := ⟨fun _ _ _ => String.le_trans⟩
  exact List.pairwise_insertionSort ByName _

/-- Sorting twice is sorting once. -/
theorem sortKeys_sortKeys (v : Json) : sortKeys (sortKeys v) = sortKeys v := by
  induction v using Json.induction with
  | hnull => rfl
  | hbool b => rfl
  | hint n => rfl
  | hfloat f => rfl
  | hstr s => rfl
  | harr items ih =>
    rw [sortKeys_arr, sortKeys_arr, List.map_map]
    congr 1
    exact List.map_congr_left ih
  | hobj members ih =>
    rw [sortKeys_obj, sortKeys_obj, sortedMembers]
    congr 1
    -- the members are sorted already, and so is each of their values
    have hvalues : (sortedMembers members).map (fun kv => (kv.1, sortKeys kv.2)) =
        sortedMembers members := by
      conv_rhs => rw [← List.map_id (sortedMembers members)]
      apply List.map_congr_left
      intro kv hkv
      obtain ⟨m, hm, rfl⟩ := mem_sortedMembers.mp hkv
      rw [ih m hm, id]
    rw [hvalues]
    exact List.Pairwise.insertionSort_eq (sortedMembers_sorted members)

/-! How deep a value is nested. -/

theorem itemsDepth_le {items : List Json} {n : ℕ} :
    itemsDepth items ≤ n ↔ ∀ v ∈ items, v.depth ≤ n := by
  induction items with
  | nil => simp [itemsDepth]
  | cons v items ih => rw [itemsDepth, Nat.max_le, ih, List.forall_mem_cons]

theorem membersDepth_le {members : List (String × Json)} {n : ℕ} :
    membersDepth members ≤ n ↔ ∀ kv ∈ members, kv.2.depth ≤ n := by
  induction members with
  | nil => simp [membersDepth]
  | cons kv members ih => rw [membersDepth, Nat.max_le, ih, List.forall_mem_cons]

theorem depth_sortKeys_le {v : Json} {n : ℕ} (h : v.depth ≤ n) : (sortKeys v).depth ≤ n := by
  induction v using Json.induction generalizing n with
  | hnull => exact h
  | hbool b => exact h
  | hint m => exact h
  | hfloat f => exact h
  | hstr s => exact h
  | harr items ih =>
    rw [Json.depth] at h
    have hitems := itemsDepth_le.mp (le_refl (itemsDepth items))
    rw [sortKeys_arr, Json.depth]
    suffices itemsDepth (items.map sortKeys) ≤ itemsDepth items by omega
    rw [itemsDepth_le, List.forall_mem_map]
    exact fun v hv => ih v hv (hitems v hv)
  | hobj members ih =>
    rw [Json.depth] at h
    have hmembers := membersDepth_le.mp (le_refl (membersDepth members))
    rw [sortKeys_obj, Json.depth]
    suffices membersDepth (sortedMembers members) ≤ membersDepth members by omega
    rw [membersDepth_le]
    intro kv hkv
    obtain ⟨m, hm, rfl⟩ := mem_sortedMembers.mp hkv
    exact ih m hm (hmembers m hm)

end JsonText

namespace JsonCodec

open JsonText

variable {α β : Type}

/-- The codec reads what it writes also when the members are sorted. -/
def Codec.ReadsSorted (c : Codec α) : Prop := ∀ a, c.load (sortKeys (c.dump a)) = some a

theorem text_readsSorted : text.ReadsSorted := fun _ => rfl

theorem count_readsSorted : count.ReadsSorted := fun n => count.load_dump n

namespace Codec

variable {c : Codec α}

theorem ReadsSorted.refine (h : c.ReadsSorted) {check : α → Option β} {forget : β → α}
    {hcheck : ∀ b, check (forget b) = some b} :
    (c.refine check forget hcheck).ReadsSorted := by
  intro b
  change (c.load (sortKeys (c.dump (forget b)))).bind check = some b
  rw [h, Option.bind_some, hcheck]

theorem ReadsSorted.where_ (h : c.ReadsSorted) {P : α → Prop} [DecidablePred P] :
    (c.where_ P).ReadsSorted := h.refine

theorem sortKeys_eq_null {v : Json} : sortKeys v = .null ↔ v = .null := by
  cases v <;> simp [sortKeys]

theorem ReadsSorted.optional (h : c.ReadsSorted) {hnull : ∀ a, c.dump a ≠ .null} :
    (c.optional hnull).ReadsSorted := by
  intro a
  cases a with
  | none => rfl
  | some a =>
    have hne : sortKeys (c.dump a) ≠ .null := fun heq => hnull a (sortKeys_eq_null.mp heq)
    change (if sortKeys (c.dump a) = .null then some none
      else (c.load (sortKeys (c.dump a))).map some) = some (some a)
    rw [if_neg hne, h, Option.map_some]

/-- A list, written as an array. -/
def list (c : Codec α) : Codec (List α) where
  dump as := .arr (as.map c.dump)
  load
    | .arr items => items.mapM c.load
    | _ => none
  load_dump as := by
    induction as with
    | nil => rfl
    | cons a as ih =>
      dsimp only at ih ⊢
      rw [List.map_cons, List.mapM_cons, c.load_dump, ih]
      rfl

theorem ReadsSorted.list (h : c.ReadsSorted) : c.list.ReadsSorted := by
  intro as
  change (match sortKeys (.arr (as.map c.dump)) with
    | .arr items => items.mapM c.load
    | _ => none) = some as
  rw [sortKeys_arr]
  dsimp only
  induction as with
  | nil => rfl
  | cons a as ih =>
    rw [List.map_cons, List.map_cons, List.mapM_cons, h, ih]
    rfl

end Codec

/-! Objects. -/

theorem loadRow_of_sorted {members : List (String × Json)} {fs : List Field} {r : Row fs}
    (hfields : ∀ f ∈ fs, f.codec.ReadsSorted)
    (h : ∀ kv ∈ dumpRow fs r, members.lookup kv.1 = some (sortKeys kv.2)) :
    loadRow members fs = some r := by
  induction fs with
  | nil => rfl
  | cons f fs ih =>
    obtain ⟨v, r⟩ := r
    have hv : members.lookup f.name = some (sortKeys (f.codec.dump v)) :=
      h (f.name, f.codec.dump v) List.mem_cons_self
    have hread := hfields f List.mem_cons_self v
    have hr := ih (r := r) (fun g hg => hfields g (List.mem_cons_of_mem _ hg))
      fun kv hkv => h kv (List.mem_cons_of_mem _ hkv)
    simp only [loadRow, loadField, hv, hread, hr, Option.bind_eq_bind, Option.bind_some]

/-- An object is read whatever the order of its members. -/
theorem record_readsSorted {fs : List Field} {hnd : (fieldNames fs).Nodup} {toRow : β → Row fs}
    {ofRow : Row fs → Option β} {h : ∀ b, ofRow (toRow b) = some b}
    (hfields : ∀ f ∈ fs, f.codec.ReadsSorted) :
    (record fs hnd toRow ofRow h).ReadsSorted := by
  intro b
  have hnames := dumpRow_names fs (toRow b)
  have hsorted := sortedMembers_names (dumpRow fs (toRow b))
  rw [hnames] at hsorted
  have hknown : ∀ m ∈ sortedMembers (dumpRow fs (toRow b)), m.1 ∈ fieldNames fs := fun m hm =>
    hsorted.mem_iff.mp (List.mem_map_of_mem hm)
  have hrow : loadRow (sortedMembers (dumpRow fs (toRow b))) fs = some (toRow b) := by
    apply loadRow_of_sorted hfields
    intro kv hkv
    have hmem : (kv.1, sortKeys kv.2) ∈ sortedMembers (dumpRow fs (toRow b)) :=
      mem_sortedMembers.mpr ⟨kv, hkv, rfl⟩
    exact lookup_of_nodup (hsorted.nodup_iff.mpr hnd) hmem
  change (record fs hnd toRow ofRow h).load (sortKeys (.obj (dumpRow fs (toRow b)))) = some b
  rw [sortKeys_obj]
  simp only [record, if_pos hknown, hrow, Option.bind_some, h]

end JsonCodec
