import FuturesBot.JsonParse

/-! Typed values as JSON: a codec is a writer with a reader that undoes it, and codecs of
the members of an object give one of the object. -/
namespace JsonCodec

open JsonText

structure Codec (α : Type) where
  dump : α → Json
  load : Json → Option α
  load_dump : ∀ a, load (dump a) = some a

def text : Codec String where
  dump s := .str s
  load
    | .str s => some s
    | _ => none
  load_dump _ := rfl

theorem text_dump_ne_null (s : String) : text.dump s ≠ .null := nofun

def flag : Codec Bool where
  dump b := .bool b
  load
    | .bool b => some b
    | _ => none
  load_dump _ := rfl

def count : Codec ℕ where
  dump n := .int n
  load
    | .int n => if 0 ≤ n then some n.toNat else none
    | _ => none
  load_dump n := by simp only [Int.natCast_nonneg, ↓reduceIte, Int.toNat_natCast]

/-- Any value, as it stands. -/
def value : Codec Json where
  dump v := v
  load v := some v
  load_dump _ := rfl

/-- The members of an object of any shape. -/
def members : Codec (List (String × Json)) where
  dump ms := .obj ms
  load
    | .obj ms => some ms
    | _ => none
  load_dump _ := rfl

namespace Codec

variable {α β : Type}

/-- Values of `β` written as the values of `α` they stand for, and checked on reading. -/
def refine (c : Codec α) (check : α → Option β) (forget : β → α)
    (h : ∀ b, check (forget b) = some b) : Codec β where
  dump b := c.dump (forget b)
  load v := (c.load v).bind check
  load_dump b := by rw [c.load_dump, Option.bind_some, h]

/-- `None` written as null, where the values themselves are never null. -/
def optional (c : Codec α) (h : ∀ a, c.dump a ≠ .null) : Codec (Option α) where
  dump
    | none => .null
    | some a => c.dump a
  load v := if v = .null then some none else (c.load v).map some
  load_dump a := by
    cases a with
    | none => rfl
    | some a => simp only [h a, ↓reduceIte, c.load_dump, Option.map_some]

/-- The codec of a subtype. -/
def where_ (c : Codec α) (P : α → Prop) [DecidablePred P] : Codec {a // P a} :=
  c.refine (fun a => if h : P a then some ⟨a, h⟩ else none) (fun b => b.val)
    (fun b => by simp only [b.property, ↓reduceDIte])

end Codec

/-! Objects with a fixed list of members. -/

structure Field where
  name : String
  Value : Type
  codec : Codec Value
  /-- The value of a member that is missing. -/
  default : Option Value

abbrev required (name : String) {α : Type} (c : Codec α) : Field := ⟨name, α, c, none⟩

abbrev nullable (name : String) {α : Type} (c : Codec α) (h : ∀ a, c.dump a ≠ .null) : Field :=
  ⟨name, Option α, c.optional h, some none⟩

@[reducible] def Row : List Field → Type
  | [] => Unit
  | f :: fs => f.Value × Row fs

def dumpRow : (fs : List Field) → Row fs → List (String × Json)
  | [], _ => []
  | f :: fs, (v, r) => (f.name, f.codec.dump v) :: dumpRow fs r

def loadField (f : Field) (ms : List (String × Json)) : Option f.Value :=
  match ms.lookup f.name with
  | some v => f.codec.load v
  | none => f.default

def loadRow (ms : List (String × Json)) : (fs : List Field) → Option (Row fs)
  | [] => some ()
  | f :: fs => do
    let v ← loadField f ms
    let r ← loadRow ms fs
    some (v, r)

def fieldNames (fs : List Field) : List String := fs.map (·.name)

theorem dumpRow_names (fs : List Field) (r : Row fs) :
    (dumpRow fs r).map (·.1) = fieldNames fs := by
  induction fs with
  | nil => rfl
  | cons f fs ih =>
    obtain ⟨v, r⟩ := r
    simp only [dumpRow, fieldNames, List.map_cons]
    exact congrArg _ (ih r)

theorem loadRow_of_lookup (ms : List (String × Json)) (fs : List Field) (r : Row fs)
    (h : ∀ kv ∈ dumpRow fs r, ms.lookup kv.1 = some kv.2) : loadRow ms fs = some r := by
  induction fs with
  | nil => rfl
  | cons f fs ih =>
    obtain ⟨v, r⟩ := r
    have hv : ms.lookup f.name = some (f.codec.dump v) :=
      h (f.name, f.codec.dump v) List.mem_cons_self
    have hr := ih r fun kv hkv => h kv (List.mem_cons_of_mem _ hkv)
    simp only [loadRow, loadField, hv, f.codec.load_dump, hr, Option.bind_eq_bind,
      Option.bind_some]

theorem lookup_of_nodup {ms : List (String × Json)} (hnd : (ms.map (·.1)).Nodup)
    {kv : String × Json} (hmem : kv ∈ ms) : ms.lookup kv.1 = some kv.2 := by
  induction ms with
  | nil => exact absurd hmem List.not_mem_nil
  | cons m ms ih =>
    rw [List.map_cons, List.nodup_cons] at hnd
    rcases List.mem_cons.mp hmem with rfl | htail
    · rw [List.lookup_cons_self]
    · have hne : kv.1 ≠ m.1 := fun he =>
        hnd.1 (List.mem_map.mpr ⟨kv, htail, he⟩)
      rw [List.lookup_cons, beq_eq_false_iff_ne.mpr hne]
      exact ih hnd.2 htail

/-- An object with the members of `fs` and no others, read into `β`. -/
def record {β : Type} (fs : List Field) (hnd : (fieldNames fs).Nodup) (toRow : β → Row fs)
    (ofRow : Row fs → Option β) (h : ∀ b, ofRow (toRow b) = some b) : Codec β where
  dump b := .obj (dumpRow fs (toRow b))
  load
    | .obj ms => if ∀ m ∈ ms, m.1 ∈ fieldNames fs then (loadRow ms fs).bind ofRow else none
    | _ => none
  load_dump b := by
    have hnames := dumpRow_names fs (toRow b)
    have hknown : ∀ m ∈ dumpRow fs (toRow b), m.1 ∈ fieldNames fs := fun m hm => by
      rw [← hnames]
      exact List.mem_map_of_mem hm
    have hrow := loadRow_of_lookup (dumpRow fs (toRow b)) fs (toRow b) fun kv hkv =>
      lookup_of_nodup (by rw [hnames]; exact hnd) hkv
    simp only [if_pos hknown, hrow, Option.bind_some, h]

theorem record_dump_ne_null {β : Type} {fs : List Field} {hnd : (fieldNames fs).Nodup}
    {toRow : β → Row fs} {ofRow : Row fs → Option β} {h : ∀ b, ofRow (toRow b) = some b} (b : β) :
    (record fs hnd toRow ofRow h).dump b ≠ .null := nofun

end JsonCodec
