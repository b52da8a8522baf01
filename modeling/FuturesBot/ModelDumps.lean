import FuturesBot.CanonicalCodecs
import FuturesBot.DecimalNormal
import FuturesBot.JsonEquality
import FuturesBot.OrderIdentity

/-! What a model dumps and is read from again, as Python values and as JSON, and the canonical JSON
that is made of a dump: field by field, then for all fields of a model. -/
namespace FuturesBot.ModelDumps

open JsonText JsonCodec DateTimes DecimalNumbers

/-- A member of a dump: numbers and times as they are, all else as JSON has it. -/
inductive Dumped where
  | json (v : Json)
  | decimal (d : Decimal)
  | time (t : DateTime)

namespace Dumped

/-- `_canonical_value`. -/
def canonicalValue : Dumped → Json
  | json v => v
  | decimal d => .str (String.ofList d.fixedText)
  | time t => .str (isoformat t)

/-- The same member with `mode="json"`. -/
def jsonMode : Dumped → Dumped
  | json v => json v
  | decimal d => json (FuturesBot.decimal.dump d)
  | time t => json (instant.dump t)

theorem canonicalValue_eq_null {d : Dumped} : d.canonicalValue = .null ↔ d = json .null := by
  cases d <;> simp [canonicalValue]

theorem jsonMode_eq_null {d : Dumped} : d.jsonMode = json .null ↔ d = json .null := by
  cases d with
  | json v => exact Iff.rfl
  | decimal d => exact iff_of_false nofun nofun
  | time t => exact iff_of_false nofun nofun

end Dumped

/-! Equal JSON. -/

theorem plainMembers_eq (members : List (String × Json)) :
    plainMembers members = members.map fun m => (m.1, m.2.plain) := by
  induction members with
  | nil => rfl
  | cons m members ih => rw [plainMembers, List.map_cons, ih]

theorem plainItems_eq (items : List Json) : plainItems items = items.map Json.plain := by
  induction items with
  | nil => rfl
  | cons v items ih => rw [plainItems, List.map_cons, ih]

/-- Sorting does not change what a value is equal to. -/
theorem plain_sortKeys (v : Json) : (sortKeys v).plain = v.plain := by
  have htotal : Std.Total ByName := ⟨fun a b => String.le_total a.1 b.1⟩
  have htrans : IsTrans (String × Json) ByName := ⟨fun _ _ _ => String.le_trans⟩
  induction v using Json.induction with
  | harr items ih =>
    have hitems : (items.map sortKeys).map Json.plain = items.map Json.plain := by
      rw [List.map_map]
      exact List.map_congr_left ih
    rw [sortKeys_arr, Json.plain, Json.plain, plainItems_eq, plainItems_eq, hitems]
  | hobj members ih =>
    have hsort : (sortedMembers members).map (fun m => (m.1, m.2.plain)) =
        (members.map fun m => (m.1, m.2.plain)).insertionSort ByName := by
      rw [sortedMembers, List.map_insertionSort ByName ByName
        (fun m : String × Json => (m.1, m.2.plain)) _ fun _ _ _ _ => Iff.rfl, List.map_map]
      exact congrArg _ (List.map_congr_left fun m hm => congrArg _ (ih m hm))
    rw [sortKeys_obj, Json.plain, Json.plain, plainMembers_eq, plainMembers_eq, hsort]
    exact congrArg Json.obj (List.pairwise_insertionSort ByName _).insertionSort_eq
  | _ => rfl

/-- The members with each value sorted, which sorting all of them goes through. -/
def valuesSorted (members : List (String × Json)) : List (String × Json) :=
  members.map fun m => (m.1, sortKeys m.2)

theorem eq_of_perm_of_names {l l' : List (String × Json)} (hnames : l.map (·.1) = l'.map (·.1))
    (hnodup : (l.map (·.1)).Nodup) (h : l.Perm l') : l = l' := by
  induction l generalizing l' with
  | nil => exact (List.nil_perm.mp h).symm
  | cons a l ih =>
    cases l' with
    | nil => cases hnames
    | cons b l' =>
      obtain ⟨hname, hrest⟩ := List.cons.inj hnames
      rw [List.map_cons, List.nodup_cons] at hnodup
      have hab : a = b := by
        rcases List.mem_cons.mp (h.mem_iff.mp List.mem_cons_self) with hab | hmem
        · exact hab
        · have hold : a.1 ∈ l'.map (·.1) := List.mem_map_of_mem hmem
          exact absurd (hrest ▸ hold) hnodup.1
      subst hab
      rw [ih hrest hnodup.2 (List.Perm.cons_inv h)]

/-- Objects with the same names in one order are sorted alike when their values are. -/
theorem sortKeys_obj_inj {l l' : List (String × Json)} (hnames : l.map (·.1) = l'.map (·.1))
    (hnodup : (l.map (·.1)).Nodup) :
    sortKeys (.obj l) = sortKeys (.obj l') ↔ valuesSorted l = valuesSorted l' := by
  have hsame : ∀ l : List (String × Json), (valuesSorted l).map (·.1) = l.map (·.1) := by
    intro l
    rw [valuesSorted, List.map_map]
    rfl
  rw [sortKeys_obj, sortKeys_obj, Json.obj.injEq]
  constructor
  · intro h
    refine eq_of_perm_of_names (by rw [hsame, hsame, hnames]) (by rwa [hsame]) ?_
    exact (sortedMembers_perm l).symm.trans (h ▸ sortedMembers_perm l')
  · exact fun h => congrArg (List.insertionSort ByName) h

/-- How the values of a field are dumped and read, when two are equal, and when two equal ones are
also written alike. -/
structure FieldCodec (α : Type) where
  dump : α → Dumped
  load : Dumped → Option α
  Same : α → α → Prop
  Alike : α → α → Prop
  load_dump : ∀ a, load (dump a) = some a
  load_json : ∀ a, load (dump a).jsonMode = some a
  canonical_iff : ∀ a b, sortKeys (dump a).canonicalValue = sortKeys (dump b).canonicalValue ↔
    Same a b ∧ Alike a b

namespace FieldCodec

variable {α : Type}

/-- Values with one form, read from JSON. -/
def plain (c : Codec α) (h : c.ReadsSorted) : FieldCodec α where
  dump a := .json (c.dump a)
  load
    | .json v => c.load v
    | _ => none
  Same a b := a = b
  Alike _ _ := True
  load_dump := c.load_dump
  load_json := c.load_dump
  canonical_iff a b := by
    rw [and_true]
    constructor
    · intro heq
      change sortKeys (c.dump a) = sortKeys (c.dump b) at heq
      have hload := h a
      rw [heq, h b] at hload
      exact (Option.some.inj hload).symm
    · rintro rfl
      rfl

/-- A number, read from a number or from a text or a whole number in JSON. -/
def decimal : FieldCodec Decimal where
  dump := .decimal
  load
    | .decimal d => some d
    | .json (.int n) => some ⟨decide (n < 0), n.natAbs, 0⟩
    | .json v => FuturesBot.decimal.load v
    | .time _ => none
  Same a b := a.value = b.value
  Alike a b := a.neg = b.neg ∧ a.places = b.places
  load_dump _ := rfl
  load_json := FuturesBot.decimal.load_dump
  canonical_iff a b := by
    rw [← Decimal.fixedText_eq_iff_parts]
    change Json.str _ = Json.str _ ↔ _
    rw [Json.str.injEq, String.ofList_inj]

/-- A time in UTC. -/
def time : FieldCodec DateTime where
  dump := .time
  load
    | .time t => some t
    | .json v => instant.load v
    | .decimal _ => none
  Same a b := a = b
  Alike _ _ := True
  load_dump _ := rfl
  load_json := instant.load_dump
  canonical_iff a b := by
    change Json.str _ = Json.str _ ↔ _
    rw [Json.str.injEq, and_true]
    exact isoformat_injective.eq_iff

/-- Free-form members, frozen on reading and thawed in the dump. -/
def metadata : FieldCodec (List (String × Json)) where
  dump members := .json (.obj members)
  load
    | .json (.obj members) => some members
    | _ => none
  Same a b := (Json.obj a).plain = (Json.obj b).plain
  Alike a b := sortKeys (.obj a) = sortKeys (.obj b)
  load_dump _ := rfl
  load_json _ := rfl
  canonical_iff a b := by
    refine ⟨fun h => ⟨?_, h⟩, fun h => h.2⟩
    rw [← plain_sortKeys, ← plain_sortKeys (.obj b)]
    exact congrArg Json.plain h

variable {β : Type}

/-- Values of `β` dumped as the values of `α` they stand for, and checked on reading. -/
def refine (c : FieldCodec α) (check : α → Option β) (forget : β → α)
    (h : ∀ b, check (forget b) = some b) : FieldCodec β where
  dump b := c.dump (forget b)
  load v := (c.load v).bind check
  Same a b := c.Same (forget a) (forget b)
  Alike a b := c.Alike (forget a) (forget b)
  load_dump b := by rw [c.load_dump, Option.bind_some, h]
  load_json b := by rw [c.load_json, Option.bind_some, h]
  canonical_iff a b := c.canonical_iff (forget a) (forget b)

/-- The field of a subtype. -/
def where_ (c : FieldCodec α) (P : α → Prop) [DecidablePred P] : FieldCodec {a // P a} :=
  c.refine (fun a => if h : P a then some ⟨a, h⟩ else none) (fun b => b.val)
    (fun b => dif_pos b.property)

/-- `None` is null, which no value of the field is. -/
def optional (c : FieldCodec α) (h : ∀ a, c.dump a ≠ .json .null) : FieldCodec (Option α) where
  dump
    | none => .json .null
    | some a => c.dump a
  load
    | .json .null => some none
    | v => (c.load v).map some
  Same
    | none, none => True
    | some a, some b => c.Same a b
    | _, _ => False
  Alike
    | some a, some b => c.Alike a b
    | _, _ => True
  load_dump a := by
    cases a with
    | none => rfl
    | some a =>
      dsimp only
      split
      · rename_i hnull
        exact absurd hnull (h a)
      · rw [c.load_dump, Option.map_some]
  load_json a := by
    cases a with
    | none => rfl
    | some a =>
      dsimp only
      split
      · rename_i hnull
        exact absurd (Dumped.jsonMode_eq_null.mp hnull) (h a)
      · rw [c.load_json, Option.map_some]
  canonical_iff a b := by
    have hne : ∀ a, sortKeys (c.dump a).canonicalValue ≠ .null := fun a hnull =>
      h a (Dumped.canonicalValue_eq_null.mp (Codec.sortKeys_eq_null.mp hnull))
    cases a with
    | none =>
      cases b with
      | none => exact iff_of_true rfl ⟨trivial, trivial⟩
      | some b => exact iff_of_false (fun heq => hne b heq.symm) fun hsame => hsame.1
    | some a =>
      cases b with
      | none => exact iff_of_false (hne a) fun hsame => hsame.1
      | some b => exact c.canonical_iff a b

end FieldCodec

/-! The fields of a model. -/

structure Field where
  name : String
  Value : Type
  codec : FieldCodec Value
  /-- The value of a member that is missing. -/
  default : Option Value

abbrev required (name : String) {α : Type} (c : FieldCodec α) : Field := ⟨name, α, c, none⟩

abbrev nullable (name : String) {α : Type} (c : FieldCodec α)
    (h : ∀ a, c.dump a ≠ .json .null) : Field :=
  ⟨name, Option α, c.optional h, some none⟩

def names (fs : List Field) : List String := fs.map (·.name)

@[reducible] def Row : List Field → Type
  | [] => Unit
  | f :: fs => f.Value × Row fs

abbrev Dump : Type := List (String × Dumped)

def dumpRow : (fs : List Field) → Row fs → Dump
  | [], _ => []
  | f :: fs, (v, r) => (f.name, f.codec.dump v) :: dumpRow fs r

def loadField (f : Field) (dump : Dump) : Option f.Value :=
  match dump.lookup f.name with
  | some d => f.codec.load d
  | none => f.default

def loadRow (dump : Dump) : (fs : List Field) → Option (Row fs)
  | [] => some ()
  | f :: fs => do
    let v ← loadField f dump
    let r ← loadRow dump fs
    some (v, r)

def SameRow : (fs : List Field) → Row fs → Row fs → Prop
  | [], _, _ => True
  | f :: fs, (v, r), (w, s) => f.codec.Same v w ∧ SameRow fs r s

def AlikeRow : (fs : List Field) → Row fs → Row fs → Prop
  | [], _, _ => True
  | f :: fs, (v, r), (w, s) => f.codec.Alike v w ∧ AlikeRow fs r s

/-- The dump with every member in a mode. -/
def inMode (mode : Dumped → Dumped) (dump : Dump) : Dump := dump.map fun m => (m.1, mode m.2)

/-- The canonical members of a dump. -/
def canonicalMembers (dump : Dump) : List (String × Json) :=
  dump.map fun m => (m.1, m.2.canonicalValue)

theorem dumpRow_names (fs : List Field) (r : Row fs) : (dumpRow fs r).map (·.1) = names fs := by
  induction fs with
  | nil => rfl
  | cons f fs ih =>
    obtain ⟨v, r⟩ := r
    rw [dumpRow, List.map_cons, ih, names, names, List.map_cons]

/-- A mode in which every field is read back. -/
def Readable (mode : Dumped → Dumped) : Prop :=
  ∀ {α : Type} (c : FieldCodec α) (a : α), c.load (mode (c.dump a)) = some a

theorem readable_id : Readable id := fun c => c.load_dump

theorem readable_jsonMode : Readable Dumped.jsonMode := fun c => c.load_json

theorem loadRow_of_lookup {mode : Dumped → Dumped} (hmode : Readable mode) {dump : Dump}
    (fs : List Field) (r : Row fs)
    (h : ∀ m ∈ dumpRow fs r, dump.lookup m.1 = some (mode m.2)) :
    loadRow dump fs = some r := by
  induction fs with
  | nil => rfl
  | cons f fs ih =>
    obtain ⟨v, r⟩ := r
    have hv : dump.lookup f.name = some (mode (f.codec.dump v)) :=
      h (f.name, f.codec.dump v) List.mem_cons_self
    have hr := ih r fun m hm => h m (List.mem_cons_of_mem _ hm)
    simp only [loadRow, loadField, hv, hmode f.codec v, hr, Option.bind_eq_bind, Option.bind_some]

theorem lookup_of_nodup {dump : Dump} (hnodup : (dump.map (·.1)).Nodup) {m : String × Dumped}
    (hm : m ∈ dump) : dump.lookup m.1 = some m.2 := by
  induction dump with
  | nil => exact absurd hm List.not_mem_nil
  | cons n dump ih =>
    rw [List.map_cons, List.nodup_cons] at hnodup
    rcases List.mem_cons.mp hm with rfl | htail
    · rw [List.lookup_cons_self]
    · have hne : m.1 ≠ n.1 := fun heq => hnodup.1 (heq ▸ List.mem_map_of_mem htail)
      rw [List.lookup_cons, beq_eq_false_iff_ne.mpr hne]
      exact ih hnodup.2 htail

theorem valuesSorted_rows (fs : List Field) (r s : Row fs) :
    valuesSorted (canonicalMembers (dumpRow fs r)) =
      valuesSorted (canonicalMembers (dumpRow fs s)) ↔ SameRow fs r s ∧ AlikeRow fs r s := by
  induction fs with
  | nil => exact iff_of_true rfl ⟨trivial, trivial⟩
  | cons f fs ih =>
    obtain ⟨v, r⟩ := r
    obtain ⟨w, s⟩ := s
    have hrest := ih r s
    rw [valuesSorted, valuesSorted] at hrest ⊢
    simp only [dumpRow, canonicalMembers, List.map_cons, List.cons.injEq, Prod.mk.injEq,
      true_and, SameRow, AlikeRow] at hrest ⊢
    rw [f.codec.canonical_iff, hrest, and_and_and_comm]

/-- Two rows have one canonical form exactly when they are equal and written alike. -/
theorem canonicalRow_iff {fs : List Field} (hnodup : (names fs).Nodup) (r s : Row fs) :
    sortKeys (.obj (canonicalMembers (dumpRow fs r))) =
      sortKeys (.obj (canonicalMembers (dumpRow fs s))) ↔ SameRow fs r s ∧ AlikeRow fs r s := by
  have hnames : ∀ r : Row fs, (canonicalMembers (dumpRow fs r)).map (·.1) = names fs := by
    intro r
    rw [canonicalMembers, List.map_map, ← dumpRow_names fs r]
    rfl
  rw [sortKeys_obj_inj (by rw [hnames, hnames]) (by rwa [hnames]), valuesSorted_rows]

/-! Models with an id made of their content. -/

/-- A model: its fields, its checks, and the field that its id is kept in. -/
structure ModelKind (S : Type) where
  id_name : String
  head : IdHead
  fields : List Field
  apart : (id_name :: names fields).Nodup
  toRow : S → Row fields
  ofRow : Row fields → Option S
  ofRow_toRow : ∀ s, ofRow (toRow s) = some s

namespace ModelKind

variable {S : Type} (kind : ModelKind S) (env : Env)

/-- `_canonical_json_bytes(_model_identity(model))`. -/
def contentBytes (s : S) : TextLines.Bytes :=
  TextLines.encodeUtf8 (encode (sortKeys (.obj (canonicalMembers
    (dumpRow kind.fields (kind.toRow s))))))

/-- The deterministic id. -/
def idOf (s : S) : DomainId := .ofDigest kind.head (env.sha256 (kind.contentBytes s))

/-- The models agree in all fields but their ids. -/
def Same (a b : S) : Prop := SameRow kind.fields (kind.toRow a) (kind.toRow b)

def Alike (a b : S) : Prop := AlikeRow kind.fields (kind.toRow a) (kind.toRow b)

/-- `model_dump()`. -/
def modelDump (s : S) : Dump :=
  (kind.id_name, .json (domainId.dump (kind.idOf env s))) :: dumpRow kind.fields (kind.toRow s)

/-- The id that is given, if one is. -/
def givenId : FieldCodec (Option DomainId) :=
  (FieldCodec.plain domainId domainId_readsSorted).optional fun _ => nofun

/-- `model_validate`. An id that is given has to be the deterministic one. -/
def modelValidate (dump : Dump) : Option S :=
  if ∀ m ∈ dump, m.1 ∈ kind.id_name :: names kind.fields then do
    let row ← loadRow dump kind.fields
    let s ← kind.ofRow row
    let given ← loadField ⟨kind.id_name, Option DomainId, givenId, some none⟩ dump
    if ∀ id ∈ given, id = kind.idOf env s then some s else none
  else none

theorem idOf_eq_iff {a b : S}
    (hfree : Set.InjOn env.sha256 {kind.contentBytes a, kind.contentBytes b}) :
    kind.idOf env a = kind.idOf env b ↔ kind.Same a b ∧ kind.Alike a b := by
  have hnodup := (List.nodup_cons.mp kind.apart).2
  rw [idOf, idOf, DomainId.ofDigest_inj, hfree.eq_iff (.inl rfl) (.inr rfl), Same, Alike,
    ← canonicalRow_iff hnodup]
  constructor
  · exact fun h => encode_injective (TextLines.encodeUtf8_injective h)
  · exact fun h => congrArg (fun v => TextLines.encodeUtf8 (encode v)) h

/-- A model is read again from its dump. -/
theorem modelValidate_dump {mode : Dumped → Dumped} (hmode : Readable mode) (s : S) :
    kind.modelValidate env (inMode mode (kind.modelDump env s)) = some s := by
  have hnames : (inMode mode (kind.modelDump env s)).map (·.1) =
      kind.id_name :: names kind.fields := by
    rw [inMode, List.map_map, modelDump, List.map_cons, ← dumpRow_names kind.fields (kind.toRow s)]
    rfl
  have hlookup : ∀ m ∈ kind.modelDump env s,
      (inMode mode (kind.modelDump env s)).lookup m.1 = some (mode m.2) := by
    intro m hm
    have hmem : (m.1, mode m.2) ∈ inMode mode (kind.modelDump env s) :=
      List.mem_map_of_mem (f := fun m => (m.1, mode m.2)) hm
    exact lookup_of_nodup (hnames ▸ kind.apart) hmem
  have hknown : ∀ m ∈ inMode mode (kind.modelDump env s),
      m.1 ∈ kind.id_name :: names kind.fields := by
    intro m hm
    rw [← hnames]
    exact List.mem_map_of_mem hm
  have hrow := loadRow_of_lookup hmode kind.fields (kind.toRow s) fun m hm =>
    hlookup m (List.mem_cons_of_mem _ hm)
  have hgiven : loadField ⟨kind.id_name, Option DomainId, givenId, some none⟩
      (inMode mode (kind.modelDump env s)) = some (some (kind.idOf env s)) := by
    have hfirst := hlookup _ List.mem_cons_self
    have hload := hmode givenId (some (kind.idOf env s))
    simp only [loadField, hfirst]
    exact hload
  rw [modelValidate, if_pos hknown]
  simp only [hrow, kind.ofRow_toRow, hgiven, Option.bind_eq_bind, Option.bind_some]
  exact if_pos fun id hid => (Option.some.inj hid).symm

end ModelKind

end FuturesBot.ModelDumps
