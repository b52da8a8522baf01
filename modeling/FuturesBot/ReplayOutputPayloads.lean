import FuturesBot.ConfigCanonicalTexts
import FuturesBot.RawJson

/-! The payloads a replay handler puts out: which texts are taken for canonical, and which values
two of them stand for. -/
namespace FuturesBot.Replay

open Configs JsonText KeySorting PythonJson PythonTexts

inductive PayloadError where
  /-- not a non-empty trimmed string -/
  | text
  /-- no JSON, or a whole number with too many digits -/
  | json
  | notObject
  | binaryFloat (path : PyText)
  /-- an object key that is empty or not trimmed -/
  | key
  | notCanonical
  deriving DecidableEq

mutual

/-- `_validate_handler_output_json_value`. What is no whole number is read as a float. -/
def validateHandlerOutputJsonValue : PyText → Value → Except PayloadError Unit
  | path, .constant _ => .error (.binaryFloat path)
  | path, .decimal _ => .error (.binaryFloat path)
  | path, .list items => validateItems path 0 items
  | path, .dict members => validateMembers path members
  | _, _ => .ok ()

def validateItems (path : PyText) : ℕ → List Value → Except PayloadError Unit
  | _, [] => .ok ()
  | index, v :: items =>
    (validateHandlerOutputJsonValue (path ++ ofText ('[' :: (natText index ++ [']']))) v).bind
      fun _ => validateItems path (index + 1) items

def validateMembers (path : PyText) : Members → Except PayloadError Unit
  | [] => .ok ()
  | (key, v) :: members =>
    if RequiredText key then
      (validateHandlerOutputJsonValue (path ++ ofText ['.'] ++ key) v).bind
        fun _ => validateMembers path members
    else .error .key

end

/-- `_validate_canonical_output_payload`. -/
def validateCanonicalOutputPayload (value : Text) : Except PayloadError Text :=
  if RequiredText (ofText value) then
    match loads value with
    | none => .error .json
    | some (.dict members) =>
      (validateHandlerOutputJsonValue (ofText ['r', 'o', 'o', 't']) (.dict members)).bind fun _ =>
        if dumpsRaw (.dict members) = some (ofText value) then .ok value else .error .notCanonical
    | some _ => .error .notObject
  else .error .text

/-! The values a payload may have. -/

/-- A JSON value of strings, booleans, whole numbers, null, lists, and objects with names that are
apart, not empty and trimmed. -/
inductive PlainValue : Value → Prop where
  | null : PlainValue .null
  | bool (b : Bool) : PlainValue (.bool b)
  | int (n : ℤ) : PlainValue (.int n)
  | str (s : PyText) : PlainValue (.str s)
  | list {items : List Value} (parts : ∀ v ∈ items, PlainValue v) : PlainValue (.list items)
  | dict {members : Members} (apart : (names members).Nodup)
      (keys : ∀ key ∈ names members, RequiredText key)
      (parts : ∀ m ∈ members, PlainValue m.2) : PlainValue (.dict members)

/-- A node that the validator raises an error for. -/
def refused : Value → Bool
  | .constant _ => true
  | .decimal _ => true
  | .dict members => !(names members).all fun key => decide (RequiredText key)
  | _ => false

theorem refused_dict {members : Members} :
    refused (.dict members) = false ↔ ∀ key ∈ names members, RequiredText key := by
  simp only [refused, Bool.not_eq_false', List.all_eq_true, decide_eq_true_eq]

theorem bind_ok_iff {x y : Except PayloadError Unit} :
    (x.bind fun _ => y) = .ok () ↔ x = .ok () ∧ y = .ok () := by
  cases x with
  | error e => exact iff_of_false nofun fun h => nomatch h.1
  | ok a => exact (and_iff_right rfl).symm

theorem validateItems_ok {items : List Value}
    (h : ∀ v ∈ items, ∀ path, validateHandlerOutputJsonValue path v = .ok () ↔
      anywhere refused v = false) (path : PyText) (index : ℕ) :
    validateItems path index items = .ok () ↔ ∀ v ∈ items, anywhere refused v = false := by
  induction items generalizing index with
  | nil => exact iff_of_true rfl fun _ hv => absurd hv List.not_mem_nil
  | cons v items ih =>
    obtain ⟨hv, hitems⟩ := List.forall_mem_cons.mp h
    rw [validateItems, bind_ok_iff, hv, ih hitems, List.forall_mem_cons]

theorem validateMembers_ok {members : Members}
    (h : ∀ m ∈ members, ∀ path, validateHandlerOutputJsonValue path m.2 = .ok () ↔
      anywhere refused m.2 = false) (path : PyText) :
    validateMembers path members = .ok () ↔
      ∀ m ∈ members, RequiredText m.1 ∧ anywhere refused m.2 = false := by
  induction members with
  | nil => exact iff_of_true rfl fun _ hm => absurd hm List.not_mem_nil
  | cons m members ih =>
    obtain ⟨hm, hmembers⟩ := List.forall_mem_cons.mp h
    rw [validateMembers, List.forall_mem_cons]
    by_cases hkey : RequiredText m.1
    · rw [if_pos hkey, bind_ok_iff, hm, ih hmembers, and_iff_right hkey]
    · rw [if_neg hkey]
      exact iff_of_false nofun fun h => hkey h.1.1

theorem validateValue_ok (v : Value) : ∀ path, validateHandlerOutputJsonValue path v = .ok () ↔
    anywhere refused v = false := by
  induction v using Value.induct with
  | constant c => exact fun _ => iff_of_false nofun nofun
  | decimal t => exact fun _ => iff_of_false nofun nofun
  | list items ih =>
    intro path
    rw [validateHandlerOutputJsonValue, validateItems_ok ih, nowhere_list, and_iff_right (by rfl)]
  | dict members ih =>
    intro path
    rw [validateHandlerOutputJsonValue, validateMembers_ok ih, nowhere_dict, refused_dict, names,
      List.forall_mem_map, ← forall₂_and]
  | _ => exact fun _ => iff_of_true rfl rfl

theorem plainValue_iff (v : Value) : PlainValue v ↔
    anywhere refused v = false ∧ anywhere repeatsName v = false := by
  induction v using Value.induct with
  | constant c => exact iff_of_false nofun fun h => nomatch h.1
  | decimal t => exact iff_of_false nofun fun h => nomatch h.1
  | null => exact iff_of_true .null ⟨rfl, rfl⟩
  | bool b => exact iff_of_true (.bool b) ⟨rfl, rfl⟩
  | int n => exact iff_of_true (.int n) ⟨rfl, rfl⟩
  | str s => exact iff_of_true (.str s) ⟨rfl, rfl⟩
  | list items ih =>
    rw [nowhere_list, nowhere_list]
    constructor
    · intro h
      cases h with
      | list hparts => exact ⟨⟨rfl, fun v hv => ((ih v hv).mp (hparts v hv)).1⟩,
          rfl, fun v hv => ((ih v hv).mp (hparts v hv)).2⟩
    · rintro ⟨⟨-, hrefused⟩, -, hrepeats⟩
      exact .list fun v hv => (ih v hv).mpr ⟨hrefused v hv, hrepeats v hv⟩
  | dict members ih =>
    rw [nowhere_dict, nowhere_dict, refused_dict, repeatsName_dict]
    constructor
    · intro h
      cases h with
      | dict hapart hkeys hparts => exact ⟨⟨hkeys, fun m hm => ((ih m hm).mp (hparts m hm)).1⟩,
          hapart, fun m hm => ((ih m hm).mp (hparts m hm)).2⟩
    · rintro ⟨⟨hkeys, hrefused⟩, hapart, hrepeats⟩
      exact .dict hapart hkeys fun m hm => (ih m hm).mpr ⟨hrefused m hm, hrepeats m hm⟩

theorem refused_sortKeys (v : Value) :
    anywhere refused (sortKeys v) = false ↔ anywhere refused v = false := by
  apply nowhere_rebuild_iff mem_sortBy_names
  intro v
  cases v with
  | dict members =>
    have hnames := names_rebuilt (sortBy (·.1)) members
    rw [rebuild_dict, refused_dict, refused_dict, names_sortBy, hnames]
    exact forall_congr' fun key => imp_congr (mem_sortBy _) Iff.rfl
  | list items => rw [rebuild_list]; rfl
  | _ => rfl

/-! The texts that are taken. -/

theorem requiredText_raw (members : Members) :
    RequiredText (writeWith codePoint rawBody (.dict members)) := by
  have h : RequiredText ((writeWith codePoint rawBody (.dict members)).map id) := by
    refine requiredText_write ?_ members
    exact fun _ => rfl
  rwa [List.map_id] at h

/-- What is read of a text before it is compared with it. -/
theorem validate_eq_ok {value text : Text} :
    validateCanonicalOutputPayload value = .ok text ↔ text = value ∧ RequiredText (ofText value) ∧
      ∃ members, loads value = some (.dict members) ∧ anywhere refused (.dict members) = false ∧
        dumpsRaw (.dict members) = some (ofText value) := by
  have hdict : ∀ members, ((validateHandlerOutputJsonValue (ofText ['r', 'o', 'o', 't'])
      (.dict members)).bind fun _ => if dumpsRaw (.dict members) = some (ofText value) then
        .ok value else .error PayloadError.notCanonical) = .ok text ↔
      text = value ∧ anywhere refused (.dict members) = false ∧
        dumpsRaw (.dict members) = some (ofText value) := by
    intro members
    rw [← validateValue_ok]
    cases validateHandlerOutputJsonValue (ofText ['r', 'o', 'o', 't']) (.dict members) with
    | error e => exact iff_of_false nofun fun h => nomatch h.2.1
    | ok a =>
      rw [Except.bind]
      split
      · rename_i htext
        rw [Except.ok.injEq, and_iff_left ⟨rfl, htext⟩, eq_comm]
      · rename_i htext
        exact iff_of_false nofun fun h => htext h.2.2
  unfold validateCanonicalOutputPayload
  by_cases hrequired : RequiredText (ofText value)
  · rw [if_pos hrequired, and_iff_right hrequired]
    cases hread : loads value with
    | none => exact iff_of_false nofun fun ⟨_, _, h, _⟩ => nomatch h
    | some v =>
      cases v with
      | dict members =>
        simp only [hdict, Option.some.injEq, Value.dict.injEq]
        constructor
        · rintro ⟨rfl, h⟩
          exact ⟨rfl, members, rfl, h⟩
        · rintro ⟨rfl, _, rfl, h⟩
          exact ⟨rfl, h⟩
      | _ => exact iff_of_false nofun fun ⟨_, _, h, _⟩ => by cases h
  · rw [if_neg hrequired]
    exact iff_of_false nofun fun h => hrequired h.2.1

/-- The texts taken are the canonical texts of plain objects. -/
theorem accepted_iff (value : Text) : validateCanonicalOutputPayload value = .ok value ↔
    ∃ members, PlainValue (.dict members) ∧ dumpsRaw (.dict members) = some (ofText value) := by
  rw [validate_eq_ok, and_iff_right rfl]
  constructor
  · rintro ⟨-, members, hread, hplain, htext⟩
    refine ⟨members, (plainValue_iff _).mpr ⟨hplain, ?_⟩, htext⟩
    obtain ⟨v, -, hv⟩ := Option.map_eq_some_iff.mp hread
    rw [← hv]
    exact dicts_no_repeats v
  · rintro ⟨members, hplain, htext⟩
    obtain ⟨hrefused, hnames⟩ := (plainValue_iff _).mp hplain
    obtain ⟨sorted, hsorted⟩ : ∃ sorted, sortKeys (.dict members) = .dict sorted :=
      ⟨_, rebuild_dict id (sortBy (·.1)) members⟩
    have hread := loads_dumpsRaw htext hnames
    rw [← refused_sortKeys, hsorted] at hrefused
    rw [← dumpsRaw_sortKeys hnames, hsorted] at htext
    refine ⟨?_, sorted, hread.trans (congrArg some hsorted), hrefused, htext⟩
    rw [← (dumpsRaw_eq_some.mp htext).2, ← hsorted, sortKeys_sortKeys hnames, hsorted]
    exact requiredText_raw sorted

/-! Values that are equal. -/

mutual

/-- `True` is 1 and `False` is 0. -/
def numbered : Value → Value
  | .bool b => .int (if b then 1 else 0)
  | .list items => .list (numberedItems items)
  | .dict members => .dict (numberedMembers members)
  | v => v

def numberedItems : List Value → List Value
  | [] => []
  | v :: items => numbered v :: numberedItems items

def numberedMembers : Members → Members
  | [] => []
  | (key, v) :: members => (key, numbered v) :: numberedMembers members

end

/-- `==` of values without floats: of two dicts the order does not count. -/
def PythonEqual (v w : Value) : Prop := sortKeys (numbered v) = sortKeys (numbered w)

/-- As JSON: the order of members does not count, and a boolean is no number. -/
def JsonEqual (v w : Value) : Prop := sortKeys v = sortKeys w

/-- The texts taken are the canonical texts of plain objects, and one text stands for one JSON
value. -/
theorem canonical_payloads :
    (∀ value, validateCanonicalOutputPayload value = .ok value ↔
      ∃ members, PlainValue (.dict members) ∧ dumpsRaw (.dict members) = some (ofText value)) ∧
    ∀ t u v w, validateCanonicalOutputPayload t = .ok t →
      validateCanonicalOutputPayload u = .ok u → loads t = some v → loads u = some w →
        (JsonEqual v w ↔ t = u) := by
  refine ⟨accepted_iff, fun t u v w ht hu hv hw => ?_⟩
  obtain ⟨-, -, members, hread, -, htext⟩ := validate_eq_ok.mp ht
  obtain ⟨-, -, members', hread', -, htext'⟩ := validate_eq_ok.mp hu
  obtain rfl := Option.some.inj (hv.symm.trans hread)
  obtain rfl := Option.some.inj (hw.symm.trans hread')
  constructor
  · intro h
    have hpoints : ofText t = ofText u := by
      rw [← (dumpsRaw_eq_some.mp htext).2, h, (dumpsRaw_eq_some.mp htext').2]
    exact ofText_injective hpoints
  · rintro rfl
    exact congrArg PythonJson.sortKeys (Option.some.inj (hread.symm.trans hread'))

/-- `{"a":true}`. -/
def trueText : Text := ['{', '"', 'a', '"', ':', 't', 'r', 'u', 'e', '}']

/-- `{"a":1}`. -/
def oneText : Text := ['{', '"', 'a', '"', ':', '1', '}']

/-- Two canonical texts whose values are equal in Python. -/
theorem true_equals_one : ∃ v w, validateCanonicalOutputPayload trueText = .ok trueText ∧
    validateCanonicalOutputPayload oneText = .ok oneText ∧ loads trueText = some v ∧
      loads oneText = some w ∧ PythonEqual v w ∧ trueText ≠ oneText := by
  refine ⟨.dict [([0x61], .bool true)], .dict [([0x61], .int 1)], ?_, ?_, rfl, rfl, rfl,
    by decide⟩
  · rfl
  · rfl

end FuturesBot.Replay
