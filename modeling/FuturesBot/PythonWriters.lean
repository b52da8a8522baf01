import FuturesBot.PythonJson

/-! Writing JSON into any alphabet, with any spelling of strings, and what a change of both does to
the text. -/
namespace PythonJson

open JsonText PythonTexts

variable {α β : Type}

mutual

/-- A value written without blanks, the members in their order: `char` gives the letters, `body`
what follows the quote that opens a string. -/
def writeWith (char : Char → α) (body : PyText → List α) : Value → List α
  | .null => ['n', 'u', 'l', 'l'].map char
  | .bool true => ['t', 'r', 'u', 'e'].map char
  | .bool false => ['f', 'a', 'l', 's', 'e'].map char
  | .int n => (intText n).map char
  | .constant c => c.text.map char
  | .decimal literal => literal.map char
  | .str s => char '"' :: body s
  | .list items => char '[' :: writeItems char body items
  | .dict members => char '{' :: writeMembers char body members

def writeItems (char : Char → α) (body : PyText → List α) : List Value → List α
  | [] => [char ']']
  | v :: items => writeWith char body v ++ writeMoreItems char body items

def writeMoreItems (char : Char → α) (body : PyText → List α) : List Value → List α
  | [] => [char ']']
  | v :: items => char ',' :: (writeWith char body v ++ writeMoreItems char body items)

def writeMembers (char : Char → α) (body : PyText → List α) : Members → List α
  | [] => [char '}']
  | (k, v) :: members =>
    char '"' :: (body k ++ char ':' :: (writeWith char body v ++
      writeMoreMembers char body members))

def writeMoreMembers (char : Char → α) (body : PyText → List α) : Members → List α
  | [] => [char '}']
  | (k, v) :: members =>
    char ',' :: char '"' :: (body k ++ char ':' :: (writeWith char body v ++
      writeMoreMembers char body members))

end

/-- The writer that escapes all that is not ASCII. -/
theorem encode_eq_write (v : Value) : encode v = writeWith id asciiBody v := by
  have hitems : ∀ items : List Value, (∀ v ∈ items, encode v = writeWith id asciiBody v) →
      encodeMoreItems items = writeMoreItems id asciiBody items := by
    intro items h
    induction items with
    | nil => rfl
    | cons v items ih =>
      obtain ⟨hv, hitems⟩ := List.forall_mem_cons.mp h
      rw [encodeMoreItems, writeMoreItems, hv, ih hitems, id]
  have hmembers : ∀ members : Members, (∀ m ∈ members, encode m.2 = writeWith id asciiBody m.2) →
      encodeMoreMembers members = writeMoreMembers id asciiBody members := by
    intro members h
    induction members with
    | nil => rfl
    | cons m members ih =>
      obtain ⟨hm, hmembers⟩ := List.forall_mem_cons.mp h
      rw [encodeMoreMembers, writeMoreMembers, hm, ih hmembers]
      rfl
  induction v using Value.induct with
  | list items ih =>
    cases items with
    | nil => rfl
    | cons v items =>
      obtain ⟨hv, hrest⟩ := List.forall_mem_cons.mp ih
      rw [encode, encodeItems, writeWith, writeItems, hv, hitems items hrest, id]
  | dict members ih =>
    cases members with
    | nil => rfl
    | cons m members =>
      obtain ⟨hm, hrest⟩ := List.forall_mem_cons.mp ih
      rw [encode, encodeMembers, writeWith, writeMembers, hm, hmembers members hrest]
      rfl
  | bool b => cases b <;> rfl
  | int n => exact (List.map_id _).symm
  | constant c => exact (List.map_id _).symm
  | decimal t => exact (List.map_id _).symm
  | _ => rfl

theorem writeMoreMembers_last (char : Char → α) (body : PyText → List α) (members : Members) :
    ∃ t, writeMoreMembers char body members = t ++ [char '}'] := by
  induction members with
  | nil => exact ⟨[], rfl⟩
  | cons m members ih =>
    obtain ⟨t, ht⟩ := ih
    refine ⟨char ',' :: char '"' :: (body m.1 ++ char ':' :: (writeWith char body m.2 ++ t)), ?_⟩
    rw [writeMoreMembers, ht]
    simp only [List.cons_append, List.append_assoc]

/-- The text of a dict has a brace at both ends. -/
theorem write_dict_ends (char : Char → α) (body : PyText → List α) (members : Members) :
    ∃ t, writeWith char body (.dict members) = char '{' :: (t ++ [char '}']) := by
  cases members with
  | nil => exact ⟨[], rfl⟩
  | cons m members =>
    obtain ⟨t, ht⟩ := writeMoreMembers_last char body members
    refine ⟨char '"' :: (body m.1 ++ char ':' :: (writeWith char body m.2 ++ t)), ?_⟩
    rw [writeWith, writeMembers, ht]
    simp only [List.cons_append, List.append_assoc]

/-! A change of the strings under a change of the alphabet. -/

section Change

variable {char : Char → α} {char' : Char → β} {body : PyText → List α} {body' : PyText → List β}
  {g : α → β} {f : PyText → PyText}

theorem writeMoreItems_change (hg : ∀ c, g (char c) = char' c) {items : List Value}
    (h : ∀ v ∈ items, writeWith char' body' (rebuild f id v) = (writeWith char body v).map g) :
    writeMoreItems char' body' (items.map (rebuild f id)) =
      (writeMoreItems char body items).map g := by
  induction items with
  | nil => simp [writeMoreItems, hg]
  | cons v items ih =>
    obtain ⟨hv, hitems⟩ := List.forall_mem_cons.mp h
    rw [List.map_cons, writeMoreItems, writeMoreItems, List.map_cons, List.map_append, hg, hv,
      ih hitems]

theorem writeMoreMembers_change (hg : ∀ c, g (char c) = char' c) {members : Members}
    (h : ∀ m ∈ members, body' (f m.1) = (body m.1).map g ∧
      writeWith char' body' (rebuild f id m.2) = (writeWith char body m.2).map g) :
    writeMoreMembers char' body' (members.map fun m => (f m.1, rebuild f id m.2)) =
      (writeMoreMembers char body members).map g := by
  induction members with
  | nil => simp [writeMoreMembers, hg]
  | cons m members ih =>
    obtain ⟨⟨hname, hm⟩, hmembers⟩ := List.forall_mem_cons.mp h
    simp only [List.map_cons, writeMoreMembers, List.map_append, hg, hname, hm, ih hmembers]

/-- Where every string and name is spelled in the second alphabet as its change is, so is the
whole. -/
theorem write_change {p : Value → Bool} (hg : ∀ c, g (char c) = char' c)
    (hstr : ∀ s, p (.str s) = false → body' (f s) = (body s).map g)
    (hnames : ∀ ms, p (.dict ms) = false → ∀ k ∈ names ms, body' (f k) = (body k).map g)
    (v : Value) (h : anywhere p v = false) :
    writeWith char' body' (rebuild f id v) = (writeWith char body v).map g := by
  have hletters : ∀ t : Text, t.map char' = (t.map char).map g := by
    intro t
    rw [List.map_map]
    exact List.map_congr_left fun c _ => (hg c).symm
  induction v using Value.induct with
  | null => exact hletters _
  | bool b => cases b <;> exact hletters _
  | int n => exact hletters _
  | constant c => exact hletters _
  | decimal t => exact hletters _
  | str s => rw [rebuild, writeWith, writeWith, List.map_cons, hg, hstr s h]
  | list items ih =>
    obtain ⟨-, hparts⟩ := nowhere_list.mp h
    rw [rebuild_list]
    cases items with
    | nil => simp [writeWith, writeItems, hg]
    | cons v items =>
      obtain ⟨hv, hitems⟩ := List.forall_mem_cons.mp fun v hv => ih v hv (hparts v hv)
      rw [List.map_cons, writeWith, writeWith, writeItems, writeItems, List.map_cons,
        List.map_append, hg, hv, writeMoreItems_change hg hitems]
  | dict members ih =>
    obtain ⟨hself, hparts⟩ := nowhere_dict.mp h
    have hall : ∀ m ∈ members, body' (f m.1) = (body m.1).map g ∧
        writeWith char' body' (rebuild f id m.2) = (writeWith char body m.2).map g := fun m hm =>
      ⟨hnames members hself m.1 (List.mem_map_of_mem hm), ih m hm (hparts m hm)⟩
    rw [rebuild_dict, id]
    cases members with
    | nil => simp [writeWith, writeMembers, hg]
    | cons m members =>
      obtain ⟨⟨hname, hm⟩, hmembers⟩ := List.forall_mem_cons.mp hall
      simp only [List.map_cons, writeWith, writeMembers, List.map_append, hg, hname, hm,
        writeMoreMembers_change hg hmembers]

end Change

end PythonJson
