import FuturesBot.JsonText
import Mathlib.Data.List.Infix
import Mathlib.Data.List.DropRight

/-! Text files as sequences of lines: the UTF-8 bytes of a text, the split at every
Unicode line boundary, and what a cut at a byte leaves of a text. -/
namespace TextLines

open JsonText (Text isLineBreak)

abbrev Bytes := List UInt8

def encodeUtf8 (t : Text) : Bytes := t.flatMap String.utf8EncodeChar

def decodeUtf8 (b : Bytes) : Option Text := b.toByteArray.utf8Decode?.map Array.toList

theorem encodeUtf8_nil : encodeUtf8 [] = [] := rfl

theorem encodeUtf8_append (s t : Text) : encodeUtf8 (s ++ t) = encodeUtf8 s ++ encodeUtf8 t :=
  List.flatMap_append

theorem toByteArray_injective {a b : Bytes} (h : a.toByteArray = b.toByteArray) : a = b := by
  have hdata := congrArg (fun x : ByteArray => x.data.toList) h
  simpa only [List.data_toByteArray] using hdata

/-- Bytes decode to a text exactly when they are its encoding. -/
theorem decodeUtf8_eq_some {b : Bytes} {t : Text} : decodeUtf8 b = some t ↔ encodeUtf8 t = b := by
  constructor
  · intro h
    obtain ⟨a, ha, rfl⟩ := Option.map_eq_some_iff.mp h
    have hsome : b.toByteArray.utf8Decode?.isSome = true := by rw [ha]; rfl
    have hget := ByteArray.utf8Encode_get_utf8Decode? (b := b.toByteArray) (h := hsome)
    simp only [ha, Option.get_some] at hget
    exact toByteArray_injective hget
  · rintro rfl
    have hdec := List.utf8Decode?_utf8Encode (l := t)
    change (encodeUtf8 t).toByteArray.utf8Decode? = _ at hdec
    rw [decodeUtf8, hdec]
    rfl

theorem decodeUtf8_encodeUtf8 (t : Text) : decodeUtf8 (encodeUtf8 t) = some t :=
  decodeUtf8_eq_some.mpr rfl

/-- No character's encoding begins another's, so bytes determine characters from the left. -/
theorem encodeUtf8_reflects_cut {s t : Text} (h : encodeUtf8 s <+: encodeUtf8 t) : s <+: t := by
  induction s generalizing t with
  | nil => exact List.nil_prefix
  | cons c s ih =>
    obtain ⟨rest, hrest⟩ := h
    cases t with
    | nil =>
      have hlen := congrArg List.length hrest
      have hpos : 0 < (String.utf8EncodeChar c).length := by
        rw [String.length_utf8EncodeChar]
        exact c.utf8Size_pos
      simp only [encodeUtf8, List.flatMap_cons, List.length_append, List.flatMap_nil,
        List.length_nil] at hlen
      omega
    | cons d t =>
      have hhead : ∀ (x : Char) (b : Bytes), ByteArray.utf8DecodeChar?
          (String.utf8EncodeChar x ++ b).toByteArray 0 = some x := fun x b => by
        rw [List.toByteArray_append]
        exact ByteArray.utf8DecodeChar?_utf8EncodeChar_append
      simp only [encodeUtf8, List.flatMap_cons, List.append_assoc] at hrest
      have hc := hhead c (encodeUtf8 s ++ rest)
      rw [encodeUtf8, hrest, hhead d] at hc
      obtain rfl := Option.some.inj hc
      have htail : encodeUtf8 s <+: encodeUtf8 t := ⟨rest, (List.append_cancel_left hrest)⟩
      exact List.cons_prefix_cons.mpr ⟨rfl, ih htail⟩

theorem encodeUtf8_injective : Function.Injective encodeUtf8 := by
  intro s t h
  have hs := decodeUtf8_encodeUtf8 s
  rw [h, decodeUtf8_encodeUtf8] at hs
  exact (Option.some.inj hs).symm

/-! Lines. -/

def splitFrom (line : Text) : Text → List Text
  | [] => if line = [] then [] else [line]
  | '\r' :: '\n' :: rest => line :: splitFrom [] rest
  | c :: rest => if isLineBreak c then line :: splitFrom [] rest else splitFrom (line ++ [c]) rest

/-- The lines of a text, without their ends; a last line need not be ended. -/
def splitLines (t : Text) : List Text := splitFrom [] t

/-- Every line followed by a line feed. -/
def joinLines (lines : List Text) : Text := lines.flatMap (· ++ ['\n'])

def NoBreak (line : Text) : Prop := line.any isLineBreak = false

instance (line : Text) : Decidable (NoBreak line) := inferInstanceAs (Decidable (_ = false))

theorem splitFrom_append {a : Text} (acc t : Text) (ha : NoBreak a) :
    splitFrom acc (a ++ t) = splitFrom (acc ++ a) t := by
  induction a generalizing acc with
  | nil => rw [List.nil_append, List.append_nil]
  | cons c a ih =>
    simp only [NoBreak, List.any_cons, Bool.or_eq_false_iff] at ha
    have hc : c ≠ '\r' := by
      rintro rfl
      exact absurd ha.1 (by decide)
    rw [List.cons_append, splitFrom]
    · simp only [ha.1, Bool.false_eq_true, ↓reduceIte, ih (acc ++ [c]) ha.2, List.append_assoc,
        List.cons_append, List.nil_append]
    · intro rest hr
      exact absurd hr hc

theorem splitFrom_break {c : Char} (acc t : Text) (hc : isLineBreak c = true) (hr : c ≠ '\r') :
    splitFrom acc (c :: t) = acc :: splitFrom [] t := by
  rw [splitFrom]
  · simp only [hc, ↓reduceIte]
  · intro rest h
    exact absurd h hr

/-- A line without boundaries, followed by a boundary. -/
theorem splitLines_line {a : Text} {c : Char} (t : Text) (ha : NoBreak a)
    (hc : isLineBreak c = true) (hr : c ≠ '\r') :
    splitLines (a ++ c :: t) = a :: splitLines t := by
  rw [splitLines, splitFrom_append [] _ ha, List.nil_append, splitFrom_break a t hc hr]
  rfl

theorem splitLines_joinLines_append (lines : List Text) (t : Text)
    (h : ∀ line ∈ lines, NoBreak line) :
    splitLines (joinLines lines ++ t) = lines ++ splitLines t := by
  induction lines with
  | nil => rfl
  | cons line lines ih =>
    have hjoin : joinLines (line :: lines) ++ t = line ++ '\n' :: (joinLines lines ++ t) := by
      simp only [joinLines, List.flatMap_cons, List.append_assoc, List.cons_append,
        List.nil_append]
    rw [hjoin, splitLines_line _ (h line List.mem_cons_self) (by decide) (by decide),
      ih fun l hl => h l (List.mem_cons_of_mem _ hl)]
    rfl

theorem splitLines_joinLines (lines : List Text) (h : ∀ line ∈ lines, NoBreak line) :
    splitLines (joinLines lines) = lines := by
  have happ := splitLines_joinLines_append lines [] h
  rw [List.append_nil] at happ
  rw [happ]
  exact List.append_nil lines

theorem splitLines_single {a : Text} (ha : NoBreak a) (hne : a ≠ []) : splitLines a = [a] := by
  have h := splitFrom_append [] [] ha
  rw [List.append_nil, List.nil_append] at h
  rw [splitLines, h, splitFrom, if_neg hne]

/-- The first line of a text ends at its first boundary. -/
theorem splitLines_break {a : Text} {c : Char} (ha : NoBreak a) (hc : isLineBreak c = true)
    (t : Text) : ∃ rest, splitLines (a ++ c :: t) = a :: rest := by
  rw [splitLines, splitFrom_append [] _ ha, List.nil_append]
  by_cases hr : c = '\r'
  · subst hr
    rcases t with _ | ⟨d, t⟩
    · exact ⟨_, rfl⟩
    · by_cases hd : d = '\n'
      · subst hd
        exact ⟨_, by rw [splitFrom]⟩
      · refine ⟨splitFrom [] (d :: t), ?_⟩
        rw [splitFrom]
        · simp only [hc, ↓reduceIte]
        · intro rest _ h
          exact hd (List.cons.inj h).1
  · exact ⟨_, splitFrom_break a t hc hr⟩

theorem exists_first_break {t : Text} (h : ¬ NoBreak t) :
    ∃ a c b, t = a ++ c :: b ∧ NoBreak a ∧ isLineBreak c = true := by
  induction t with
  | nil => exact absurd rfl h
  | cons d t ih =>
    by_cases hd : isLineBreak d = true
    · exact ⟨[], d, t, rfl, rfl, hd⟩
    · have hrest : ¬ NoBreak t := by
        intro ht
        rw [Bool.not_eq_true] at hd
        exact h (by rw [NoBreak, List.any_cons, hd, ht, Bool.or_self])
      obtain ⟨a, c, b, rfl, ha, hc⟩ := ih hrest
      refine ⟨d :: a, c, b, rfl, ?_, hc⟩
      rw [Bool.not_eq_true] at hd
      rw [NoBreak, List.any_cons, hd, ha, Bool.or_self]

theorem joinLines_append (a b : List Text) : joinLines (a ++ b) = joinLines a ++ joinLines b :=
  List.flatMap_append

/-! Whitespace, as a text method that follows Unicode strips it. -/

def isSpace (c : Char) : Bool :=
  (0x09 ≤ c.toNat && c.toNat ≤ 0x0d) || (0x1c ≤ c.toNat && c.toNat ≤ 0x20) ||
    c.toNat = 0x85 || c.toNat = 0xa0 || c.toNat = 0x1680 ||
    (0x2000 ≤ c.toNat && c.toNat ≤ 0x200a) || c.toNat = 0x2028 || c.toNat = 0x2029 ||
    c.toNat = 0x202f || c.toNat = 0x205f || c.toNat = 0x3000

def strip (t : Text) : Text := (t.dropWhile isSpace).rdropWhile isSpace

/-- A text with no whitespace at either end is what stripping leaves alone. -/
def Trimmed (t : Text) : Prop := t ≠ [] ∧ strip t = t

instance (t : Text) : Decidable (Trimmed t) := inferInstanceAs (Decidable (_ ∧ _))

theorem Trimmed.checked {s : String} (h : decide (Trimmed s.toList) = true) : Trimmed s.toList :=
  of_decide_eq_true h

theorem isDigit_not_space {c : Char} (h : c.isDigit = true) : isSpace c = false := by
  simp only [Char.isDigit, Bool.and_eq_true, decide_eq_true_eq] at h
  have h1 : (48 : ℕ) ≤ c.toNat := h.1
  have h2 : c.toNat ≤ (57 : ℕ) := h.2
  simp only [isSpace, Bool.or_eq_false_iff, Bool.and_eq_false_imp, decide_eq_true_eq,
    decide_eq_false_iff_not]
  omega

theorem trimmed_of_ends {t : Text} {c d : Char} (hc : t.head? = some c) (hd : t.getLast? = some d)
    (hc' : isSpace c = false) (hd' : isSpace d = false) : Trimmed t := by
  obtain ⟨s, rfl⟩ : ∃ s, t = c :: s := by
    cases t with
    | nil => exact absurd hc (by simp)
    | cons c' s => exact ⟨s, by rw [Option.some.inj hc]⟩
  refine ⟨List.cons_ne_nil c s, ?_⟩
  have hdrop : (c :: s).dropWhile isSpace = c :: s := by
    rw [List.dropWhile_cons, if_neg (by rw [hc']; decide)]
  rw [strip, hdrop, List.rdropWhile_eq_self_iff]
  intro hne
  rw [List.getLast?_eq_some_getLast hne] at hd
  rw [Option.some.inj hd, hd']
  decide

theorem Trimmed.last {t : Text} (h : Trimmed t) : ∃ d, t.getLast? = some d ∧ isSpace d = false := by
  obtain ⟨hne, hstrip⟩ := h
  have hlast : ∀ s (hs : s ≠ []), s = strip t → ¬ isSpace (s.getLast hs) = true := by
    rintro s hs rfl
    exact List.rdropWhile_last_not isSpace (t.dropWhile isSpace) hs
  refine ⟨t.getLast hne, List.getLast?_eq_some_getLast hne, ?_⟩
  exact Bool.eq_false_of_not_eq_true (hlast t hne hstrip.symm)

theorem Trimmed.head {t : Text} (h : Trimmed t) :
    ∃ c, t.head? = some c ∧ isSpace c = false := by
  obtain ⟨hne, hstrip⟩ := h
  cases t with
  | nil => exact absurd rfl hne
  | cons c s =>
    refine ⟨c, rfl, Bool.eq_false_of_not_eq_true fun hc => ?_⟩
    -- stripping would shorten the text
    have hlen := congrArg List.length hstrip
    have hle := (List.rdropWhile_prefix isSpace (l := s.dropWhile isSpace)).length_le
    have hdrop := (List.dropWhile_suffix isSpace (l := s)).length_le
    rw [strip, List.dropWhile_cons, if_pos hc, List.length_cons] at hlen
    omega

theorem head?_append_text {a b : String} {c : Char} (h : a.toList.head? = some c) :
    (a ++ b).toList.head? = some c := by
  rw [String.toList_append, List.head?_append, h, Option.some_or]

/-- A text put together from parts is trimmed when its first part starts and its last part ends
without a space. -/
theorem trimmed_append {a b : String} {c d : Char} (ha : a.toList.head? = some c)
    (hb : b.toList.getLast? = some d) (hc : isSpace c = false) (hd : isSpace d = false) :
    Trimmed (a ++ b).toList := by
  apply trimmed_of_ends (head?_append_text ha) ?_ hc hd
  rw [String.toList_append, List.getLast?_append, hb, Option.some_or]

theorem strip_cons_ne_nil {c : Char} (t : Text) (h : isSpace c = false) : strip (c :: t) ≠ [] := by
  have hdrop : (c :: t).dropWhile isSpace = c :: t := by
    simp only [List.dropWhile_cons, h, Bool.false_eq_true, ↓reduceIte]
  rw [strip, hdrop, Ne, List.rdropWhile_eq_nil_iff]
  intro hall
  exact absurd (hall c List.mem_cons_self) (by rw [h]; decide)

theorem trimmed_of_no_space {t : Text} (hne : t ≠ []) (h : ∀ c ∈ t, isSpace c = false) :
    Trimmed t := by
  refine ⟨hne, ?_⟩
  have hdrop : t.dropWhile isSpace = t := by
    rw [List.dropWhile_eq_self_iff]
    intro hl
    rw [h _ (List.getElem_mem hl)]
    decide
  rw [strip, hdrop, List.rdropWhile_eq_self_iff]
  intro hl
  rw [h _ (List.getLast_mem hl)]
  decide

end TextLines
