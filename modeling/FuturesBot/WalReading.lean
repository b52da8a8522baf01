import FuturesBot.JsonPrefix
import FuturesBot.LocalJsonlWal

/-! What the segment reader makes of the bytes that appends leave: whole lines give the
records back, and a line cut short is refused. -/
namespace FuturesBot

open JsonText (Json Text)
open TextLines JsonCodec

/-- The text of a record's line, without its line feed. -/
def recordText (r : JournalRecord) : Text := (r.modelDump.map JsonText.encode).getD []

def segmentBytes (rs : List JournalRecord) : Bytes := encodeUtf8 (joinLines (rs.map recordText))

/-- The records that a reader of the same run and producer can take back from a line: no
text in them holds a line boundary, and JSON carries them unchanged. -/
structure Readable (env : Env) (config : LocalJsonlWalConfig) (r : JournalRecord) : Prop where
  dumped : ∃ j, r.modelDump = some j ∧ j.hasBreak = false ∧ j.depth ≤ env.jsonDepth
  native : r.event.Native
  run : r.run_id = config.run_id
  producer : r.producer_id = config.producer_id
  hash : (eventHash env r.event).map (·.value) = some r.payload_hash.value

/-- Consecutive offsets from `n` on. -/
def Numbered : ℕ → List JournalRecord → Prop
  | _, [] => True
  | n, r :: rs => r.wal_offset.value = n ∧ Numbered (n + 1) rs

theorem numbered_append (n : ℕ) (rs ss : List JournalRecord) :
    Numbered n (rs ++ ss) ↔ Numbered n rs ∧ Numbered (n + rs.length) ss := by
  induction rs generalizing n with
  | nil => simp [Numbered]
  | cons r rs ih =>
    have hlen : n + 1 + rs.length = n + (r :: rs).length := by
      rw [List.length_cons]
      omega
    simp only [List.cons_append, Numbered, ih, hlen, and_assoc]

theorem segmentBytes_nil : segmentBytes [] = [] := rfl

theorem segmentBytes_append (rs ss : List JournalRecord) :
    segmentBytes (rs ++ ss) = segmentBytes rs ++ segmentBytes ss := by
  rw [segmentBytes, List.map_append, joinLines_append, encodeUtf8_append]
  rfl

theorem JournalRecord.modelDump_isObj {r : JournalRecord} {j : Json} (h : r.modelDump = some j) :
    ∃ ms, j = .obj ms := by
  obtain ⟨event, -, rfl⟩ := Option.map_eq_some_iff.mp h
  exact ⟨_, rfl⟩

theorem recordText_of_dump {r : JournalRecord} {j : Json} (h : r.modelDump = some j) :
    recordText r = JsonText.encode j := by
  rw [recordText, h, Option.map_some, Option.getD_some]

theorem segmentBytes_single {r : JournalRecord} {j : Json} (h : r.modelDump = some j) :
    segmentBytes [r] = encodeUtf8 (JsonText.encode j ++ ['\n']) := by
  simp only [segmentBytes, List.map_cons, List.map_nil, recordText_of_dump h, joinLines,
    List.flatMap_cons, List.flatMap_nil, List.append_nil]

/-- An object's text opens with a brace, so a non-empty part of a line is never blank. -/
theorem not_blank_of_cut {p : Text} {ms : List (String × Json)}
    (hp : p <+: JsonText.encode (.obj ms)) (hne : p ≠ []) : ¬ (p = [] ∨ strip p = []) := by
  rcases p with _ | ⟨c, p⟩
  · exact absurd rfl hne
  · obtain ⟨rfl, -⟩ := List.cons_prefix_cons.mp hp
    rintro (h | h)
    · exact absurd h (by simp)
    · exact strip_cons_ne_nil p (by decide) h

variable (env : Env) (config : LocalJsonlWalConfig)

theorem Readable.noBreak {env : Env} {config : LocalJsonlWalConfig} {r : JournalRecord}
    (h : Readable env config r) : NoBreak (recordText r) := by
  obtain ⟨j, hj, hbreak, -⟩ := h.dumped
  rw [recordText_of_dump hj, NoBreak, JsonText.encode_any_break, hbreak]

theorem readLine_recordText {env : Env} {config : LocalJsonlWalConfig} {r : JournalRecord}
    (h : Readable env config r) (name : String) (num : ℕ) :
    readLine env config.run_id config.producer_id name num (recordText r) = .ok r := by
  obtain ⟨j, hj, -, hdepth⟩ := h.dumped
  obtain ⟨ms, rfl⟩ := JournalRecord.modelDump_isObj hj
  have hblank := not_blank_of_cut (List.prefix_refl (JsonText.encode (.obj ms))) (by
    rw [← List.length_pos_iff]
    exact JsonText.encode_length_pos _)
  have hload := (JournalRecord.modelValidate_eq_iff hj).mpr h.native
  simp only [readLine, recordText_of_dump hj, hblank, ↓reduceIte, env.parseJson_encode, hdepth,
    Option.bind_some, hload, h.run, h.producer, h.hash, ne_eq, not_true_eq_false]

/-- Reading the lines of readable records with consecutive offsets gives them back, and
reading goes on behind them. -/
theorem readLines_append (name : String) (rs : List JournalRecord) (rest : List Text)
    (hread : ∀ r ∈ rs, Readable env config r) (n num : ℕ) (prev : Option ℕ)
    (hnum : Numbered n rs) (hprev : ∀ o ∈ prev, n = o + 1) :
    readLines env config.run_id config.producer_id name num prev (rs.map recordText ++ rest) =
      (readLines env config.run_id config.producer_id name (num + rs.length)
        (if rs = [] then prev else some (n + rs.length - 1)) rest).map (rs ++ ·) := by
  induction rs generalizing n num prev with
  | nil =>
    simp only [List.map_nil, List.nil_append, List.length_nil, Nat.add_zero, ↓reduceIte]
    cases readLines env config.run_id config.producer_id name num prev rest <;> rfl
  | cons r rs ih =>
    obtain ⟨hr, hrs⟩ := hnum
    have hgap : ¬ ∃ o ∈ prev, r.wal_offset.value ≠ o + 1 := by
      rintro ⟨o, ho, hne⟩
      exact hne (hr.trans (hprev o ho))
    have hrec := ih (fun r hr => hread r (List.mem_cons_of_mem _ hr)) (n + 1) (num + 1)
      (some r.wal_offset.value) hrs (by rintro o ⟨⟩; rw [hr])
    have hlen : num + 1 + rs.length = num + (r :: rs).length := by
      rw [List.length_cons]
      omega
    have hlast : (if rs = [] then some r.wal_offset.value else some (n + 1 + rs.length - 1)) =
        if r :: rs = [] then prev else some (n + (r :: rs).length - 1) := by
      rw [if_neg (List.cons_ne_nil r rs), List.length_cons]
      split
      · rename_i hnil
        rw [hnil, hr]
        rfl
      · congr 1
        omega
    simp only [List.map_cons, List.cons_append, readLines,
      readLine_recordText (hread r List.mem_cons_self), bind, Except.bind, hgap, ↓reduceIte]
    rw [hrec, hlen, hlast]
    cases readLines env config.run_id config.producer_id name (num + (r :: rs).length)
      (if r :: rs = [] then prev else some (n + (r :: rs).length - 1)) rest <;> rfl

theorem readLines_records (name : String) (rs : List JournalRecord)
    (hread : ∀ r ∈ rs, Readable env config r) (n : ℕ) (hnum : Numbered n rs) :
    readLines env config.run_id config.producer_id name 1 none (rs.map recordText) = .ok rs := by
  have h := readLines_append env config name rs [] hread n 1 none hnum nofun
  rw [List.append_nil] at h
  rw [h]
  exact congrArg Except.ok (List.append_nil rs)

theorem decode_segmentBytes (rs : List JournalRecord) :
    decodeUtf8 (segmentBytes rs) = some (joinLines (rs.map recordText)) :=
  decodeUtf8_encodeUtf8 _

theorem noBreak_lines {env : Env} {config : LocalJsonlWalConfig} {rs : List JournalRecord}
    (hread : ∀ r ∈ rs, Readable env config r) : ∀ line ∈ rs.map recordText, NoBreak line := by
  intro line hline
  obtain ⟨r, hr, rfl⟩ := List.mem_map.mp hline
  exact (hread r hr).noBreak

/-- The file of a segment, read without a cross-check. -/
theorem readSegmentRecords_plain {disk : Disk} {name : String} {rs : List JournalRecord} {n : ℕ}
    (hfile : disk.segments.get? name = some (segmentBytes rs))
    (hread : ∀ r ∈ rs, Readable env config r) (hnum : Numbered n rs) :
    readSegmentRecords env config disk name none = .ok (rs, (segmentBytes rs).length) := by
  simp only [readSegmentRecords, hfile, decode_segmentBytes,
    splitLines_joinLines _ (noBreak_lines hread), readLines_records env config name rs hread n hnum,
    bind, Except.bind]

/-- Metadata that tells the truth about the offsets of a segment whose first record has
offset `n`. -/
structure Ranges (m : WalSegmentMetadata) (n : ℕ) (rs : List JournalRecord) : Prop where
  count : m.event_count = rs.length
  range : m.offset_range.map (fun r => (r.first.value, r.last.value)) =
    if rs = [] then none else some (n, n + rs.length - 1)

/-- Metadata that tells the truth about a segment, its size included. -/
structure Describes (m : WalSegmentMetadata) (n : ℕ) (rs : List JournalRecord) : Prop
    extends Ranges m n rs where
  bytes : m.payload_bytes = (segmentBytes rs).length

theorem numbered_head {n : ℕ} {rs : List JournalRecord} (h : Numbered n rs) (hne : rs ≠ []) :
    ∃ r, rs.head? = some r ∧ r.wal_offset.value = n := by
  rcases rs with _ | ⟨r, rs⟩
  · exact absurd rfl hne
  · exact ⟨r, rfl, h.1⟩

theorem numbered_last {n : ℕ} {rs : List JournalRecord} (h : Numbered n rs) (hne : rs ≠ []) :
    ∃ r, rs.getLast? = some r ∧ r.wal_offset.value = n + rs.length - 1 := by
  obtain ⟨init, r, rfl⟩ : ∃ init r, rs = init ++ [r] :=
    ⟨rs.dropLast, rs.getLast hne, (List.dropLast_append_getLast hne).symm⟩
  have hr := ((numbered_append n init [r]).mp h).2.1
  refine ⟨r, List.getLast?_concat, ?_⟩
  rw [hr, List.length_append, List.length_singleton]
  omega

theorem checkMetadata_describes {name : String} {m : WalSegmentMetadata} {n : ℕ}
    {rs : List JournalRecord} (hm : Describes m n rs) (hnum : Numbered n rs) :
    checkMetadata name m rs (segmentBytes rs).length = .ok () := by
  have hrange := hm.range
  by_cases hne : rs = []
  · subst hne
    cases hr : m.offset_range with
    | some r => rw [hr] at hrange; exact absurd hrange (by simp)
    | none =>
      simp only [checkMetadata, hm.count, hm.bytes, hr, List.head?_nil, List.getLast?_nil, ne_eq,
        not_true_eq_false, ↓reduceIte]
      rfl
  · obtain ⟨first, hfirst, hfo⟩ := numbered_head hnum hne
    obtain ⟨last, hlast, hlo⟩ := numbered_last hnum hne
    rw [if_neg hne] at hrange
    obtain ⟨range, hr, hval⟩ := Option.map_eq_some_iff.mp hrange
    obtain ⟨h1, h2⟩ := Prod.mk.inj hval
    simp only [checkMetadata, hm.count, hm.bytes, hr, hfirst, hlast, hfo, hlo, h1, h2, ne_eq,
      not_true_eq_false, ↓reduceIte]
    rfl

/-- The file of a segment, read against metadata that describes it. -/
theorem readSegmentRecords_checked {disk : Disk} {name : String} {rs : List JournalRecord}
    {n : ℕ} {m : WalSegmentMetadata}
    (hfile : disk.segments.get? name = some (segmentBytes rs))
    (hread : ∀ r ∈ rs, Readable env config r) (hnum : Numbered n rs) (hm : Describes m n rs) :
    readSegmentRecords env config disk name (some m) = .ok (rs, (segmentBytes rs).length) := by
  simp only [readSegmentRecords, hfile, decode_segmentBytes,
    splitLines_joinLines _ (noBreak_lines hread), readLines_records env config name rs hread n hnum,
    checkMetadata_describes hm hnum, bind, Except.bind]

/-- The file of a segment whose last line has no line feed yet. -/
theorem readSegmentRecords_unended {disk : Disk} {name : String} {rs : List JournalRecord}
    {r : JournalRecord} {n : ℕ}
    (hfile : disk.segments.get? name = some (segmentBytes rs ++ encodeUtf8 (recordText r)))
    (hread : ∀ t ∈ rs ++ [r], Readable env config t) (hnum : Numbered n (rs ++ [r])) :
    readSegmentRecords env config disk name none =
      .ok (rs ++ [r], (segmentBytes rs ++ encodeUtf8 (recordText r)).length) := by
  have hr := hread r (List.mem_append_right _ List.mem_cons_self)
  have hrs : ∀ t ∈ rs, Readable env config t := fun t ht => hread t (List.mem_append_left _ ht)
  have hne : recordText r ≠ [] := by
    obtain ⟨j, hj, -⟩ := hr.dumped
    rw [recordText_of_dump hj, ← List.length_pos_iff]
    exact JsonText.encode_length_pos j
  have hdec : decodeUtf8 (segmentBytes rs ++ encodeUtf8 (recordText r)) =
      some (joinLines (rs.map recordText) ++ recordText r) := by
    rw [segmentBytes, ← encodeUtf8_append, decodeUtf8_encodeUtf8]
  have hlines : splitLines (joinLines (rs.map recordText) ++ recordText r) =
      (rs ++ [r]).map recordText := by
    rw [splitLines_joinLines_append _ _ (noBreak_lines hrs), splitLines_single hr.noBreak hne,
      List.map_append, List.map_singleton]
  simp only [readSegmentRecords, hfile, hdec, hlines, readLines_records env config name _ hread n hnum,
    bind, Except.bind]

/-- Two records on one line are refused. -/
theorem readSegmentRecords_joined {disk : Disk} {name : String} {rs : List JournalRecord}
    {r t : JournalRecord} {n : ℕ}
    (hfile : disk.segments.get? name =
      some (segmentBytes rs ++ encodeUtf8 (recordText r) ++ segmentBytes [t]))
    (hread : ∀ r ∈ rs, Readable env config r) (hnum : Numbered n rs)
    (hr : Readable env config r) (ht : Readable env config t) :
    ∃ c, readSegmentRecords env config disk name none = .error c := by
  obtain ⟨j, hj, -⟩ := hr.dumped
  obtain ⟨k, hk, -⟩ := ht.dumped
  obtain ⟨ms, rfl⟩ := JournalRecord.modelDump_isObj hj
  obtain ⟨ns, rfl⟩ := JournalRecord.modelDump_isObj hk
  have hbreak : NoBreak (recordText r ++ recordText t) := by
    rw [NoBreak, List.any_append, Bool.or_eq_false_iff]
    exact ⟨hr.noBreak, ht.noBreak⟩
  have hdec : decodeUtf8 (segmentBytes rs ++ encodeUtf8 (recordText r) ++ segmentBytes [t]) =
      some (joinLines (rs.map recordText) ++ joinLines [recordText r ++ recordText t]) := by
    rw [segmentBytes, segmentBytes, ← encodeUtf8_append, ← encodeUtf8_append,
      decodeUtf8_encodeUtf8]
    simp only [joinLines, List.map_cons, List.map_nil, List.flatMap_cons, List.flatMap_nil,
      List.append_nil, List.append_assoc]
  have hlines : splitLines (joinLines (rs.map recordText) ++
      joinLines [recordText r ++ recordText t]) =
        rs.map recordText ++ [recordText r ++ recordText t] := by
    rw [splitLines_joinLines_append _ _ (noBreak_lines hread), splitLines_joinLines]
    intro line hline
    rw [List.mem_singleton.mp hline]
    exact hbreak
  have hnone : env.parseJson (recordText r ++ recordText t) = none := by
    rw [Env.parseJson, recordText_of_dump hj, recordText_of_dump hk, JsonText.decode_obj_obj,
      Option.bind_none]
  have hblank : ¬ (recordText r ++ recordText t = [] ∨ strip (recordText r ++ recordText t) = []) := by
    rw [recordText_of_dump hj, JsonText.encode, List.cons_append]
    rintro (h | h)
    · exact absurd h (List.cons_ne_nil _ _)
    · exact strip_cons_ne_nil _ (by decide) h
  have hbad := readLines_append env config name rs [recordText r ++ recordText t] hread n 1 none
    hnum fun _ h => absurd h (Option.not_mem_none _)
  simp only [readLines, readLine, hblank, ↓reduceIte, hnone, Option.bind_none, bind, Except.bind,
    Except.map] at hbad
  exact ⟨_, by simp only [readSegmentRecords, hfile, hdec, hlines, hbad, bind, Except.bind]; rfl⟩

/-- A line cut inside its JSON is refused. -/
theorem readLine_cut {r : JournalRecord} {j : Json} (hj : r.modelDump = some j) {p : Text}
    (hp : p <+: JsonText.encode j) (hne : p ≠ []) (hcut : p ≠ JsonText.encode j)
    (name : String) (num : ℕ) :
    readLine env config.run_id config.producer_id name num p =
      .error (.malformedRecord num name) := by
  obtain ⟨ms, rfl⟩ := JournalRecord.modelDump_isObj hj
  have hnone : env.parseJson p = none := by
    rw [Env.parseJson, JsonText.decode_prefix_obj hp hcut, Option.bind_none]
  simp only [readLine, not_blank_of_cut hp hne, ↓reduceIte, hnone, Option.bind_none]

/-- Whole lines followed by part of one: the segment is refused. -/
theorem readSegmentRecords_torn {disk : Disk} {name : String} {rs : List JournalRecord}
    {r : JournalRecord} {n : ℕ} {part : Bytes} (m : Option WalSegmentMetadata)
    (hfile : disk.segments.get? name = some (segmentBytes rs ++ part))
    (hread : ∀ r ∈ rs, Readable env config r) (hnum : Numbered n rs)
    (hr : Readable env config r) (hpart : part <+: encodeUtf8 (recordText r)) (hne : part ≠ [])
    (hcut : part ≠ encodeUtf8 (recordText r)) :
    ∃ c, readSegmentRecords env config disk name m = .error c := by
  obtain ⟨j, hj, -, -⟩ := hr.dumped
  have hbreak := hr.noBreak
  rw [recordText_of_dump hj] at hpart hcut hbreak
  cases hdec : decodeUtf8 (segmentBytes rs ++ part) with
  | none => exact ⟨.invalidUtf8 name, by simp only [readSegmentRecords, hfile, hdec]⟩
  | some t =>
    have henc := decodeUtf8_eq_some.mp hdec
    obtain ⟨p, rfl⟩ : joinLines (rs.map recordText) <+: t :=
      encodeUtf8_reflects_cut (by rw [henc]; exact List.prefix_append _ _)
    rw [encodeUtf8_append] at henc
    have hpenc : encodeUtf8 p = part := List.append_cancel_left henc
    have hp : p <+: JsonText.encode j := encodeUtf8_reflects_cut (by rw [hpenc]; exact hpart)
    have hpne : p ≠ [] := by
      rintro rfl
      exact hne hpenc.symm
    have hpcut : p ≠ JsonText.encode j := by
      rintro rfl
      exact hcut hpenc.symm
    have hpbreak : NoBreak p := by
      obtain ⟨s, hs⟩ := hp
      rw [← hs, NoBreak, List.any_append, Bool.or_eq_false_iff] at hbreak
      exact hbreak.1
    have hlines : splitLines (joinLines (rs.map recordText) ++ p) = rs.map recordText ++ [p] := by
      rw [splitLines_joinLines_append _ _ (noBreak_lines hread), splitLines_single hpbreak hpne]
    have hbad := readLines_append env config name rs [p] hread n 1 none hnum fun _ h =>
      absurd h (Option.not_mem_none _)
    simp only [readLines, readLine_cut env config hj hp hpne hpcut, bind, Except.bind, Except.map]
      at hbad
    exact ⟨.malformedRecord (1 + rs.length) name, by
      simp only [readSegmentRecords, hfile, hdec, hlines, hbad, bind, Except.bind]⟩

end FuturesBot
