import FuturesBot.Checks
import FuturesBot.WalReading

/-! What the files of a run hold, said without the reader, and what the reader's checks
say about it when they pass. -/
namespace FuturesBot

open JsonText (Json Text)
open TextLines DateTimes Dicts
open Checks (bind_eq_ok)

/-! Content. -/

/-- A line that is a record of this run and producer whose payload has the hash it names. -/
structure LineHolds (env : Env) (config : LocalJsonlWalConfig) (line : Text)
    (r : JournalRecord) : Prop where
  parsed : (env.parseJson line).bind JournalRecord.modelValidate = some r
  run : r.run_id.value = config.run_id.value
  producer : r.producer_id.value = config.producer_id.value
  hash : (eventHash env r.event).map (·.value) = some r.payload_hash.value

/-- The records of a segment file, line by line. -/
def FileHolds (env : Env) (config : LocalJsonlWalConfig) (disk : Disk) (name : String)
    (rs : List JournalRecord) : Prop :=
  ∃ data t, disk.segments.get? name = some data ∧ decodeUtf8 data = some t ∧
    List.Forall₂ (LineHolds env config) (splitLines t) rs

/-- The index that a segment's name ends in. -/
def indexOf (run_id : RunId) (name : String) : Option ℕ :=
  parseIndex (name.toList.drop (segmentPrefix run_id).length)

/-- A sound directory: the run's segments are numbered from 1, each file holds records of
the run, and the offsets go on from 0 through the segments in the order of their numbers. -/
def WalSound (env : Env) (config : LocalJsonlWalConfig) (disk : Disk) : Prop :=
  ∃ names contents,
    names.Perm (namesForRun config.run_id disk.segments) ∧
    names.Perm (namesForRun config.run_id disk.metadata) ∧
    names.map (indexOf config.run_id) = (List.range' 1 names.length).map some ∧
    List.Forall₂ (FileHolds env config disk) names contents ∧ Numbered 0 contents.flatten

section Reading

variable {env : Env} {config : LocalJsonlWalConfig} {disk : Disk} {name : String}

theorem LineHolds.unique : Relator.RightUnique (LineHolds env config) :=
  fun _ _ _ hr hs => Option.some.inj (hr.parsed.symm.trans hs.parsed)

/-- A text with a character has a line. -/
theorem splitLines_eq_nil {t : Text} (h : splitLines t = []) : t = [] := by
  by_contra hne
  by_cases hbreak : NoBreak t
  · rw [splitLines_single hbreak hne] at h
    exact absurd h (List.cons_ne_nil _ _)
  · obtain ⟨a, c, b, rfl, ha, hc⟩ := exists_first_break hbreak
    obtain ⟨rest, hrest⟩ := splitLines_break ha hc b
    rw [hrest] at h
    exact absurd h (List.cons_ne_nil _ _)

theorem FileHolds.unique {rs ss : List JournalRecord} (hr : FileHolds env config disk name rs)
    (hs : FileHolds env config disk name ss) : rs = ss := by
  obtain ⟨data, t, hdata, ht, hrs⟩ := hr
  obtain ⟨data', t', hdata', ht', hss⟩ := hs
  obtain rfl := Option.some.inj (hdata.symm.trans hdata')
  obtain rfl := Option.some.inj (ht.symm.trans ht')
  exact LineHolds.unique.forall₂ hrs hss

/-- A file of records is empty exactly when it holds none: every line is a record. -/
theorem FileHolds.nil_iff {rs : List JournalRecord} (h : FileHolds env config disk name rs) :
    rs = [] ↔ disk.segments.get? name = some [] := by
  obtain ⟨data, t, hdata, ht, hlines⟩ := h
  have henc : encodeUtf8 t = data := decodeUtf8_eq_some.mp ht
  constructor
  · rintro rfl
    have hnone : splitLines t = [] := List.forall₂_nil_right_iff.mp hlines
    rw [hdata, ← henc, splitLines_eq_nil hnone]
    rfl
  · intro hempty
    obtain rfl : data = [] := Option.some.inj (hdata.symm.trans hempty)
    have hnil : t = [] := by
      cases t with
      | nil => rfl
      | cons c t =>
        have hlen := congrArg List.length henc
        have hpos : 0 < (String.utf8EncodeChar c).length := by
          rw [String.length_utf8EncodeChar]
          exact c.utf8Size_pos
        simp only [encodeUtf8, List.flatMap_cons, List.length_append, List.length_nil] at hlen
        omega
    rw [hnil] at hlines
    exact List.forall₂_nil_left_iff.mp hlines

theorem mapM_forall₂ {ε α β : Type} {f : α → Except ε β} {l : List α} {bs : List β}
    (h : l.mapM f = .ok bs) : List.Forall₂ (fun a b => f a = .ok b) l bs := by
  induction l generalizing bs with
  | nil =>
    obtain rfl := Except.ok.inj h
    exact .nil
  | cons a l ih =>
    rw [List.mapM_cons] at h
    obtain ⟨b, hb, h⟩ := bind_eq_ok.mp h
    obtain ⟨cs, hcs, h⟩ := bind_eq_ok.mp h
    obtain rfl := Except.ok.inj h
    exact .cons hb (ih hcs)

theorem readLine_holds {num : ℕ} {line : Text} {r : JournalRecord}
    (h : readLine env config.run_id config.producer_id name num line = .ok r) :
    LineHolds env config line r := by
  rw [readLine] at h
  split at h
  · cases h
  split at h
  · cases h
  rename_i record hrecord
  split at h
  · cases h
  rename_i hrun
  split at h
  · cases h
  rename_i hproducer
  split at h
  · cases h
  rename_i hhash
  obtain rfl := Except.ok.inj h
  exact ⟨hrecord, not_not.mp hrun, not_not.mp hproducer, not_not.mp hhash⟩

/-- Lines that are read to their end are records with consecutive offsets. -/
theorem readLines_holds {num : ℕ} {prev : Option ℕ} {lines : List Text}
    {rs : List JournalRecord}
    (h : readLines env config.run_id config.producer_id name num prev lines = .ok rs) :
    List.Forall₂ (LineHolds env config) lines rs ∧
      ∃ n, (∀ o ∈ prev, n = o + 1) ∧ Numbered n rs := by
  induction lines generalizing num prev rs with
  | nil =>
    obtain rfl := Except.ok.inj h
    refine ⟨.nil, prev.elim 0 (· + 1), ?_, trivial⟩
    rintro o ⟨⟩
    rfl
  | cons line lines ih =>
    rw [readLines] at h
    obtain ⟨record, hrecord, h⟩ := bind_eq_ok.mp h
    split at h
    · cases h
    rename_i hgap
    obtain ⟨records, hrest, h⟩ := bind_eq_ok.mp h
    obtain rfl := Except.ok.inj h
    obtain ⟨hlines, n, hn, hnum⟩ := ih hrest
    refine ⟨.cons (readLine_holds hrecord) hlines, record.wal_offset.value, ?_, rfl, ?_⟩
    · intro o ho
      by_contra hne
      exact hgap ⟨o, ho, hne⟩
    · rw [← hn _ rfl]
      exact hnum

/-- The offsets of the first and the last record. -/
def recordRange (rs : List JournalRecord) : Option (ℕ × ℕ) :=
  match rs.head?, rs.getLast? with
  | some first, some last => some (first.wal_offset.value, last.wal_offset.value)
  | _, _ => none

theorem recordRange_numbered {n : ℕ} {rs : List JournalRecord} (h : Numbered n rs)
    (hne : rs ≠ []) : recordRange rs = some (n, n + rs.length - 1) := by
  obtain ⟨first, hfirst, hfo⟩ := numbered_head h hne
  obtain ⟨last, hlast, hlo⟩ := numbered_last h hne
  rw [recordRange, hfirst, hlast]
  simp only [hfo, hlo]

/-- Metadata that gives the offsets of the first and the last record. -/
def CoversRecords (m : WalSegmentMetadata) (rs : List JournalRecord) : Prop :=
  m.offset_range.map (fun r => (r.first.value, r.last.value)) = recordRange rs

theorem checkMetadata_covers {m : WalSegmentMetadata} {rs : List JournalRecord} {size : ℕ}
    (h : checkMetadata name m rs size = .ok ()) : CoversRecords m rs := by
  cases hfirst : rs.head? with
  | none =>
    obtain rfl : rs = [] := List.head?_eq_none_iff.mp hfirst
    cases hrange : m.offset_range with
    | none => rw [CoversRecords, hrange]; rfl
    | some range =>
      simp only [checkMetadata, hrange, bind, Except.bind, List.head?_nil] at h
      split at h <;> exact absurd h (by simp)
  | some first =>
    have hne : rs ≠ [] := by
      rintro rfl
      exact absurd hfirst (by simp)
    have hlast := List.getLast?_eq_some_getLast hne
    cases hrange : m.offset_range with
    | none =>
      simp only [checkMetadata, hfirst, hrange, bind, Except.bind] at h
      split at h <;> exact absurd h (by simp)
    | some range =>
      simp only [checkMetadata, hfirst, hlast, hrange, bind, Except.bind] at h
      split at h
      · exact absurd h (by simp)
      split at h
      · exact absurd h (by simp)
      rename_i hfo
      split at h
      · exact absurd h (by simp)
      rename_i hlo
      rw [CoversRecords, recordRange, hfirst, hlast, hrange, Option.map_some]
      simp only [not_not.mp hfo, not_not.mp hlo]

/-- What the reader makes of a segment file, nothing when it refuses it. -/
def recordsOf (env : Env) (config : LocalJsonlWalConfig) (disk : Disk) (name : String) :
    List JournalRecord :=
  match readSegmentRecords env config disk name none with
  | .ok (rs, _) => rs
  | .error _ => []

/-- A segment file that the reader takes, with or without metadata to check it against. -/
theorem readSegmentRecords_holds {metadata : Option WalSegmentMetadata}
    {rs : List JournalRecord} {size : ℕ}
    (h : readSegmentRecords env config disk name metadata = .ok (rs, size)) :
    recordsOf env config disk name = rs ∧ FileHolds env config disk name rs ∧
      (∃ n, Numbered n rs) ∧ ∀ m ∈ metadata, CoversRecords m rs := by
  rw [readSegmentRecords] at h
  cases hdata : disk.segments.get? name with
  | none => rw [hdata] at h; cases h
  | some data =>
    cases ht : decodeUtf8 data with
    | none => simp only [hdata, ht, reduceCtorEq] at h
    | some t =>
      simp only [hdata, ht] at h
      obtain ⟨records, hlines, h⟩ := bind_eq_ok.mp h
      obtain ⟨hholds, n, -, hnum⟩ := readLines_holds hlines
      have hrecords : recordsOf env config disk name = records := by
        simp only [recordsOf, readSegmentRecords, hdata, ht, hlines, bind, Except.bind]
      cases metadata with
      | none =>
        obtain ⟨rfl, -⟩ := Prod.mk.inj (Except.ok.inj h)
        exact ⟨hrecords, ⟨data, t, hdata, ht, hholds⟩, ⟨n, hnum⟩,
          fun m hm => absurd hm (Option.not_mem_none m)⟩
      | some m =>
        obtain ⟨u, hcheck, h⟩ := bind_eq_ok.mp h
        obtain ⟨rfl, -⟩ := Prod.mk.inj (Except.ok.inj h)
        refine ⟨hrecords, ⟨data, t, hdata, ht, hholds⟩, ⟨n, hnum⟩, ?_⟩
        rintro m' ⟨⟩
        exact checkMetadata_covers hcheck

/-- The global pass over the offset ranges makes the records themselves consecutive. -/
theorem continuity_numbered {segs : List (WalSegmentMetadata × List JournalRecord)} {expected : ℕ}
    (hsegs : ∀ p ∈ segs, CoversRecords p.1 p.2 ∧ ∃ n, Numbered n p.2)
    (h : LocalJsonlWal.validateGlobalOffsetContinuity expected (segs.map (·.1)) = .ok ()) :
    Numbered expected (segs.flatMap (·.2)) := by
  induction segs generalizing expected with
  | nil => trivial
  | cons p segs ih =>
    obtain ⟨hcovers, n, hnum⟩ := hsegs p List.mem_cons_self
    have hrest := fun e => @ih e fun q hq => hsegs q (List.mem_cons_of_mem _ hq)
    rw [List.map_cons, LocalJsonlWal.validateGlobalOffsetContinuity] at h
    rw [List.flatMap_cons, numbered_append]
    by_cases hne : p.2 = []
    · have hrange : p.1.offset_range = none := by
        rw [CoversRecords, hne] at hcovers
        exact Option.map_eq_none_iff.mp hcovers
      rw [hrange] at h
      rw [hne]
      exact ⟨trivial, hrest _ h⟩
    · rw [CoversRecords, recordRange_numbered hnum hne] at hcovers
      obtain ⟨range, hrange, hends⟩ := Option.map_eq_some_iff.mp hcovers
      obtain ⟨hfirst, hlast⟩ := Prod.mk.inj hends
      simp only [hrange] at h
      split at h
      · exact absurd h nofun
      rename_i hstart
      -- the segment starts where it is expected to, so its last offset gives the next start
      obtain rfl : n = expected := hfirst.symm.trans (not_not.mp hstart)
      have hpos := List.length_pos_of_ne_nil hne
      have hnext : range.last.value + 1 = n + p.2.length := by omega
      rw [hnext] at h
      exact ⟨hnum, hrest _ h⟩

end Reading

end FuturesBot
