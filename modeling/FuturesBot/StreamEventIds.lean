import FuturesBot.FixedPointText
import FuturesBot.OrderIdentity
import FuturesBot.ReplayDigests
import FuturesBot.ReplayStateMachine
import FuturesBot.JoinedTexts
import FuturesBot.StitchSafety

/-! Which events have one id, and which stitched slices: the parts an id is made of are joined by a
separator that some of them may have in them. -/
namespace FuturesBot.LiveState

open DateTimes DecimalNumbers JsonText SeparatorTexts TextLines

/-- What `deterministic_stream_event_id` makes an id of. -/
structure EventSource where
  stream_position : StreamPosition
  event_kind : TrimmedText
  payload_canonical_hash : HexDigest
  deriving DecidableEq

namespace EventSource

def id (env : Env) (e : EventSource) : StreamEventId :=
  deterministicStreamEventId env e.stream_position e.event_kind e.payload_canonical_hash

def stream (e : EventSource) : Text := e.stream_position.stream_id.value.toList

def partition (e : EventSource) : Text := e.stream_position.partition_id.value.toList

def kind (e : EventSource) : Text := e.event_kind.value.toList

/-- The offset, the sequence number and the time of a position. -/
def place (e : EventSource) : Text :=
  natText e.stream_position.offset ++ '|' :: (natText e.stream_position.event_sequence ++
    '|' :: (isoformat e.stream_position.event_time).toList)

/-- `seed`, without the payload hash at its end. -/
def body (e : EventSource) : Text :=
  (e.stream ++ '|' :: e.partition) ++ '|' :: (e.place ++ '|' :: e.kind)

def seed (e : EventSource) : Text := e.body ++ '|' :: e.payload_canonical_hash.value.toList

theorem id_eq (env : Env) (e : EventSource) :
    e.id env = .ofDigest ⟨"stream-event:", by decide⟩ (env.sha256 (encodeUtf8 e.seed)) := by
  have hnat : ∀ n : ℕ, (toString n).toList = natText n := fun n => String.toList_ofList
  have hseed : (String.intercalate "|" [e.stream_position.stream_id.value,
      e.stream_position.partition_id.value, toString e.stream_position.offset,
      toString e.stream_position.event_sequence, isoformat e.stream_position.event_time,
      e.event_kind.value, e.payload_canonical_hash.value]).toList = e.seed := by
    rw [String.toList_intercalate]
    change List.intercalate ['|'] _ = _
    simp only [List.map_cons, List.map_nil, hnat, intercalate_cons, tails_cons, tails_nil,
      List.append_nil, seed, body, place, stream, partition, kind,
      List.append_assoc, List.cons_append]
  rw [id, deterministicStreamEventId, hseed]

/-! What is read off a seed from its end and from its start. -/

theorem digits_no_bar {t : Text} (h : ∀ c ∈ t, c.isDigit = true) : '|' ∉ t :=
  fun hbar => absurd (h '|' hbar) (by decide)

theorem natText_no_bar (n : ℕ) : '|' ∉ natText n := digits_no_bar (natText_isDigit n)

theorem hex_no_bar (d : HexDigest) : '|' ∉ d.value.toList := by
  intro hbar
  have h := d.char_cases hbar
  revert h
  decide

/-- A time has a letter in it and no bar. -/
theorem isoformat_chars (t : DateTime) :
    'T' ∈ (isoformat t).toList ∧ '|' ∉ (isoformat t).toList := by
  have hfixed : ∀ w n : ℕ, '|' ∉ fixedDigits w n := fun w n =>
    digits_no_bar (fixedDigits_isDigit w n)
  have hfraction : '|' ∉ t.fraction := by
    rw [DateTime.fraction]
    split
    · exact List.not_mem_nil
    · simp [hfixed]
  rw [isoformat, String.toList_ofList]
  constructor
  · exact List.mem_append_right _ List.mem_cons_self
  · simp [DateTime.dateText, DateTime.clockText, hfixed, hfraction]

theorem natText_ne_isoformat (n : ℕ) (t : DateTime) : natText n ≠ (isoformat t).toList := by
  intro h
  have hletter := natText_isDigit n 'T' (h ▸ (isoformat_chars t).1)
  exact absurd hletter (by decide)

/-- The numbers and the time of a position are read off from the start. -/
theorem place_inj {a b : EventSource} {x y : Text}
    (h : a.place ++ '|' :: x = b.place ++ '|' :: y) :
    a.stream_position.offset = b.stream_position.offset ∧
      a.stream_position.event_sequence = b.stream_position.event_sequence ∧
      a.stream_position.event_time = b.stream_position.event_time ∧ x = y := by
  simp only [place, List.append_assoc, List.cons_append] at h
  obtain ⟨hoffset, h⟩ := first_inj (natText_no_bar _) (natText_no_bar _) h
  obtain ⟨hsequence, h⟩ := first_inj (natText_no_bar _) (natText_no_bar _) h
  obtain ⟨htime, h⟩ := first_inj (isoformat_chars _).2 (isoformat_chars _).2 h
  exact ⟨Decimal.natText_inj hoffset, Decimal.natText_inj hsequence,
    isoformat_injective (String.ext htime), h⟩

/-- A position does not start within another one: a number would be a time. -/
theorem place_not_within {a b : EventSource} {x y z k : Text}
    (hplace : a.place = x ++ '|' :: y) (h : y ++ '|' :: z = b.place ++ '|' :: k) : False := by
  have htail : y = natText a.stream_position.event_sequence ++
      '|' :: (isoformat a.stream_position.event_time).toList ∨
        y = (isoformat a.stream_position.event_time).toList := by
    rcases pair_eq_iff.mp hplace with ⟨-, hy⟩ | ⟨between, -, hy⟩ | ⟨between, hx, -⟩
    · exact .inl hy.symm
    · rcases pair_eq_iff.mp hy with ⟨-, hy⟩ | ⟨_, -, hy⟩ | ⟨_, hx, -⟩
      · exact .inr hy.symm
      · exact absurd (hy ▸ List.mem_append_right _ List.mem_cons_self) (isoformat_chars _).2
      · exact absurd (hx ▸ List.mem_append_right _ List.mem_cons_self) (natText_no_bar _)
    · exact absurd (hx ▸ List.mem_append_right _ List.mem_cons_self) (natText_no_bar _)
  simp only [place, List.append_assoc, List.cons_append] at h
  rcases htail with rfl | rfl
  · rw [List.append_assoc, List.cons_append] at h
    obtain ⟨-, h⟩ := first_inj (natText_no_bar _) (natText_no_bar _) h
    obtain ⟨htime, -⟩ := first_inj (isoformat_chars _).2 (natText_no_bar _) h
    exact natText_ne_isoformat _ _ htime.symm
  · obtain ⟨htime, -⟩ := first_inj (isoformat_chars _).2 (natText_no_bar _) h
    exact natText_ne_isoformat _ _ htime.symm

/-! When two seeds are one text. -/

/-- The stream and the partition are cut at another bar. -/
def Shifted (a b : EventSource) : Prop :=
  Moved '|' a.stream a.partition b.stream b.partition ∧
    a.stream_position.offset = b.stream_position.offset ∧
    a.stream_position.event_sequence = b.stream_position.event_sequence ∧
    a.stream_position.event_time = b.stream_position.event_time ∧
    a.event_kind = b.event_kind ∧ a.payload_canonical_hash = b.payload_canonical_hash

/-- The position of the first stands in the ids of the second, and the position of the second in the
kind of the first. -/
def Nested (a b : EventSource) : Prop :=
  a.payload_canonical_hash = b.payload_canonical_hash ∧
    ∃ between, b.stream ++ '|' :: b.partition =
        (a.stream ++ '|' :: a.partition) ++ '|' :: (a.place ++ between) ∧
      '|' :: a.kind = between ++ '|' :: (b.place ++ '|' :: b.kind)

theorem body_eq_of_moved {a b : EventSource}
    (hhash : a.payload_canonical_hash = b.payload_canonical_hash)
    (h : Moved '|' (a.stream ++ '|' :: a.partition) (a.place ++ '|' :: a.kind)
      (b.stream ++ '|' :: b.partition) (b.place ++ '|' :: b.kind)) : Nested a b := by
  obtain ⟨within, hids, hrest⟩ := h
  refine ⟨hhash, ?_⟩
  rcases pair_eq_iff.mp hrest with ⟨rfl, hkind⟩ | ⟨between, rfl, hkind⟩ | ⟨between, hplace, hnext⟩
  · exact ⟨[], by rw [hids, List.append_nil], by rw [hkind, List.nil_append]⟩
  · exact ⟨'|' :: between, hids, by rw [hkind, List.cons_append]⟩
  · exact (place_not_within hplace hnext.symm).elim

theorem Nested.seed_eq {a b : EventSource} (h : Nested a b) : a.seed = b.seed := by
  obtain ⟨hhash, between, hids, hkind⟩ := h
  rw [seed, seed, body, body, hids, hkind, hhash]
  simp only [List.append_assoc, List.cons_append]

theorem Shifted.seed_eq {a b : EventSource} (h : Shifted a b) : a.seed = b.seed := by
  obtain ⟨hmoved, hoffset, hsequence, htime, hkind, hhash⟩ := h
  have hids := pair_eq_iff.mpr (.inr (.inl hmoved))
  rw [seed, seed, body, body, hids, hhash, place, place, hoffset, hsequence, htime, kind, kind,
    hkind]

theorem seed_eq_iff {a b : EventSource} : a.seed = b.seed ↔
    a = b ∨ (Shifted a b ∨ Nested a b) ∨ Shifted b a ∨ Nested b a := by
  constructor
  · intro h
    obtain ⟨hbody, hhash⟩ := last_inj (hex_no_bar _) (hex_no_bar _) h
    have hhash : a.payload_canonical_hash = b.payload_canonical_hash :=
      Replay.HexDigest.ext (String.ext hhash)
    rcases pair_eq_iff.mp hbody with ⟨hids, hrest⟩ | hmoved | hmoved
    · obtain ⟨hoffset, hsequence, htime, hkind⟩ := place_inj hrest
      have hkind : a.event_kind = b.event_kind := TrimmedText.ext (String.ext hkind)
      rcases pair_eq_iff.mp hids with ⟨hstream, hpartition⟩ | hmoved | hmoved
      · left
        obtain ⟨⟨stream_id, partition_id, offset, event_sequence, event_time⟩, kind, hash⟩ := a
        obtain ⟨⟨stream_id', partition_id', offset', event_sequence', event_time'⟩, kind', hash'⟩ := b
        obtain rfl : stream_id = stream_id' := DomainId.ext (String.ext hstream)
        obtain rfl : partition_id = partition_id' := DomainId.ext (String.ext hpartition)
        cases hoffset
        cases hsequence
        cases htime
        cases hkind
        cases hhash
        rfl
      · exact .inr (.inl (.inl ⟨hmoved, hoffset, hsequence, htime, hkind, hhash⟩))
      · exact .inr (.inr (.inl ⟨hmoved, hoffset.symm, hsequence.symm, htime.symm, hkind.symm,
          hhash.symm⟩))
    · exact .inr (.inl (.inr (body_eq_of_moved hhash hmoved)))
    · exact .inr (.inr (.inr (body_eq_of_moved hhash.symm hmoved)))
  · rintro (rfl | (h | h) | h | h)
    · rfl
    · exact h.seed_eq
    · exact h.seed_eq
    · exact h.seed_eq.symm
    · exact h.seed_eq.symm

/-- The second has more of the text in its ids. -/
def ConfusedWith (a b : EventSource) : Prop := Shifted a b ∨ Nested a b

theorem ConfusedWith.ne {a b : EventSource} (h : a.ConfusedWith b) : a ≠ b := by
  rintro rfl
  rcases h with ⟨hmoved, -⟩ | ⟨-, between, hids, -⟩
  · exact absurd hmoved.length_lt (lt_irrefl _)
  · have hlength := congrArg List.length hids
    simp only [List.length_append, List.length_cons] at hlength
    omega

/-- Without a bar in the ids of streams and partitions no id stands for two events. -/
theorem not_confused_of_plain {a b : EventSource} (ha : '|' ∉ a.stream ∧ '|' ∉ a.partition)
    (hb : '|' ∉ b.stream ∧ '|' ∉ b.partition) : ¬ a.ConfusedWith b := by
  have hmem : ∀ {x y : Text}, '|' ∈ x ++ '|' :: y := List.mem_append_right _ List.mem_cons_self
  rintro (⟨⟨between, hstream, -⟩, -⟩ | ⟨-, between, hids, -⟩)
  · exact hb.1 (hstream ▸ hmem)
  · rw [List.append_assoc, List.cons_append] at hids
    obtain ⟨-, hpartition⟩ := first_inj hb.1 ha.1 hids
    exact hb.2 (hpartition ▸ hmem)

theorem id_eq_iff {env : Env} {a b : EventSource}
    (hfree : Set.InjOn env.sha256 {encodeUtf8 a.seed, encodeUtf8 b.seed}) :
    a.id env = b.id env ↔ a.seed = b.seed := by
  rw [id_eq, id_eq, DomainId.ofDigest_inj, hfree.eq_iff (.inl rfl) (.inr rfl)]
  exact ⟨fun h => encodeUtf8_injective h, fun h => by rw [h]⟩

end EventSource

/-! Stitched slices. -/

/-- What `_stitched_slice_id` makes an id of. -/
structure StitchSource (env : Env) where
  historical : HistoricalStateSlice env
  live_tail : Option (LiveTailSlice env)
  events : List (StreamEventEnvelope env)

/-- `"no-live-tail"`. -/
def noLiveTail : Text := ['n', 'o', '-', 'l', 'i', 'v', 'e', '-', 't', 'a', 'i', 'l']

def liveText : Option DomainId → Text
  | some id => id.value.toList
  | none => noLiveTail

namespace StitchSource

variable {env : Env}

def slice_id (s : StitchSource env) : DomainId :=
  stitchedSliceId s.historical s.live_tail s.events

def live_id (s : StitchSource env) : Option DomainId := s.live_tail.map (·.slice_id)

def event_ids (s : StitchSource env) : List StreamEventId := s.events.map (·.event_id)

def history (s : StitchSource env) : Text := s.historical.slice_id.value.toList

def eventTexts (s : StitchSource env) : List Text := s.event_ids.map (·.value.toList)

def seed (s : StitchSource env) : Text :=
  (s.history ++ '|' :: liveText s.live_id) ++ tails '|' s.eventTexts

/-- The history, the tail and the events have the same ids. -/
def SameIds (a b : StitchSource env) : Prop :=
  a.historical.slice_id = b.historical.slice_id ∧ a.live_id = b.live_id ∧ a.event_ids = b.event_ids

theorem slice_id_eq (s : StitchSource env) :
    s.slice_id = .ofDigest ⟨"stitched-state:", by decide⟩ (env.sha256 (encodeUtf8 s.seed)) := by
  have hevents : (s.events.map (·.event_id.value)).map String.toList = s.eventTexts := by
    rw [eventTexts, event_ids, List.map_map, List.map_map]
    rfl
  have hseed (name : String) (hlive : name.toList = liveText s.live_id) :
      (String.intercalate "|" ([s.historical.slice_id.value, name] ++
        s.events.map (·.event_id.value))).toList = s.seed := by
    rw [String.toList_intercalate, List.map_append, hevents, List.map_cons, List.map_cons,
      List.map_nil, hlive]
    change List.intercalate ['|'] _ = _
    rw [List.cons_append, intercalate_cons, List.singleton_append, tails_cons, seed, history,
      List.append_assoc, List.cons_append]
  refine congrArg (fun t => DomainId.ofDigest _ (env.sha256 (encodeUtf8 t))) (hseed _ ?_)
  rw [live_id]
  cases s.live_tail with
  | some t => rfl
  | none => exact (by decide : "no-live-tail".toList = noLiveTail)

theorem event_no_bar (s : StitchSource env) : ∀ t ∈ s.eventTexts, '|' ∉ t := by
  intro t ht
  obtain ⟨id, hid, rfl⟩ := List.mem_map.mp ht
  obtain ⟨e, -, rfl⟩ := List.mem_map.mp hid
  rw [e.valid.2.2, deterministicStreamEventId]
  change '|' ∉ (_ ++ _ : String).toList
  rw [String.toList_append, List.mem_append, not_or]
  exact ⟨by decide, EventSource.hex_no_bar _⟩

/-- The ids of the history and of the tail are cut at another bar. -/
def Shifted (a b : StitchSource env) : Prop :=
  a.event_ids = b.event_ids ∧ Moved '|' a.history (liveText a.live_id) b.history (liveText b.live_id)

/-- A tail has the id that stands for none. -/
def NamedAsNone (a b : StitchSource env) : Prop :=
  a.historical.slice_id = b.historical.slice_id ∧ a.event_ids = b.event_ids ∧ a.live_id = none ∧
    ∃ id, b.live_id = some id ∧ id.value.toList = noLiveTail

/-- Ids of events of the second stand in the ids of the history and of the tail of the first. -/
def Absorbs (a b : StitchSource env) : Prop :=
  ∃ more, more ≠ [] ∧ b.eventTexts = more ++ a.eventTexts ∧
    a.history ++ '|' :: liveText a.live_id =
      (b.history ++ '|' :: liveText b.live_id) ++ tails '|' more

def ConfusedWith (a b : StitchSource env) : Prop := Shifted a b ∨ NamedAsNone a b ∨ Absorbs a b

theorem event_ids_inj {a b : StitchSource env} (h : a.eventTexts = b.eventTexts) :
    a.event_ids = b.event_ids :=
  List.map_injective_iff.mpr (fun _ _ h => DomainId.ext (String.ext h)) h

/-- Two tails with one text have one id, unless one is not there. -/
theorem liveText_eq {x y : Option DomainId} (h : liveText x = liveText y) :
    x = y ∨ (x = none ∧ ∃ id, y = some id ∧ id.value.toList = noLiveTail) ∨
      (y = none ∧ ∃ id, x = some id ∧ id.value.toList = noLiveTail) := by
  cases x with
  | none =>
    cases y with
    | none => exact .inl rfl
    | some id => exact .inr (.inl ⟨rfl, id, rfl, h.symm⟩)
  | some id =>
    cases y with
    | none => exact .inr (.inr ⟨rfl, id, rfl, h⟩)
    | some id' => exact .inl (congrArg some (DomainId.ext (String.ext h)))

/-- Seeds that are one text, where the second slice has at least the events of the first. -/
theorem confused_of_more {a b : StitchSource env} {more : List Text}
    (hevents : b.eventTexts = more ++ a.eventTexts)
    (htext : a.history ++ '|' :: liveText a.live_id =
      (b.history ++ '|' :: liveText b.live_id) ++ tails '|' more) :
    SameIds a b ∨ ConfusedWith a b ∨ ConfusedWith b a := by
  by_cases hmore : more = []
  · subst hmore
    rw [tails_nil, List.append_nil] at htext
    have hids : a.event_ids = b.event_ids := event_ids_inj hevents.symm
    rcases pair_eq_iff.mp htext with ⟨hhistory, hlive⟩ | hmoved | hmoved
    · have hhistory : a.historical.slice_id = b.historical.slice_id :=
        DomainId.ext (String.ext hhistory)
      rcases liveText_eq hlive with hlive | ⟨hnone, id, hid, htext⟩ | ⟨hnone, id, hid, htext⟩
      · exact .inl ⟨hhistory, hlive, hids⟩
      · exact .inr (.inl (.inr (.inl ⟨hhistory, hids, hnone, id, hid, htext⟩)))
      · exact .inr (.inr (.inr (.inl ⟨hhistory.symm, hids.symm, hnone, id, hid, htext⟩)))
    · exact .inr (.inl (.inl ⟨hids, hmoved⟩))
    · exact .inr (.inr (.inl ⟨hids.symm, hmoved⟩))
  · exact .inr (.inl (.inr (.inr ⟨more, hmore, hevents, htext⟩)))

theorem SameIds.symm {a b : StitchSource env} (h : SameIds a b) : SameIds b a :=
  ⟨h.1.symm, h.2.1.symm, h.2.2.symm⟩

theorem ConfusedWith.seed_eq {a b : StitchSource env} (h : a.ConfusedWith b) :
    a.seed = b.seed := by
  rcases h with ⟨hevents, hmoved⟩ | ⟨hhistory, hevents, hnone, id, hid, htext⟩ |
    ⟨more, -, hevents, htext⟩
  · rw [seed, seed, pair_eq_iff.mpr (.inr (.inl hmoved)), eventTexts, hevents, eventTexts]
  · rw [seed, seed, history, hhistory, eventTexts, hevents, hnone, hid, liveText, liveText, htext,
      history, eventTexts]
  · rw [seed, seed, htext, hevents, tails_append, List.append_assoc]

theorem seed_eq_iff {a b : StitchSource env} :
    a.seed = b.seed ↔ SameIds a b ∨ ConfusedWith a b ∨ ConfusedWith b a := by
  constructor
  · intro h
    rcases (tails_eq_iff a.event_no_bar b.event_no_bar).mp h with
      ⟨more, hevents, htext⟩ | ⟨more, hevents, htext⟩
    · exact confused_of_more hevents htext
    · rcases confused_of_more hevents htext with h | h | h
      · exact .inl h.symm
      · exact .inr (.inr h)
      · exact .inr (.inl h)
  · rintro (⟨hhistory, hlive, hevents⟩ | h | h)
    · rw [seed, seed, history, hhistory, hlive, eventTexts, hevents, history, eventTexts]
    · exact h.seed_eq
    · exact h.seed_eq.symm

theorem ConfusedWith.not_sameIds {a b : StitchSource env} (h : a.ConfusedWith b) :
    ¬ SameIds a b := by
  rintro ⟨hhistory, hlive, hevents⟩
  rcases h with ⟨-, hmoved⟩ | ⟨-, -, hnone, id, hid, -⟩ | ⟨more, hmore, hmoreEvents, -⟩
  · have hlt := hmoved.length_lt
    rw [history, hhistory] at hlt
    exact absurd hlt (lt_irrefl _)
  · rw [hlive, hid] at hnone
    exact Option.some_ne_none id hnone
  · have hlength := congrArg List.length hmoreEvents
    rw [List.length_append, eventTexts, eventTexts, hevents] at hlength
    have hpos := List.length_pos_of_ne_nil hmore
    omega

theorem slice_id_eq_iff {a b : StitchSource env}
    (hfree : Set.InjOn env.sha256 {encodeUtf8 a.seed, encodeUtf8 b.seed}) :
    a.slice_id = b.slice_id ↔ a.seed = b.seed := by
  rw [slice_id_eq, slice_id_eq, DomainId.ofDigest_inj, hfree.eq_iff (.inl rfl) (.inr rfl)]
  exact ⟨fun h => encodeUtf8_injective h, fun h => by rw [h]⟩

end StitchSource

/-- An id tells events apart exactly when no bar in an id or a kind can be taken for one between
the parts, and so for stitched slices, where a tail may also have the id that stands for none. -/
theorem ids_separate_iff (env : Env) :
    (∀ a b : EventSource, Set.InjOn env.sha256 {encodeUtf8 a.seed, encodeUtf8 b.seed} →
      ((a.id env = b.id env → a = b) ↔ ¬ (a.ConfusedWith b ∨ b.ConfusedWith a))) ∧
    ∀ a b : StitchSource env, Set.InjOn env.sha256 {encodeUtf8 a.seed, encodeUtf8 b.seed} →
      ((a.slice_id = b.slice_id → a.SameIds b) ↔ ¬ (a.ConfusedWith b ∨ b.ConfusedWith a)) := by
  constructor
  · intro a b hfree
    rw [EventSource.id_eq_iff hfree, EventSource.seed_eq_iff]
    constructor
    · intro h hconfused
      have hab := h (.inr hconfused)
      rcases hconfused with h | h
      · exact h.ne hab
      · exact h.ne hab.symm
    · intro hnot h
      exact h.resolve_right hnot
  · intro a b hfree
    rw [StitchSource.slice_id_eq_iff hfree, StitchSource.seed_eq_iff]
    constructor
    · intro h hconfused
      have hab := h (.inr hconfused)
      rcases hconfused with h | h
      · exact h.not_sameIds hab
      · exact h.not_sameIds hab.symm
    · intro hnot h
      exact h.resolve_right hnot

/-! A bar that moves from the stream to the partition, and a tail that is named as none. -/

def sourceOf (stream_id partition_id : DomainId) (offset : ℕ) : EventSource where
  stream_position := {
    stream_id
    partition_id
    offset
    event_sequence := offset
    event_time := ⟨2024, 1, 1, 0, 0, 0, 0, newYear_date, midnight_clock⟩ }
  event_kind := ⟨"MARKET_TICK", .checked evaluates⟩
  payload_canonical_hash := .ofText (String.ofList (List.replicate 64 '0')) zeros_hex

def sampleSource (offset : ℕ) : EventSource := sourceOf ⟨"s", by decide⟩ ⟨"p", by decide⟩ offset

/-- Events that differ in their offset have ids that differ. -/
theorem ids_separate_sample :
    (sampleSource 1).id Replay.sampleEnv = (sampleSource 2).id Replay.sampleEnv →
      sampleSource 1 = sampleSource 2 := by
  have hplain : ∀ n, '|' ∉ (sampleSource n).stream ∧ '|' ∉ (sampleSource n).partition :=
    fun _ => ⟨(by decide : '|' ∉ "s".toList), (by decide : '|' ∉ "p".toList)⟩
  have hne : Replay.sampleEnv.sha256 (encodeUtf8 (sampleSource 1).seed) ≠
      Replay.sampleEnv.sha256 (encodeUtf8 (sampleSource 2).seed) := by decide +kernel
  have hfree : Set.InjOn Replay.sampleEnv.sha256
      {encodeUtf8 (sampleSource 1).seed, encodeUtf8 (sampleSource 2).seed} :=
    Set.injOn_pair.mpr fun h => absurd h hne
  exact ((ids_separate_iff Replay.sampleEnv).1 _ _ hfree).mpr (not_or.mpr
    ⟨EventSource.not_confused_of_plain (hplain 1) (hplain 2),
      EventSource.not_confused_of_plain (hplain 2) (hplain 1)⟩)

def barInPartition : EventSource := sourceOf ⟨"s", by decide⟩ ⟨"p|q", by decide⟩ 1

def barInStream : EventSource := sourceOf ⟨"s|p", by decide⟩ ⟨"q", by decide⟩ 1

def barePosition : StreamPosition where
  stream_id := ⟨"s", by decide⟩
  partition_id := ⟨"p", by decide⟩
  offset := 0
  event_sequence := 0
  event_time := ⟨2024, 1, 1, 0, 0, 0, 0, newYear_date, midnight_clock⟩

def bareHistory (env : Env) : HistoricalStateSlice env where
  slice_id := ⟨"history-1", DomainId.checked evaluates⟩
  stream_id := ⟨"s", by decide⟩
  partition_id := ⟨"p", by decide⟩
  from_offset := 0
  to_offset := 0
  events := []
  persisted_until_position := barePosition
  is_gap_free := true
  valid := by simp [HistoricalFields.validate, barePosition]

def tailNamedAsNone (env : Env) : LiveTailSlice env where
  slice_id := ⟨"no-live-tail", by decide⟩
  stream_id := ⟨"s", by decide⟩
  partition_id := ⟨"p", by decide⟩
  from_offset := 0
  to_offset := 0
  events := []
  latest_position := barePosition
  freshness := {
    latest_position := barePosition
    projected_at := ⟨2024, 1, 1, 0, 0, 0, 0, newYear_date, midnight_clock⟩
    staleness_ms := 10
    gap_free := true
    is_complete := true
    is_speculative := false
    durability_status := .DURABLE_COMMITTED
    source_health_status := none
    durable := fun _ => committed_durable }
  valid := by simp [LiveTailFields.validate, barePosition]

theorem one_id_for_two :
    (∃ a b : EventSource, a ≠ b ∧ ∀ env, a.id env = b.id env) ∧
      ∀ env, ∃ a b : StitchSource env, ¬ a.SameIds b ∧ a.slice_id = b.slice_id := by
  constructor
  · have hseed : barInPartition.seed = barInStream.seed := by decide +kernel
    refine ⟨barInPartition, barInStream, by decide +kernel, fun env => ?_⟩
    rw [EventSource.id_eq, EventSource.id_eq, hseed]
  · intro env
    refine ⟨⟨bareHistory env, none, []⟩, ⟨bareHistory env, some (tailNamedAsNone env), []⟩,
      fun h => Option.some_ne_none _ h.2.1.symm, ?_⟩
    exact rfl

end FuturesBot.LiveState
