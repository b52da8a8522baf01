import FuturesBot.FrameSelection
import FuturesBot.MarketEvidence

/-! What is derived from a frame: one item for each value told, in canonical order, and no other
tuple of items is taken for it. -/
namespace FuturesBot.Market

open TextLines DecimalNumbers Checks KeySorting

/-! What payloads and snapshots tell. -/

/-- A value that is told, before it is known from where. -/
structure Told where
  kind : MarketEvidenceKind
  unit : MarketEvidenceUnit
  value : MarketEvidenceValue

def Told.by (t : Told) (origin : MarketEvidenceOrigin) : EvidenceItemFields where
  evidence_kind := t.kind
  origin
  unit := t.unit
  value := t.value

def AggressorSide.text (s : AggressorSide) : TrimmedText := ⟨s.value, by cases s <;> decide⟩

def QuoteSemantics.text (q : QuoteSemantics) : TrimmedText := ⟨q.value, by cases q <;> decide⟩

def MarketSourceHealthState.text (s : MarketSourceHealthState) : TrimmedText :=
  ⟨s.value, by cases s <;> decide⟩

def MarketSourceIssueKind.text (i : MarketSourceIssueKind) : TrimmedText :=
  ⟨i.value, by cases i <;> decide⟩

/-- The prices, the quantities and the words of a payload. The id of a trade is none of them. -/
def MarketObservationPayload.told : MarketObservationPayload → List Told
  | .trade _ price quantity aggressor_side =>
    [⟨.TRADE_PRICE, .PRICE, .decimal price.1⟩, ⟨.TRADE_QUANTITY, .QUANTITY, .decimal quantity.1⟩,
      ⟨.TRADE_AGGRESSOR_SIDE, .ENUM, .text aggressor_side.text⟩]
  | .topOfBook bid_price bid_quantity ask_price ask_quantity quote_semantics _ =>
    [⟨.TOP_OF_BOOK_BID_PRICE, .PRICE, .decimal bid_price.1⟩,
      ⟨.TOP_OF_BOOK_BID_QUANTITY, .QUANTITY, .decimal bid_quantity.1⟩,
      ⟨.TOP_OF_BOOK_ASK_PRICE, .PRICE, .decimal ask_price.1⟩,
      ⟨.TOP_OF_BOOK_ASK_QUANTITY, .QUANTITY, .decimal ask_quantity.1⟩,
      ⟨.TOP_OF_BOOK_QUOTE_SEMANTICS, .ENUM, .text quote_semantics.text⟩]
  | .markPrice price => [⟨.MARK_PRICE, .PRICE, .decimal price.1⟩]
  | .indexPrice price => [⟨.INDEX_PRICE, .PRICE, .decimal price.1⟩]

theorem issue_text_injective : Function.Injective MarketSourceIssueKind.text := by
  intro i j h
  have hvalue : i.value = j.value := congrArg TrimmedText.value h
  cases i <;> cases j <;> first | rfl | exact absurd hvalue (by decide)

section Health

variable (s : MarketSourceHealthSnapshot)

theorem issue_texts_nodup : (s.issues.map MarketSourceIssueKind.text).Nodup :=
  s.issues_unique.map issue_text_injective

theorem issue_texts_sorted : SortedBy TrimmedText.value (s.issues.map MarketSourceIssueKind.text) :=
  List.pairwise_map.mpr s.issues_sorted

def MarketSourceHealthSnapshot.told : List Told :=
  [⟨.SOURCE_HEALTH_STATE, .ENUM, .text s.state.text⟩,
    ⟨.SOURCE_HEALTH_ISSUES, .ENUM_SET,
      .textTuple (s.issues.map MarketSourceIssueKind.text) (issue_texts_nodup s)
        (issue_texts_sorted s)⟩,
    ⟨.SOURCE_HEALTH_RECONNECT_GENERATION, .COUNT, .integer s.reconnect_generation⟩,
    ⟨.SOURCE_HEALTH_CONSECUTIVE_FAILURES, .COUNT, .integer s.consecutive_failures⟩] ++
  s.last_sequence.toList.map fun n => ⟨.SOURCE_HEALTH_LAST_SEQUENCE, .SEQUENCE, .integer n⟩

end Health

theorem payload_kinds_nodup (p : MarketObservationPayload) :
    (p.told.map fun t => t.kind).Nodup := by
  cases p <;> simp [MarketObservationPayload.told]

theorem health_kinds_nodup (s : MarketSourceHealthSnapshot) :
    (s.told.map fun t => t.kind).Nodup := by
  cases hlast : s.last_sequence <;> simp [MarketSourceHealthSnapshot.told, hlast]

/-- The kind that a name stands for. -/
def MarketEvidenceKind.ofValue (value : String) : Option MarketEvidenceKind :=
  MarketEvidenceKind.all.find? fun k => k.value = value

theorem evidence_kind_injective : Function.Injective MarketEvidenceKind.value := by
  intro j k h
  have hread (k : MarketEvidenceKind) : MarketEvidenceKind.ofValue k.value = some k := by
    cases k <;> decide
  exact Option.some.inj ((hread j).symm.trans (h ▸ hread k))

/-! Items that are made. -/

section Items

variable {builder : MarketEvidenceBuilderDescriptor}

theorem mem_all (k : MarketEvidenceKind) : k ∈ MarketEvidenceKind.all := by
  cases k <;> decide

theorem supported_kind (k : MarketEvidenceKind) : k ∈ builder.supported_evidence_kinds := by
  rw [builder.complete, mem_sortBy]
  exact mem_all k

variable (builder) in
/-- An item of the origin, the shape and the unit of its kind is made. -/
theorem item_made (k : MarketEvidenceKind) (origin : MarketEvidenceOrigin)
    (unit : MarketEvidenceUnit) (value : MarketEvidenceValue)
    (hmatrix : k.matrix = (origin.origin_kind, value.value_kind, unit))
    (hpositive : k ∈ MarketEvidenceKind.positiveDecimals → value.positive = true) :
    ∃ item, evidenceItem builder k origin unit value = .ok item ∧
      item.toEvidenceItemFields = Told.by ⟨k, unit, value⟩ origin := by
  have hvalid : checkAll (EvidenceItemFields.validateMatrix ⟨k, origin, unit, value⟩) = .ok () := by
    rw [EvidenceItemFields.validateMatrix, checkAll_append, hmatrix]
    refine ⟨by simp, ?_⟩
    split_ifs with hk
    · rw [checkAll_require]
      exact ⟨hpositive hk, checkAll_nil⟩
    · exact checkAll_nil
  refine ⟨⟨_, hvalid⟩, ?_, rfl⟩
  rw [evidenceItem, if_neg (not_not.mpr (supported_kind k))]
  exact validated_eq_ok.mpr ⟨hvalid, rfl⟩

theorem textValue_eq (t : TrimmedText) : textValue t.value = .ok (.text t) := by
  rw [textValue, TrimmedText.of_value]

theorem trimmedTexts_eq (ts : List TrimmedText) :
    trimmedTexts (ts.map fun t => t.value) = .ok ts := by
  induction ts with
  | nil => rfl
  | cons t ts ih =>
    rw [List.map_cons, trimmedTexts, TrimmedText.of_value]
    exact map_eq_ok.mpr ⟨ts, ih, rfl⟩

theorem textTupleValue_eq {ts : List TrimmedText} (hunique : ts.Nodup)
    (hsorted : SortedBy TrimmedText.value ts) :
    textTupleValue (ts.map fun t => t.value) = .ok (.textTuple ts hunique hsorted) := by
  rw [textTupleValue]
  refine bind_eq_ok.mpr ⟨ts, trimmedTexts_eq ts, ?_⟩
  rw [dif_pos hunique, dif_pos hsorted]

variable (digests : EvidenceDigests) (builder)

theorem observation_items (o : NormalizedMarketObservation) :
    ∃ items, deriveObservationItems digests builder o = .ok items ∧
      items.map (fun i => i.toEvidenceItemFields) =
        o.payload.told.map fun t => t.by (.observation (digests.observation_id o)) := by
  let origin := MarketEvidenceOrigin.observation (digests.observation_id o)
  rw [deriveObservationItems]
  cases o.payload with
  | trade trade_id price quantity side =>
    obtain ⟨i, hi, hprice⟩ :=
      item_made builder .TRADE_PRICE origin .PRICE (.decimal price.1) rfl fun _ => price.2
    obtain ⟨j, hj, hquantity⟩ :=
      item_made builder .TRADE_QUANTITY origin .QUANTITY (.decimal quantity.1) rfl
        fun _ => quantity.2
    obtain ⟨k, hk, hside⟩ :=
      item_made builder .TRADE_AGGRESSOR_SIDE origin .ENUM (.text side.text) rfl
        fun h => absurd h (by decide)
    refine ⟨[i, j, k], bind_eq_ok.mpr ⟨i, hi, bind_eq_ok.mpr ⟨j, hj, bind_eq_ok.mpr
      ⟨_, textValue_eq side.text, bind_eq_ok.mpr ⟨k, hk, rfl⟩⟩⟩⟩, ?_⟩
    simp only [List.map_cons, List.map_nil, hprice, hquantity, hside]
    rfl
  | topOfBook bid_price bid_quantity ask_price ask_quantity quote_semantics book =>
    obtain ⟨i, hi, hbid⟩ :=
      item_made builder .TOP_OF_BOOK_BID_PRICE origin .PRICE (.decimal bid_price.1) rfl
        fun _ => bid_price.2
    obtain ⟨j, hj, hbids⟩ :=
      item_made builder .TOP_OF_BOOK_BID_QUANTITY origin .QUANTITY (.decimal bid_quantity.1) rfl
        fun _ => bid_quantity.2
    obtain ⟨k, hk, hask⟩ :=
      item_made builder .TOP_OF_BOOK_ASK_PRICE origin .PRICE (.decimal ask_price.1) rfl
        fun _ => ask_price.2
    obtain ⟨l, hl, hasks⟩ :=
      item_made builder .TOP_OF_BOOK_ASK_QUANTITY origin .QUANTITY (.decimal ask_quantity.1) rfl
        fun _ => ask_quantity.2
    obtain ⟨m, hm, hquote⟩ :=
      item_made builder .TOP_OF_BOOK_QUOTE_SEMANTICS origin .ENUM (.text quote_semantics.text) rfl
        fun h => absurd h (by decide)
    refine ⟨[i, j, k, l, m], bind_eq_ok.mpr ⟨i, hi, bind_eq_ok.mpr ⟨j, hj, bind_eq_ok.mpr
      ⟨k, hk, bind_eq_ok.mpr ⟨l, hl, bind_eq_ok.mpr ⟨_, textValue_eq quote_semantics.text,
        bind_eq_ok.mpr ⟨m, hm, rfl⟩⟩⟩⟩⟩⟩, ?_⟩
    simp only [List.map_cons, List.map_nil, hbid, hbids, hask, hasks, hquote]
    rfl
  | markPrice price =>
    obtain ⟨i, hi, hprice⟩ :=
      item_made builder .MARK_PRICE origin .PRICE (.decimal price.1) rfl fun _ => price.2
    refine ⟨[i], bind_eq_ok.mpr ⟨i, hi, rfl⟩, ?_⟩
    simp only [List.map_cons, List.map_nil, hprice]
    rfl
  | indexPrice price =>
    obtain ⟨i, hi, hprice⟩ :=
      item_made builder .INDEX_PRICE origin .PRICE (.decimal price.1) rfl fun _ => price.2
    refine ⟨[i], bind_eq_ok.mpr ⟨i, hi, rfl⟩, ?_⟩
    simp only [List.map_cons, List.map_nil, hprice]
    rfl

/-- The last sequence is told when there is one. -/
theorem last_sequence_item (s : MarketSourceHealthSnapshot) (id : DomainId)
    (items : List MarketEvidenceItem) :
    ∃ last, (match s.last_sequence with
      | none => .ok items
      | some last_sequence => do
        let m ← evidenceItem builder .SOURCE_HEALTH_LAST_SEQUENCE (.sourceHealth id) .SEQUENCE
          (.integer last_sequence)
        .ok (items ++ [m])) = (.ok (items ++ last) : Except MarketError (List MarketEvidenceItem)) ∧
      last.map (fun i => i.toEvidenceItemFields) = s.last_sequence.toList.map fun n =>
        Told.by ⟨.SOURCE_HEALTH_LAST_SEQUENCE, .SEQUENCE, .integer n⟩ (.sourceHealth id) := by
  cases s.last_sequence with
  | none => exact ⟨[], by rw [List.append_nil], rfl⟩
  | some n =>
    obtain ⟨m, hm, hsequence⟩ :=
      item_made builder .SOURCE_HEALTH_LAST_SEQUENCE (.sourceHealth id) .SEQUENCE (.integer n) rfl
        fun h => absurd h (by decide)
    exact ⟨[m], bind_eq_ok.mpr ⟨m, hm, rfl⟩, congrArg (fun f => [f]) hsequence⟩

theorem health_items (s : MarketSourceHealthSnapshot) :
    ∃ items, deriveHealthItems digests builder s = .ok items ∧
      items.map (fun i => i.toEvidenceItemFields) =
        s.told.map fun t => t.by (.sourceHealth (digests.health_snapshot_id s)) := by
  let origin := MarketEvidenceOrigin.sourceHealth (digests.health_snapshot_id s)
  obtain ⟨i, hi, hstate⟩ :=
    item_made builder .SOURCE_HEALTH_STATE origin .ENUM (.text s.state.text) rfl
      fun h => absurd h (by decide)
  obtain ⟨j, hj, hissues⟩ :=
    item_made builder .SOURCE_HEALTH_ISSUES origin .ENUM_SET
      (.textTuple (s.issues.map MarketSourceIssueKind.text) (issue_texts_nodup s)
        (issue_texts_sorted s)) rfl fun h => absurd h (by decide)
  obtain ⟨k, hk, hgeneration⟩ :=
    item_made builder .SOURCE_HEALTH_RECONNECT_GENERATION origin .COUNT
      (.integer s.reconnect_generation) rfl fun h => absurd h (by decide)
  obtain ⟨l, hl, hfailures⟩ :=
    item_made builder .SOURCE_HEALTH_CONSECUTIVE_FAILURES origin .COUNT
      (.integer s.consecutive_failures) rfl fun h => absurd h (by decide)
  have htexts : textTupleValue (s.issues.map fun issue => issue.value) =
      .ok (.textTuple (s.issues.map MarketSourceIssueKind.text) (issue_texts_nodup s)
        (issue_texts_sorted s)) := by
    have hmade := textTupleValue_eq (issue_texts_nodup s) (issue_texts_sorted s)
    rw [List.map_map] at hmade
    exact hmade
  obtain ⟨last, hmade, hfields⟩ := last_sequence_item builder s _ [i, j, k, l]
  refine ⟨[i, j, k, l] ++ last, ?_, ?_⟩
  · rw [deriveHealthItems]
    exact bind_eq_ok.mpr ⟨_, textValue_eq s.state.text, bind_eq_ok.mpr ⟨i, hi, bind_eq_ok.mpr
      ⟨_, htexts, bind_eq_ok.mpr ⟨j, hj, bind_eq_ok.mpr ⟨k, hk, bind_eq_ok.mpr ⟨l, hl, hmade⟩⟩⟩⟩⟩⟩
  · rw [List.map_append, hfields, MarketSourceHealthSnapshot.told, List.map_append, List.map_map]
    simp only [List.map_cons, List.map_nil, hstate, hissues, hgeneration, hfailures]
    rfl

end Items

/-! The items of observations and snapshots together. -/

theorem buildAll_flatten {α β γ : Type} {build : α → Except MarketError (List β)} {f : β → γ}
    {g : α → List γ} (h : ∀ a, ∃ bs, build a = .ok bs ∧ bs.map f = g a) (l : List α) :
    ∃ bss, buildAll build l = .ok bss ∧ bss.flatten.map f = l.flatMap g := by
  induction l with
  | nil => exact ⟨[], rfl, rfl⟩
  | cons a l ih =>
    obtain ⟨bs, hbs, hf⟩ := h a
    obtain ⟨bss, hbss, hflat⟩ := ih
    refine ⟨bs :: bss, bind_eq_ok.mpr ⟨bs, hbs, bind_eq_ok.mpr ⟨bss, hbss, rfl⟩⟩, ?_⟩
    rw [List.flatten_cons, List.map_append, hf, hflat, List.flatMap_cons]

def fieldsKey (f : EvidenceItemFields) : EvidenceKey :=
  toLex (f.origin.origin_kind.value, toLex (f.origin.id.value, f.evidence_kind.value))

section Frame

variable (digests : EvidenceDigests) (observations : List NormalizedMarketObservation)
  (source_health : List MarketSourceHealthSnapshot)

/-- Everything that is told, with its origin. -/
def toldItems : List EvidenceItemFields :=
  (observations.flatMap fun o =>
    o.payload.told.map fun t => t.by (.observation (digests.observation_id o))) ++
  source_health.flatMap fun s =>
    s.told.map fun t => t.by (.sourceHealth (digests.health_snapshot_id s))

/-- The items tell themselves apart, by their keys and by their ids. -/
structure ItemsApart : Prop where
  keys : ((toldItems digests observations source_health).map fieldsKey).Nodup
  ids : ((toldItems digests observations source_health).map digests.evidence_item_id).Nodup

variable {digests observations source_health}
variable {builder : MarketEvidenceBuilderDescriptor} {items : List MarketEvidenceItem}

theorem canonicalItemChecks_iff : checkAll (canonicalItemChecks digests items) = .ok () ↔
    SortedBy market_evidence_item_key items ∧
      (items.map market_evidence_item_key).Nodup ∧
        (items.map fun i => digests.evidence_item_id i.toEvidenceItemFields).Nodup := by
  rw [canonicalItemChecks]
  simp only [checkAll_require, checkAll_nil, and_true]
  refine and_congr_left fun _ => ?_
  rw [eq_comm, sortBy_eq_self]
  exact List.pairwise_map

theorem item_ext {a b : MarketEvidenceItem} (h : a.toEvidenceItemFields = b.toEvidenceItemFields) :
    a = b := by
  cases a
  cases b
  cases h
  rfl

theorem fields_injective : Function.Injective fun i : MarketEvidenceItem =>
    i.toEvidenceItemFields := fun _ _ => item_ext

/-- The items are derived exactly when they tell themselves apart, and are then what is told in
the order of their keys. -/
theorem derive_iff : deriveItems digests builder observations source_health = .ok items ↔
    ItemsApart digests observations source_health ∧
      items.map (fun i => i.toEvidenceItemFields) =
        sortBy fieldsKey (toldItems digests observations source_health) := by
  obtain ⟨observed, hobserved, hofields⟩ :=
    buildAll_flatten (observation_items builder digests) observations
  obtain ⟨health, hhealth, hhfields⟩ := buildAll_flatten (health_items builder digests) source_health
  have hfields : (observed.flatten ++ health.flatten).map (fun i => i.toEvidenceItemFields) =
      toldItems digests observations source_health := by
    rw [List.map_append, hofields, hhfields, toldItems]
  have hsorted : (sortBy market_evidence_item_key (observed.flatten ++ health.flatten)).map
      (fun i => i.toEvidenceItemFields) =
        sortBy fieldsKey (toldItems digests observations source_health) := by
    rw [← hfields]
    exact map_sortBy _ _ _ fun _ _ => rfl
  have hperm := sortBy_perm market_evidence_item_key (observed.flatten ++ health.flatten)
  have hkeys : ((sortBy market_evidence_item_key (observed.flatten ++ health.flatten)).map
      market_evidence_item_key).Nodup ↔
        ((toldItems digests observations source_health).map fieldsKey).Nodup := by
    rw [(hperm.map _).nodup_iff, ← hfields, List.map_map]
    rfl
  have hids : ((sortBy market_evidence_item_key (observed.flatten ++ health.flatten)).map
      fun i => digests.evidence_item_id i.toEvidenceItemFields).Nodup ↔
        ((toldItems digests observations source_health).map digests.evidence_item_id).Nodup := by
    rw [(hperm.map _).nodup_iff, ← hfields, List.map_map]
    rfl
  have hchecks : checkAll (canonicalItemChecks digests
      (sortBy market_evidence_item_key (observed.flatten ++ health.flatten))) = .ok () ↔
        ItemsApart digests observations source_health := by
    rw [canonicalItemChecks_iff, hkeys, hids]
    constructor
    · exact fun h => ⟨h.2.1, h.2.2⟩
    · exact fun h => ⟨sortBy_sorted _ _, h.keys, h.ids⟩
  rw [← hchecks, ← hsorted, deriveItems]
  constructor
  · intro h
    obtain ⟨os, hos, h⟩ := bind_eq_ok.mp h
    obtain ⟨hs, hhs, h⟩ := bind_eq_ok.mp h
    obtain ⟨⟨⟩, hok, h⟩ := bind_eq_ok.mp h
    rw [hobserved, Except.ok.injEq] at hos
    rw [hhealth, Except.ok.injEq] at hhs
    subst hos hhs
    exact ⟨hok, congrArg _ (Except.ok.inj h).symm⟩
  · rintro ⟨hok, hitems⟩
    have hsame := List.map_injective_iff.mpr fields_injective hitems
    refine bind_eq_ok.mpr ⟨_, hobserved, bind_eq_ok.mpr ⟨_, hhealth, bind_eq_ok.mpr ⟨(), hok, ?_⟩⟩⟩
    rw [hsame]

theorem derive_of_apart (h : ItemsApart digests observations source_health) :
    ∃ items, deriveItems digests builder observations source_health = .ok items := by
  obtain ⟨observed, -, hofields⟩ :=
    buildAll_flatten (observation_items builder digests) observations
  obtain ⟨health, -, hhfields⟩ := buildAll_flatten (health_items builder digests) source_health
  refine ⟨sortBy market_evidence_item_key (observed.flatten ++ health.flatten),
    derive_iff.mpr ⟨h, ?_⟩⟩
  rw [toldItems, ← hofields, ← hhfields, ← List.map_append]
  exact map_sortBy _ _ _ fun _ _ => rfl

/-- The items that are derived stand in the order of their keys, each of which is met once. -/
theorem derive_ordered (h : deriveItems digests builder observations source_health = .ok items) :
    items.Pairwise fun a b => market_evidence_item_key a < market_evidence_item_key b := by
  obtain ⟨hapart, hfields⟩ := derive_iff.mp h
  have hsorted : SortedBy market_evidence_item_key items := by
    have hfieldsSorted := sortBy_sorted fieldsKey (toldItems digests observations source_health)
    rw [← hfields, SortedBy, List.pairwise_map] at hfieldsSorted
    exact hfieldsSorted
  have hnodup : (items.map market_evidence_item_key).Nodup := by
    have hkeys := ((sortBy_perm fieldsKey (toldItems digests observations source_health)).map
      fieldsKey).nodup_iff.mpr hapart.keys
    rw [← hfields, List.map_map] at hkeys
    exact hkeys
  exact (hsorted.and (List.pairwise_map.mp hnodup)).imp fun h => lt_of_le_of_ne h.1 h.2

/-- The order of observations and of snapshots does not matter. -/
theorem derive_perm {observations' : List NormalizedMarketObservation}
    {source_health' : List MarketSourceHealthSnapshot} (hobs : observations'.Perm observations)
    (hhealth : source_health'.Perm source_health) :
    deriveItems digests builder observations' source_health' = .ok items ↔
      deriveItems digests builder observations source_health = .ok items := by
  have hperm : (toldItems digests observations' source_health').Perm
      (toldItems digests observations source_health) :=
    (hobs.flatMap_right _).append (hhealth.flatMap_right _)
  have hapart : ItemsApart digests observations' source_health' ↔
      ItemsApart digests observations source_health := by
    constructor
    · exact fun h => ⟨(hperm.map _).nodup_iff.mp h.keys, (hperm.map _).nodup_iff.mp h.ids⟩
    · exact fun h => ⟨(hperm.map _).nodup_iff.mpr h.keys, (hperm.map _).nodup_iff.mpr h.ids⟩
  rw [derive_iff, derive_iff, hapart]
  refine and_congr_right fun h => ?_
  have hsorted := sortBy_perm_eq fieldsKey hperm.symm
    fun a ha b hb hkey => List.inj_on_of_nodup_map h.keys ha hb hkey
  rw [hsorted]

/-! When the items tell themselves apart. -/

/-- What is told by several origins has keys of its own when these have ids of their own. -/
theorem told_keys_nodup {α : Type} {l : List α} {told : α → List Told}
    {origin : α → MarketEvidenceOrigin} (hkinds : ∀ a ∈ l, ((told a).map fun t => t.kind).Nodup)
    (hids : (l.map fun a => (origin a).id).Nodup) :
    ((l.flatMap fun a => (told a).map fun t => t.by (origin a)).map fieldsKey).Nodup := by
  rw [List.map_flatMap, List.nodup_flatMap]
  constructor
  · intro a ha
    rw [List.map_map]
    refine List.Nodup.map_on (fun t ht u hu hkey => ?_) (List.Nodup.of_map _ (hkinds a ha))
    have hkind : t.kind.value = u.kind.value := congrArg (fun k => (ofLex (ofLex k).2).2) hkey
    exact List.inj_on_of_nodup_map (hkinds a ha) ht hu (evidence_kind_injective hkind)
  · refine (List.pairwise_map.mp hids).imp fun {a b} hne => ?_
    intro key ha hb
    obtain ⟨f, hf, rfl⟩ := List.mem_map.mp ha
    obtain ⟨g, hg, hkey⟩ := List.mem_map.mp hb
    obtain ⟨t, -, rfl⟩ := List.mem_map.mp hf
    obtain ⟨u, -, rfl⟩ := List.mem_map.mp hg
    have hid : (origin b).id.value = (origin a).id.value :=
      congrArg (fun k => (ofLex (ofLex k).2).1) hkey
    exact hne (DomainId.ext hid.symm)

/-- Observations and snapshots with ids of their own tell items with keys of their own. -/
theorem keys_nodup_of_ids (hobs : (observations.map digests.observation_id).Nodup)
    (hhealth : (source_health.map digests.health_snapshot_id).Nodup) :
    ((toldItems digests observations source_health).map fieldsKey).Nodup := by
  rw [toldItems, List.map_append, List.nodup_append]
  refine ⟨told_keys_nodup (fun o _ => payload_kinds_nodup o.payload) hobs,
    told_keys_nodup (fun s _ => health_kinds_nodup s) hhealth, ?_⟩
  -- the two parts differ in the kind of their origins
  intro key hkey key' hkey' heq
  obtain ⟨f, hf, rfl⟩ := List.mem_map.mp hkey
  obtain ⟨g, hg, rfl⟩ := List.mem_map.mp hkey'
  obtain ⟨o, -, hf⟩ := List.mem_flatMap.mp hf
  obtain ⟨s, -, hg⟩ := List.mem_flatMap.mp hg
  obtain ⟨t, -, rfl⟩ := List.mem_map.mp hf
  obtain ⟨u, -, rfl⟩ := List.mem_map.mp hg
  have hkind : MarketEvidenceOriginKind.OBSERVATION.value =
      MarketEvidenceOriginKind.SOURCE_HEALTH.value := congrArg (fun k => (ofLex k).1) heq
  exact absurd hkind (by decide)

end Frame

/-! Sets. -/

section Sets

variable {digests : EvidenceDigests} {builder : MarketEvidenceBuilderDescriptor}
  {frame : CrossVenueMarketFrame} {items given : List MarketEvidenceItem}

theorem value_same_refl (v : MarketEvidenceValue) : v.same v = true := by
  cases v with
  | decimal d => exact (Decimal.same_iff d d).mpr rfl
  | integer n => exact decide_eq_true rfl
  | text t => exact decide_eq_true rfl
  | textTuple ts _ _ => exact decide_eq_true rfl

theorem sameItems_refl (items : List MarketEvidenceItem) : sameItems digests items items = true := by
  induction items with
  | nil => rfl
  | cons i items ih =>
    rw [sameItems, ih, Bool.and_true, sameItem, value_same_refl]
    simp

/-- Unless the ids of items collide, equal tuples of items are the same tuple. -/
theorem eq_of_sameItems (hids : ∀ a ∈ given, ∀ b ∈ items,
      digests.evidence_item_id a.toEvidenceItemFields =
        digests.evidence_item_id b.toEvidenceItemFields → a = b)
    (h : sameItems digests given items = true) : given = items := by
  induction given generalizing items with
  | nil =>
    cases items with
    | nil => rfl
    | cons b items => cases h
  | cons a given ih =>
    cases items with
    | nil => cases h
    | cons b items =>
      rw [sameItems, Bool.and_eq_true] at h
      obtain ⟨hfirst, hrest⟩ := h
      simp only [sameItem, Bool.and_eq_true, decide_eq_true_eq] at hfirst
      rw [hids a List.mem_cons_self b List.mem_cons_self hfirst.1.1.1.1, ih (fun c hc d hd =>
        hids c (List.mem_cons_of_mem a hc) d (List.mem_cons_of_mem b hd)) hrest]

theorem derived_ids_nodup (h : derive_market_evidence_items digests builder frame = .ok items) :
    (items.map fun i => digests.evidence_item_id i.toEvidenceItemFields).Nodup := by
  obtain ⟨hapart, hfields⟩ := derive_iff.mp h
  have hids := ((sortBy_perm fieldsKey (toldItems digests frame.observations
    frame.source_health)).map digests.evidence_item_id).nodup_iff.mpr hapart.ids
  rw [← hfields, List.map_map] at hids
  exact hids

theorem builder_unique (b : MarketEvidenceBuilderDescriptor) :
    b = build_market_evidence_builder_descriptor := by
  obtain ⟨kinds, hkinds⟩ := b
  subst hkinds
  rfl

theorem exactItems_iff (h : derive_market_evidence_items digests builder frame = .ok items)
    (hids : ∀ a ∈ given, ∀ b ∈ items, digests.evidence_item_id a.toEvidenceItemFields =
      digests.evidence_item_id b.toEvidenceItemFields → a = b) :
    exactItems digests builder frame given = .ok () ↔ given = items := by
  rw [exactItems]
  constructor
  · intro hexact
    obtain ⟨⟨⟩, -, hexact⟩ := bind_eq_ok.mp hexact
    obtain ⟨expected, hexpected, hexact⟩ := bind_eq_ok.mp hexact
    rw [h, Except.ok.injEq] at hexpected
    subst hexpected
    rw [checkAll_require] at hexact
    exact eq_of_sameItems hids hexact.1
  · rintro rfl
    have hchecks : checkAll (canonicalItemChecks digests given) = .ok () := by
      rw [derive_market_evidence_items, deriveItems] at h
      obtain ⟨_, -, h⟩ := bind_eq_ok.mp h
      obtain ⟨_, -, h⟩ := bind_eq_ok.mp h
      obtain ⟨⟨⟩, hok, h⟩ := bind_eq_ok.mp h
      rw [← Except.ok.inj h]
      exact hok
    refine bind_eq_ok.mpr ⟨(), hchecks, bind_eq_ok.mpr ⟨_, h, ?_⟩⟩
    rw [checkAll_require]
    exact ⟨sameItems_refl _, checkAll_nil⟩

/-- A set of a frame is taken with the items of the frame alone, and under the id of these. -/
theorem set_iff (h : derive_market_evidence_items digests builder frame = .ok items)
    (hids : ∀ a ∈ given, ∀ b ∈ items, digests.evidence_item_id a.toEvidenceItemFields =
      digests.evidence_item_id b.toEvidenceItemFields → a = b) (set_id : DomainId) :
    (∃ set, MarketEvidenceSet.of digests ⟨set_id, builder, frame, given⟩ = .ok set) ↔
      given = items ∧ set_id = digests.evidence_set_id builder frame.toFrameFields items := by
  have hvalid : EvidenceSetFields.validate digests ⟨set_id, builder, frame, given⟩ = .ok () ↔
      given = items ∧ set_id = digests.evidence_set_id builder frame.toFrameFields items := by
    rw [EvidenceSetFields.validate]
    constructor
    · intro hset
      obtain ⟨⟨⟩, hexact, hset⟩ := bind_eq_ok.mp hset
      obtain ⟨expected, hexpected, hset⟩ := bind_eq_ok.mp hset
      obtain ⟨⟨⟩, -, hexpected⟩ := bind_eq_ok.mp hexpected
      obtain rfl := (exactItems_iff h hids).mp hexact
      rw [checkAll_require, ← Except.ok.inj hexpected] at hset
      exact ⟨rfl, hset.1⟩
    · rintro ⟨rfl, rfl⟩
      have hexact := (exactItems_iff h hids).mpr rfl
      refine bind_eq_ok.mpr ⟨(), hexact, bind_eq_ok.mpr ⟨_, bind_eq_ok.mpr ⟨(), hexact, rfl⟩, ?_⟩⟩
      rw [checkAll_require]
      exact ⟨rfl, checkAll_nil⟩
  rw [← hvalid]
  constructor
  · rintro ⟨set, hset⟩
    obtain ⟨hok, -⟩ := validated_eq_ok.mp hset
    exact hok
  · exact fun hok => ⟨_, validated_eq_ok.mpr ⟨hok, rfl⟩⟩

end Sets

/-- What is derived from a frame. -/
structure EvidenceOf (digests : EvidenceDigests) (builder : MarketEvidenceBuilderDescriptor)
    (frame : CrossVenueMarketFrame) (items : List MarketEvidenceItem) : Prop where
  /-- One item for each value told, with the value and its origin. -/
  told : (items.map fun i => i.toEvidenceItemFields).Perm
    (toldItems digests frame.observations frame.source_health)
  /-- In canonical order and without duplicates. -/
  ordered : items.Pairwise fun a b => market_evidence_item_key a < market_evidence_item_key b
  /-- In whatever order the observations and the snapshots are met. -/
  anyOrder : ∀ observations source_health, observations.Perm frame.observations →
    source_health.Perm frame.source_health →
      deriveItems digests builder observations source_health = .ok items
  /-- The only items that are taken for the frame. -/
  exact : ∀ given, (∀ a ∈ given, ∀ b ∈ items, digests.evidence_item_id a.toEvidenceItemFields =
      digests.evidence_item_id b.toEvidenceItemFields → a = b) →
    ((∃ set_id set, MarketEvidenceSet.of digests ⟨set_id, builder, frame, given⟩ = .ok set) ↔
      given = items)

/-- Unless digests of the frame's observations, of its snapshots or of what these tell collide, the
items of a frame are derived. They are what its payloads and snapshots tell. -/
theorem evidence_of_frame (digests : EvidenceDigests) (builder : MarketEvidenceBuilderDescriptor)
    (frame : CrossVenueMarketFrame) :
    ((frame.observations.map digests.observation_id).Nodup →
      (frame.source_health.map digests.health_snapshot_id).Nodup →
      ((toldItems digests frame.observations frame.source_health).map
        digests.evidence_item_id).Nodup →
      ∃ items, derive_market_evidence_items digests builder frame = .ok items ∧
        ∃ set, buildEvidence digests frame = .ok set ∧ set.source_frame = frame ∧
          set.items = items) ∧
    ∀ items, derive_market_evidence_items digests builder frame = .ok items →
      EvidenceOf digests builder frame items := by
  constructor
  · intro hobs hhealth hids
    obtain ⟨items, h⟩ : ∃ items, derive_market_evidence_items digests builder frame = .ok items :=
      derive_of_apart ⟨keys_nodup_of_ids hobs hhealth, hids⟩
    refine ⟨items, h, ?_⟩
    obtain rfl : builder = build_market_evidence_builder_descriptor := builder_unique builder
    have hown : ∀ a ∈ items, ∀ b ∈ items, digests.evidence_item_id a.toEvidenceItemFields =
        digests.evidence_item_id b.toEvidenceItemFields → a = b := by
      have hnodup := derived_ids_nodup h
      exact fun a ha b hb hid => List.inj_on_of_nodup_map hnodup ha hb hid
    have hexact := (exactItems_iff h hown).mpr rfl
    obtain ⟨set, hset⟩ := (set_iff h hown _).mpr ⟨rfl, rfl⟩
    obtain ⟨hvalid, rfl⟩ := validated_eq_ok.mp hset
    exact ⟨_, bind_eq_ok.mpr ⟨items, h, bind_eq_ok.mpr
      ⟨_, bind_eq_ok.mpr ⟨(), hexact, rfl⟩, hset⟩⟩, rfl, rfl⟩
  · intro items h
    obtain ⟨hapart, hfields⟩ := derive_iff.mp h
    refine ⟨hfields ▸ sortBy_perm _ _, derive_ordered h,
      fun os hs hos hhs => (derive_perm hos hhs).mpr h, fun given hids => ?_⟩
    constructor
    · rintro ⟨set_id, set, hset⟩
      exact ((set_iff h hids set_id).mp ⟨set, hset⟩).1
    · intro hgiven
      exact ⟨_, (set_iff h hids _).mpr ⟨hgiven, rfl⟩⟩

/-! A frame of one trade. -/

def tradeObservation : NormalizedMarketObservation :=
  { sampleObservation ⟨"conn-a", DomainId.checked evaluates⟩ 1 0 (by decide) with
    payload := .trade ⟨"t-1", by decide⟩ ⟨⟨false, 43000, 0⟩, .refl true⟩ ⟨⟨false, 1, 0⟩, .refl true⟩
      .BUY }

def tradeFrame : CrossVenueMarketFrame where
  logical_instrument := sampleInstrument.logical_instrument
  as_of := tradeObservation.provenance.received_at
  observations := [tradeObservation]
  source_health := []
  valid := by decide +kernel

def sampleEvidenceDigests : EvidenceDigests where
  toMarketDigests := sampleDigests
  item f := match f.evidence_kind with
    | .TRADE_PRICE => sampleHexDigest '4' (.refl true)
    | .TRADE_QUANTITY => sampleHexDigest '5' (.refl true)
    | _ => sampleHexDigest '6' (.refl true)
  set _ _ _ := sampleHexDigest '7' (.refl true)

theorem tradeFrame_items_apart : ItemsApart sampleEvidenceDigests tradeFrame.observations
    tradeFrame.source_health := ⟨by decide +kernel, by decide +kernel⟩

theorem tradeFrame_evidence : ∃ items, derive_market_evidence_items sampleEvidenceDigests
      build_market_evidence_builder_descriptor tradeFrame = .ok items ∧ items.length = 3 ∧
    EvidenceOf sampleEvidenceDigests build_market_evidence_builder_descriptor tradeFrame items := by
  obtain ⟨hderived, hexact⟩ := evidence_of_frame sampleEvidenceDigests
    build_market_evidence_builder_descriptor tradeFrame
  obtain ⟨items, h, -⟩ := hderived (List.nodup_singleton _) List.nodup_nil
    tradeFrame_items_apart.ids
  refine ⟨items, h, ?_, hexact items h⟩
  have hlength := (hexact items h).told.length_eq
  rw [List.length_map] at hlength
  exact hlength

/-- The id of a trade, a field of its payload, is the value of no item. -/
theorem trade_id_not_told :
    ¬ ∀ (digests : EvidenceDigests) (builder : MarketEvidenceBuilderDescriptor)
      (frame : CrossVenueMarketFrame) (items : List MarketEvidenceItem),
      derive_market_evidence_items digests builder frame = .ok items →
      ∀ o ∈ frame.observations, ∀ trade_id price quantity aggressor_side,
        o.payload = .trade trade_id price quantity aggressor_side →
        ∃ item ∈ items, item.origin = .observation (digests.observation_id o) ∧
          item.value = .text trade_id := by
  intro hall
  obtain ⟨items, h⟩ : ∃ items, derive_market_evidence_items sampleEvidenceDigests
      build_market_evidence_builder_descriptor tradeFrame = .ok items :=
    derive_of_apart tradeFrame_items_apart
  obtain ⟨item, hitem, -, hvalue⟩ :=
    hall _ _ _ items h tradeObservation (List.mem_singleton_self _) _ _ _ _ rfl
  have hmem : item.toEvidenceItemFields ∈ sortBy fieldsKey
      (toldItems sampleEvidenceDigests tradeFrame.observations tradeFrame.source_health) := by
    rw [← (derive_iff.mp h).2]
    exact List.mem_map_of_mem hitem
  rw [mem_sortBy] at hmem
  have htold : toldItems sampleEvidenceDigests tradeFrame.observations tradeFrame.source_health =
      tradeObservation.payload.told.map fun t => t.by
        (.observation (sampleEvidenceDigests.observation_id tradeObservation)) := rfl
  rw [htold] at hmem
  obtain ⟨t, ht, hfields⟩ := List.mem_map.mp hmem
  have hsame : t.value = .text ⟨"t-1", by decide⟩ := by
    have hby := congrArg EvidenceItemFields.value hfields
    rw [hvalue] at hby
    exact hby
  simp only [tradeObservation, MarketObservationPayload.told, List.mem_cons, List.not_mem_nil,
    or_false] at ht
  rcases ht with rfl | rfl | rfl
  · cases hsame
  · cases hsame
  · rw [MarketEvidenceValue.text.injEq] at hsame
    exact absurd hsame (by decide)

end FuturesBot.Market
