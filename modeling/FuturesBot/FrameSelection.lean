import FuturesBot.AppendOnly
import FuturesBot.MarketData

/-! When the order of the observations and of the health snapshots does not matter to a frame. -/
namespace FuturesBot.Market

open DateTimes DecimalNumbers Checks Dicts KeySorting Selections

variable {digests : MarketDigests}

/-! The comparisons are the same from both sides. -/

theorem compareUnsequenced_swap {p q : MarketObservationProvenance} {o : Ordering}
    (h : compareUnsequencedSameSession p q = .ok o) :
    compareUnsequencedSameSession q p = .ok o.swap := by
  simp only [compareUnsequencedSameSession, DateTime.lt_iff] at h ⊢
  split_ifs at h ⊢ with h₁ h₂ h₃ h₄ <;> first | omega | (cases h; rfl)

theorem sameSession_comm {p q : MarketObservationProvenance} :
    SameSession p q ↔ SameSession q p :=
  and_congr eq_comm eq_comm

theorem compareProvenance_swap {p q : MarketObservationProvenance} {o : Ordering}
    (h : compareProvenance p q = .ok o) : compareProvenance q p = .ok o.swap := by
  by_cases hsession : SameSession p q
  · rw [compareProvenance, if_pos hsession] at h
    rw [compareProvenance, if_pos (sameSession_comm.mp hsession)]
    cases hp : p.source_sequence with
    | none =>
      cases hq : q.source_sequence with
      | none =>
        rw [hp, hq] at h
        exact compareUnsequenced_swap h
      | some n =>
        rw [hp, hq] at h
        cases h
    | some m =>
      cases hq : q.source_sequence with
      | none =>
        rw [hp, hq] at h
        cases h
      | some n =>
        rw [hp, hq] at h
        simp only at h ⊢
        split_ifs at h ⊢ with h₁ h₂ <;> first | omega | (cases h; rfl)
  · rw [compareProvenance, if_neg hsession] at h
    rw [compareProvenance, if_neg (mt sameSession_comm.mpr hsession)]
    simp only [DateTime.lt_iff] at h ⊢
    split_ifs at h ⊢ with h₁ h₂ <;> first | omega | (cases h; rfl)

theorem compareMarketObservations_self (o : NormalizedMarketObservation) :
    compareMarketObservations digests o o = .ok .eq := by
  rw [compareMarketObservations, if_pos rfl]

theorem compareMarketObservations_swap {a b : NormalizedMarketObservation} {o : Ordering}
    (h : compareMarketObservations digests a b = .ok o) :
    compareMarketObservations digests b a = .ok o.swap := by
  by_cases hid : digests.observation_id a = digests.observation_id b
  · rw [compareMarketObservations, if_pos hid] at h
    rw [compareMarketObservations, if_pos hid.symm]
    cases h
    rfl
  · rw [compareMarketObservations, if_neg hid] at h
    rw [compareMarketObservations, if_neg (Ne.symm hid)]
    exact compareProvenance_swap h

theorem observationReplaces_iff {a b : NormalizedMarketObservation} {r : Bool} :
    observationReplaces digests a b = .ok r ↔
      ∃ o, compareMarketObservations digests a b = .ok o ∧ decide (o = .gt) = r := map_eq_ok

theorem observations_comparison : IsComparison (observationReplaces digests) where
  self o := observationReplaces_iff.mpr ⟨.eq, compareMarketObservations_self o, rfl⟩
  asymm h := by
    obtain ⟨o, hcompare, ho⟩ := observationReplaces_iff.mp h
    rw [decide_eq_true_eq] at ho
    subst ho
    exact observationReplaces_iff.mpr ⟨.lt, compareMarketObservations_swap hcompare, rfl⟩
  comparable h := by
    obtain ⟨o, hcompare, -⟩ := observationReplaces_iff.mp h
    exact ⟨_, observationReplaces_iff.mpr ⟨_, compareMarketObservations_swap hcompare, rfl⟩⟩

theorem healthReplaces_ok_iff {a b : MarketSourceHealthSnapshot} :
    (∃ r, healthReplaces digests a b = .ok r) ↔
      (a.evaluated_at = b.evaluated_at →
        digests.health_snapshot_id a = digests.health_snapshot_id b) := by
  by_cases heq : a.evaluated_at = b.evaluated_at
  · by_cases hid : digests.health_snapshot_id a = digests.health_snapshot_id b
    · simp [healthReplaces, heq, hid]
    · simp [healthReplaces, heq, hid]
  · simp only [healthReplaces, heq, false_and, if_false, false_implies, iff_true]
    split
    · exact ⟨true, rfl⟩
    · exact ⟨false, rfl⟩

theorem health_comparison : IsComparison (healthReplaces digests) where
  self s := by simp [healthReplaces]
  asymm {a b} h := by
    rw [healthReplaces] at h
    split_ifs at h with hlt heq
    · have hne : b.evaluated_at ≠ a.evaluated_at := by
        intro hsame
        rw [hsame, DateTime.lt_iff] at hlt
        exact absurd hlt (Nat.lt_irrefl _)
      rw [DateTime.lt_iff] at hlt
      have hnot : ¬ a.evaluated_at < b.evaluated_at := by
        rw [DateTime.lt_iff]
        omega
      rw [healthReplaces, if_neg hnot, if_neg fun hboth => hne hboth.1]
    · exact absurd h (by simp)
  comparable h := by
    have hsame := healthReplaces_ok_iff.mp ⟨_, h⟩
    exact healthReplaces_ok_iff.mpr fun heq => (hsame heq.symm).symm

/-! Authority. -/

section Authority

variable {κ ν : Type} [DecidableEq κ] [DecidableEq ν] {key : ν → κ} {conflict : κ → MarketError}

theorem shareAuthority_iff_puts {known : KeyedDict key} {vs : List ν} :
    shareAuthority conflict known vs = .ok () ↔ (known.putEachEqual id vs).2 = true := by
  induction vs generalizing known with
  | nil => simp [shareAuthority, KeyedDict.putEachEqual]
  | cons v vs ih =>
    rw [shareAuthority, KeyedDict.putEachEqual]
    cases known.putEqual id v with
    | some known => exact ih
    | none => simp

/-- No key has two meanings. -/
theorem shareAuthority_iff {vs : List ν} :
    shareAuthority conflict (KeyedDict.empty : KeyedDict key) vs = .ok () ↔
      KeyedDict.Consistent key id vs := by
  rw [shareAuthority_iff_puts]
  apply KeyedDict.putEachEqual_iff
  intro v _ w hw
  exact absurd hw (by simp)

end Authority

theorem authority_iff {observations : List NormalizedMarketObservation}
    {source_health : List MarketSourceHealthSnapshot} :
    validate_market_frame_authority_consistency observations source_health = .ok () ↔
      KeyedDict.Consistent sourceKey id (sourcesOf observations source_health) ∧
        KeyedDict.Consistent instrumentKey id (instrumentsOf observations source_health) := by
  rw [validate_market_frame_authority_consistency]
  split
  · rename_i e he
    refine iff_of_false (by simp) fun hboth => ?_
    rw [shareAuthority_iff.mpr hboth.1] at he
    cases he
  · rename_i hsources
    rw [shareAuthority_iff]
    exact (and_iff_right (shareAuthority_iff.mp hsources)).symm

/-- Fewer observations and snapshots have no more conflicts. -/
theorem authority_mono {observations observations' : List NormalizedMarketObservation}
    {source_health source_health' : List MarketSourceHealthSnapshot}
    (hobs : observations' ⊆ observations) (hhealth : source_health' ⊆ source_health)
    (h : validate_market_frame_authority_consistency observations source_health = .ok ()) :
    validate_market_frame_authority_consistency observations' source_health' = .ok () := by
  obtain ⟨hsources, hinstruments⟩ := authority_iff.mp h
  have hsources_sub : sourcesOf observations' source_health' ⊆
      sourcesOf observations source_health := by
    intro s hs
    rcases List.mem_append.mp hs with hs | hs
    · exact List.mem_append_left _ (List.map_subset _ hobs hs)
    · exact List.mem_append_right _ (List.map_subset _ hhealth hs)
  have hinstruments_sub : instrumentsOf observations' source_health' ⊆
      instrumentsOf observations source_health := by
    intro i hi
    rcases List.mem_append.mp hi with hi | hi
    · exact List.mem_append_left _ (List.map_subset _ hobs hi)
    · exact List.mem_append_right _ (List.filterMap_subset _ hhealth hi)
  refine authority_iff.mpr ⟨fun v hv w hw => ?_, fun v hv w hw => ?_⟩
  · exact hsources v (hsources_sub hv) w (hsources_sub hw)
  · exact hinstruments v (hinstruments_sub hv) w (hinstruments_sub hw)

/-! A frame of what was selected passes its own checks. -/

theorem observationChecks_iff (f : FrameFields) (keys : List StreamKey)
    (os : List NormalizedMarketObservation) :
    checkAll (f.observationChecks keys os) = .ok () ↔
      (∀ o ∈ os, checkObservation f.logical_instrument f.as_of o = .ok ()) ∧
        (os.map observation_stream_key).Nodup ∧
          ∀ o ∈ os, observation_stream_key o ∉ keys := by
  induction os generalizing keys with
  | nil => simp [FrameFields.observationChecks]
  | cons o os ih =>
    simp only [FrameFields.observationChecks, checkAll_require, ih, checkObservation,
      checkAll_nil, and_true, List.forall_mem_cons, List.map_cons, List.nodup_cons, List.mem_map,
      not_exists, not_and]
    constructor
    · rintro ⟨hinstrument, htime, hnew, hrest, hnodup, hfresh⟩
      refine ⟨⟨⟨hinstrument, htime⟩, hrest⟩, ⟨fun x hx heq => ?_, hnodup⟩, hnew, fun x hx hk => ?_⟩
      · exact hfresh x hx (heq ▸ List.mem_cons_self)
      · exact hfresh x hx (List.mem_cons_of_mem _ hk)
    · rintro ⟨⟨⟨hinstrument, htime⟩, hrest⟩, ⟨hother, hnodup⟩, hnew, hfresh⟩
      refine ⟨hinstrument, htime, hnew, hrest, hnodup, fun x hx hk => ?_⟩
      rcases List.mem_cons.mp hk with heq | hk
      · exact hother x hx heq
      · exact hfresh x hx hk

theorem healthChecks_iff (f : FrameFields) (keys : List HealthKey)
    (ss : List MarketSourceHealthSnapshot) :
    checkAll (f.healthChecks keys ss) = .ok () ↔
      (∀ s ∈ ss, checkHealth f.logical_instrument f.as_of s = .ok ()) ∧
        (ss.map health_scope_key).Nodup ∧ ∀ s ∈ ss, health_scope_key s ∉ keys := by
  induction ss generalizing keys with
  | nil => simp [FrameFields.healthChecks]
  | cons s ss ih =>
    simp only [FrameFields.healthChecks, checkAll_require, ih, checkHealth,
      checkAll_nil, and_true, List.forall_mem_cons, List.map_cons, List.nodup_cons, List.mem_map,
      not_exists, not_and]
    constructor
    · rintro ⟨hinstrument, htime, hnew, hrest, hnodup, hfresh⟩
      refine ⟨⟨⟨hinstrument, htime⟩, hrest⟩, ⟨fun x hx heq => ?_, hnodup⟩, hnew, fun x hx hk => ?_⟩
      · exact hfresh x hx (heq ▸ List.mem_cons_self)
      · exact hfresh x hx (List.mem_cons_of_mem _ hk)
    · rintro ⟨⟨⟨hinstrument, htime⟩, hrest⟩, ⟨hother, hnodup⟩, hnew, hfresh⟩
      refine ⟨hinstrument, htime, hnew, hrest, hnodup, fun x hx hk => ?_⟩
      rcases List.mem_cons.mp hk with heq | hk
      · exact hother x hx heq
      · exact hfresh x hx hk

/-! What is selected. -/

section Selected

variable {frame_instrument : InstrumentSymbol} {as_of : DateTime}
  {observations observations' : List NormalizedMarketObservation}
  {source_health source_health' : List MarketSourceHealthSnapshot}

/-- A frame of selected observations and snapshots, sorted, passes its own checks. -/
theorem frame_of_selected {selected : KeyedDict observation_stream_key}
    {health : KeyedDict health_scope_key}
    (hobs : ∀ o ∈ selected.values, checkObservation frame_instrument as_of o = .ok ())
    (hhealth : ∀ s ∈ health.values, checkHealth frame_instrument as_of s = .ok ())
    (hauthority : validate_market_frame_authority_consistency
      (sortBy observation_stream_key selected.values) (sortBy health_scope_key health.values) =
        .ok ()) :
    FrameFields.validate ⟨frame_instrument, as_of, sortBy observation_stream_key selected.values,
      sortBy health_scope_key health.values⟩ = .ok () := by
  have hsorted : ∀ {α κ : Type} [LinearOrder κ] (key : α → κ) (l : List α),
      sortBy key l = sortBy key (sortBy key l) := fun key l =>
    ((sortBy_eq_self key).mpr (sortBy_sorted key l)).symm
  have hobsKeys : ((sortBy observation_stream_key selected.values).map
      observation_stream_key).Nodup :=
    ((sortBy_perm _ _).map _).nodup_iff.mpr selected.values_keys_nodup
  have hhealthKeys : ((sortBy health_scope_key health.values).map health_scope_key).Nodup :=
    ((sortBy_perm _ _).map _).nodup_iff.mpr health.values_keys_nodup
  have hchecks : checkAll (FrameFields.observationChecks
      ⟨frame_instrument, as_of, sortBy observation_stream_key selected.values,
        sortBy health_scope_key health.values⟩ [] (sortBy observation_stream_key selected.values) ++
      FrameFields.healthChecks
        ⟨frame_instrument, as_of, sortBy observation_stream_key selected.values,
          sortBy health_scope_key health.values⟩ [] (sortBy health_scope_key health.values) ++ [
      require (sortBy observation_stream_key selected.values =
          sortBy observation_stream_key (sortBy observation_stream_key selected.values))
        (.check "frame observations must be sorted by stream key"),
      require (sortBy health_scope_key health.values =
          sortBy health_scope_key (sortBy health_scope_key health.values))
        (.check "frame source_health must be sorted by health scope key")]) = .ok () := by
    rw [checkAll_append, checkAll_append, observationChecks_iff, healthChecks_iff,
      checkAll_require, checkAll_require]
    refine ⟨⟨⟨fun o ho => ?_, hobsKeys, by simp⟩, fun s hs => ?_, hhealthKeys, by simp⟩,
      hsorted _ _, hsorted _ _, checkAll_nil⟩
    · exact hobs o ((mem_sortBy _).mp ho)
    · exact hhealth s ((mem_sortBy _).mp hs)
  rw [FrameFields.validate, hchecks]
  exact hauthority

theorem frame_of_eq_ok {f : FrameFields} {frame : CrossVenueMarketFrame} :
    CrossVenueMarketFrame.of f = .ok frame ↔ f.validate = .ok () ∧ frame.toFrameFields = f := by
  rw [CrossVenueMarketFrame.of, validated_eq_ok]
  constructor
  · rintro ⟨h, rfl⟩
    exact ⟨h, rfl⟩
  · rintro ⟨h, rfl⟩
    exact ⟨h, rfl⟩

variable {selected : KeyedDict observation_stream_key} {health : KeyedDict health_scope_key}

theorem authority_of_selection
    (hauthority : validate_market_frame_authority_consistency observations source_health = .ok ())
    (hselected : selectLatest (checkObservation frame_instrument as_of)
      (observationReplaces digests) KeyedDict.empty observations = .ok selected)
    (hhealth : selectLatest (checkHealth frame_instrument as_of) (healthReplaces digests)
      KeyedDict.empty source_health = .ok health) :
    validate_market_frame_authority_consistency (sortBy observation_stream_key selected.values)
      (sortBy health_scope_key health.values) = .ok () :=
  authority_mono (fun _ ho => selectLatest_subset hselected ((mem_sortBy _).mp ho))
    (fun _ hs => selectLatest_subset hhealth ((mem_sortBy _).mp hs)) hauthority

theorem frame_of_selection
    (hauthority : validate_market_frame_authority_consistency observations source_health = .ok ())
    (hselected : selectLatest (checkObservation frame_instrument as_of)
      (observationReplaces digests) KeyedDict.empty observations = .ok selected)
    (hhealth : selectLatest (checkHealth frame_instrument as_of) (healthReplaces digests)
      KeyedDict.empty source_health = .ok health) :
    FrameFields.validate ⟨frame_instrument, as_of, sortBy observation_stream_key selected.values,
      sortBy health_scope_key health.values⟩ = .ok () :=
  frame_of_selected
    (fun o ho => (selectLatest_ok hselected).1 o (selectLatest_subset hselected ho))
    (fun s hs => (selectLatest_ok hhealth).1 s (selectLatest_subset hhealth hs))
    (authority_of_selection hauthority hselected hhealth)

/-- A frame is built exactly when the authority is consistent and both selections go through,
and it holds what they select. -/
theorem build_eq_ok_iff {frame : CrossVenueMarketFrame} :
    build_cross_venue_market_frame digests frame_instrument as_of observations source_health =
        .ok frame ↔
      validate_market_frame_authority_consistency observations source_health = .ok () ∧
        ∃ (selected : KeyedDict observation_stream_key) (health : KeyedDict health_scope_key),
          selectLatest (checkObservation frame_instrument as_of) (observationReplaces digests)
              KeyedDict.empty observations = .ok selected ∧
            selectLatest (checkHealth frame_instrument as_of) (healthReplaces digests)
              KeyedDict.empty source_health = .ok health ∧
            frame.toFrameFields = ⟨frame_instrument, as_of,
              sortBy observation_stream_key selected.values,
              sortBy health_scope_key health.values⟩ := by
  rw [build_cross_venue_market_frame]
  constructor
  · intro h
    obtain ⟨⟨⟩, hauthority, h⟩ := bind_eq_ok.mp h
    obtain ⟨ordered, hordered, h⟩ := bind_eq_ok.mp h
    obtain ⟨selected, hselected, rfl⟩ := map_eq_ok.mp hordered
    obtain ⟨values, hvalues, h⟩ := bind_eq_ok.mp h
    obtain ⟨health, hhealth, rfl⟩ := map_eq_ok.mp hvalues
    obtain ⟨⟨⟩, -, h⟩ := bind_eq_ok.mp h
    exact ⟨hauthority, selected, health, hselected, hhealth, (frame_of_eq_ok.mp h).2⟩
  · rintro ⟨hauthority, selected, health, hselected, hhealth, hframe⟩
    have hlater := authority_of_selection hauthority hselected hhealth
    have hvalid := frame_of_selection hauthority hselected hhealth
    refine bind_eq_ok.mpr ⟨(), hauthority, bind_eq_ok.mpr ⟨_, map_eq_ok.mpr
      ⟨selected, hselected, rfl⟩, bind_eq_ok.mpr ⟨_, map_eq_ok.mpr ⟨health, hhealth, rfl⟩,
        bind_eq_ok.mpr ⟨(), hlater, frame_of_eq_ok.mpr ⟨hvalid, hframe⟩⟩⟩⟩⟩

theorem authority_perm (hobs : observations'.Perm observations)
    (hhealth : source_health'.Perm source_health) :
    validate_market_frame_authority_consistency observations' source_health' = .ok () ↔
      validate_market_frame_authority_consistency observations source_health = .ok () :=
  ⟨authority_mono hobs.symm.subset hhealth.symm.subset, authority_mono hobs.subset hhealth.subset⟩

variable (digests frame_instrument as_of observations source_health)

/-- Nothing that is the same in every order stops the frame: the authority is consistent, each
observation and snapshot passes its check, and those of each stream and scope have a ladder. -/
structure NotRefused : Prop where
  authority : validate_market_frame_authority_consistency observations source_health = .ok ()
  observations_pass : ∀ o ∈ observations, checkObservation frame_instrument as_of o = .ok ()
  streams : ∀ o ∈ observations, ∃ cs, Ladder (observationReplaces digests)
    (stream observation_stream_key (observation_stream_key o) observations) cs
  health_passes : ∀ s ∈ source_health, checkHealth frame_instrument as_of s = .ok ()
  scopes : ∀ s ∈ source_health, ∃ cs, Ladder (healthReplaces digests)
    (stream health_scope_key (health_scope_key s) source_health) cs

/-- In each stream and in each scope any two can be compared, and one is later than all others. -/
structure OneLatest : Prop where
  streams : ∀ o ∈ observations, Settled (observationReplaces digests)
    (stream observation_stream_key (observation_stream_key o) observations)
  scopes : ∀ s ∈ source_health, Settled (healthReplaces digests)
    (stream health_scope_key (health_scope_key s) source_health)

variable {digests frame_instrument as_of observations source_health}

theorem exists_build_iff :
    (∃ observations' source_health', observations'.Perm observations ∧
        source_health'.Perm source_health ∧ ∃ frame, build_cross_venue_market_frame digests
          frame_instrument as_of observations' source_health' = .ok frame) ↔
      NotRefused digests frame_instrument as_of observations source_health := by
  constructor
  · rintro ⟨observations', source_health', hobs, hhealth, frame, hbuild⟩
    obtain ⟨hauthority, selected, health, hselected, hselectedHealth, -⟩ :=
      build_eq_ok_iff.mp hbuild
    obtain ⟨hpass, hstreams⟩ :=
      (exists_selectLatest_iff observations_comparison).mp ⟨_, hobs, selected, hselected⟩
    obtain ⟨hpasses, hscopes⟩ :=
      (exists_selectLatest_iff health_comparison).mp ⟨_, hhealth, health, hselectedHealth⟩
    exact ⟨(authority_perm hobs hhealth).mp hauthority, hpass, hstreams, hpasses, hscopes⟩
  · intro h
    obtain ⟨observations', hobs, selected, hselected⟩ :=
      (exists_selectLatest_iff observations_comparison).mpr ⟨h.observations_pass, h.streams⟩
    obtain ⟨source_health', hhealth, health, hselectedHealth⟩ :=
      (exists_selectLatest_iff health_comparison).mpr ⟨h.health_passes, h.scopes⟩
    have hauthority := (authority_perm hobs hhealth).mpr h.authority
    exact ⟨observations', source_health', hobs, hhealth,
      ⟨_, frame_of_selection hauthority hselected hselectedHealth⟩,
      build_eq_ok_iff.mpr ⟨hauthority, selected, health, hselected, hselectedHealth, rfl⟩⟩

/-- Every order gives one frame exactly when, besides, each stream and each scope has one
latest. -/
theorem same_build_iff :
    (∃ frame, ∀ observations' source_health', observations'.Perm observations →
        source_health'.Perm source_health → build_cross_venue_market_frame digests
          frame_instrument as_of observations' source_health' = .ok frame) ↔
      NotRefused digests frame_instrument as_of observations source_health ∧
        OneLatest digests observations source_health := by
  constructor
  · rintro ⟨frame, hsame⟩
    have hown := hsame _ _ (List.Perm.refl _) (List.Perm.refl _)
    have hrefused := exists_build_iff.mp
      ⟨_, _, List.Perm.refl observations, List.Perm.refl source_health, frame, hown⟩
    obtain ⟨-, selected, health, hselected, hhealth, hframe⟩ := build_eq_ok_iff.mp hown
    refine ⟨hrefused, ?_, ?_⟩
    · -- the frame tells the selection of each order of the observations
      suffices hselections : ∃ e : KeyedDict observation_stream_key, ∀ m, m.Perm observations →
          ∃ e' : KeyedDict observation_stream_key,
            selectLatest (checkObservation frame_instrument as_of) (observationReplaces digests)
              KeyedDict.empty m = .ok e' ∧ ∀ k, e'.get? k = e.get? k from
        ((same_selectLatest_iff observations_comparison).mp hselections).2
      refine ⟨selected, fun m hm => ?_⟩
      obtain ⟨-, selected', health', hselected', -, hframe'⟩ :=
        build_eq_ok_iff.mp (hsame m _ hm (List.Perm.refl _))
      refine ⟨selected', hselected', KeyedDict.get?_congr_of_values fun v => ?_⟩
      have hsorted := congrArg FrameFields.observations (hframe'.symm.trans hframe)
      simp only at hsorted
      rw [← mem_sortBy observation_stream_key, hsorted, mem_sortBy]
    · suffices hselections : ∃ e : KeyedDict health_scope_key, ∀ m, m.Perm source_health →
          ∃ e' : KeyedDict health_scope_key,
            selectLatest (checkHealth frame_instrument as_of) (healthReplaces digests)
              KeyedDict.empty m = .ok e' ∧ ∀ k, e'.get? k = e.get? k from
        ((same_selectLatest_iff health_comparison).mp hselections).2
      refine ⟨health, fun m hm => ?_⟩
      obtain ⟨-, selected', health', -, hhealth', hframe'⟩ :=
        build_eq_ok_iff.mp (hsame _ m (List.Perm.refl _) hm)
      refine ⟨health', hhealth', KeyedDict.get?_congr_of_values fun v => ?_⟩
      have hsorted := congrArg FrameFields.source_health (hframe'.symm.trans hframe)
      simp only at hsorted
      rw [← mem_sortBy health_scope_key, hsorted, mem_sortBy]
  · rintro ⟨hrefused, hlatest⟩
    obtain ⟨selected, hselected⟩ := (same_selectLatest_iff observations_comparison).mpr
      ⟨hrefused.observations_pass, hlatest.streams⟩
    obtain ⟨health, hhealth⟩ := (same_selectLatest_iff health_comparison).mpr
      ⟨hrefused.health_passes, hlatest.scopes⟩
    obtain ⟨selected₀, hown, hsame₀⟩ := hselected observations (List.Perm.refl _)
    obtain ⟨health₀, hownHealth, hsameHealth₀⟩ := hhealth source_health (List.Perm.refl _)
    refine ⟨⟨_, frame_of_selection hrefused.authority hown hownHealth⟩, ?_⟩
    intro observations' source_health' hobs hsnap
    obtain ⟨selected', hselected', hsame⟩ := hselected observations' hobs
    obtain ⟨health', hhealth', hsameHealth⟩ := hhealth source_health' hsnap
    refine build_eq_ok_iff.mpr ⟨(authority_perm hobs hsnap).mpr hrefused.authority, selected',
      health', hselected', hhealth', ?_⟩
    have hvalues : sortBy observation_stream_key selected₀.values =
        sortBy observation_stream_key selected'.values :=
      KeyedDict.sortBy_values_eq (fun k => (hsame₀ k).trans (hsame k).symm) fun _ _ h => h
    have hhealthValues : sortBy health_scope_key health₀.values =
        sortBy health_scope_key health'.values :=
      KeyedDict.sortBy_values_eq (fun k => (hsameHealth₀ k).trans (hsameHealth k).symm)
        fun _ _ h => h
    simp only [hvalues, hhealthValues]

variable (digests frame_instrument as_of observations source_health)

/-- Every order of the observations and of the health snapshots has the same outcome. -/
def SameInEveryOrder : Prop :=
  ∀ observations' source_health', observations'.Perm observations →
    source_health'.Perm source_health →
    SameOutcome
      (build_cross_venue_market_frame digests frame_instrument as_of observations source_health)
      (build_cross_venue_market_frame digests frame_instrument as_of observations' source_health')

/-- In a frame that is built, the observation of a stream is not older than another given one. -/
def SelectsTheLatest : Prop :=
  ∀ frame, build_cross_venue_market_frame digests frame_instrument as_of observations
      source_health = .ok frame →
    ∀ selected ∈ frame.observations, ∀ o ∈ observations,
      observation_stream_key o = observation_stream_key selected →
        compareMarketObservations digests selected o ≠ .ok .lt

variable {digests frame_instrument as_of observations source_health}

theorem sameInEveryOrder_iff :
    SameInEveryOrder digests frame_instrument as_of observations source_health ↔
      (NotRefused digests frame_instrument as_of observations source_health →
        OneLatest digests observations source_health) := by
  constructor
  · intro hsame hrefused
    obtain ⟨observations₀, source_health₀, hobs₀, hhealth₀, frame, hbuild⟩ :=
      exists_build_iff.mpr hrefused
    -- the given order has the outcome of the order that goes through, and so has every other
    have hgiven : build_cross_venue_market_frame digests frame_instrument as_of observations
        source_health = .ok frame := by
      have houtcome := hsame _ _ hobs₀ hhealth₀
      rw [hbuild] at houtcome
      cases hown : build_cross_venue_market_frame digests frame_instrument as_of observations
          source_health with
      | ok frame' =>
        rw [hown] at houtcome
        exact congrArg Except.ok houtcome
      | error e =>
        rw [hown] at houtcome
        exact absurd houtcome id
    have hall : ∀ observations' source_health', observations'.Perm observations →
        source_health'.Perm source_health → build_cross_venue_market_frame digests
          frame_instrument as_of observations' source_health' = .ok frame :=
      fun _ _ hobs hhealth => (hsame _ _ hobs hhealth).ok hgiven
    exact (same_build_iff.mp ⟨frame, hall⟩).2
  · intro h observations' source_health' hobs hhealth
    by_cases hrefused : NotRefused digests frame_instrument as_of observations source_health
    · obtain ⟨frame, hsame⟩ := same_build_iff.mpr ⟨hrefused, h hrefused⟩
      rw [hsame _ _ (List.Perm.refl _) (List.Perm.refl _), hsame _ _ hobs hhealth]
      exact rfl
    · have herror : ∀ observations' source_health', observations'.Perm observations →
          source_health'.Perm source_health → ∃ e, build_cross_venue_market_frame digests
            frame_instrument as_of observations' source_health' = .error e := by
        intro observations' source_health' hobs hhealth
        cases hbuild : build_cross_venue_market_frame digests frame_instrument as_of
            observations' source_health' with
        | error e => exact ⟨e, rfl⟩
        | ok frame =>
          exact absurd (exists_build_iff.mp ⟨_, _, hobs, hhealth, frame, hbuild⟩) hrefused
      obtain ⟨e, he⟩ := herror _ _ (List.Perm.refl observations) (List.Perm.refl source_health)
      obtain ⟨e', he'⟩ := herror _ _ hobs hhealth
      rw [he, he']
      exact trivial

theorem selectsTheLatest_of_oneLatest (h : OneLatest digests observations source_health) :
    SelectsTheLatest digests frame_instrument as_of observations source_health := by
  intro frame hbuild selected hselected o ho hkey
  obtain ⟨-, d, health, hselect, -, hframe⟩ := build_eq_ok_iff.mp hbuild
  have hobservations : frame.observations = sortBy observation_stream_key d.values :=
    congrArg FrameFields.observations hframe
  have hmem : selected ∈ d.values := by
    rw [hobservations] at hselected
    exact (mem_sortBy _).mp hselected
  obtain ⟨hall, w, hw, htop⟩ := h.streams o ho
  -- the stream selects its latest
  have hrun := (selectLatest_ok hselect).2 (observation_stream_key o)
  rw [KeyedDict.get?_empty, Settled.runUp_eq observations_comparison hall hw htop, hkey,
    KeyedDict.mem_values.mp hmem, Except.ok.injEq, Option.some.injEq] at hrun
  subst hrun
  rcases htop o (mem_stream.mpr ⟨ho, rfl⟩) with rfl | hlater
  · rw [compareMarketObservations_self]
    simp
  · obtain ⟨ordering, hcompare, hgt⟩ := observationReplaces_iff.mp hlater
    rw [decide_eq_true_eq] at hgt
    rw [hcompare, hgt]
    simp

end Selected

/-- A frame depends on no order, and selects the latest of each stream, exactly when each stream
and each scope has one latest or every order is refused. -/
theorem frame_order_independent_iff (digests : MarketDigests)
    (logical_instrument : InstrumentSymbol) (as_of : DateTime)
    (observations : List NormalizedMarketObservation)
    (source_health : List MarketSourceHealthSnapshot) :
    SameInEveryOrder digests logical_instrument as_of observations source_health ∧
        SelectsTheLatest digests logical_instrument as_of observations source_health ↔
      (NotRefused digests logical_instrument as_of observations source_health →
        OneLatest digests observations source_health) := by
  constructor
  · rintro ⟨hsame, -⟩
    exact sameInEveryOrder_iff.mp hsame
  · intro h
    refine ⟨sameInEveryOrder_iff.mpr h, fun frame hbuild => ?_⟩
    have hrefused := exists_build_iff.mp
      ⟨_, _, List.Perm.refl observations, List.Perm.refl source_health, frame, hbuild⟩
    exact selectsTheLatest_of_oneLatest (h hrefused) frame hbuild

/-! Two sessions of one source: the second connection delivers between two numbers of the first
that arrive out of order, so each of the three is later than another. -/

def sampleSource : MarketDataSourceDescriptor where
  source_id := ⟨"BINANCE_SPOT_WS", by decide⟩
  source_kind := .REPLAY
  provider := ⟨⟨"binance", by decide⟩, by decide⟩
  transport := .WEBSOCKET
  venue := none
  source_version := ⟨⟨"1", by decide⟩, by decide⟩
  direct := by decide

def sampleInstrument : VenueInstrumentRef where
  venue_instrument_id := ⟨"binance-spot-btcusdt", by decide⟩
  venue := ⟨"BINANCE", .checked evaluates⟩
  raw_symbol := ⟨⟨"BTCUSDT", .checked evaluates⟩, by decide⟩
  logical_instrument := ⟨.ofText "BTC" (by decide), .ofText "USDT" (by decide)⟩
  market_kind := .SPOT
  settlement_asset := none
  collateral_asset := none
  contract_expiry := none
  metadata_version := ⟨"1", by decide⟩
  expiry := by decide

def sampleHexDigest (c : Char) (h : c.isDigit = true) : HexDigest where
  value := String.ofList (List.replicate 64 c)
  hex := by
    rw [String.toList_ofList]
    exact ⟨List.length_replicate, fun d hd => .inl (List.eq_of_mem_replicate hd ▸ h)⟩

/-- A mark price that arrives some seconds after the sample time. -/
def sampleObservation (connection : DomainId) (sequence seconds : ℕ) (h : seconds < 50) :
    NormalizedMarketObservation where
  source := sampleSource
  instrument := sampleInstrument
  provenance := {
    source_event_id := ⟨"event", by decide⟩
    source_event_time := none
    engine_time := none
    received_at := { sampleTime with
      second := 5 + seconds
      time_ok := by
        change 3 < 24 ∧ 4 < 60 ∧ 5 + seconds < 60 ∧ 0 < 1000000
        omega }
    received_monotonic_ns := seconds
    source_sequence := some sequence
    connection_id := connection
    reconnect_generation := 0
    raw_payload_sha256 := sampleHexDigest '0' (.refl true) }
  payload := .markPrice ⟨⟨false, 43000, 0⟩, .refl true⟩
  direct := by decide

def sampleDigests : MarketDigests where
  observation o :=
    if o.provenance.received_monotonic_ns = 7 then sampleHexDigest '7' (.refl true)
    else if o.provenance.received_monotonic_ns = 5 then sampleHexDigest '5' (.refl true)
    else sampleHexDigest '1' (.refl true)
  health _ := sampleHexDigest '2' (.refl true)
  frame _ := sampleHexDigest '3' (.refl true)

def firstNumber : NormalizedMarketObservation :=
  sampleObservation ⟨"conn-a", by decide⟩ 1 10 (by decide)

def secondNumber : NormalizedMarketObservation :=
  sampleObservation ⟨"conn-a", by decide⟩ 2 5 (by decide)

def otherSession : NormalizedMarketObservation :=
  sampleObservation ⟨"conn-b", by decide⟩ 1 7 (by decide)

theorem sessions_beat_each_other :
    ¬ (SameInEveryOrder sampleDigests sampleInstrument.logical_instrument
          firstNumber.provenance.received_at [firstNumber, otherSession, secondNumber] [] ∧
        SelectsTheLatest sampleDigests sampleInstrument.logical_instrument
          firstNumber.provenance.received_at [firstNumber, otherSession, secondNumber] []) := by
  rintro ⟨hsame, -⟩
  have houtcome := hsame [secondNumber, otherSession, firstNumber] [] (by decide) (List.Perm.refl _)
  exact absurd houtcome (by decide +kernel)

end FuturesBot.Market
