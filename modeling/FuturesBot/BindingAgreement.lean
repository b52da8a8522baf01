import FuturesBot.ReplayMarketAdapter

/-! Which bindings an adapter takes, and that their order does not matter. -/
namespace FuturesBot.Market

open Checks Dicts KeySorting

/-- Two bindings of one key or id are the same, and what they say of a source or an instrument is
the same. -/
structure Agree (b c : ReplayMarketDataBinding) : Prop where
  key : replay_market_binding_key b = replay_market_binding_key c → b = c
  id : bindingId b = bindingId c → b = c
  source : sourceKey b.source = sourceKey c.source → b.source = c.source
  instrument : instrumentKey b.venue_instrument = instrumentKey c.venue_instrument →
    b.venue_instrument = c.venue_instrument

namespace BindingTables

variable {t u : BindingTables} {b : ReplayMarketDataBinding} {bs : List ReplayMarketDataBinding}

/-- Nothing stands in the tables but what the bindings say. -/
structure Filled (t : BindingTables) : Prop where
  ids : ∀ k, ∀ c ∈ t.by_binding_id.get? k, c ∈ t.by_key.values
  sources : ∀ k, ∀ s ∈ t.by_source_id.get? k, ∃ c ∈ t.by_key.values, c.source = s
  instruments : ∀ k, ∀ i ∈ t.by_instrument_id.get? k,
    ∃ c ∈ t.by_key.values, c.venue_instrument = i

theorem empty_filled : BindingTables.empty.Filled where
  ids _ _ h := absurd h (by simp [BindingTables.empty])
  sources _ _ h := absurd h (by simp [BindingTables.empty])
  instruments _ _ h := absurd h (by simp [BindingTables.empty])

theorem add_values (h : t.add b = .ok u) (c : ReplayMarketDataBinding) :
    c ∈ u.by_key.values ↔ c ∈ t.by_key.values ∨ c = b := by
  obtain ⟨hget, rfl⟩ | ⟨hnew, hput, -⟩ := add_cases h
  · constructor
    · exact fun hc => .inl hc
    · rintro (hc | rfl)
      · exact hc
      · exact KeyedDict.mem_values.mpr hget
  · rw [hput, KeyedDict.put_of_new hnew, List.mem_append, List.mem_singleton]

theorem foldlM_add_values (h : bs.foldlM BindingTables.add t = .ok u)
    (c : ReplayMarketDataBinding) : c ∈ u.by_key.values ↔ c ∈ t.by_key.values ∨ c ∈ bs := by
  induction bs generalizing t with
  | nil =>
    cases h
    simp
  | cons b bs ih =>
    rw [List.foldlM_cons] at h
    obtain ⟨v, hadd, hrest⟩ := bind_eq_ok.mp h
    rw [ih hrest, add_values hadd, List.mem_cons, or_assoc]

/-- What a table holds after a put is what it held or what was put. -/
theorem get?_of_putEqual {κ ν : Type} [DecidableEq κ] [DecidableEq ν] {key : ν → κ}
    {d e : KeyedDict key} {v w : ν} {k : κ} (h : d.putEqual id v = some e) (hw : w ∈ e.get? k) :
    w ∈ d.get? k ∨ w = v := by
  obtain ⟨-, ⟨-, rfl⟩ | ⟨-, rfl⟩⟩ := KeyedDict.putEqual_eq_some.mp h
  · exact .inl hw
  · rw [KeyedDict.get?_put] at hw
    split_ifs at hw
    · exact .inr (Option.some.inj hw).symm
    · exact .inl hw

theorem add_filled (hf : t.Filled) (h : t.add b = .ok u) : u.Filled := by
  have hvalues := add_values h
  obtain ⟨-, rfl⟩ | ⟨-, -, hid, hsource, hinstrument⟩ := add_cases h
  · exact hf
  · refine ⟨fun k c hc => ?_, fun k s hs => ?_, fun k i hi => ?_⟩
    · rw [hvalues]
      exact (get?_of_putEqual hid hc).imp (hf.ids k c) id
    · rcases get?_of_putEqual hsource hs with hold | rfl
      · obtain ⟨c, hc, rfl⟩ := hf.sources k s hold
        exact ⟨c, (hvalues c).mpr (.inl hc), rfl⟩
      · exact ⟨b, (hvalues b).mpr (.inr rfl), rfl⟩
    · rcases get?_of_putEqual hinstrument hi with hold | rfl
      · obtain ⟨c, hc, rfl⟩ := hf.instruments k i hold
        exact ⟨c, (hvalues c).mpr (.inl hc), rfl⟩
      · exact ⟨b, (hvalues b).mpr (.inr rfl), rfl⟩

/-- A binding that agrees with those of the tables is added. -/
theorem add_ok (hf : t.Filled) (h : ∀ c ∈ t.by_key.values, Agree c b) : ∃ u, t.add b = .ok u := by
  unfold BindingTables.add
  split
  · next existing hget =>
    have hkey := KeyedDict.key_of_get? hget
    have hmem := KeyedDict.mem_values_of_get? hget
    rw [if_neg (not_not.mpr ((h existing hmem).key hkey))]
    exact ⟨t, rfl⟩
  · have hid : t.by_binding_id.Admits id b := by
      intro c hc
      exact (h c (hf.ids _ c hc)).id (KeyedDict.key_of_get? hc)
    have hsource : t.by_source_id.Admits id b.source := by
      intro s hs
      obtain ⟨c, hc, rfl⟩ := hf.sources _ s hs
      exact (h c hc).source (KeyedDict.key_of_get? hs)
    have hinstrument : t.by_instrument_id.Admits id b.venue_instrument := by
      intro i hi
      obtain ⟨c, hc, rfl⟩ := hf.instruments _ i hi
      exact (h c hc).instrument (KeyedDict.key_of_get? hi)
    obtain ⟨ids, hid⟩ := hid.put
    obtain ⟨sources, hsource⟩ := hsource.put
    obtain ⟨instruments, hinstrument⟩ := hinstrument.put
    simp only [hid, hsource, hinstrument]
    exact ⟨_, rfl⟩

theorem foldlM_add_of_agree (hf : t.Filled) (hold : ∀ b ∈ bs, ∀ c ∈ t.by_key.values, Agree c b)
    (h : ∀ b ∈ bs, ∀ c ∈ bs, Agree b c) : ∃ u, bs.foldlM BindingTables.add t = .ok u := by
  induction bs generalizing t with
  | nil => exact ⟨t, rfl⟩
  | cons b bs ih =>
    obtain ⟨v, hadd⟩ := add_ok hf (hold b List.mem_cons_self)
    have hnext : ∀ d ∈ bs, ∀ c ∈ v.by_key.values, Agree c d := by
      intro d hd c hc
      rcases (add_values hadd c).mp hc with hc | rfl
      · exact hold d (List.mem_cons_of_mem b hd) c hc
      · exact h c List.mem_cons_self d (List.mem_cons_of_mem c hd)
    obtain ⟨u, hrest⟩ := ih (add_filled hf hadd) hnext fun c hc d hd =>
      h c (List.mem_cons_of_mem b hc) d (List.mem_cons_of_mem b hd)
    rw [List.foldlM_cons]
    exact ⟨u, bind_eq_ok.mpr ⟨v, hadd, hrest⟩⟩

end BindingTables

variable {bs bs' cs cs' : List ReplayMarketDataBinding}

theorem mem_canonical (h : validate_replay_market_data_bindings bs = .ok cs)
    (c : ReplayMarketDataBinding) : c ∈ cs ↔ c ∈ bs := by
  obtain ⟨t, hfold, rfl⟩ := map_eq_ok.mp h
  rw [mem_sortBy, BindingTables.foldlM_add_values hfold]
  have hnil : BindingTables.empty.by_key.values = [] := rfl
  simp [hnil]

theorem CanonicalBindings.agree (h : CanonicalBindings cs) {b c : ReplayMarketDataBinding}
    (hb : b ∈ cs) (hc : c ∈ cs) : Agree b c where
  key hkey := List.inj_on_of_nodup_map h.keys hb hc hkey
  id hid := h.ids b hb c hc hid
  source hsource := h.sources _ (List.mem_map_of_mem hb) _ (List.mem_map_of_mem hc) hsource
  instrument hinstrument :=
    h.instruments _ (List.mem_map_of_mem hb) _ (List.mem_map_of_mem hc) hinstrument

/-- Bindings are taken exactly when any two of them agree. -/
theorem validate_iff : (∃ cs, validate_replay_market_data_bindings bs = .ok cs) ↔
    ∀ b ∈ bs, ∀ c ∈ bs, Agree b c := by
  constructor
  · rintro ⟨cs, h⟩ b hb c hc
    exact (canonical_of_validate h).agree ((mem_canonical h b).mpr hb) ((mem_canonical h c).mpr hc)
  · intro h
    have hnil : BindingTables.empty.by_key.values = [] := rfl
    obtain ⟨t, hfold⟩ := BindingTables.foldlM_add_of_agree BindingTables.empty_filled
      (fun b _ c hc => absurd (hnil ▸ hc) List.not_mem_nil) h
    exact ⟨_, map_eq_ok.mpr ⟨t, hfold, rfl⟩⟩

theorem bindingOrder_injOn (h : CanonicalBindings cs) :
    ∀ b ∈ cs, ∀ c ∈ cs, bindingOrder b = bindingOrder c → b = c :=
  fun _ hb _ hc horder => (h.agree hb hc).key (bindingOrder_inj horder)

/-- Bindings with the same members have the same canonical form. -/
theorem canonical_unique (h : validate_replay_market_data_bindings bs = .ok cs)
    (h' : validate_replay_market_data_bindings bs' = .ok cs') (hmem : ∀ b, b ∈ bs ↔ b ∈ bs') :
    cs = cs' := by
  have hcanonical := canonical_of_validate h
  have hcanonical' := canonical_of_validate h'
  have hperm : cs.Perm cs' := by
    refine (List.perm_ext_iff_of_nodup (List.Nodup.of_map _ hcanonical.keys)
      (List.Nodup.of_map _ hcanonical'.keys)).mpr fun b => ?_
    rw [mem_canonical h, mem_canonical h', hmem]
  exact sorted_unique bindingOrder hperm hcanonical.sorted hcanonical'.sorted
    (bindingOrder_injOn hcanonical)

theorem validate_perm (h : bs.Perm bs') (cs : List ReplayMarketDataBinding) :
    validate_replay_market_data_bindings bs = .ok cs ↔
      validate_replay_market_data_bindings bs' = .ok cs := by
  have hiff : (∃ cs, validate_replay_market_data_bindings bs = .ok cs) ↔
      ∃ cs, validate_replay_market_data_bindings bs' = .ok cs := by
    rw [validate_iff, validate_iff]
    simp only [h.mem_iff]
  constructor
  · intro hv
    obtain ⟨cs', hv'⟩ := hiff.mp ⟨cs, hv⟩
    rw [hv', canonical_unique hv hv' fun b => h.mem_iff]
  · intro hv'
    obtain ⟨cs', hv⟩ := hiff.mpr ⟨cs, hv'⟩
    rw [hv, canonical_unique hv hv' fun b => h.mem_iff]

theorem adapter_authority_eq_ok {descriptor : ReplayMarketAdapterDescriptor}
    {authority : ReplayMarketAdapterAuthority} :
    build_replay_market_adapter_authority descriptor bs = .ok authority ↔
      authority.descriptor = descriptor ∧
        validate_replay_market_data_bindings bs = .ok authority.bindings := by
  rw [build_replay_market_adapter_authority]
  split
  · next e hv =>
    simp [hv]
  · next canonical hv =>
    have hbindings : validate_replay_market_data_bindings bs = .ok authority.bindings ↔
        canonical = authority.bindings := by
      rw [hv, Except.ok.injEq]
    rw [hbindings]
    split_ifs with hne
    · simp only [false_iff, not_and]
      intro _ heq
      exact authority.nonempty (heq ▸ hne)
    · constructor
      · intro h
        cases h
        exact ⟨rfl, rfl⟩
      · rintro ⟨rfl, rfl⟩
        rfl

/-- The authority of an adapter does not depend on the order of its bindings. -/
theorem adapter_authority_perm (descriptor : ReplayMarketAdapterDescriptor) (h : bs.Perm bs')
    (authority : ReplayMarketAdapterAuthority) :
    build_replay_market_adapter_authority descriptor bs = .ok authority ↔
      build_replay_market_adapter_authority descriptor bs' = .ok authority := by
  rw [adapter_authority_eq_ok, adapter_authority_eq_ok, validate_perm h]

end FuturesBot.Market
