import FuturesBot.CollateralValuation

/-! What a ready collateral valuation stands for: every gate of a policy that requires valuation
has been passed. -/
namespace FuturesBot.Collateral

open JsonText (Json)
open DateTimes DecimalNumbers Checks
open Venues (ArithmeticFailure timedeltaOfMillis decimally)

/-- The rule is in force at the time. -/
def InForce (checked_at effective_at : DateTime) (expires_at : Option DateTime) : Prop :=
  effective_at ≤ checked_at ∧ ∀ t ∈ expires_at, checked_at < t

theorem ruleIsActive_iff {checked_at effective_at : DateTime} {expires_at : Option DateTime} :
    ruleIsActive checked_at effective_at expires_at = true ↔
      InForce checked_at effective_at expires_at := by
  rw [ruleIsActive, Bool.and_eq_true, decide_eq_true_eq, Option.all_eq_true]
  simp only [decide_eq_true_eq]
  rfl

/-- The valuation of the request is of its pair, as old as the policy allows, and from a source
that the policy allows. -/
structure ValuationHolds (q : ValuationRequest) (s : CollateralValuationSnapshot) : Prop where
  collateral_asset : s.collateral_asset = q.collateral_asset
  reference_asset : s.reference_asset = expectedReference q
  observed : s.observed_at ≤ q.checked_at
  captured : s.captured_at ≤ q.checked_at
  fresh : ∃ ms ∈ q.policy.max_valuation_age_ms,
    (q.checked_at.micros : ℤ) - s.captured_at.micros ≤ 1000 * ms
  source : sourceAllowed s.source_kind q.policy = true
  trust : trustAllowed s.trust q.policy = true
  health : healthAllowed s.health q.policy = true

/-- An eligible rule of the collateral is in force. -/
structure EligibilityHolds (q : ValuationRequest) (rule : CollateralEligibilityRule) : Prop where
  collateral_asset : rule.collateral_asset = q.collateral_asset
  eligible : rule.eligibility_status = .ELIGIBLE
  active : InForce q.checked_at rule.effective_at rule.expires_at

/-- The multiplier of a rule's kind: one, or one minus the rate in the context of decimals, or
none where the haircut is not a rate. -/
def MultiplierOf (rule : CollateralHaircutRule) (multiplier : Option Decimal) : Prop :=
  match rule.haircut_kind with
  | .NONE => multiplier = some Decimal.one
  | .FIXED_PERCENTAGE => ∃ rate ∈ rule.haircut_rate, ∃ m, multiplier = some m ∧
      Decimal.sub Decimal.one rate.val = .ok m ∧ m.inUnitInterval = true ∧
      (-28 ≤ rate.val.exp → m.value = 1 - rate.val.value)
  | _ => multiplier = none

/-- A haircut rule of the pair is in force, and the multiplier is that of its kind. -/
structure HaircutHolds (q : ValuationRequest) (rule : CollateralHaircutRule)
    (multiplier : Option Decimal) : Prop where
  collateral_asset : rule.collateral_asset = q.collateral_asset
  reference_asset : rule.reference_asset = expectedReference q
  active : InForce q.checked_at rule.effective_at rule.expires_at
  known : rule.haircut_kind ≠ .UNKNOWN
  multiplier : MultiplierOf rule multiplier

/-- Every gate that the policy requires. -/
structure GatesHold (q : ValuationRequest) (d : CollateralValuationReadinessDecision) : Prop where
  valuation : ∃ s ∈ q.valuation_snapshot, ValuationHolds q s
  eligibility : q.policy.eligibility_required = true →
    ∃ rule ∈ q.eligibility_rule, EligibilityHolds q rule
  haircut : q.policy.haircut_required = true →
    ∃ rule ∈ q.haircut_rule, HaircutHolds q rule d.effective_value_multiplier

/-! The gates, one by one. -/

variable {q : ValuationRequest}

theorem timedeltaOfMillis_ok {ms d : ℤ} (h : timedeltaOfMillis ms = .ok d) : d = 1000 * ms := by
  rw [timedeltaOfMillis] at h
  split_ifs at h
  exact (Except.ok.inj h).symm

/-- A positive number of milliseconds is out of range from a thousand million days on. -/
theorem timedeltaOfMillis_error {ms : ℤ} {e : ArithmeticFailure} (hpos : 0 < ms)
    (h : timedeltaOfMillis ms = .error e) : e = .timedelta ∧ 86400000000000000 ≤ ms := by
  rw [timedeltaOfMillis] at h
  split_ifs at h with hrange
  refine ⟨(Except.error.inj h).symm, ?_⟩
  by_contra hlt
  exact hrange (by constructor <;> omega)

theorem valuationGate_passed (h : valuationGate q = .ok none) :
    ∃ s ∈ q.valuation_snapshot, ValuationHolds q s := by
  unfold valuationGate at h
  split at h
  · cases h
  · rename_i s hs
    refine ⟨s, hs, ?_⟩
    split at h
    · cases h
    · rename_i hpair
      split at h
      · cases h
      · rename_i hfuture
        split at h
        · cases h
        · rename_i max_age_ms hms
          split at h
          · cases h
          · rename_i max_age hage
            split at h
            · cases h
            · rename_i hstale
              split at h
              · cases h
              · rename_i hsource
                split at h
                · cases h
                · rename_i hhealth
                  obtain ⟨hcollateral, hreference⟩ := not_or.mp hpair
                  have hcaptured : s.captured_at ≤ q.checked_at := by
                    rw [DateTime.lt_iff, not_lt] at hfuture
                    exact (DateTime.le_iff _ _).mpr hfuture
                  rw [timedeltaOfMillis_ok hage] at hstale
                  simp only [Bool.or_eq_true, Bool.not_eq_true', not_or, Bool.not_eq_false]
                    at hsource
                  simp only [Bool.not_eq_true', Bool.not_eq_false] at hhealth
                  exact
                    { collateral_asset := not_ne_iff.mp hcollateral
                      reference_asset := not_ne_iff.mp hreference
                      observed := le_trans s.captured hcaptured
                      captured := hcaptured
                      fresh := ⟨max_age_ms, hms, not_lt.mp hstale⟩
                      source := hsource.1
                      trust := hsource.2
                      health := hhealth }

/-- The check of the valuation fails only where the age limit is out of range. -/
theorem valuationGate_error {e : ValuationError} (hrequired : q.policy.valuation_required = true)
    (h : valuationGate q = .error e) : e = .arithmetic .timedelta ∧
      ∃ ms ∈ q.policy.max_valuation_age_ms, 86400000000000000 ≤ ms := by
  obtain ⟨ms, hms, hpos⟩ := q.policy.age_given hrequired
  unfold valuationGate at h
  split at h
  · cases h
  · split at h
    · cases h
    · split at h
      · cases h
      · split at h
        · rename_i hnone
          rw [hnone] at hms
          cases hms
        · rename_i max_age_ms hsome
          obtain rfl : max_age_ms = ms := Option.some.inj (hsome.symm.trans hms)
          split at h
          · rename_i f hf
            obtain ⟨rfl, hlarge⟩ := timedeltaOfMillis_error hpos hf
            exact ⟨(Except.error.inj h).symm, max_age_ms, hms, hlarge⟩
          · split_ifs at h

theorem eligibilityGate_passed (h : eligibilityGate q = none)
    (hrequired : q.policy.eligibility_required = true) :
    ∃ rule ∈ q.eligibility_rule, EligibilityHolds q rule := by
  rw [eligibilityGate, if_pos hrequired] at h
  split at h
  · cases h
  · rename_i rule hrule
    split_ifs at h with hmatch hactive
    obtain ⟨hasset, hstatus⟩ := not_or.mp hmatch
    simp only [Bool.not_eq_true', Bool.not_eq_false] at hactive
    exact ⟨rule, hrule, not_ne_iff.mp hasset, not_ne_iff.mp hstatus, ruleIsActive_iff.mp hactive⟩

theorem effectiveMultiplier_spec (rule : CollateralHaircutRule) :
    ∃ multiplier, effectiveMultiplier rule = .ok multiplier ∧ MultiplierOf rule multiplier ∧
      ∀ m ∈ multiplier, m.inUnitInterval = true := by
  have hone : Decimal.one.inUnitInterval = true := by decide
  simp only [effectiveMultiplier, MultiplierOf]
  cases hkind : rule.haircut_kind with
  | NONE => exact ⟨_, rfl, rfl, fun m hm => Option.some.inj hm ▸ hone⟩
  | FIXED_PERCENTAGE =>
    obtain ⟨rate, hrate⟩ := Option.ne_none_iff_exists'.mp (rule.fixed hkind)
    obtain ⟨m, hm, hunit⟩ := Decimal.sub_one_ok rate.property
    refine ⟨some m, ?_, ⟨rate, hrate, m, rfl, hm, hunit, fun hplaces =>
      Decimal.sub_one_exact rate.property hplaces hm⟩, fun w hw => Option.some.inj hw ▸ hunit⟩
    rw [hrate]
    dsimp only
    rw [hm]
    rfl
  | VENUE_DEFINED => exact ⟨none, rfl, rfl, fun m hm => absurd hm (Option.not_mem_none m)⟩
  | TIERED => exact ⟨none, rfl, rfl, fun m hm => absurd hm (Option.not_mem_none m)⟩
  | UNKNOWN => exact ⟨none, rfl, rfl, fun m hm => absurd hm (Option.not_mem_none m)⟩

/-- What the checks of the haircut can give. -/
theorem haircutGate_spec (q : ValuationRequest) : ∃ outcome, haircutGate q = .ok outcome ∧
    ∀ multiplier, outcome = .passed multiplier →
      (∀ m ∈ multiplier, m.inUnitInterval = true) ∧
        (q.policy.haircut_required = true →
          ∃ rule ∈ q.haircut_rule, HaircutHolds q rule multiplier) := by
  rw [haircutGate]
  split_ifs with hrequired
  · split
    · exact ⟨_, rfl, nofun⟩
    · rename_i rule hrule
      split_ifs with hpair hactive hkind
      · exact ⟨_, rfl, nofun⟩
      · exact ⟨_, rfl, nofun⟩
      · exact ⟨_, rfl, nofun⟩
      · obtain ⟨multiplier, hmultiplier, hspec, hunit⟩ := effectiveMultiplier_spec rule
        refine ⟨.passed multiplier, by rw [hmultiplier]; rfl, ?_⟩
        rintro w hw
        obtain rfl := HaircutOutcome.passed.inj hw
        obtain ⟨hcollateral, hreference⟩ := not_or.mp hpair
        simp only [Bool.not_eq_true', Bool.not_eq_false] at hactive
        exact ⟨hunit, fun _ => ⟨rule, hrule,
          { collateral_asset := not_ne_iff.mp hcollateral
            reference_asset := not_ne_iff.mp hreference
            active := ruleIsActive_iff.mp hactive
            known := hkind
            multiplier := hspec }⟩⟩
  · refine ⟨.passed none, rfl, ?_⟩
    rintro w hw
    obtain rfl := HaircutOutcome.passed.inj hw
    exact ⟨nofun, fun h => absurd h hrequired⟩

/-! Decisions. -/

theorem refused_ok (q : ValuationRequest) (r : Refusal) :
    ∃ d, refused q r = .ok d ∧ d.ready = false := by
  refine ⟨_, validated_eq_ok.mpr ⟨?_, rfl⟩, rfl⟩
  simp [DecisionFields.validate, r.refuses]

theorem readyDecision_ok (q : ValuationRequest) (multiplier : Option Decimal)
    (details : List (String × Json)) (h : ∀ m ∈ multiplier, m.inUnitInterval = true) :
    ∃ d, readyDecision q multiplier details = .ok d ∧ d.effective_value_multiplier = multiplier := by
  refine ⟨_, validated_eq_ok.mpr ⟨?_, rfl⟩, rfl⟩
  simpa [DecisionFields.validate] using h

/-- What the evaluation comes to: a refusal, a decision of a disabled policy, a decision whose
gates have all been passed, or an age limit out of range. -/
theorem evaluate_cases (q : ValuationRequest) :
    (∃ d, evaluateCollateralValuationReadiness q = .ok d ∧
      (d.ready = true → q.policy.valuation_required = true → GatesHold q d)) ∨
    (evaluateCollateralValuationReadiness q = .error (.arithmetic .timedelta) ∧
      ∃ ms ∈ q.policy.max_valuation_age_ms, 86400000000000000 ≤ ms) := by
  have hrefused (r : Refusal) : ∃ d, refused q r = .ok d ∧
      (d.ready = true → q.policy.valuation_required = true → GatesHold q d) := by
    obtain ⟨d, hd, hready⟩ := refused_ok q r
    exact ⟨d, hd, fun h => absurd h (by rw [hready]; decide)⟩
  rw [evaluateCollateralValuationReadiness]
  split
  · exact .inl (hrefused _)
  split
  · rename_i hdisabled
    obtain ⟨d, hd, -⟩ := readyDecision_ok q none [("policy_disabled", .bool true)] nofun
    refine .inl ⟨d, hd, fun _ hrequired => ?_⟩
    rw [hrequired] at hdisabled
    exact absurd hdisabled (by decide)
  · rename_i hrequired
    simp only [Bool.not_eq_true', Bool.not_eq_false] at hrequired
    split
    · rename_i e he
      obtain ⟨rfl, hlarge⟩ := valuationGate_error hrequired he
      exact .inr ⟨rfl, hlarge⟩
    · exact .inl (hrefused _)
    · rename_i hvaluation
      split
      · exact .inl (hrefused _)
      · rename_i heligibility
        obtain ⟨outcome, houtcome, hpassed⟩ := haircutGate_spec q
        rw [houtcome]
        cases outcome with
        | refused r => exact .inl (hrefused r)
        | passed multiplier =>
          obtain ⟨hunit, hhaircut⟩ := hpassed multiplier rfl
          obtain ⟨d, hd, hmultiplier⟩ := readyDecision_ok q multiplier
            [("required_reference_asset", .str (expectedReference q).value)] hunit
          refine .inl ⟨d, hd, fun _ _ => ?_⟩
          exact
            { valuation := valuationGate_passed hvaluation
              eligibility := eligibilityGate_passed heligibility
              haircut := by rwa [hmultiplier] }

/-- The evaluation of a policy whose age limit is in range gives a decision, and one that is ready
under a policy that requires valuation has passed every gate that the policy requires. -/
theorem collateral_valuation_sound (q : ValuationRequest) :
    ((∀ ms ∈ q.policy.max_valuation_age_ms, ms < 86400000000000000) →
      ∃ d, evaluateCollateralValuationReadiness q = .ok d) ∧
    ∀ d, evaluateCollateralValuationReadiness q = .ok d → d.ready = true →
      q.policy.valuation_required = true → GatesHold q d := by
  constructor
  · intro hrange
    rcases evaluate_cases q with ⟨d, hd, -⟩ | ⟨-, ms, hms, hlarge⟩
    · exact ⟨d, hd⟩
    · exact absurd hlarge (not_le.mpr (hrange ms hms))
  · intro d hd hready hrequired
    rcases evaluate_cases q with ⟨d', hd', hgates⟩ | ⟨herror, -⟩
    · obtain rfl := Except.ok.inj (hd'.symm.trans hd)
      exact hgates hready hrequired
    · rw [herror] at hd
      cases hd

/-! A valuation of one asset in another, captured when it is checked. -/

def sampleCollateral : AssetSymbol := .ofText "ETH" (by decide)

def sampleReference : AssetSymbol := .ofText "USD" (AssetSymbol.checked evaluates)

def samplePolicy (valuation_required : Bool) (max_age : ℕ) (h : 0 < max_age) :
    CollateralValuationPolicy where
  valuation_required
  haircut_required := true
  eligibility_required := true
  max_valuation_age_ms := some max_age
  allow_manual_review_sources := false
  allow_test_fixture_sources := false
  allow_untrusted_sources := false
  allow_degraded_sources := false
  required_reference_asset := some sampleReference
  metadata := []
  age_given _ := ⟨max_age, rfl, by exact_mod_cast h⟩

/-- The first of January of a year from 2000 on. -/
def newYear (year : ℕ) (h : 2000 ≤ year ∧ year ≤ 9999) : DateTime where
  year
  month := 1
  day := 1
  hour := 0
  minute := 0
  second := 0
  microsecond := 0
  date_ok := by
    refine ⟨by omega, by omega, by decide, by decide, by decide, ?_⟩
    simp [daysInMonth]
  time_ok := midnight_clock

def sampleCheckedAt : DateTime := newYear 2024 (by decide)

def sampleSnapshot (observed_at : DateTime) (h : observed_at ≤ sampleCheckedAt) :
    CollateralValuationSnapshot where
  collateral_asset := sampleCollateral
  reference_asset := sampleReference
  price := ⟨⟨false, 2000, 0⟩, by decide⟩
  source_kind := .MARK_PRICE
  trust := .OFFICIAL
  health := .HEALTHY
  observed_at
  captured_at := sampleCheckedAt
  source_id := none
  source_payload_hash := none
  metadata := []
  captured := h

def sampleHaircut (kind : CollateralHaircutKind) (rate : Decimal)
    (hrate : rate.inUnitInterval = true) (hkind : kind ≠ .NONE) : CollateralHaircutRule where
  venue_id := none
  account_mode := none
  collateral_asset := sampleCollateral
  reference_asset := sampleReference
  haircut_kind := kind
  haircut_rate := some ⟨rate, hrate⟩
  effective_at := newYear 2023 (by decide)
  expires_at := none
  source_id := none
  metadata := []
  fixed _ := by simp
  no_haircut h := absurd h hkind
  ordered := nofun

def sampleEligibility : CollateralEligibilityRule where
  venue_id := none
  account_mode := none
  collateral_asset := sampleCollateral
  eligibility_status := .ELIGIBLE
  effective_at := newYear 2023 (by decide)
  expires_at := none
  reason := none
  metadata := []
  ordered := nofun

def sampleRequest (policy : CollateralValuationPolicy) (snapshot : CollateralValuationSnapshot)
    (haircut : CollateralHaircutRule) : ValuationRequest where
  collateral_asset := sampleCollateral
  reference_asset := sampleReference
  checked_at := sampleCheckedAt
  policy
  valuation_snapshot := some snapshot
  haircut_rule := some haircut
  eligibility_rule := some sampleEligibility

/-- A fifth of the value is held back. -/
def fifthHaircut : CollateralHaircutRule :=
  sampleHaircut .FIXED_PERCENTAGE ⟨false, 20, -2⟩ (by decide) (by decide)

def minutePolicy : CollateralValuationPolicy := samplePolicy true 60000 (Nat.succ_pos 59999)

def freshSnapshot : CollateralValuationSnapshot := sampleSnapshot sampleCheckedAt (le_refl _)

def readyRequest : ValuationRequest := sampleRequest minutePolicy freshSnapshot fifthHaircut

/-- The multiplier of a ready decision. -/
def readyMultiplier (q : ValuationRequest) : Except ValuationError (Option (Option Decimal)) :=
  (evaluateCollateralValuationReadiness q).map fun d =>
    if d.ready then some d.effective_value_multiplier else none

example : readyMultiplier readyRequest = .ok (some (some ⟨false, 80, -2⟩)) := by decide +kernel

theorem readyRequest_gates : ∃ d, evaluateCollateralValuationReadiness readyRequest = .ok d ∧
    d.ready = true ∧ GatesHold readyRequest d := by
  have hrange : ∀ ms ∈ readyRequest.policy.max_valuation_age_ms, ms < 86400000000000000 := by
    intro ms hms
    obtain rfl := Option.some.inj hms
    decide
  obtain ⟨d, hd⟩ := (collateral_valuation_sound readyRequest).1 hrange
  have hready : (evaluateCollateralValuationReadiness readyRequest).map (·.ready) = .ok true := by
    decide +kernel
  rw [hd] at hready
  have hready := Except.ok.inj hready
  exact ⟨d, hd, hready, (collateral_valuation_sound readyRequest).2 d hd hready rfl⟩

def disabledRequest : ValuationRequest :=
  { sampleRequest (samplePolicy false 60000 (Nat.succ_pos 59999)) freshSnapshot fifthHaircut with
    eligibility_rule := none }

def venueHaircutRequest : ValuationRequest :=
  sampleRequest minutePolicy freshSnapshot
    (sampleHaircut .VENUE_DEFINED ⟨false, 20, -2⟩ (by decide) (by decide))

def oldPriceSnapshot : CollateralValuationSnapshot :=
  sampleSnapshot (newYear 2023 (by decide)) (by decide)

def oldPriceRequest : ValuationRequest := sampleRequest minutePolicy oldPriceSnapshot fifthHaircut

/-- A rate of 29 places. -/
def fineRate : Decimal := ⟨false, 1, -29⟩

def fineRateRequest : ValuationRequest :=
  sampleRequest minutePolicy freshSnapshot
    (sampleHaircut .FIXED_PERCENTAGE fineRate (by decide) (by decide))

def endlessAgeRequest : ValuationRequest :=
  sampleRequest (samplePolicy true (10 ^ 17) (by decide)) freshSnapshot fifthHaircut

/-- A policy without valuation requires no gate, a haircut that is not a rate has no multiplier,
the age is that of the capture, a fine rate is rounded away, and an age limit may be out of
range. -/
theorem required_gates_passed_by :
    (readyMultiplier disabledRequest = .ok (some none) ∧
      disabledRequest.policy.eligibility_required = true ∧
      disabledRequest.eligibility_rule = none) ∧
    (readyMultiplier venueHaircutRequest = .ok (some none) ∧
      venueHaircutRequest.policy.haircut_required = true) ∧
    (readyMultiplier oldPriceRequest = .ok (some (some ⟨false, 80, -2⟩)) ∧
      60000 * 1000 < (oldPriceRequest.checked_at.micros : ℤ) - oldPriceSnapshot.observed_at.micros)
      ∧
    (readyMultiplier fineRateRequest = .ok (some (some ⟨false, 10 ^ 27, -27⟩)) ∧
      (Decimal.mk false (10 ^ 27) (-27)).value ≠ 1 - fineRate.value) ∧
    evaluateCollateralValuationReadiness endlessAgeRequest = .error (.arithmetic .timedelta) := by
  refine ⟨⟨by decide +kernel, rfl, rfl⟩, ⟨by decide +kernel, rfl⟩,
    ⟨by decide +kernel, by decide⟩, ⟨by decide +kernel, ?_⟩, by decide +kernel⟩
  norm_num [Decimal.value, fineRate]

end FuturesBot.Collateral
