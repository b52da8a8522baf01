import FuturesBot.DateTimes
import FuturesBot.FloatOrder
import FuturesBot.Checks
import FuturesBot.JsonText

/-! Readiness that rests on dated evidence: what a condition on a check time says about ages, when
ages are counted in whole milliseconds through binary floating-point numbers. -/
namespace EvidenceAges

open DateTimes

/-- `int((stop - start).total_seconds() * 1000)`. -/
def ageMillis (start stop : DateTime) : ℤ :=
  BinaryFloats.millisOfMicros ((stop.micros : ℤ) - start.micros)

/-- The age in milliseconds, with its fraction. -/
def exactMillis (start stop : DateTime) : ℚ := ((stop.micros : ℚ) - start.micros) / 1000

variable {start stop later : DateTime} {m : ℕ}

theorem ageMillis_eq (h : start ≤ stop) : ageMillis start stop =
    BinaryFloats.millisOfMicros ((stop.micros - start.micros : ℕ) : ℤ) := by
  rw [ageMillis, Nat.cast_sub ((DateTime.le_iff _ _).mp h)]

theorem exactMillis_eq (h : start ≤ stop) :
    exactMillis start stop = ((stop.micros - start.micros : ℕ) : ℚ) / 1000 := by
  rw [exactMillis, Nat.cast_sub ((DateTime.le_iff _ _).mp h)]

/-- An exact age within a maximum is within it in whole milliseconds. -/
theorem ageMillis_le_of_exact (hstart : start ≤ stop) (h : exactMillis start stop ≤ m) :
    ageMillis start stop ≤ m := by
  rw [exactMillis_eq hstart, div_le_iff₀ (by norm_num)] at h
  have hmicros : stop.micros - start.micros ≤ 1000 * m := by
    have hnat : stop.micros - start.micros ≤ m * 1000 := by exact_mod_cast h
    omega
  have hlt := stop.micros_lt
  rw [ageMillis_eq hstart]
  exact BinaryFloats.millisOfMicros_le hmicros (by omega)

/-- An age within a maximum in whole milliseconds is exactly less than two more. -/
theorem exact_lt_of_ageMillis (hstart : start ≤ stop) (h : ageMillis start stop ≤ m) :
    exactMillis start stop < m + 2 := by
  rw [ageMillis_eq hstart] at h
  have hlt := stop.micros_lt
  have hmicros := BinaryFloats.lt_of_millisOfMicros_le h (by omega)
  rw [exactMillis_eq hstart, div_lt_iff₀ (by norm_num)]
  have hnat : stop.micros - start.micros < (m + 2) * 1000 := by omega
  exact_mod_cast hnat

/-- Evidence does not get younger. -/
theorem ageMillis_mono (hstart : start ≤ stop) (h : stop ≤ later) :
    ageMillis start stop ≤ ageMillis start later := by
  rw [ageMillis_eq hstart, ageMillis_eq (hstart.trans h)]
  rw [DateTime.le_iff] at h
  exact BinaryFloats.millisOfMicros_mono (by omega)

/-! Readiness over the time of the check. -/

variable (ready : DateTime → Prop) (dates : List DateTime) (start : DateTime) (max : ℕ)

/-- What is ready at some times: those that are not before any of the dates, at which the counted
age is within the maximum. -/
def IsTimed : Prop :=
  ∃ fixed : Prop, ∀ t, ready t ↔ fixed ∧ (∀ d ∈ dates, d ≤ t) ∧ ageMillis start t ≤ max

/-- What readiness says about time: the evidence is not from after the check, its counted age is
within the maximum, and exactly less than two milliseconds above it; evidence exactly within the
maximum is never refused for its age; and once the counted age is above the maximum, no later
check is ready. -/
structure ReadyInTime : Prop where
  dated : ∀ t, ready t → ∀ d ∈ dates, d ≤ t
  counted : ∀ t, ready t → ageMillis start t ≤ max
  exact : ∀ t, ready t → exactMillis start t < max + 2
  admitted : ∀ t, ready t → ∀ t', (∀ d ∈ dates, d ≤ t') → exactMillis start t' ≤ max → ready t'
  expired : ∀ t, max < ageMillis start t → ∀ later, t ≤ later → ¬ ready later

/-- The same with exact ages. -/
structure ReadyExactly : Prop where
  dated : ∀ t, ready t → ∀ d ∈ dates, d ≤ t
  within : ∀ t, ready t → exactMillis start t ≤ max
  expired : ∀ t, max < exactMillis start t → ∀ later, t ≤ later → ¬ ready later

variable {ready dates start max}

/-- Before the start the counted age is not above any maximum. -/
theorem start_le_of_lt_ageMillis {t : DateTime} (h : max < ageMillis start t) : start ≤ t := by
  rw [DateTime.le_iff]
  by_contra hearly
  have hsign : ((t.micros : ℤ) - start.micros).sign ≤ 0 := by
    rw [Int.sign_nonpos_iff]
    omega
  have hzero : ageMillis start t ≤ 0 :=
    mul_nonpos_of_nonpos_of_nonneg hsign (Int.natCast_nonneg _)
  omega

theorem IsTimed.readyInTime (h : IsTimed ready dates start max) (hstart : start ∈ dates) :
    ReadyInTime ready dates start max := by
  obtain ⟨fixed, hready⟩ := h
  refine ⟨fun t ht => ((hready t).mp ht).2.1, fun t ht => ((hready t).mp ht).2.2,
    fun t ht => ?_, fun t ht t' hdates hexact => ?_, fun t hold later hlater ht => ?_⟩
  · obtain ⟨-, hdates, hcounted⟩ := (hready t).mp ht
    exact exact_lt_of_ageMillis (hdates start hstart) hcounted
  · obtain ⟨hfixed, -, -⟩ := (hready t).mp ht
    exact (hready t').mpr ⟨hfixed, hdates, ageMillis_le_of_exact (hdates start hstart) hexact⟩
  · -- the counted age at the later time is at least the one that was above the maximum
    obtain ⟨-, -, hcounted⟩ := (hready later).mp ht
    have hmono := ageMillis_mono (start_le_of_lt_ageMillis hold) hlater
    omega

end EvidenceAges

/-! Evaluators of one piece of evidence: a policy that may be disabled, evidence that may be
missing, and checks of which the first that fails is the reason. -/
namespace EvidenceGates

open DateTimes Checks EvidenceAges
open JsonText (Json)

variable {E R : Type}

/-- What an evaluator is handed: evidence, a value of another type, or nothing. -/
inductive Handed (E : Type) where
  | nothing
  | other (type_name : String)
  | evidence (e : E)

/-- A text of the details of a decision that may be missing. -/
def textOrNull : Option String → Json
  | none => .null
  | some text => .str text

/-- A reason that is not the one for being ready. -/
structure Refusal {Reason : Type} (ready : Reason) (Compatibility : Type) where
  reason : Reason
  compatibility : Compatibility
  details : List (String × Json)
  refuses : reason ≠ ready

inductive Outcome (E R : Type) where
  | disabled
  | missing (type_name : Option String)
  | refused (e : E) (r : R)
  | ready (e : E)

def outcome (disabled : Bool) (handed : Handed E) (checks : E → List (Check R)) : Outcome E R :=
  if disabled then .disabled
  else
    match handed with
    | .nothing => .missing none
    | .other type_name => .missing (some type_name)
    | .evidence e =>
      match checkAll (checks e) with
      | .error r => .refused e r
      | .ok () => .ready e

/-- The first two checks of dated evidence. -/
def datedChecks (dates : List DateTime) (start : DateTime) (max : ℕ) (checked_at : DateTime)
    (future_dated : R) (stale : ℤ → R) : List (Check R) :=
  [require (∀ d ∈ dates, d ≤ checked_at) future_dated,
    require (ageMillis start checked_at ≤ max) (stale (ageMillis start checked_at))]

/-- A kind of model that may be required: known, provided and allowed. -/
def kindChecks {K : Type} [DecidableEq K] (required : Bool) (kind unknown not_provided : K)
    (allowed : List K) (when_unknown when_missing when_unsupported : R) : List (Check R) :=
  [require (required = true → kind ≠ unknown) when_unknown,
    require (required = true → kind ≠ not_provided) when_missing,
    require (required = true → kind ∈ allowed) when_unsupported]

/-- An asset that may be required to match: asked for, stated and the same. -/
def matchChecks {A : Type} [DecidableEq A] (required : Bool) (requested stated : Option A)
    (when_missing when_mismatched : R) : List (Check R) :=
  [require (required = true → requested ≠ none ∧ stated ≠ none) when_missing,
    require (required = true → stated = requested) when_mismatched]

variable {disabled : Bool} {handed : Handed E} {checks : E → List (Check R)} {e : E}

theorem outcome_eq_ready : outcome disabled handed checks = .ready e ↔
    disabled = false ∧ handed = .evidence e ∧ checkAll (checks e) = .ok () := by
  rw [outcome.eq_def]
  cases disabled with
  | true => simp
  | false =>
    cases handed with
    | nothing => simp
    | other type_name => simp
    | evidence e' =>
      simp only [Bool.false_eq_true, if_false, true_and, Handed.evidence.injEq]
      constructor
      · intro h
        split at h
        · cases h
        · next hchecks =>
          cases h
          exact ⟨rfl, hchecks⟩
      · rintro ⟨rfl, hchecks⟩
        rw [hchecks]

theorem datedChecks_passed {dates : List DateTime} {start checked_at : DateTime} {max : ℕ}
    {future_dated : R} {stale : ℤ → R} :
    checkAll (datedChecks dates start max checked_at future_dated stale) = .ok () ↔
      (∀ d ∈ dates, d ≤ checked_at) ∧ ageMillis start checked_at ≤ max := by
  rw [datedChecks, checkAll_require, checkAll_require, checkAll_nil]
  exact and_congr_right fun _ => and_iff_left rfl

/-- An evaluator whose other checks do not look at the time is ready at the times from the dates
of its evidence on at which the counted age is within the maximum. -/
theorem isTimed {ready : DateTime → Prop} {checks : DateTime → E → List (Check R)}
    {dates : List DateTime} {start : DateTime} {max : ℕ} {others : Prop}
    (hready : ∀ t, ready t ↔ ∃ e', outcome disabled (.evidence e) (checks t) = .ready e')
    (hchecks : ∀ t, checkAll (checks t e) = .ok () ↔
      ((∀ d ∈ dates, d ≤ t) ∧ ageMillis start t ≤ max) ∧ others) :
    IsTimed ready dates start max := by
  refine ⟨disabled = false ∧ others, fun t => ?_⟩
  simp only [hready t, outcome_eq_ready, Handed.evidence.injEq]
  constructor
  · rintro ⟨e', henabled, rfl, hpassed⟩
    obtain ⟨hdated, hothers⟩ := (hchecks t).mp hpassed
    exact ⟨⟨henabled, hothers⟩, hdated⟩
  · rintro ⟨⟨henabled, hothers⟩, hdated⟩
    exact ⟨e, henabled, rfl, (hchecks t).mpr ⟨hdated, hothers⟩⟩

end EvidenceGates
