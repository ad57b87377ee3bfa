import Mathlib
import AlphaTrade.Library.Rounding
import AlphaTrade.Risk.Sizer
import AlphaTrade.Risk.Versions

/-!
# The canonical form of a profile, read back

A profile is validated before its decimals are put at eight places, and validated again when the
canonical form is read. Rounding is monotone and the ceilings are at eight places, so all that can
be lost is what is asked strictly: that a limit is positive, and that the two notional caps differ.
-/
namespace AlphaTrade.Risk
open Library

/-! ## Rounding to eight places -/

def quanta (x : ℚ) : Int :=
  let scaled := x * 10 ^ 8
  let below := ⌊scaled⌋
  let rest := scaled - (below : ℚ)
  if rest < 1 / 2 then below else if 1 / 2 < rest then below + 1
  else if below % 2 = 0 then below else below + 1

theorem quantizeHalfEven_eq (x : ℚ) : quantizeHalfEven 8 x = quanta x / 10 ^ 8 := rfl

theorem quanta_mono {x y : ℚ} (le : x ≤ y) : quanta x ≤ quanta y := by
  have scaled : x * 10 ^ 8 ≤ y * 10 ^ 8 := by linarith
  have floors : ⌊x * 10 ^ 8⌋ ≤ ⌊y * 10 ^ 8⌋ := Int.floor_le_floor scaled
  unfold quanta
  dsimp only
  rcases floors.lt_or_eq with less | same
  · split_ifs <;> omega
  · rw [← same]
    have rests : x * 10 ^ 8 - ⌊x * 10 ^ 8⌋ ≤ y * 10 ^ 8 - ⌊x * 10 ^ 8⌋ := by linarith
    split_ifs <;> first | omega | linarith

theorem quantizeHalfEven_mono {x y : ℚ} (le : x ≤ y) :
    quantizeHalfEven 8 x ≤ quantizeHalfEven 8 y := by
  rw [quantizeHalfEven_eq, quantizeHalfEven_eq]
  have := quanta_mono le
  gcongr

/-- A number is rounded to zero up to half a quantum. -/
theorem quantizeHalfEven_pos_iff {x : ℚ} (nonneg : 0 ≤ x) :
    0 < quantizeHalfEven 8 x ↔ quantum / 2 < x := by
  have digits : 0 < quantizeHalfEven 8 x ↔ 0 < quanta x := by
    rw [quantizeHalfEven_eq, div_pos_iff_of_pos_right (by norm_num), Int.cast_pos]
  have scaled : quantum / 2 < x ↔ 1 / 2 < x * 10 ^ 8 := by
    unfold quantum
    constructor <;> intro h <;> linarith
  rw [digits, scaled]
  have below : (⌊x * 10 ^ 8⌋ : ℚ) ≤ x * 10 ^ 8 := Int.floor_le _
  have above : x * 10 ^ 8 < ⌊x * 10 ^ 8⌋ + 1 := Int.lt_floor_add_one _
  have floor : 0 ≤ ⌊x * 10 ^ 8⌋ := Int.floor_nonneg.mpr (by positivity)
  rcases floor.lt_or_eq with some | none
  · have one : (1 : ℚ) ≤ ⌊x * 10 ^ 8⌋ := by exact_mod_cast some
    refine iff_of_true ?_ (by linarith)
    unfold quanta
    dsimp only
    split_ifs <;> omega
  · unfold quanta
    dsimp only
    rw [← none]
    simp only [Int.cast_zero, sub_zero]
    split_ifs with low high even
    · exact iff_of_false (by omega) (by linarith)
    · exact iff_of_true (by omega) high
    · exact iff_of_false (by omega) high
    · omega

/-! ## What rounding can lose -/

def RiskPolicyProfile.positiveLimits (profile : RiskPolicyProfile) : List ℚ :=
  tradableGrades.map profile.riskPercentByGrade ++
    [profile.dailyLossLimitPercent, profile.maxAggregateOpenRiskPercent,
      profile.maxNotionalPerTradePercent, profile.maxAggregateNotionalPercent,
      profile.minStopAtrMultiple, profile.minStopAbsoluteFloor, profile.maxCostShareOfR,
      profile.drawdownBreakerPercent]

variable {profile : RiskPolicyProfile}

theorem forall_positiveLimits {p : ℚ → Prop} :
    (∀ limit ∈ profile.positiveLimits, p limit) ↔
      (∀ grade ∈ tradableGrades, p (profile.riskPercentByGrade grade)) ∧
        p profile.dailyLossLimitPercent ∧ p profile.maxAggregateOpenRiskPercent ∧
        p profile.maxNotionalPerTradePercent ∧ p profile.maxAggregateNotionalPercent ∧
        p profile.minStopAtrMultiple ∧ p profile.minStopAbsoluteFloor ∧
        p profile.maxCostShareOfR ∧ p profile.drawdownBreakerPercent := by
  simp only [RiskPolicyProfile.positiveLimits, List.forall_mem_append, List.forall_mem_map,
    List.forall_mem_cons, List.not_mem_nil, false_imp_iff, implies_true, and_true]

/-- Eight places are enough for a profile: no limit is rounded to zero, and the two notional caps
are rounded apart. -/
structure Representable (profile : RiskPolicyProfile) : Prop where
  positive : ∀ limit ∈ profile.positiveLimits, quantum / 2 < limit
  apart : quantizeHalfEven 8 profile.maxNotionalPerTradePercent ≠
    quantizeHalfEven 8 profile.maxAggregateNotionalPercent

/-- A percent that is in range stays there, and is still positive above half a quantum. -/
theorem inRange_rounded {value lo hi : ℚ} (checked : (value ≤ hi ∧ lo ≤ value) ∧ 0 < value)
    (low : quantizeHalfEven 8 lo = lo) (high : quantizeHalfEven 8 hi = hi) :
    ((quantizeHalfEven 8 value ≤ hi ∧ lo ≤ quantizeHalfEven 8 value) ∧
      0 < quantizeHalfEven 8 value) ↔ quantum / 2 < value := by
  obtain ⟨⟨atMost, atLeast⟩, positive⟩ := checked
  rw [← quantizeHalfEven_pos_iff positive.le]
  refine and_iff_right ⟨?_, ?_⟩
  · have := quantizeHalfEven_mono atMost
    rwa [high] at this
  · have := quantizeHalfEven_mono atLeast
    rwa [low] at this

theorem quantizeHalfEven_ceilings :
    (∀ kind, quantizeHalfEven 8 (riskCeilingFor kind) = riskCeilingFor kind) ∧
      (∀ kind, quantizeHalfEven 8 (notionalCeilingFor kind) = notionalCeilingFor kind) ∧
      ∀ x ∈ [0, 1, 100, hardMaxLeverage, hardMaxDailyLossPercent, hardMaxAggregateOpenRiskPercent,
        hardMaxCostShareOfR], quantizeHalfEven 8 x = x := by
  refine ⟨?_, ?_, by decide_cbv⟩
  · intro kind
    cases kind <;> decide_cbv
  · intro kind
    cases kind <;> decide_cbv

theorem validateProfile_rounded (valid : validateProfile profile = .ok ()) :
    validateProfile profile.rounded = .ok () ↔ Representable profile := by
  obtain ⟨riskCeiling, notionalCeiling, ceilings⟩ := quantizeHalfEven_ceilings
  simp only [List.forall_mem_cons, List.not_mem_nil, false_imp_iff, implies_true, and_true]
    at ceilings
  obtain ⟨zero, one, hundred, leverage, daily, openRisk, cost⟩ := ceilings
  simp only [validateProfile, requirePercent, bind_eq_ok, ensure_eq_ok,
    Unique.exists_iff, PUnit.default_eq_unit, forM_eq_ok] at valid ⊢
  obtain ⟨grades, c, ⟨⟨leverageMost, leverageOne⟩, -⟩, daily', openRisk', positions, perTrade,
    aggregate, caps, atr, floor, share, drawdown, losses, cooldown, -, named,
    ⟨defaultOne, defaultMost, defaultHard⟩, collection⟩ := valid
  have graded : (∀ grade ∈ tradableGrades,
      (quantizeHalfEven 8 (profile.riskPercentByGrade grade) ≤ riskCeilingFor profile.kind ∧
        0 ≤ quantizeHalfEven 8 (profile.riskPercentByGrade grade)) ∧
        0 < quantizeHalfEven 8 (profile.riskPercentByGrade grade)) ↔
      ∀ grade ∈ tradableGrades, quantum / 2 < profile.riskPercentByGrade grade :=
    forall₂_congr fun grade listed => inRange_rounded (grades grade listed) zero (riskCeiling _)
  -- the leverages only have bounds that are at eight places
  have most := quantizeHalfEven_mono leverageMost
  have least := quantizeHalfEven_mono leverageOne
  have defaultLeast := quantizeHalfEven_mono defaultOne
  have defaultBelow := quantizeHalfEven_mono defaultMost
  have defaultHigh := quantizeHalfEven_mono defaultHard
  rw [leverage] at most defaultHigh
  rw [one] at least defaultLeast
  have capped := quantizeHalfEven_mono caps.le
  simp only [RiskPolicyProfile.rounded, graded, c, zero, inRange_rounded daily' zero daily,
    inRange_rounded openRisk' zero openRisk, inRange_rounded perTrade zero (notionalCeiling _),
    inRange_rounded aggregate zero (notionalCeiling _), inRange_rounded atr zero hundred,
    inRange_rounded floor zero one, inRange_rounded share zero cost,
    inRange_rounded drawdown zero hundred, most, least, zero_lt_one.trans_le least, positions,
    losses, cooldown, named, defaultLeast, defaultBelow, defaultHigh, true_and,
    and_self]
  constructor
  · rintro ⟨grades, daily, openRisk, perTrade, aggregate, apart, atr, floor, share, drawdown, -⟩
    exact ⟨forall_positiveLimits.mpr ⟨grades, daily, openRisk, perTrade, aggregate, atr, floor,
      share, drawdown⟩, apart.ne⟩
  · rintro ⟨positive, apart⟩
    obtain ⟨grades, daily, openRisk, perTrade, aggregate, atr, floor, share, drawdown⟩ :=
      forall_positiveLimits.mp positive
    exact ⟨grades, daily, openRisk, perTrade, aggregate, lt_of_le_of_ne capped apart, atr, floor,
      share, drawdown, collection⟩

def RoundTrips (hash : (Key → Value) → String) (profile : RiskPolicyProfile) : Prop :=
  ∃ entries found, canonicalProfile profile = .ok entries ∧
    profileFromCanonical entries = .ok found ∧ validateProfile found = .ok () ∧
    canonicalProfile found = .ok entries ∧
    (canonicalProfile found).map hash = (canonicalProfile profile).map hash ∧
    profileDiff (some profile) found = .ok [] ∧
    classifyChange (some profile) found none = .error (.rejected "no_change")

/-- A valid profile is rebuilt from its canonical form just where eight places are enough. -/
theorem canonical_round_trip {profile : RiskPolicyProfile}
    (valid : validateProfile profile = .ok ()) (hash : (Key → Value) → String) :
    RoundTrips hash profile ↔ Representable profile := by
  have written : canonicalProfile profile = .ok profile.entry := by
    rw [canonicalProfile, valid]
    rfl
  have named : isProfileName profile.profileName := by
    simp only [validateProfile, requirePercent, bind_eq_ok, ensure_eq_ok, Unique.exists_iff,
      PUnit.default_eq_unit] at valid
    obtain ⟨-, -, -, -, -, -, -, -, -, -, -, -, -, -, -, -, named, -⟩ := valid
    exact named
  rw [← validateProfile_rounded valid]
  constructor
  · rintro ⟨entries, found, isWritten, isFound, -⟩
    obtain rfl := Except.ok.inj (written.symm.trans isWritten)
    simp only [profileFromCanonical, readCanonical_entry profile named, map_eq_ok] at isFound
    obtain ⟨_, again, -⟩ := isFound
    exact again
  · intro again
    have found : profileFromCanonical profile.entry = .ok profile.rounded := by
      simp only [profileFromCanonical, readCanonical_entry profile named, again]
      rfl
    have same : profile.rounded.entry = profile.entry := by
      funext key
      cases key <;> simp [RiskPolicyProfile.entry, RiskPolicyProfile.rounded, text,
        quantizeHalfEven_idem]
    have rewritten : canonicalProfile profile.rounded = .ok profile.entry := by
      rw [canonicalProfile, again, same]
      rfl
    have diff : profileDiff (some profile) profile.rounded = .ok [] := by
      simp [profileDiff, rewritten, priorEntries, written, Except.map, bind, Except.bind, pure,
        Except.pure]
    refine ⟨profile.entry, profile.rounded, written, found, again, rewritten, ?_, diff, ?_⟩
    · rw [rewritten, written]
    · rw [classifyChange, diff]
      rfl

def thinFloor : RiskPolicyProfile :=
  { placeholderProfile .demo with minStopAbsoluteFloor := 4 / 10 ^ 9 }

theorem thin_floor_is_lost :
    validateProfile thinFloor = .ok () ∧
      profileFromCanonical thinFloor.entry = .error (.rejected "min_stop_floor_invalid") ∧
      ¬ RoundTrips (fun _ => "") thinFloor := by
  have lost : profileFromCanonical thinFloor.entry =
      .error (.rejected "min_stop_floor_invalid") :=
    map_eq_error.mp (by decide_cbv : (profileFromCanonical thinFloor.entry).map (fun _ => ()) =
      .error (.rejected "min_stop_floor_invalid"))
  have valid : validateProfile thinFloor = .ok () := by decide_cbv
  refine ⟨valid, lost, ?_⟩
  rintro ⟨entries, found, written, isFound, -⟩
  rw [canonicalProfile, valid] at written
  obtain rfl := Except.ok.inj written
  rw [lost] at isFound
  cases isFound

theorem placeholder_round_trips : RoundTrips (fun _ => "") (placeholderProfile .demo) :=
  (canonical_round_trip (by decide_cbv) _).mpr ⟨by decide_cbv, by decide_cbv⟩

end AlphaTrade.Risk
