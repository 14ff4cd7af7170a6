import PolymarketBot.Flow.RetryBudget
import PolymarketBot.Flow.JsonLogic

/-! The delays of a retry node: how far the power, the product and the narrowed budget are the
numbers they stand for. -/

namespace PolymarketBot.Flow

def retryBackoffMs (node : ConfiguredNode) : ℤ := max ((nodeConfigI64 node "backoffMs").getD 1000) 0

def IsExponential (node : ConfiguredNode) : Prop :=
  (nodeConfigString node.config "strategy").getD "fixed" = "exponential"

instance (node : ConfiguredNode) : Decidable (IsExponential node) :=
  inferInstanceAs (Decidable (_ = _))

/-- The base times a power of two, capped at the largest delay there is. -/
def cappedDelay (node : ConfiguredNode) (attempt : ℤ) : ℤ :=
  min (retryBackoffMs node * 2 ^ (attempt - 1).toNat) (2 ^ 63 - 1)

/-- At every attempt the node retries within its configured budget only, and an exponential
delay is the capped one, on a power that fits, and no shorter than an earlier delay. -/
def BackoffLaw (node : ConfiguredNode) (step : FlowStep) (context : Value) (now : DateTime) : Prop :=
  ∀ attempt : ℤ, 1 ≤ attempt → attempt < 2 ^ 31 →
    shouldRetry evaluateJsonlogic node step context = true →
    let execute := fun attempt =>
      executeLogicRetry evaluateJsonlogic node { step with attempt } context now
    ∃ execution, execute attempt = some execution ∧
      (execution.edgeType = "on_retry" ↔ attempt < retryBudget node) ∧
      (IsExponential node → execution.edgeType = "on_retry" →
        (2 : ℤ) ^ (attempt - 1).toNat < 2 ^ 63 ∧ 0 ≤ execution.delayMs ∧
          execution.delayMs = cappedDelay node attempt ∧
          ∀ earlier, 1 ≤ earlier → earlier ≤ attempt → ∃ before, execute earlier = some before ∧
            before.delayMs ≤ execution.delayMs)

/-- What a node waits before its last retry. -/
def longestDelay (node : ConfiguredNode) : ℤ :=
  if IsExponential node then cappedDelay node (retryBudget node - 1) else retryBackoffMs node

theorem plus_eq_some_iff {now later : DateTime} {delayMs : ℤ} :
    now.plus delayMs = some later ↔ now.1 + delayMs = later.1 := by
  unfold DateTime.plus
  constructor
  · intro h
    split at h
    · exact congrArg Subtype.val (Option.some.inj h)
    · cases h
  · intro h
    rw [dif_pos (by rw [h]; exact later.2)]
    exact congrArg some (Subtype.ext h)

theorem exists_plus_iff {now : DateTime} {delayMs : ℤ} (hpos : 0 ≤ delayMs) :
    (∃ later, now.plus delayMs = some later) ↔ now.1 + delayMs ≤ 8210266876799999 := by
  constructor
  · intro h
    obtain ⟨later, hlater⟩ := h
    rw [plus_eq_some_iff.mp hlater]
    exact later.2.2
  · intro h
    exact ⟨⟨now.1 + delayMs, by have hnow := now.2.1; omega, h⟩, plus_eq_some_iff.mpr rfl⟩

theorem executeLogicRetry_retries {node : ConfiguredNode} {step : FlowStep} {context : Value}
    {now : DateTime} (hshould : shouldRetry evaluateJsonlogic node step context = true)
    {attempt : ℤ} {execution : RetryExecution}
    (h : executeLogicRetry evaluateJsonlogic node { step with attempt } context now =
      some execution) :
    (execution.edgeType = "on_retry" ↔ attempt < retryMaxAttempts node) ∧
      (attempt < retryMaxAttempts node → execution.delayMs = retryDelayMs node { step with attempt } ∧
        now.plus (retryDelayMs node { step with attempt }) = some execution.availableAt) := by
  have hsame : shouldRetry evaluateJsonlogic node { step with attempt } context = true := hshould
  unfold executeLogicRetry at h
  dsimp only at h
  rw [if_pos hsame] at h
  split_ifs at h with hlt
  · obtain ⟨availableAt, hplus, rfl⟩ := Option.map_eq_some_iff.mp h
    exact ⟨iff_of_true rfl hlt, fun _ => ⟨rfl, hplus⟩⟩
  · obtain rfl := Option.some.inj h
    exact ⟨iff_of_false (by simp) hlt, fun h => (hlt h).elim⟩

theorem executeLogicRetry_returns {node : ConfiguredNode} {step : FlowStep} {context : Value}
    {now : DateTime} {attempt : ℤ}
    (hdue : attempt < retryMaxAttempts node →
      ∃ later, now.plus (retryDelayMs node { step with attempt }) = some later) :
    ∃ execution, executeLogicRetry evaluateJsonlogic node { step with attempt } context now =
      some execution := by
  unfold executeLogicRetry
  dsimp only
  split_ifs with hshould hlt
  · obtain ⟨later, hplus⟩ := hdue hlt
    rw [hplus]
    exact ⟨_, rfl⟩
  · exact ⟨_, rfl⟩
  · exact ⟨_, rfl⟩

theorem retryMaxAttempts_eq {node : ConfiguredNode} (h : retryBudget node < 2 ^ 31) :
    retryMaxAttempts node = retryBudget node := by
  have hpos : 1 ≤ retryBudget node := le_max_right _ _
  exact Int.bmod_eq_of_le (by omega) (by omega)

theorem bmod_pow {n : ℕ} (h : n ≤ 62) : Int.bmod (2 ^ n) (2 ^ 64) = 2 ^ n := by
  have hlt : (2 : ℤ) ^ n ≤ 2 ^ 62 := pow_le_pow_right₀ (by norm_num) h
  have hpos : (0 : ℤ) < 2 ^ n := by positivity
  exact Int.bmod_eq_of_le (by omega) (by omega)

theorem retryDelayMs_eq {node : ConfiguredNode} (hexp : IsExponential node) (step : FlowStep)
    (h : step.attempt ≤ 63) : retryDelayMs node step = cappedDelay node step.attempt := by
  have hpower : Int.bmod (2 ^ (step.attempt - 1).toNat) (2 ^ 64) =
      2 ^ (step.attempt - 1).toNat := bmod_pow (by omega)
  have hnonneg : 0 ≤ retryBackoffMs node * 2 ^ (step.attempt - 1).toNat :=
    mul_nonneg (le_max_right _ _) (by positivity)
  have hdelay : retryDelayMs node step =
      saturatingMul (retryBackoffMs node) (Int.bmod (2 ^ (step.attempt - 1).toNat) (2 ^ 64)) :=
    congrArg (saturatingMul _) (if_pos hexp)
  rw [hdelay, hpower, saturatingMul, min_comm]
  exact max_eq_right (le_min (by omega) (by norm_num))

theorem cappedDelay_nonneg (node : ConfiguredNode) (attempt : ℤ) : 0 ≤ cappedDelay node attempt :=
  le_min (mul_nonneg (le_max_right _ _) (by positivity)) (by norm_num)

theorem cappedDelay_mono (node : ConfiguredNode) {earlier attempt : ℤ} (h : earlier ≤ attempt) :
    cappedDelay node earlier ≤ cappedDelay node attempt := by
  have hpower : (2 : ℤ) ^ (earlier - 1).toNat ≤ 2 ^ (attempt - 1).toNat :=
    pow_le_pow_right₀ (by norm_num) (by omega)
  exact min_le_min_right _ (mul_le_mul_of_nonneg_left hpower (le_max_right _ _))

theorem retryDelayMs_fixed {node : ConfiguredNode} (hfixed : ¬ IsExponential node) (step : FlowStep) :
    retryDelayMs node step = min (2 ^ 63 - 1) (retryBackoffMs node) := by
  have hpos : 0 ≤ retryBackoffMs node := le_max_right _ _
  have hdelay : retryDelayMs node step = saturatingMul (retryBackoffMs node) 1 :=
    congrArg (saturatingMul _) (if_neg hfixed)
  rw [hdelay, saturatingMul, mul_one]
  exact max_eq_right (le_min (by norm_num) (by omega))

theorem retry_instants_iff {node : ConfiguredNode} {now : DateTime} (step : FlowStep)
    (hattempts : IsExponential node → retryBudget node ≤ 64) :
    (∀ attempt, 1 ≤ attempt → attempt < retryBudget node →
        ∃ later, now.plus (retryDelayMs node { step with attempt }) = some later) ↔
      (2 ≤ retryBudget node → now.1 + longestDelay node ≤ 8210266876799999) := by
  have hnow := now.2.1
  have hbackoff : 0 ≤ retryBackoffMs node := le_max_right _ _
  unfold longestDelay
  by_cases hexp : IsExponential node
  · rw [if_pos hexp]
    have hmost := hattempts hexp
    have hdelay : ∀ attempt < retryBudget node,
        retryDelayMs node { step with attempt } = cappedDelay node attempt := fun attempt hlt =>
      retryDelayMs_eq hexp { step with attempt } (show attempt ≤ 63 by omega)
    constructor
    · intro hall htwo
      have hlast := hall (retryBudget node - 1) (by omega) (by omega)
      rw [hdelay _ (by omega), exists_plus_iff (cappedDelay_nonneg node _)] at hlast
      exact hlast
    · intro hfits attempt hpos hlt
      have hmono := cappedDelay_mono node (show attempt ≤ retryBudget node - 1 by omega)
      have hlast := hfits (by omega)
      rw [hdelay attempt hlt, exists_plus_iff (cappedDelay_nonneg node _)]
      omega
  · rw [if_neg hexp]
    constructor
    · intro hall htwo
      have hlast := hall 1 le_rfl (by omega)
      rw [retryDelayMs_fixed hexp, exists_plus_iff (le_min (by norm_num) hbackoff)] at hlast
      omega
    · intro hfits attempt _ hlt
      have hlast := hfits (by omega)
      rw [retryDelayMs_fixed hexp, exists_plus_iff (le_min (by norm_num) hbackoff)]
      omega

/-- The delays and the budget of a node that retries are the configured ones exactly when the
budget fits in 32 bits, an exponential node has at most 64 attempts, and the instant of the last
retry exists. -/
theorem retry_backoff_iff (node : ConfiguredNode) (step : FlowStep) (context : Value)
    (now : DateTime) :
    BackoffLaw node step context now ↔
      (shouldRetry evaluateJsonlogic node step context = true →
        retryBudget node < 2 ^ 31 ∧ (IsExponential node → retryBudget node ≤ 64) ∧
          (2 ≤ retryBudget node → now.1 + longestDelay node ≤ 8210266876799999)) := by
  constructor
  · intro hlaw hshould
    have hbudget : retryBudget node < 2 ^ 31 := by
      by_contra hlarge
      have hnarrow := retryMaxAttempts_lt node
      -- one attempt that the narrowed budget refuses and the configured one grants
      let attempt := max 1 (retryMaxAttempts node)
      have hattempt : 1 ≤ attempt ∧ retryMaxAttempts node ≤ attempt ∧ attempt < 2 ^ 31 := by
        omega
      obtain ⟨execution, hexecution, hgranted, -⟩ := hlaw attempt hattempt.1 hattempt.2.2 hshould
      have hretries := (executeLogicRetry_retries hshould hexecution).1
      have hlt := hretries.mp (hgranted.mpr (by omega))
      omega
    have hattempts : IsExponential node → retryBudget node ≤ 64 := by
      intro hexp
      by_contra hmany
      obtain ⟨execution, -, hgranted, hdelay⟩ := hlaw 64 (by omega) (by omega) hshould
      have hfits := (hdelay hexp (hgranted.mpr (by omega))).1
      exact absurd hfits (by decide)
    refine ⟨hbudget, hattempts, (retry_instants_iff step hattempts).mp fun attempt hpos hlt => ?_⟩
    obtain ⟨execution, hexecution, -⟩ := hlaw attempt hpos (by omega) hshould
    have hretries := (executeLogicRetry_retries hshould hexecution).2
    rw [retryMaxAttempts_eq hbudget] at hretries
    exact ⟨execution.availableAt, (hretries hlt).2⟩
  · intro hcondition attempt hpos _ hshould
    obtain ⟨hbudget, hattempts, hinstants⟩ := hcondition hshould
    have hdue := (retry_instants_iff step hattempts).mpr hinstants
    have hreturns : ∀ attempt, 1 ≤ attempt → ∃ execution, executeLogicRetry evaluateJsonlogic node
        { step with attempt } context now = some execution := fun attempt hpos =>
      executeLogicRetry_returns fun hlt => hdue attempt hpos (by rwa [← retryMaxAttempts_eq hbudget])
    have hretries := @executeLogicRetry_retries node step context now hshould
    rw [retryMaxAttempts_eq hbudget] at hretries
    obtain ⟨execution, hexecution⟩ := hreturns attempt hpos
    refine ⟨execution, hexecution, (hretries hexecution).1, fun hexp hretry => ?_⟩
    have hlt := (hretries hexecution).1.mp hretry
    have hmost := hattempts hexp
    have hdelay : ∀ earlier ≤ attempt, ∀ before, executeLogicRetry evaluateJsonlogic node
        { step with attempt := earlier } context now = some before →
        before.delayMs = cappedDelay node earlier := by
      intro earlier hle before hbefore
      rw [((hretries hbefore).2 (by omega)).1]
      exact retryDelayMs_eq hexp { step with attempt := earlier } (show earlier ≤ 63 by omega)
    have hcapped := hdelay attempt le_rfl execution hexecution
    refine ⟨?_, ?_, hcapped, fun earlier hearlier hle => ?_⟩
    · exact pow_lt_pow_right₀ (by norm_num) (by omega)
    · rw [hcapped]
      exact cappedDelay_nonneg node attempt
    · obtain ⟨before, hbefore⟩ := hreturns earlier hearlier
      refine ⟨before, hbefore, ?_⟩
      rw [hdelay earlier hle before hbefore, hcapped]
      exact cappedDelay_mono node hle

/-- A budget of 2147483648 attempts is none: the first failure exhausts it. -/
theorem large_budget_exhausted :
    ¬ BackoffLaw
      { key := "retry", nodeType := "logic.retry"
        config := .object [("maxAttempts", jsonI64 2147483648), ("expression", .bool true)] }
      { nodeKey := "retry" } (.object []) default := by
  intro hlaw
  obtain ⟨execution, hexecution, hgranted, -⟩ := hlaw 1 (by decide) (by decide) (by rfl)
  have hlt := (executeLogicRetry_retries rfl hexecution).1.mp (hgranted.mpr (by decide))
  exact absurd hlt (by decide)

end PolymarketBot.Flow
