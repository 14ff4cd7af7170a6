import PolymarketBot.Flow.OnceNode
import Mathlib.Data.List.Sort
import Mathlib.Tactic.Linarith
import Mathlib.Tactic.Ring

/-! The confirmation of a trigger by its underlying: the staged checks, and where the two
directions are treated alike. -/

namespace PolymarketBot.Flow

inductive ProtectionPreset where
  | loose | balanced | strict
  deriving DecidableEq, Repr

def directionMultiplier (direction : String) : Option ℚ :=
  match lowercase (trim direction) with
  | "up" => some 1
  | "down" => some (-1)
  | _ => none

structure UnderlyingProtectionConfig where
  mode : String
  preset : ProtectionPreset
  asset : String
  direction : String
  referenceSymbol : String

structure UnderlyingReferenceSnapshot where
  cycleOpenPrice : ℚ
  currentPrice : ℚ
  delta10sPct : Option ℚ
  delta30sPct : Option ℚ

structure UnderlyingProtectionEvaluation extends UnderlyingProtectionConfig where
  referenceFeed : String := "coinbase_spot"
  passed : Bool := false
  reasonCode : String := "reference_fetch_failed"
  reasonDetail : Option String := none
  cycleOpenPrice : Option ℚ := none
  currentPrice : Option ℚ := none
  delta10sPct : Option ℚ := none
  delta30sPct : Option ℚ := none
  polyDelta10sCent : Option ℚ
  divergenceBlocked : Bool := false

def strictDelta10sPct : ℚ := 4 / 100
def strictDelta30sPct : ℚ := 8 / 100
def balancedFlatDeltaPct : ℚ := 2 / 100
def polyDivergenceCent : ℚ := 4

/-- A directional change must be positive, and for the strict preset at least the bound. -/
def deltaMismatch (preset : ProtectionPreset) (strictBound directionalDelta : ℚ) : Bool :=
  match preset with
  | .strict => decide (directionalDelta < strictBound)
  | _ => decide (directionalDelta ≤ 0)

/-- The bought token's price has moved without its underlying. -/
def divergenceDetected (preset : ProtectionPreset) (multiplier directionalDelta10s : ℚ)
    (delta10sPct polyDelta10sCent : Option ℚ) : Bool :=
  (preset == .balanced || preset == .strict) && polyDelta10sCent.any fun polyDelta =>
    decide (polyDivergenceCent ≤ polyDelta * multiplier) &&
      (decide (directionalDelta10s ≤ 0) ||
        decide (|delta10sPct.getD 0| < balancedFlatDeltaPct))

def evaluateUnderlyingProtection (config : UnderlyingProtectionConfig)
    (reference : Except String UnderlyingReferenceSnapshot) (polyDelta10sCent : Option ℚ) :
    UnderlyingProtectionEvaluation :=
  let base : UnderlyingProtectionEvaluation := { config with polyDelta10sCent }
  match directionMultiplier config.direction with
  | none => { base with
      reasonCode := "unsupported_direction", reasonDetail := some config.direction }
  | some multiplier =>
    match reference with
    | .error err => { base with reasonCode := "reference_data_unready", reasonDetail := some err }
    | .ok snapshot =>
      let evaluation := { base with
        cycleOpenPrice := some snapshot.cycleOpenPrice, currentPrice := some snapshot.currentPrice
        delta10sPct := snapshot.delta10sPct, delta30sPct := snapshot.delta30sPct
        reasonCode := "passed", passed := true }
      let failed := fun reasonCode => { evaluation with passed := false, reasonCode }
      if (snapshot.currentPrice - snapshot.cycleOpenPrice) * multiplier ≤ 0 then
        failed "cycle_open_mismatch"
      else
        match snapshot.delta10sPct with
        | none => failed "reference_data_unready"
        | some delta10s =>
          if deltaMismatch config.preset strictDelta10sPct (delta10s * multiplier) then
            failed "delta_10s_mismatch"
          else if config.preset = .loose then evaluation
          else
            match snapshot.delta30sPct with
            | none => failed "reference_data_unready"
            | some delta30s =>
              if deltaMismatch config.preset strictDelta30sPct (delta30s * multiplier) then
                failed "delta_30s_mismatch"
              else if divergenceDetected config.preset multiplier (delta10s * multiplier)
                  snapshot.delta10sPct polyDelta10sCent then
                { failed "divergence_detected" with divergenceBlocked := true }
              else evaluation

/-! ### Both directions -/

/-- The same readings of the underlying seen from the other side, or no reading on either. -/
def Mirrored : Except String UnderlyingReferenceSnapshot →
    Except String UnderlyingReferenceSnapshot → Prop
  | .ok up, .ok down =>
    down.currentPrice - down.cycleOpenPrice = -(up.currentPrice - up.cycleOpenPrice) ∧
      down.delta10sPct = up.delta10sPct.map (-·) ∧ down.delta30sPct = up.delta30sPct.map (-·)
  | .error _, .error _ => True
  | _, _ => False

def UnderlyingProtectionConfig.towards (config : UnderlyingProtectionConfig) (direction : String) :
    UnderlyingProtectionConfig := { config with direction }

/-- Down on the mirrored reference does as up on the reference, for one change of the price of
the token that is bought. -/
def DirectionSymmetric (config : UnderlyingProtectionConfig)
    (up down : Except String UnderlyingReferenceSnapshot) (polyDelta10sCent : Option ℚ) : Prop :=
  let evaluationUp := evaluateUnderlyingProtection (config.towards "up") up polyDelta10sCent
  let evaluationDown := evaluateUnderlyingProtection (config.towards "down") down polyDelta10sCent
  evaluationDown.passed = evaluationUp.passed ∧
    evaluationDown.divergenceBlocked = evaluationUp.divergenceBlocked

instance (config : UnderlyingProtectionConfig)
    (up down : Except String UnderlyingReferenceSnapshot) (polyDelta10sCent : Option ℚ) :
    Decidable (DirectionSymmetric config up down polyDelta10sCent) :=
  inferInstanceAs (Decidable (_ ∧ _))

/-- The balanced preset reaches its divergence check on a flat underlying, and the token's price
has moved by the bound or more in either direction. -/
def DivergenceCounts (preset : ProtectionPreset) :
    Except String UnderlyingReferenceSnapshot → Option ℚ → Prop
  | .ok snapshot, some polyDelta =>
    preset = .balanced ∧ snapshot.cycleOpenPrice < snapshot.currentPrice ∧
      (∃ delta10s ∈ snapshot.delta10sPct, 0 < delta10s ∧ delta10s < balancedFlatDeltaPct) ∧
      (∃ delta30s ∈ snapshot.delta30sPct, 0 < delta30s) ∧ polyDivergenceCent ≤ |polyDelta|
  | _, _ => False

/-- The checks before the one for divergence, on the directional readings. -/
def stagesPass (preset : ProtectionPreset) (sinceOpen : ℚ) (delta10s delta30s : Option ℚ) : Bool :=
  decide (0 < sinceOpen) && delta10s.any (!deltaMismatch preset strictDelta10sPct ·) &&
    (preset == .loose || delta30s.any (!deltaMismatch preset strictDelta30sPct ·))

section Flags
variable {config : UnderlyingProtectionConfig} {multiplier : ℚ}
  {snapshot : UnderlyingReferenceSnapshot}

def snapshotStages (config : UnderlyingProtectionConfig) (multiplier : ℚ)
    (snapshot : UnderlyingReferenceSnapshot) : Bool :=
  stagesPass config.preset ((snapshot.currentPrice - snapshot.cycleOpenPrice) * multiplier)
    (snapshot.delta10sPct.map (· * multiplier)) (snapshot.delta30sPct.map (· * multiplier))

theorem evaluation_flags (hdirection : directionMultiplier config.direction = some multiplier)
    (polyDelta10sCent : Option ℚ) :
    let evaluation := evaluateUnderlyingProtection config (.ok snapshot) polyDelta10sCent
    let diverged := divergenceDetected config.preset multiplier
      (snapshot.delta10sPct.getD 0 * multiplier) snapshot.delta10sPct polyDelta10sCent
    evaluation.passed = (snapshotStages config multiplier snapshot && !diverged) ∧
      evaluation.divergenceBlocked = (snapshotStages config multiplier snapshot && diverged) := by
  unfold evaluateUnderlyingProtection snapshotStages stagesPass
  simp only [hdirection]
  by_cases hopen : (snapshot.currentPrice - snapshot.cycleOpenPrice) * multiplier ≤ 0
  · simp [hopen, not_lt.mpr hopen]
  have hopen' := not_le.mp hopen
  simp only [if_neg hopen, hopen', decide_true, Bool.true_and]
  cases hten : snapshot.delta10sPct with
  | none => simp
  | some delta10s =>
    by_cases htenMismatch :
        deltaMismatch config.preset strictDelta10sPct (delta10s * multiplier) = true
    · simp [htenMismatch]
    have htenMatch := Bool.eq_false_iff.mpr htenMismatch
    by_cases hloose : config.preset = .loose
    · have hguard : (ProtectionPreset.loose == .balanced || ProtectionPreset.loose == .strict) =
          false := rfl
      rw [hloose] at htenMatch
      simp [htenMatch, hloose, divergenceDetected, hguard]
    have hguard : (config.preset == .loose) = false := by simpa using hloose
    cases hthirty : snapshot.delta30sPct with
    | none => simp [htenMatch, hloose, hguard]
    | some delta30s =>
      by_cases hthirtyMismatch :
          deltaMismatch config.preset strictDelta30sPct (delta30s * multiplier) = true
      · simp [htenMatch, hloose, hguard, hthirtyMismatch]
      have hthirtyMatch := Bool.eq_false_iff.mpr hthirtyMismatch
      by_cases hdiverged : divergenceDetected config.preset multiplier (delta10s * multiplier)
          (some delta10s) polyDelta10sCent = true
      · simp [htenMatch, hloose, hguard, hthirtyMatch, hdiverged]
      · simp [htenMatch, hloose, hguard, hthirtyMatch, Bool.eq_false_iff.mpr hdiverged]

end Flags

theorem directionMultiplier_up : directionMultiplier "up" = some 1 := by decide +kernel

theorem directionMultiplier_down : directionMultiplier "down" = some (-1) := by decide +kernel

theorem snapshotStages_mirrored {config : UnderlyingProtectionConfig}
    {up down : UnderlyingReferenceSnapshot} (h : Mirrored (.ok up) (.ok down)) :
    snapshotStages (config.towards "down") (-1) down =
      snapshotStages (config.towards "up") 1 up := by
  obtain ⟨hopen, hten, hthirty⟩ := h
  unfold snapshotStages
  rw [hopen, hten, hthirty]
  simp [UnderlyingProtectionConfig.towards, Option.map_map]

theorem snapshotStages_up_iff {config : UnderlyingProtectionConfig}
    {up : UnderlyingReferenceSnapshot} :
    snapshotStages (config.towards "up") 1 up = true ↔
      up.cycleOpenPrice < up.currentPrice ∧
        (∃ delta10s ∈ up.delta10sPct,
          deltaMismatch config.preset strictDelta10sPct delta10s = false) ∧
        (config.preset = .loose ∨ ∃ delta30s ∈ up.delta30sPct,
          deltaMismatch config.preset strictDelta30sPct delta30s = false) := by
  unfold snapshotStages stagesPass
  simp [UnderlyingProtectionConfig.towards, Option.any_eq_true, and_assoc]

theorem divergenceDetected_moved (preset : ProtectionPreset) (multiplier : ℚ) {delta10s : ℚ}
    (hmoved : 0 < delta10s) {reading : ℚ} (hreading : |reading| = delta10s)
    (polyDelta10sCent : Option ℚ) :
    divergenceDetected preset multiplier delta10s (some reading) polyDelta10sCent = true ↔
      (preset = .balanced ∨ preset = .strict) ∧ delta10s < balancedFlatDeltaPct ∧
        ∃ polyDelta ∈ polyDelta10sCent, polyDivergenceCent ≤ polyDelta * multiplier := by
  unfold divergenceDetected
  rw [Option.getD_some, hreading]
  cases polyDelta10sCent with
  | none => simp
  | some polyDelta => simp [hmoved.not_ge, and_comm]

theorem moved_of_match {preset : ProtectionPreset} {delta10s : ℚ}
    (h : deltaMismatch preset strictDelta10sPct delta10s = false) :
    0 < delta10s ∧ (preset = .strict → balancedFlatDeltaPct ≤ delta10s) := by
  cases preset with
  | strict =>
    have hbound : 4 / 100 ≤ delta10s := not_lt.mp (of_decide_eq_false h)
    refine ⟨by linarith, fun _ => ?_⟩
    unfold balancedFlatDeltaPct
    linarith
  | loose => exact ⟨not_le.mp (of_decide_eq_false h), nofun⟩
  | balanced => exact ⟨not_le.mp (of_decide_eq_false h), nofun⟩

theorem stages_of_counts {config : UnderlyingProtectionConfig} {up : UnderlyingReferenceSnapshot}
    {polyDelta10sCent : Option ℚ}
    (h : DivergenceCounts config.preset (.ok up) polyDelta10sCent) :
    snapshotStages (config.towards "up") 1 up = true := by
  cases polyDelta10sCent with
  | none => exact h.elim
  | some polyDelta =>
    obtain ⟨hpreset, hopen, ⟨delta10s, hten, htenPos, -⟩, ⟨delta30s, hthirty, hthirtyPos⟩, -⟩ := h
    rw [snapshotStages_up_iff, hpreset]
    exact ⟨hopen, ⟨delta10s, hten, by simpa [deltaMismatch] using htenPos⟩,
      .inr ⟨delta30s, hthirty, by simpa [deltaMismatch] using hthirtyPos⟩⟩

theorem counts_iff {config : UnderlyingProtectionConfig} {up : UnderlyingReferenceSnapshot}
    (hstages : snapshotStages (config.towards "up") 1 up = true) {delta10s : ℚ}
    (hten : up.delta10sPct = some delta10s) (polyDelta : ℚ) :
    DivergenceCounts config.preset (.ok up) (some polyDelta) ↔
      config.preset = .balanced ∧ delta10s < balancedFlatDeltaPct ∧
        polyDivergenceCent ≤ |polyDelta| := by
  constructor
  · rintro ⟨hpreset, -, ⟨reading, hreading, -, hflat⟩, -, hpoly⟩
    obtain rfl := Option.some.inj (hten.symm.trans hreading)
    exact ⟨hpreset, hflat, hpoly⟩
  · rintro ⟨hpreset, hflat, hpoly⟩
    obtain ⟨hopen, ⟨reading, hreading, hmatch⟩, hthirty⟩ := snapshotStages_up_iff.mp hstages
    obtain rfl := Option.some.inj (hten.symm.trans hreading)
    obtain hloose | ⟨delta30s, hdelta30s, hthirtyMatch⟩ := hthirty
    · rw [hpreset] at hloose
      cases hloose
    · rw [hpreset] at hthirtyMatch
      exact ⟨hpreset, hopen, ⟨delta10s, hreading, (moved_of_match hmatch).1, hflat⟩,
        ⟨delta30s, hdelta30s, not_le.mp (of_decide_eq_false hthirtyMatch)⟩, hpoly⟩

theorem diverged_same_iff {config : UnderlyingProtectionConfig}
    {up down : UnderlyingReferenceSnapshot} (hmirrored : Mirrored (.ok up) (.ok down))
    (hstages : snapshotStages (config.towards "up") 1 up = true) (polyDelta10sCent : Option ℚ) :
    divergenceDetected config.preset (-1) (down.delta10sPct.getD 0 * -1) down.delta10sPct
        polyDelta10sCent =
      divergenceDetected config.preset 1 (up.delta10sPct.getD 0 * 1) up.delta10sPct
        polyDelta10sCent ↔
      ¬ DivergenceCounts config.preset (.ok up) polyDelta10sCent := by
  obtain ⟨-, ⟨delta10s, hten, htenMatch⟩, -⟩ := snapshotStages_up_iff.mp hstages
  obtain ⟨hmoved, hstrict⟩ := moved_of_match htenMatch
  have hdown := divergenceDetected_moved config.preset (-1) hmoved
    ((abs_neg delta10s).trans (abs_of_pos hmoved)) polyDelta10sCent
  have hup := divergenceDetected_moved config.preset 1 hmoved (abs_of_pos hmoved) polyDelta10sCent
  rw [hmirrored.2.1, show up.delta10sPct = some delta10s from hten, Option.map_some,
    Option.getD_some, Option.getD_some, neg_mul_neg, mul_one, Bool.eq_iff_iff, hdown, hup]
  cases polyDelta10sCent with
  | none => simp [DivergenceCounts]
  | some polyDelta =>
    rw [counts_iff hstages hten]
    have hbound : (0 : ℚ) < polyDivergenceCent := by norm_num [polyDivergenceCent]
    by_cases hreached : config.preset = .balanced ∧ delta10s < balancedFlatDeltaPct
    · simp only [hreached, true_or, true_and, Option.mem_some_iff, exists_eq_left', mul_neg,
        mul_one, le_abs]
      constructor
      · rintro hsame (hpos | hneg)
        · linarith [hsame.mpr hpos]
        · linarith [hsame.mp hneg]
      · exact fun h => iff_of_false (fun hneg => h (.inr hneg)) fun hpos => h (.inl hpos)
    · have hnone : ¬ ((config.preset = .balanced ∨ config.preset = .strict) ∧
          delta10s < balancedFlatDeltaPct) := by
        rintro ⟨hbalanced | hpreset, hflat⟩
        · exact hreached ⟨hbalanced, hflat⟩
        · exact (hstrict hpreset).not_gt hflat
      simp only [← and_assoc, hnone, hreached, false_and, not_false_eq_true]

theorem direction_symmetric_iff (config : UnderlyingProtectionConfig)
    (up down : Except String UnderlyingReferenceSnapshot) (hmirrored : Mirrored up down)
    (polyDelta10sCent : Option ℚ) :
    DirectionSymmetric config up down polyDelta10sCent ↔
      ¬ DivergenceCounts config.preset up polyDelta10sCent := by
  match up, down with
  | .error _, .error _ =>
    unfold DirectionSymmetric evaluateUnderlyingProtection
    simp [UnderlyingProtectionConfig.towards, directionMultiplier_up, directionMultiplier_down,
      DivergenceCounts]
  | .ok up, .ok down =>
    obtain ⟨hpassedUp, hblockedUp⟩ :=
      @evaluation_flags (config.towards "up") 1 up directionMultiplier_up polyDelta10sCent
    obtain ⟨hpassedDown, hblockedDown⟩ :=
      @evaluation_flags (config.towards "down") (-1) down directionMultiplier_down polyDelta10sCent
    unfold DirectionSymmetric
    dsimp only
    rw [hpassedUp, hblockedUp, hpassedDown, hblockedDown, snapshotStages_mirrored hmirrored]
    cases hstages : snapshotStages (config.towards "up") 1 up with
    | true =>
      rw [← diverged_same_iff hmirrored hstages]
      simp [UnderlyingProtectionConfig.towards]
    | false =>
      refine iff_of_true (by simp) fun hcounts => ?_
      have hpass := stages_of_counts hcounts
      rw [hstages] at hpass
      cases hpass

/-- The confirmation of bitcoin triggers, and a reading a hundredth of a per cent above its open. -/
def bitcoinProtection : UnderlyingProtectionConfig where
  mode := "underlying_confirm"
  preset := .balanced
  asset := "btc"
  direction := "up"
  referenceSymbol := "BTC-USD"

def slightRise : UnderlyingReferenceSnapshot where
  cycleOpenPrice := 100000
  currentPrice := 100010
  delta10sPct := some (1 / 100)
  delta30sPct := some (1 / 100)

def slightFall : UnderlyingReferenceSnapshot where
  cycleOpenPrice := 100000
  currentPrice := 99990
  delta10sPct := some (-1 / 100)
  delta30sPct := some (-1 / 100)

theorem slightFall_mirrored : Mirrored (.ok slightRise) (.ok slightFall) := by
  refine ⟨?_, ?_, ?_⟩ <;> decide +kernel

/-- A move of three cents is no divergence on either side. -/
theorem small_move_symmetric :
    DirectionSymmetric bitcoinProtection (.ok slightRise) (.ok slightFall) (some 3) := by
  refine (direction_symmetric_iff bitcoinProtection _ _ slightFall_mirrored (some 3)).mpr ?_
  rintro ⟨-, -, -, -, hpoly⟩
  norm_num [polyDivergenceCent] at hpoly

/-- The bought token has jumped by five cents: up is blocked and down is let through. -/
theorem jump_blocks_up_only :
    Mirrored (.ok slightRise) (.ok slightFall) ∧
      ¬ DirectionSymmetric bitcoinProtection (.ok slightRise) (.ok slightFall) (some 5) :=
  ⟨slightFall_mirrored, by decide +kernel⟩

end PolymarketBot.Flow
