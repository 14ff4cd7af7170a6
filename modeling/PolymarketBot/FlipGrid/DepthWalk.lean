import PolymarketBot.FlipGrid.Depth
import PolymarketBot.Lib.CheapestFirst

/-! What the depth guard finds in a book: how much is filled, at which average, and how little
the order of the levels and levels of one price count. -/

namespace PolymarketBot.FlipGrid
open Lib.CheapestFirst

def visibleLevels (asks : List OrderBookLevel) : List OrderBookLevel :=
  asks.filter fun level => 0 < level.price ∧ 0 < level.size

def levelsWithin (asks : List OrderBookLevel) (worstPrice : ℚ) : List OrderBookLevel :=
  (visibleLevels asks).filter (·.price ≤ worstPrice + slack)

def depthWithin (asks : List OrderBookLevel) (worstPrice : ℚ) : ℚ :=
  depthUpTo OrderBookLevel.price OrderBookLevel.size (worstPrice + slack) (visibleLevels asks)

/-- The same size at each price, in whatever order and however many levels. -/
def SameDepth (asks asks' : List OrderBookLevel) : Prop :=
  ∀ p, depthAt OrderBookLevel.price OrderBookLevel.size (visibleLevels asks) p =
    depthAt OrderBookLevel.price OrderBookLevel.size (visibleLevels asks') p

theorem sameDepth_of_perm {asks asks' : List OrderBookLevel} (h : asks.Perm asks') :
    SameDepth asks asks' :=
  fun _ => (((h.filter _).filter _).map _).sum_eq

/-! ### The levels the guard looks at -/

section Levels
variable (asks : List OrderBookLevel) (worstPrice : ℚ)

theorem depthLevels_perm : (depthLevels asks worstPrice).Perm (levelsWithin asks worstPrice) := by
  have hfilter : levelsWithin asks worstPrice = asks.filter fun level =>
      0 < level.price ∧ 0 < level.size ∧ level.price ≤ worstPrice + slack := by
    rw [levelsWithin, visibleLevels, List.filter_filter]
    refine List.filter_congr fun level _ => ?_
    simp only [← Bool.decide_and, and_comm, and_left_comm]
  rw [hfilter]
  exact List.perm_insertionSort _ _

theorem depthLevels_book :
    Book OrderBookLevel.price OrderBookLevel.size (depthLevels asks worstPrice) where
  sorted := List.pairwise_insertionSort (fun a b : OrderBookLevel => a.price ≤ b.price) _
  nonneg := by
    intro level hlevel
    have hvisible := (List.mem_filter.mp ((depthLevels_perm asks worstPrice).mem_iff.mp hlevel)).1
    have hpos := (List.mem_filter.mp hvisible).2
    simp only [decide_eq_true_eq] at hpos
    exact hpos.2.le

theorem depthLevels_price_le : ∀ level ∈ depthLevels asks worstPrice,
    level.price ≤ worstPrice + slack := by
  intro level hlevel
  have hwithin := (List.mem_filter.mp ((depthLevels_perm asks worstPrice).mem_iff.mp hlevel)).2
  simpa using hwithin

theorem depthLevels_sum :
    ((depthLevels asks worstPrice).map OrderBookLevel.size).sum = depthWithin asks worstPrice :=
  ((depthLevels_perm asks worstPrice).map _).sum_eq

theorem depthLevels_depthAt {asks' : List OrderBookLevel} (h : SameDepth asks asks') (p : ℚ) :
    depthAt OrderBookLevel.price OrderBookLevel.size (depthLevels asks worstPrice) p =
      depthAt OrderBookLevel.price OrderBookLevel.size (depthLevels asks' worstPrice) p := by
  have hlevels : ∀ asks, depthAt OrderBookLevel.price OrderBookLevel.size
      (depthLevels asks worstPrice) p = if p ≤ worstPrice + slack then
        depthAt OrderBookLevel.price OrderBookLevel.size (visibleLevels asks) p else 0 := by
    intro asks
    rw [depthAt, (((depthLevels_perm asks worstPrice).filter _).map _).sum_eq, levelsWithin,
      List.filter_filter]
    split_ifs with hp
    · refine congrArg List.sum (congrArg _ (List.filter_congr fun level _ => ?_))
      by_cases hprice : level.price = p <;> simp [hprice, hp]
    · rw [List.filter_eq_nil_iff.mpr, List.map_nil, List.sum_nil]
      intro level _ hboth
      simp only [Bool.and_eq_true, decide_eq_true_eq] at hboth
      exact hp (hboth.1 ▸ hboth.2)
  rw [hlevels, hlevels, h]

end Levels

/-! ### The walk -/

/-- What the walk takes of the levels before it stops. -/
def filledBy : List OrderBookLevel → ℚ → ℚ
  | [], _ => 0
  | level :: levels, remainingQty =>
    if remainingQty ≤ slack then 0
    else min remainingQty level.size + filledBy levels (remainingQty - min remainingQty level.size)

theorem filledBy_zero (levels : List OrderBookLevel) : filledBy levels 0 = 0 := by
  cases levels with
  | nil => rfl
  | cons level levels => exact if_pos slack_pos.le

theorem filledBy_bounds {levels : List OrderBookLevel} (hsize : ∀ level ∈ levels, 0 ≤ level.size)
    {remainingQty : ℚ} (hremaining : 0 ≤ remainingQty) :
    0 ≤ filledBy levels remainingQty ∧ filledBy levels remainingQty ≤ remainingQty ∧
      filledBy levels remainingQty ≤ (levels.map (·.size)).sum ∧
      (remainingQty - slack ≤ filledBy levels remainingQty ∨
        filledBy levels remainingQty = (levels.map (·.size)).sum) := by
  induction levels generalizing remainingQty with
  | nil => simp [filledBy, hremaining]
  | cons level levels ih =>
    have hlevel : 0 ≤ level.size := hsize level (List.mem_cons_self ..)
    have hlevels := fun other hother => hsize other (List.mem_cons_of_mem _ hother)
    have hsum : 0 ≤ (levels.map (·.size)).sum := List.sum_nonneg (by simpa using hlevels)
    rw [filledBy, List.map_cons, List.sum_cons]
    split_ifs with hstop
    · exact ⟨le_rfl, hremaining, by linarith, .inl (by linarith)⟩
    · have hleft : 0 ≤ remainingQty - min remainingQty level.size :=
        sub_nonneg.mpr (min_le_left _ _)
      obtain ⟨hnonneg, hle, hrest, hend⟩ := ih hlevels hleft
      have hpart : 0 ≤ min remainingQty level.size := le_min hremaining hlevel
      refine ⟨by linarith, by linarith, by linarith [min_le_right remainingQty level.size], ?_⟩
      obtain hend | hend := hend
      · exact .inl (by linarith)
      · obtain hwhole | hshort := le_total level.size remainingQty
        · rw [min_eq_right hwhole] at hend ⊢
          exact .inr (by linarith)
        · rw [min_eq_left hshort, sub_self, filledBy_zero]
          exact .inl (by linarith [slack_pos])

theorem leastCost_nothing {levels : List OrderBookLevel}
    (hsize : ∀ level ∈ levels, 0 ≤ level.size) :
    leastCost OrderBookLevel.price OrderBookLevel.size levels 0 = 0 := by
  refine List.sum_eq_zero fun part hpart => ?_
  obtain ⟨taken, htaken, rfl⟩ := List.mem_map.mp hpart
  rw [cheapestFirst_zero hsize taken htaken, zero_mul]

theorem depthWalk_eq {levels : List OrderBookLevel} (hsize : ∀ level ∈ levels, 0 ≤ level.size)
    {walk : DepthWalk} (hremaining : 0 ≤ walk.remainingQty) :
    (depthWalk levels walk).filledQty = walk.filledQty + filledBy levels walk.remainingQty ∧
      (depthWalk levels walk).cost = walk.cost +
        leastCost OrderBookLevel.price OrderBookLevel.size levels
          (filledBy levels walk.remainingQty) := by
  induction levels generalizing walk with
  | nil => simp [depthWalk, filledBy, leastCost, cheapestFirst]
  | cons level levels ih =>
    have hlevel : 0 ≤ level.size := hsize level (List.mem_cons_self ..)
    have hlevels := fun other hother => hsize other (List.mem_cons_of_mem _ hother)
    rw [depthWalk, filledBy]
    split_ifs with hstop
    · simp [leastCost_nothing hsize]
    · have hleft : 0 ≤ walk.remainingQty - min walk.remainingQty level.size :=
        sub_nonneg.mpr (min_le_left _ _)
      obtain ⟨hfilled, hcost⟩ := @ih hlevels
        { remainingQty := walk.remainingQty - min walk.remainingQty level.size
          filledQty := walk.filledQty + min walk.remainingQty level.size
          cost := walk.cost + min walk.remainingQty level.size * level.price
          levelsUsed := walk.levelsUsed + 1 } hleft
      dsimp only at hfilled hcost ⊢
      refine ⟨by rw [hfilled, add_assoc], ?_⟩
      have hnonneg := (filledBy_bounds hlevels hleft).1
      have hpart : min level.size (min walk.remainingQty level.size +
          filledBy levels (walk.remainingQty - min walk.remainingQty level.size)) =
            min walk.remainingQty level.size := by
        obtain hwhole | hshort := le_total level.size walk.remainingQty
        · rw [min_eq_right hwhole] at hnonneg ⊢
          exact min_eq_left (by linarith)
        · rw [min_eq_left hshort, sub_self, filledBy_zero, add_zero]
          exact min_eq_right hshort
      rw [hcost, leastCost, leastCost, cheapestFirst, cost_cons, hpart, add_sub_cancel_left,
        add_assoc]

/-! ### The check -/

section Check
variable (book : OrderBookSnapshot) (bestAsk intendedQty worstPrice : ℚ)

def filledQty : ℚ := filledBy (depthLevels book.asks worstPrice) intendedQty

def averageOf (asks : List OrderBookLevel) (qty : ℚ) : ℚ :=
  leastCost OrderBookLevel.price OrderBookLevel.size (depthLevels asks worstPrice) qty / qty

theorem evaluateDepth_eq (hintended : 0 ≤ intendedQty) :
    let check := evaluateDepth true (some book) bestAsk intendedQty worstPrice
    check.payload.filledQty = filledQty book intendedQty worstPrice ∧
      (check.blocked = false ↔ intendedQty ≤ filledQty book intendedQty worstPrice + slack) ∧
      (check.blocked = false → check.estimatedAvgFill =
        some (averageOf worstPrice book.asks (filledQty book intendedQty worstPrice))) := by
  obtain ⟨hfilled, hcost⟩ := @depthWalk_eq (depthLevels book.asks worstPrice)
    (depthLevels_book book.asks worstPrice).nonneg ⟨intendedQty, 0, 0, 0⟩ hintended
  rw [zero_add] at hfilled hcost
  unfold evaluateDepth filledQty averageOf
  dsimp only
  rw [hfilled, hcost]
  split_ifs with hdisabled hshort
  · cases hdisabled
  · exact ⟨rfl, iff_of_false nofun hshort.not_ge, nofun⟩
  · exact ⟨rfl, iff_of_true rfl (not_lt.mp hshort), fun _ => rfl⟩

end Check

/-- What the guard finds: enough within the worst price and its slack, filled at the least cost. -/
structure DepthLaw (book : OrderBookSnapshot) (bestAsk intendedQty worstPrice : ℚ)
    (check : DepthCheck) : Prop where
  sufficient_iff : check.blocked = false ↔ intendedQty ≤ depthWithin book.asks worstPrice + slack
  filled : check.blocked = false → intendedQty - slack ≤ check.payload.filledQty ∧
    check.payload.filledQty ≤ min intendedQty (depthWithin book.asks worstPrice)
  average : check.blocked = false → slack < intendedQty → ∃ avg, check.estimatedAvgFill = some avg ∧
    avg ≤ worstPrice + slack ∧ ∃ taken,
      Taking OrderBookLevel.size (levelsWithin book.asks worstPrice) check.payload.filledQty taken ∧
        avg = cost OrderBookLevel.price taken / check.payload.filledQty ∧
        ∀ other, Taking OrderBookLevel.size (levelsWithin book.asks worstPrice)
          check.payload.filledQty other →
            cost OrderBookLevel.price taken ≤ cost OrderBookLevel.price other

/-- The same verdict, and averages no further apart than the slack of a quantity is worth. -/
structure SameCheck (intendedQty worstPrice : ℚ) (check check' : DepthCheck) : Prop where
  blocked : check.blocked = check'.blocked
  average : check.blocked = false → slack < intendedQty →
    ∀ avg ∈ check.estimatedAvgFill, ∀ avg' ∈ check'.estimatedAvgFill,
      |avg - avg'| ≤ (worstPrice + slack) * slack / (intendedQty - slack) ∧
        (check.payload.filledQty = check'.payload.filledQty → avg = avg')

section Law
variable {asks asks' : List OrderBookLevel} {worstPrice intendedQty : ℚ}

theorem filledQty_bounds (book : OrderBookSnapshot) (worstPrice : ℚ) (hintended : 0 ≤ intendedQty) :
    filledQty book intendedQty worstPrice ≤ min intendedQty (depthWithin book.asks worstPrice) ∧
      (intendedQty - slack ≤ filledQty book intendedQty worstPrice ∨
        filledQty book intendedQty worstPrice = depthWithin book.asks worstPrice) := by
  obtain ⟨-, hle, hsum, hend⟩ :=
    filledBy_bounds (depthLevels_book book.asks worstPrice).nonneg hintended
  rw [show ((depthLevels book.asks worstPrice).map fun level => level.size).sum =
    depthWithin book.asks worstPrice from depthLevels_sum book.asks worstPrice] at hsum hend
  exact ⟨le_min hle hsum, hend⟩

theorem filledQty_sufficient_iff (book : OrderBookSnapshot) (worstPrice : ℚ)
    (hintended : 0 ≤ intendedQty) :
    intendedQty ≤ filledQty book intendedQty worstPrice + slack ↔
      intendedQty ≤ depthWithin book.asks worstPrice + slack := by
  obtain ⟨hle, hend⟩ := filledQty_bounds book worstPrice hintended
  have hdepth := (le_min_iff.mp hle).2
  constructor
  · intro h
    linarith
  · intro h
    obtain hend | hend := hend <;> linarith

theorem taking_perm {qty : ℚ} {levels levels' : List OrderBookLevel} (h : levels.Perm levels')
    {taken : List (OrderBookLevel × ℚ)} (htaken : Taking OrderBookLevel.size levels qty taken) :
    Taking OrderBookLevel.size levels' qty taken :=
  ⟨htaken.levels.trans h, htaken.within, htaken.total⟩

theorem depthLevels_price_pos : ∀ level ∈ depthLevels asks worstPrice, 0 < level.price := by
  intro level hlevel
  have hvisible := (List.mem_filter.mp ((depthLevels_perm asks worstPrice).mem_iff.mp hlevel)).1
  have hpos := (List.mem_filter.mp hvisible).2
  simp only [decide_eq_true_eq] at hpos
  exact hpos.1

theorem averageOf_le {qty : ℚ} (hqty : 0 < qty) (henough : qty ≤ depthWithin asks worstPrice) :
    averageOf worstPrice asks qty ≤ worstPrice + slack := by
  have hbook := depthLevels_book asks worstPrice
  rw [← depthLevels_sum] at henough
  have htaking := hbook.taking hqty.le henough
  have hcost : leastCost OrderBookLevel.price OrderBookLevel.size (depthLevels asks worstPrice)
      qty ≤ (worstPrice + slack) * qty := by
    refine (cost_le_limit fun part hpart => .inr ⟨(htaking.within part hpart).1, ?_⟩).trans_eq
      (by rw [htaking.total])
    refine depthLevels_price_le asks worstPrice _ (htaking.levels.mem_iff.mp ?_)
    exact List.mem_map_of_mem hpart
  exact (div_le_iff₀ hqty).mpr hcost

theorem leastCost_nonneg {qty : ℚ} (hqty : 0 ≤ qty) :
    0 ≤ leastCost OrderBookLevel.price OrderBookLevel.size (depthLevels asks worstPrice) qty := by
  refine List.sum_nonneg fun part hpart => ?_
  obtain ⟨taken, htaken, rfl⟩ := List.mem_map.mp hpart
  have hwithin := cheapestFirst_within hqty (depthLevels_book asks worstPrice).nonneg taken htaken
  have hlevel : taken.1 ∈ depthLevels asks worstPrice := by
    rw [← cheapestFirst_levels OrderBookLevel.size qty (depthLevels asks worstPrice)]
    exact List.mem_map_of_mem htaken
  exact mul_nonneg hwithin.1 (depthLevels_price_pos taken.1 hlevel).le

/-- Of two books of the same depth, the one that fills less does so at no higher an average, and
the averages are within what the difference costs at the limit. -/
theorem averageOf_step (hsame : SameDepth asks asks') {qty qty' : ℚ} (hqty : 0 < qty)
    (hle : qty ≤ qty') (henough : qty ≤ depthWithin asks worstPrice)
    (henough' : qty' ≤ depthWithin asks' worstPrice) :
    averageOf worstPrice asks qty ≤ averageOf worstPrice asks' qty' ∧
      averageOf worstPrice asks' qty' - averageOf worstPrice asks qty ≤
        (worstPrice + slack) * ((qty' - qty) / qty') := by
  have hbook := depthLevels_book asks worstPrice
  have hbook' := depthLevels_book asks' worstPrice
  have hqty' : 0 < qty' := hqty.trans_le hle
  rw [← depthLevels_sum] at henough henough'
  have hreach : ∀ margin,
      reachSum OrderBookLevel.price OrderBookLevel.size margin (depthLevels asks worstPrice) =
        reachSum OrderBookLevel.price OrderBookLevel.size margin (depthLevels asks' worstPrice) :=
    fun margin => weighted_congr (depthLevels_depthAt asks worstPrice hsame)
      fun price => min (price - margin) 0
  refine ⟨hbook.average_mono hbook' hreach hqty hle henough henough', ?_⟩
  have hstep := hbook.leastCost_step hbook' hreach hqty.le hle hqty' henough henough'
    (depthLevels_price_le asks' worstPrice)
  have hspread : leastCost OrderBookLevel.price OrderBookLevel.size (depthLevels asks worstPrice)
      qty / qty' ≤ averageOf worstPrice asks qty :=
    div_le_div_of_nonneg_left (leastCost_nonneg hqty.le) hqty hle
  have hdivided := div_le_div_of_nonneg_right hstep hqty'.le
  rw [add_div, mul_div_assoc] at hdivided
  change averageOf worstPrice asks' qty' ≤ _ at hdivided
  linarith

theorem SameDepth.symm (h : SameDepth asks asks') : SameDepth asks' asks := fun p => (h p).symm

theorem SameDepth.depthWithin (h : SameDepth asks asks') (worstPrice : ℚ) :
    depthWithin asks worstPrice = depthWithin asks' worstPrice := by
  have hsum := weighted_congr (depthLevels_depthAt asks worstPrice h) fun _ => 1
  simp only [mul_one] at hsum
  rwa [depthLevels_sum, depthLevels_sum] at hsum

theorem averages_apart (hsame : SameDepth asks asks') (hintended : slack < intendedQty)
    {qty qty' : ℚ} (hle : qty ≤ qty') (hlow : intendedQty - slack ≤ qty)
    (hhigh : qty' ≤ intendedQty) (henough : qty ≤ depthWithin asks worstPrice)
    (henough' : qty' ≤ depthWithin asks' worstPrice) :
    |averageOf worstPrice asks qty - averageOf worstPrice asks' qty'| ≤
      (worstPrice + slack) * slack / (intendedQty - slack) := by
  have hqty : 0 < qty := (sub_pos.mpr hintended).trans_le hlow
  obtain ⟨hmono, hstep⟩ := averageOf_step hsame hqty hle henough henough'
  have hshare : (qty' - qty) / qty' ≤ slack / (intendedQty - slack) :=
    div_le_div₀ slack_pos.le (by linarith) (sub_pos.mpr hintended) (by linarith)
  have hlimit : 0 ≤ worstPrice + slack := by
    have hpos : 0 ≤ averageOf worstPrice asks qty := div_nonneg (leastCost_nonneg hqty.le) hqty.le
    exact hpos.trans (averageOf_le hqty henough)
  have hbound := mul_le_mul_of_nonneg_left hshare hlimit
  rw [abs_of_nonpos (sub_nonpos.mpr hmono), mul_div_assoc]
  linarith

end Law

theorem depth_law (book : OrderBookSnapshot) (bestAsk worstPrice : ℚ) {intendedQty : ℚ}
    (hintended : 0 < intendedQty) :
    DepthLaw book bestAsk intendedQty worstPrice
      (evaluateDepth true (some book) bestAsk intendedQty worstPrice) := by
  obtain ⟨hfilled, hpasses, haverage⟩ :=
    evaluateDepth_eq book bestAsk intendedQty worstPrice hintended.le
  obtain ⟨hbound, -⟩ := filledQty_bounds book worstPrice hintended.le
  have hlow : (evaluateDepth true (some book) bestAsk intendedQty worstPrice).blocked = false →
      intendedQty - slack ≤ filledQty book intendedQty worstPrice := by
    intro h
    linarith [hpasses.mp h]
  refine ⟨hpasses.trans (filledQty_sufficient_iff book worstPrice hintended.le), ?_, ?_⟩
  · intro h
    rw [hfilled]
    exact ⟨hlow h, hbound⟩
  · intro h hslack
    have hqty : 0 < filledQty book intendedQty worstPrice := by linarith [hlow h]
    have henough := (le_min_iff.mp hbound).2
    have hperm := depthLevels_perm book.asks worstPrice
    have hbook := depthLevels_book book.asks worstPrice
    have hsum := henough.trans_eq (depthLevels_sum book.asks worstPrice).symm
    rw [hfilled]
    refine ⟨_, haverage h, averageOf_le hqty henough, _, ?_, rfl, fun other hother => ?_⟩
    · exact taking_perm hperm (hbook.taking hqty.le hsum)
    · exact hbook.leastCost_le hqty hsum (taking_perm hperm.symm hother)

/-- The guard passes exactly a book with enough at the worst price or better, each within the
slack, and fills it at the least cost; order and levels of one price count for no more than the
slack. -/
theorem depth_walk_law (book book' : OrderBookSnapshot) (bestAsk worstPrice : ℚ)
    {intendedQty : ℚ} (hintended : 0 < intendedQty) (hsame : SameDepth book.asks book'.asks) :
    DepthLaw book bestAsk intendedQty worstPrice
        (evaluateDepth true (some book) bestAsk intendedQty worstPrice) ∧
      SameCheck intendedQty worstPrice
        (evaluateDepth true (some book) bestAsk intendedQty worstPrice)
        (evaluateDepth true (some book') bestAsk intendedQty worstPrice) := by
  have hlaw := depth_law book bestAsk worstPrice hintended
  have hlaw' := depth_law book' bestAsk worstPrice hintended
  have hblocked : (evaluateDepth true (some book) bestAsk intendedQty worstPrice).blocked =
      (evaluateDepth true (some book') bestAsk intendedQty worstPrice).blocked := by
    rw [Bool.eq_iff_iff, ← not_iff_not, Bool.not_eq_true, Bool.not_eq_true, hlaw.sufficient_iff,
      hlaw'.sufficient_iff, hsame.depthWithin]
  refine ⟨hlaw, hblocked, fun hpass hslack avg havg avg' havg' => ?_⟩
  obtain ⟨hfilled, -, haverage⟩ := evaluateDepth_eq book bestAsk intendedQty worstPrice hintended.le
  obtain ⟨hfilled', -, haverage'⟩ :=
    evaluateDepth_eq book' bestAsk intendedQty worstPrice hintended.le
  obtain ⟨hlow, hhigh⟩ := hlaw.filled hpass
  obtain ⟨hlow', hhigh'⟩ := hlaw'.filled (hblocked ▸ hpass)
  rw [hfilled] at hlow hhigh
  rw [hfilled'] at hlow' hhigh'
  rw [hfilled, hfilled']
  obtain rfl := Option.some.inj (havg.symm.trans (haverage hpass))
  obtain rfl := Option.some.inj (havg'.symm.trans (haverage' (hblocked ▸ hpass)))
  obtain ⟨hwanted, henough⟩ := le_min_iff.mp hhigh
  obtain ⟨hwanted', henough'⟩ := le_min_iff.mp hhigh'
  have hqty : 0 < filledQty book intendedQty worstPrice := by linarith
  have hqty' : 0 < filledQty book' intendedQty worstPrice := by linarith
  constructor
  · obtain hle | hle := le_total (filledQty book intendedQty worstPrice)
      (filledQty book' intendedQty worstPrice)
    · exact averages_apart hsame hslack hle hlow hwanted' henough henough'
    · rw [abs_sub_comm]
      exact averages_apart hsame.symm hslack hle hlow' hwanted henough' henough
  · intro hsameQty
    exact le_antisymm (averageOf_step hsame hqty hsameQty.le henough henough').1
      (averageOf_step hsame.symm hqty' hsameQty.ge henough' henough).1

/-- The guard judged by the worst price itself, without the slack on prices. -/
def AsStated (asks : List OrderBookLevel) (bestAsk intendedQty worstPrice : ℚ) : Prop :=
  let check := evaluateDepth true (some ⟨[], asks⟩) bestAsk intendedQty worstPrice
  (check.blocked = false ↔ intendedQty ≤
      (((visibleLevels asks).filter (·.price ≤ worstPrice)).map (·.size)).sum + slack) ∧
    ∀ avg ∈ check.estimatedAvgFill, avg ≤ worstPrice

instance (asks : List OrderBookLevel) (bestAsk intendedQty worstPrice : ℚ) :
    Decidable (AsStated asks bestAsk intendedQty worstPrice) :=
  inferInstanceAs (Decidable (_ ∧ _))

/-- A level half a slack above the worst price is enough, and the average is above it. -/
theorem level_above_worst_price :
    ¬ AsStated [⟨1000001 / 2000000, 10⟩] (1000001 / 2000000) 10 (1 / 2) := by
  decide +kernel

def scatteredAsks : List OrderBookLevel := [⟨1 / 2, 4⟩, ⟨2 / 5, 5⟩, ⟨1 / 2, 3⟩]

/-- Two levels of one price out of order, and the same book with the one level first. -/
theorem scatteredAsks_check :
    SameCheck 10 (1 / 2)
      (evaluateDepth true (some ⟨[], scatteredAsks⟩) (2 / 5) 10 (1 / 2))
      (evaluateDepth true (some ⟨[], [⟨2 / 5, 5⟩, ⟨1 / 2, 4⟩, ⟨1 / 2, 3⟩]⟩) (2 / 5) 10
        (1 / 2)) := by
  have hsame : SameDepth scatteredAsks [⟨2 / 5, 5⟩, ⟨1 / 2, 4⟩, ⟨1 / 2, 3⟩] :=
    sameDepth_of_perm (List.Perm.swap _ _ _)
  exact (depth_walk_law ⟨[], scatteredAsks⟩ ⟨[], [⟨2 / 5, 5⟩, ⟨1 / 2, 4⟩, ⟨1 / 2, 3⟩]⟩ (2 / 5)
    (1 / 2) (by norm_num) hsame).2

end PolymarketBot.FlipGrid
