import StripTuner.Ws2812.Measurement

/-!
# What a capture of a foreign frame measures

`AnalyzeWs2812Read()`: the usable symbols, the two classes around the midpoint of their high times,
and the exact averages of each class.
-/

namespace StripTuner.Ws2812

open Averages

/-- The measured period, in nanoseconds. -/
def RmtSymbol.periodNs (symbol : RmtSymbol) : Nat :=
  (symbol.duration0.toNat + symbol.duration1.toNat) * 25

/-- A high level followed by a low one, both with a duration. -/
def isMeasurable (symbol : RmtSymbol) : Bool :=
  symbol.level0 && !symbol.level1 && 0 < symbol.duration0.toNat && 0 < symbol.duration1.toNat

/-- What the first loop of `AnalyzeWs2812Read()` finds. -/
def readSpread (symbols : List RmtSymbol) : ReadSpread :=
  (usableSymbols symbols).foldl (ReadSpread.add rmtPulseMonitorTickNs) ⟨0xFFFFFFFF, 0, 0⟩

/-- The symbols that the second loop counts as one of the two bits. -/
def readClass (symbols : List RmtSymbol) (bit : Bool) : List RmtSymbol :=
  (usableSymbols symbols).filter fun symbol =>
    isReadBit0 rmtPulseMonitorTickNs (readSpread symbols) symbol != bit

/-- The variables of the second loop for one of the two bits. -/
def readTotals (symbols : List RmtSymbol) (bit : Bool) : ReadTotals :=
  (readClass symbols bit).foldl (ReadTotals.add rmtPulseMonitorTickNs) ⟨0, 0, 0⟩

/-- What is reported for a class: its size and the means of its high times and periods, rounded half
up, which are found unless it is empty. -/
structure MeasuresRead (entries : List RmtSymbol) (count highAvgNs periodAvgNs : UInt32) :
    Prop where
  count : count.toNat = entries.length
  high : (highAvgNs.toNat : ℤ) = round (mean (entries.map RmtSymbol.highNs))
  period : (periodAvgNs.toNat : ℤ) = round (mean (entries.map RmtSymbol.periodNs))
  found : entries ≠ [] → highAvgNs ≠ 0 ∧ periodAvgNs ≠ 0
  empty : entries = [] → highAvgNs = 0 ∧ periodAvgNs = 0

/-! ## The usable symbols -/

theorem filter_zipIdx_dropLast {α : Type} (p : α → Bool) (xs : List α) (k : Nat) :
    ((xs.zipIdx k).filter fun entry => decide (entry.2 + 1 < k + xs.length) && p entry.1).map
      Prod.fst = xs.dropLast.filter p := by
  induction xs generalizing k with
  | nil => rfl
  | cons x xs ih =>
      cases xs with
      | nil => simp
      | cons y xs =>
          have hfirst : k + 1 < k + (x :: y :: xs).length := by
            simp only [List.length_cons]
            omega
          have hrest := ih (k + 1)
          have hsize : k + 1 + (y :: xs).length = k + (x :: y :: xs).length := by
            simp only [List.length_cons]
            omega
          rw [hsize] at hrest
          rw [List.zipIdx_cons, List.filter_cons, decide_eq_true hfirst, Bool.true_and,
            List.dropLast_cons_cons, List.filter_cons]
          by_cases hp : p x = true
          · rw [if_pos hp, if_pos hp, List.map_cons, hrest]
          · rw [if_neg hp, if_neg hp, hrest]

/-- Every symbol but the last is usable when it can be measured. -/
theorem usableSymbols_eq (symbols : List RmtSymbol) :
    usableSymbols symbols = symbols.dropLast.filter isMeasurable := by
  rw [usableSymbols, ← filter_zipIdx_dropLast isMeasurable symbols 0]
  congr 1
  apply List.filter_congr
  intro entry _
  rw [isReadSymbolUsable, isMeasurable, Nat.zero_add]
  simp only [Bool.and_assoc]

theorem length_usableSymbols_le (symbols : List RmtSymbol) :
    (usableSymbols symbols).length ≤ symbols.length := by
  rw [usableSymbols_eq]
  have hfilter := List.length_filter_le isMeasurable symbols.dropLast
  rw [List.length_dropLast] at hfilter
  omega

theorem isMeasurable_of_mem {symbols : List RmtSymbol} {symbol : RmtSymbol}
    (h : symbol ∈ usableSymbols symbols) : isMeasurable symbol = true := by
  rw [usableSymbols_eq] at h
  exact (List.mem_filter.1 h).2

theorem highNs_pos {symbol : RmtSymbol} (h : isMeasurable symbol = true) : 0 < symbol.highNs := by
  simp only [isMeasurable, Bool.and_eq_true, decide_eq_true_eq] at h
  rw [RmtSymbol.highNs]
  omega

theorem highNs_le_periodNs (symbol : RmtSymbol) : symbol.highNs ≤ symbol.periodNs := by
  rw [RmtSymbol.highNs, RmtSymbol.periodNs]
  omega

theorem periodNs_lt (symbol : RmtSymbol) : symbol.periodNs < 2 ^ 21 := by
  have hhigh : symbol.duration0.toNat < 2 ^ 15 := symbol.duration0.isLt
  have hlow : symbol.duration1.toNat < 2 ^ 15 := symbol.duration1.isLt
  rw [RmtSymbol.periodNs]
  omega

/-! ## The first loop -/

theorem toNat_readSpread (usable : List RmtSymbol) (spread : ReadSpread)
    (hfit : spread.usableCount.toNat + usable.length < 2 ^ 32) :
    let after := usable.foldl (ReadSpread.add rmtPulseMonitorTickNs) spread
    after.minNs.toNat = (usable.map RmtSymbol.highNs).foldl min spread.minNs.toNat ∧
      after.maxNs.toNat = (usable.map RmtSymbol.highNs).foldl max spread.maxNs.toNat ∧
      after.usableCount.toNat = spread.usableCount.toNat + usable.length := by
  induction usable generalizing spread with
  | nil => exact ⟨rfl, rfl, rfl⟩
  | cons symbol usable ih =>
      have hhigh := toNat_ticksToNs symbol.duration0
      rw [← RmtSymbol.highNs] at hhigh
      rw [List.length_cons] at hfit
      have hcount : (spread.add rmtPulseMonitorTickNs symbol).usableCount.toNat =
          spread.usableCount.toNat + 1 := by
        rw [ReadSpread.add, UInt32.toNat_add, UInt32.toNat_one]
        omega
      have hmin : (spread.add rmtPulseMonitorTickNs symbol).minNs.toNat =
          min spread.minNs.toNat symbol.highNs := by
        rw [ReadSpread.add, apply_ite UInt32.toNat, hhigh]
        simp only [UInt32.lt_iff_toNat_lt, hhigh]
        split <;> omega
      have hmax : (spread.add rmtPulseMonitorTickNs symbol).maxNs.toNat =
          max spread.maxNs.toNat symbol.highNs := by
        rw [ReadSpread.add, apply_ite UInt32.toNat, hhigh]
        simp only [gt_iff_lt, UInt32.lt_iff_toNat_lt, hhigh]
        split <;> omega
      have hrest := ih (spread.add rmtPulseMonitorTickNs symbol) (by rw [hcount]; omega)
      rw [hmin, hmax, hcount] at hrest
      dsimp only at hrest ⊢
      rw [List.foldl_cons, List.map_cons, List.foldl_cons, List.foldl_cons, List.length_cons]
      refine ⟨hrest.1, hrest.2.1, ?_⟩
      rw [hrest.2.2]
      omega

section Classes

variable {symbols : List RmtSymbol}

/-- The extremes of the usable high times. -/
theorem readSpread_spec (hlength : symbols.length ≤ rmtPulseMonitorDataSymbols) :
    (readSpread symbols).usableCount.toNat = (usableSymbols symbols).length ∧
      (usableSymbols symbols ≠ [] →
        ((usableSymbols symbols).map RmtSymbol.highNs).min? =
            some (readSpread symbols).minNs.toNat ∧
          ((usableSymbols symbols).map RmtSymbol.highNs).max? =
            some (readSpread symbols).maxNs.toNat) := by
  have hle := length_usableSymbols_le symbols
  rw [rmtPulseMonitorDataSymbols] at hlength
  have hzero : (0 : UInt32).toNat = 0 := by decide
  have htop : (0xFFFFFFFF : UInt32).toNat = 2 ^ 32 - 1 := by decide
  obtain ⟨hmin, hmax, hcount⟩ := toNat_readSpread (usableSymbols symbols) ⟨0xFFFFFFFF, 0, 0⟩
    (by rw [hzero]; omega)
  rw [← readSpread] at hmin hmax hcount
  dsimp only at hmin hmax hcount
  rw [hzero, Nat.zero_add] at hcount
  refine ⟨hcount, fun hne => ?_⟩
  have hhighs : (usableSymbols symbols).map RmtSymbol.highNs ≠ [] := by
    rwa [ne_eq, List.map_eq_nil_iff]
  rw [hmin, hmax, hzero, htop, foldl_max_eq]
  constructor
  · apply foldl_min_eq hhighs
    intro x hx
    obtain ⟨symbol, -, rfl⟩ := List.mem_map.1 hx
    have hperiod := periodNs_lt symbol
    have hhigh := highNs_le_periodNs symbol
    omega
  · obtain ⟨most, hmost⟩ := Option.isSome_iff_exists.1 (List.isSome_max?_of_ne_nil hhighs)
    rw [hmost, Option.getD_some]

/-! ## The two classes -/

theorem mem_readClass {bit : Bool} {symbol : RmtSymbol} :
    symbol ∈ readClass symbols bit ↔ symbol ∈ usableSymbols symbols ∧
      isReadBit0 rmtPulseMonitorTickNs (readSpread symbols) symbol = !bit := by
  rw [readClass, List.mem_filter]
  cases bit <;> simp

/-- The least and the greatest usable high time are those of two symbols. -/
theorem exists_extremes (hlength : symbols.length ≤ rmtPulseMonitorDataSymbols)
    (hne : usableSymbols symbols ≠ []) :
    (∃ low ∈ usableSymbols symbols, low.highNs = (readSpread symbols).minNs.toNat) ∧
      (∃ high ∈ usableSymbols symbols, high.highNs = (readSpread symbols).maxNs.toNat) ∧
      ∀ symbol ∈ usableSymbols symbols, (readSpread symbols).minNs.toNat ≤ symbol.highNs ∧
        symbol.highNs ≤ (readSpread symbols).maxNs.toNat := by
  obtain ⟨hmin, hmax⟩ := (readSpread_spec hlength).2 hne
  rw [List.min?_eq_some_iff] at hmin
  rw [List.max?_eq_some_iff] at hmax
  obtain ⟨low, hlow, hlowNs⟩ := List.mem_map.1 hmin.1
  obtain ⟨high, hhigh, hhighNs⟩ := List.mem_map.1 hmax.1
  refine ⟨⟨low, hlow, hlowNs⟩, ⟨high, hhigh, hhighNs⟩, fun symbol hsymbol => ?_⟩
  have hmem := List.mem_map_of_mem (f := RmtSymbol.highNs) hsymbol
  exact ⟨hmin.2 _ hmem, hmax.2 _ hmem⟩

/-- The class in numbers that do not wrap. -/
theorem isReadBit0_iff (hlength : symbols.length ≤ rmtPulseMonitorDataSymbols)
    {symbol : RmtSymbol} (hsymbol : symbol ∈ usableSymbols symbols) :
    let lo := (readSpread symbols).minNs.toNat
    let hi := (readSpread symbols).maxNs.toNat
    isReadBit0 rmtPulseMonitorTickNs (readSpread symbols) symbol = true ↔
      if lo + 100 ≤ hi then 2 * symbol.highNs ≤ lo + hi else lo + hi ≤ 1250 := by
  obtain ⟨⟨low, -, hlow⟩, ⟨high, -, hhigh⟩, hbetween⟩ :=
    exists_extremes hlength (List.ne_nil_of_mem hsymbol)
  have hbounds := hbetween symbol hsymbol
  have hlt (s : RmtSymbol) : s.highNs < 2 ^ 21 :=
    Nat.lt_of_le_of_lt (highNs_le_periodNs s) (periodNs_lt s)
  have hlowLt := hlt low
  have hhighLt := hlt high
  have hsplit : (readSpread symbols).maxNs - (readSpread symbols).minNs ≥
      rmtPulseMonitorReadSplitMinNs ↔
        (readSpread symbols).minNs.toNat + 100 ≤ (readSpread symbols).maxNs.toNat := by
    have hlimit : rmtPulseMonitorReadSplitMinNs.toNat = 100 := by decide
    rw [ge_iff_le, UInt32.le_iff_toNat_le, hlimit, UInt32.toNat_sub_of_le]
    · omega
    · rw [UInt32.le_iff_toNat_le]
      omega
  have hsum : ((readSpread symbols).minNs + (readSpread symbols).maxNs).toNat =
      (readSpread symbols).minNs.toNat + (readSpread symbols).maxNs.toNat := by
    rw [UInt32.toNat_add]
    omega
  have htwice : (2 * ws2812TicksToNs (fieldTicks symbol.duration0) rmtPulseMonitorTickNs).toNat =
      2 * symbol.highNs := by
    have htwo : (2 : UInt32).toNat = 2 := by decide
    have hticks := toNat_ticksToNs symbol.duration0
    rw [← RmtSymbol.highNs] at hticks
    rw [UInt32.toNat_mul, htwo, hticks]
    omega
  have hsingle : (2 * rmtPulseMonitorReadSingleSplitNs).toNat = 1250 := by decide
  dsimp only
  rw [isReadBit0]
  by_cases hwide : (readSpread symbols).minNs.toNat + 100 ≤ (readSpread symbols).maxNs.toNat
  · rw [if_pos (hsplit.2 hwide), if_pos hwide, decide_eq_true_iff, UInt32.le_iff_toNat_le, hsum,
      htwice]
  · rw [if_neg (hsplit.not.2 hwide), if_neg hwide, decide_eq_true_iff, UInt32.le_iff_toNat_le,
      hsum, hsingle]

/-- Every symbol of bit 0 is shorter than every symbol of bit 1. -/
theorem readClass_ordered (hlength : symbols.length ≤ rmtPulseMonitorDataSymbols)
    {a b : RmtSymbol} (ha : a ∈ readClass symbols false) (hb : b ∈ readClass symbols true) :
    a.highNs < b.highNs := by
  rw [mem_readClass] at ha hb
  have hzero := (isReadBit0_iff hlength ha.1).1 ha.2
  have hone := (isReadBit0_iff hlength hb.1).not.1 (by rw [hb.2]; decide)
  split at hzero
  · rename_i hwide
    rw [if_pos hwide] at hone
    omega
  · rename_i hnarrow
    rw [if_neg hnarrow] at hone
    omega

/-- Both bits are found exactly when the high times spread far enough. -/
theorem readClass_ne_nil_iff (hlength : symbols.length ≤ rmtPulseMonitorDataSymbols) :
    (readClass symbols false ≠ [] ∧ readClass symbols true ≠ []) ↔
      ∃ a ∈ usableSymbols symbols, ∃ b ∈ usableSymbols symbols, a.highNs + 100 ≤ b.highNs := by
  constructor
  · rintro ⟨hzero, hone⟩
    obtain ⟨a, ha⟩ := List.exists_mem_of_ne_nil _ hzero
    obtain ⟨b, hb⟩ := List.exists_mem_of_ne_nil _ hone
    rw [mem_readClass] at ha hb
    obtain ⟨⟨low, hlow, hlowNs⟩, ⟨high, hhigh, hhighNs⟩, -⟩ :=
      exists_extremes hlength (List.ne_nil_of_mem ha.1)
    refine ⟨low, hlow, high, hhigh, ?_⟩
    by_contra hnarrow
    rw [hlowNs, hhighNs] at hnarrow
    have hleft := (isReadBit0_iff hlength ha.1).1 ha.2
    have hright := (isReadBit0_iff hlength hb.1).not.1 (by rw [hb.2]; decide)
    rw [if_neg hnarrow] at hleft hright
    exact hright hleft
  · rintro ⟨a, ha, b, hb, hwide⟩
    obtain ⟨⟨low, hlow, hlowNs⟩, ⟨high, hhigh, hhighNs⟩, hbetween⟩ :=
      exists_extremes hlength (List.ne_nil_of_mem ha)
    have hspread : (readSpread symbols).minNs.toNat + 100 ≤ (readSpread symbols).maxNs.toNat := by
      have hleast := (hbetween a ha).1
      have hmost := (hbetween b hb).2
      omega
    have hlowBit := isReadBit0_iff hlength hlow
    have hhighBit := isReadBit0_iff hlength hhigh
    dsimp only at hlowBit hhighBit
    rw [if_pos hspread] at hlowBit hhighBit
    constructor
    · apply List.ne_nil_of_mem (a := low)
      rw [mem_readClass]
      exact ⟨hlow, hlowBit.2 (by omega)⟩
    · apply List.ne_nil_of_mem (a := high)
      rw [mem_readClass]
      refine ⟨hhigh, Bool.eq_false_iff.2 fun hbit => ?_⟩
      have hhalf := hhighBit.1 hbit
      omega

/-! ## The sums -/

theorem toNat_readTotals_foldl (entries : List RmtSymbol) (totals : ReadTotals)
    (hcount : totals.count.toNat + entries.length < 2 ^ 32)
    (hhigh : totals.highSumNs.toNat + (entries.map RmtSymbol.highNs).sum < 2 ^ 32)
    (hperiod : totals.periodSumNs.toNat + (entries.map RmtSymbol.periodNs).sum < 2 ^ 32) :
    let after := entries.foldl (ReadTotals.add rmtPulseMonitorTickNs) totals
    after.count.toNat = totals.count.toNat + entries.length ∧
      after.highSumNs.toNat = totals.highSumNs.toNat + (entries.map RmtSymbol.highNs).sum ∧
      after.periodSumNs.toNat =
        totals.periodSumNs.toNat + (entries.map RmtSymbol.periodNs).sum := by
  induction entries generalizing totals with
  | nil => exact ⟨rfl, rfl, rfl⟩
  | cons symbol entries ih =>
      rw [List.length_cons] at hcount
      rw [List.map_cons, List.sum_cons] at hhigh hperiod
      have hticks := toNat_ticksToNs symbol.duration0
      rw [← RmtSymbol.highNs] at hticks
      have hboth : (ws2812TicksToNs (fieldTicks symbol.duration0 + fieldTicks symbol.duration1)
          rmtPulseMonitorTickNs).toNat = symbol.periodNs := by
        have hd0 : symbol.duration0.toNat < 2 ^ 15 := symbol.duration0.isLt
        have hd1 : symbol.duration1.toNat < 2 ^ 15 := symbol.duration1.isLt
        have htick : rmtPulseMonitorTickNs.toNat = 25 := by decide
        rw [ws2812TicksToNs, fieldTicks, fieldTicks, UInt32.toNat_mul, UInt32.toNat_add, htick,
          UInt32.toNat_ofNat', UInt32.toNat_ofNat', RmtSymbol.periodNs]
        omega
      have hcount' : (totals.add rmtPulseMonitorTickNs symbol).count.toNat =
          totals.count.toNat + 1 := by
        rw [ReadTotals.add, UInt32.toNat_add, UInt32.toNat_one]
        omega
      have hhigh' : (totals.add rmtPulseMonitorTickNs symbol).highSumNs.toNat =
          totals.highSumNs.toNat + symbol.highNs := by
        rw [ReadTotals.add, UInt32.toNat_add, hticks]
        omega
      have hperiod' : (totals.add rmtPulseMonitorTickNs symbol).periodSumNs.toNat =
          totals.periodSumNs.toNat + symbol.periodNs := by
        rw [ReadTotals.add, UInt32.toNat_add, hboth]
        omega
      have hrest := ih (totals.add rmtPulseMonitorTickNs symbol) (by rw [hcount']; omega)
        (by rw [hhigh']; omega) (by rw [hperiod']; omega)
      rw [hcount', hhigh', hperiod'] at hrest
      dsimp only at hrest ⊢
      rw [List.foldl_cons, List.length_cons, List.map_cons, List.map_cons, List.sum_cons,
        List.sum_cons]
      omega

theorem length_readClass_le (hlength : symbols.length ≤ rmtPulseMonitorDataSymbols) (bit : Bool) :
    (readClass symbols bit).length ≤ 144 := by
  have hfilter : (readClass symbols bit).length ≤ (usableSymbols symbols).length :=
    List.length_filter_le _ _
  have husable := length_usableSymbols_le symbols
  rw [rmtPulseMonitorDataSymbols] at hlength
  omega

/-- The periods of a class are far from the 32-bit range, and so are the high times. -/
theorem sum_readClass_lt (hlength : symbols.length ≤ rmtPulseMonitorDataSymbols) (bit : Bool) :
    ((readClass symbols bit).map RmtSymbol.highNs).sum < 2 ^ 31 ∧
      ((readClass symbols bit).map RmtSymbol.periodNs).sum < 2 ^ 31 := by
  have hsize := length_readClass_le hlength bit
  have hbound (f : RmtSymbol → Nat) (hf : ∀ symbol, f symbol ≤ 2 ^ 21) :
      ((readClass symbols bit).map f).sum < 2 ^ 31 := by
    have hsum := List.sum_le_card_nsmul ((readClass symbols bit).map f) (2 ^ 21) (by
      intro x hx
      obtain ⟨symbol, -, rfl⟩ := List.mem_map.1 hx
      exact hf symbol)
    rw [List.length_map, smul_eq_mul] at hsum
    omega
  constructor
  · apply hbound
    intro symbol
    exact (highNs_le_periodNs symbol).trans (Nat.le_of_lt (periodNs_lt symbol))
  · apply hbound
    intro symbol
    exact Nat.le_of_lt (periodNs_lt symbol)

/-- The 32-bit sums are the sums. -/
theorem toNat_readTotals (hlength : symbols.length ≤ rmtPulseMonitorDataSymbols) (bit : Bool) :
    (readTotals symbols bit).count.toNat = (readClass symbols bit).length ∧
      (readTotals symbols bit).highSumNs.toNat =
        ((readClass symbols bit).map RmtSymbol.highNs).sum ∧
      (readTotals symbols bit).periodSumNs.toNat =
        ((readClass symbols bit).map RmtSymbol.periodNs).sum := by
  have hsize := length_readClass_le hlength bit
  obtain ⟨hhigh, hperiod⟩ := sum_readClass_lt hlength bit
  have hzero : (0 : UInt32).toNat = 0 := by decide
  have htotals := toNat_readTotals_foldl (readClass symbols bit) ⟨0, 0, 0⟩
    (by rw [hzero]; omega) (by rw [hzero]; omega) (by rw [hzero]; omega)
  rw [← readTotals] at htotals
  simpa only [hzero, Nat.zero_add] using htotals

/-- The average of numbers that leave room is the mean, rounded half up. -/
theorem getRoundedAverage_eq {sum count : UInt32} {xs : List Nat} (hsum : sum.toNat = xs.sum)
    (hcount : count.toNat = xs.length) (hfit : xs.sum + xs.length < 2 ^ 32) :
    ((getRoundedAverage sum count).toNat : ℤ) = round (mean xs) := by
  rw [round_mean, getRoundedAverage]
  by_cases hpos : count > 0
  · have htwo : (2 : UInt32).toNat = 2 := by decide
    rw [if_pos hpos, UInt32.toNat_div, UInt32.toNat_add, UInt32.toNat_div, hsum, hcount, htwo,
      Nat.mod_eq_of_lt (by omega)]
  · rw [gt_iff_lt, UInt32.lt_iff_toNat_lt, UInt32.toNat_zero, hcount] at hpos
    rw [if_neg (by rwa [gt_iff_lt, UInt32.lt_iff_toNat_lt, UInt32.toNat_zero, hcount]),
      Nat.eq_zero_of_not_pos hpos, Nat.div_zero, UInt32.toNat_zero]

/-- A mean of positive numbers does not round to zero. -/
theorem ne_zero_of_round {avg : UInt32} {xs : List Nat} (havg : (avg.toNat : ℤ) = round (mean xs))
    (hne : xs ≠ []) (hpos : ∀ x ∈ xs, 0 < x) : avg ≠ 0 := by
  intro hzero
  have hbounds := roundedAverage_bounds hne hpos
    fun x hx => List.le_sum_of_mem hx
  rw [hzero, round_mean, UInt32.toNat_zero, ← roundedAverage] at havg
  omega

theorem measuresRead (hlength : symbols.length ≤ rmtPulseMonitorDataSymbols) (bit : Bool) :
    MeasuresRead (readClass symbols bit) (readTotals symbols bit).count
      (getRoundedAverage (readTotals symbols bit).highSumNs (readTotals symbols bit).count)
      (getRoundedAverage (readTotals symbols bit).periodSumNs (readTotals symbols bit).count) := by
  have hsize := length_readClass_le hlength bit
  obtain ⟨hhighLt, hperiodLt⟩ := sum_readClass_lt hlength bit
  obtain ⟨hcount, hhigh, hperiod⟩ := toNat_readTotals hlength bit
  have hhighAvg := getRoundedAverage_eq hhigh (by rw [hcount, List.length_map])
    (by rw [List.length_map]; omega)
  have hperiodAvg := getRoundedAverage_eq hperiod (by rw [hcount, List.length_map])
    (by rw [List.length_map]; omega)
  have hpositive : ∀ symbol ∈ readClass symbols bit, 0 < symbol.highNs := by
    intro symbol hsymbol
    exact highNs_pos (isMeasurable_of_mem (mem_readClass.1 hsymbol).1)
  constructor
  · exact hcount
  · exact hhighAvg
  · exact hperiodAvg
  · intro hne
    constructor
    · apply ne_zero_of_round hhighAvg (by rwa [ne_eq, List.map_eq_nil_iff])
      intro x hx
      obtain ⟨symbol, hsymbol, rfl⟩ := List.mem_map.1 hx
      exact hpositive symbol hsymbol
    · apply ne_zero_of_round hperiodAvg (by rwa [ne_eq, List.map_eq_nil_iff])
      intro x hx
      obtain ⟨symbol, hsymbol, rfl⟩ := List.mem_map.1 hx
      exact Nat.lt_of_lt_of_le (hpositive symbol hsymbol) (highNs_le_periodNs symbol)
  · intro hempty
    have hnone : (readTotals symbols bit).count = 0 := by
      rw [← UInt32.toNat_inj, hcount, hempty]
      rfl
    rw [hnone, getRoundedAverage, getRoundedAverage]
    exact ⟨rfl, rfl⟩

end Classes

/-! ## The order of the symbols -/

instance (tickNs : UInt32) : RightCommutative (ReadSpread.add tickNs) where
  right_comm spread a b := by
    simp only [ReadSpread.add, ReadSpread.mk.injEq, and_true]
    constructor
    · grind
    · grind

instance (tickNs : UInt32) : RightCommutative (ReadTotals.add tickNs) where
  right_comm totals a b := by
    have hswap (x y z : UInt32) : x + y + z = x + z + y := by
      rw [UInt32.add_assoc, UInt32.add_comm y, UInt32.add_assoc]
    simp only [ReadTotals.add, ReadTotals.mk.injEq, and_true]
    exact ⟨hswap _ _ _, hswap _ _ _⟩

/-- Only the collection of the usable symbols matters. -/
theorem analyzeWs2812Read_perm {symbols others : List RmtSymbol} {tickNs : UInt32}
    (h : (usableSymbols symbols).Perm (usableSymbols others)) :
    analyzeWs2812Read symbols tickNs = analyzeWs2812Read others tickNs := by
  rw [analyzeWs2812Read, analyzeWs2812Read, h.foldl_eq]
  simp only [(h.filter _).foldl_eq]

/-- The order of all symbols but the last does not matter. -/
theorem analyzeWs2812Read_reorder {first others : List RmtSymbol} (last : RmtSymbol)
    (tickNs : UInt32) (h : others.Perm first) :
    analyzeWs2812Read (others ++ [last]) tickNs = analyzeWs2812Read (first ++ [last]) tickNs := by
  apply analyzeWs2812Read_perm
  rw [usableSymbols_eq, usableSymbols_eq, List.dropLast_concat, List.dropLast_concat]
  exact h.filter isMeasurable

/-! ## The result -/

/-- The measurement in terms of the two classes; with nothing usable, everything is zero. -/
theorem analyzeWs2812Read_eq {symbols : List RmtSymbol}
    (hlength : symbols.length ≤ rmtPulseMonitorDataSymbols) :
    let result := analyzeWs2812Read symbols rmtPulseMonitorTickNs
    let zeros := readTotals symbols false
    let ones := readTotals symbols true
    result.1 = decide (8 ≤ (usableSymbols symbols).length) ∧
      result.2.usableCount.toNat = (usableSymbols symbols).length ∧
      result.2.bit0Count = zeros.count ∧
      result.2.bit0HighAvgNs = getRoundedAverage zeros.highSumNs zeros.count ∧
      result.2.bit0PeriodAvgNs = getRoundedAverage zeros.periodSumNs zeros.count ∧
      result.2.bit1Count = ones.count ∧
      result.2.bit1HighAvgNs = getRoundedAverage ones.highSumNs ones.count ∧
      result.2.bit1PeriodAvgNs = getRoundedAverage ones.periodSumNs ones.count := by
  obtain ⟨hcount, -⟩ := readSpread_spec hlength
  have hzeros : (usableSymbols symbols).filter
      (isReadBit0 rmtPulseMonitorTickNs (readSpread symbols)) = readClass symbols false := by
    rw [readClass]
    simp only [Bool.bne_false]
  have hones : ((usableSymbols symbols).filter fun symbol =>
      !isReadBit0 rmtPulseMonitorTickNs (readSpread symbols) symbol) = readClass symbols true := by
    rw [readClass]
    simp only [Bool.bne_true]
  dsimp only
  rw [analyzeWs2812Read, ← readSpread, hzeros, hones, ← readTotals, ← readTotals]
  by_cases hnone : (readSpread symbols).usableCount = 0
  · rw [if_pos hnone]
    rw [hnone, UInt32.toNat_zero] at hcount
    have hempty : usableSymbols symbols = [] := List.length_eq_zero_iff.1 hcount.symm
    have htotals (bit : Bool) : readTotals symbols bit = ⟨0, 0, 0⟩ := by
      rw [readTotals, readClass, hempty]
      rfl
    rw [htotals, htotals, hempty]
    decide
  · rw [if_neg hnone]
    refine ⟨?_, hcount, rfl, rfl, rfl, rfl, rfl, rfl⟩
    have hmin : rmtPulseMonitorReadMinBits.toNat = 8 := by decide
    apply decide_eq_decide.2
    rw [ge_iff_le, UInt32.le_iff_toNat_le, hmin, hcount]

/-- The two classes make up the usable symbols. -/
theorem length_readClass_add (symbols : List RmtSymbol) :
    (readClass symbols false).length + (readClass symbols true).length =
      (usableSymbols symbols).length := by
  rw [readClass, readClass, ← List.length_append]
  simp only [Bool.bne_false, Bool.bne_true]
  exact (List.filter_append_perm _ _).length_eq

/-- A capture of at most 144 symbols is measured exactly: both classes with their means, the sums
without a carry out of 32 bits, bit 0 shorter than bit 1, both found when the high times spread by
100 ns, whatever the order of the symbols before the last, and accepted from 8 usable symbols on. -/
theorem analyzeWs2812Read_measures (symbols : List RmtSymbol)
    (hlength : symbols.length ≤ rmtPulseMonitorDataSymbols) :
    let result := analyzeWs2812Read symbols rmtPulseMonitorTickNs
    usableSymbols symbols = symbols.dropLast.filter isMeasurable ∧
      result.2.usableCount.toNat = (usableSymbols symbols).length ∧
      result.2.bit0Count.toNat + result.2.bit1Count.toNat = result.2.usableCount.toNat ∧
      MeasuresRead (readClass symbols false) result.2.bit0Count result.2.bit0HighAvgNs
        result.2.bit0PeriodAvgNs ∧
      MeasuresRead (readClass symbols true) result.2.bit1Count result.2.bit1HighAvgNs
        result.2.bit1PeriodAvgNs ∧
      (∀ bit, (readTotals symbols bit).highSumNs.toNat =
          ((readClass symbols bit).map RmtSymbol.highNs).sum ∧
        (readTotals symbols bit).periodSumNs.toNat =
          ((readClass symbols bit).map RmtSymbol.periodNs).sum) ∧
      (∀ a ∈ readClass symbols false, ∀ b ∈ readClass symbols true, a.highNs < b.highNs) ∧
      ((readClass symbols false ≠ [] ∧ readClass symbols true ≠ []) ↔
        ∃ a ∈ usableSymbols symbols, ∃ b ∈ usableSymbols symbols, a.highNs + 100 ≤ b.highNs) ∧
      (∀ first others last, symbols = first ++ [last] → others.Perm first →
        analyzeWs2812Read (others ++ [last]) rmtPulseMonitorTickNs = result) ∧
      (result.1 = true ↔ 8 ≤ (usableSymbols symbols).length) := by
  obtain ⟨haccepted, husable, hcount0, hhigh0, hperiod0, hcount1, hhigh1, hperiod1⟩ :=
    analyzeWs2812Read_eq hlength
  have hzeros := measuresRead hlength false
  have hones := measuresRead hlength true
  rw [← hhigh0, ← hperiod0, ← hcount0] at hzeros
  rw [← hhigh1, ← hperiod1, ← hcount1] at hones
  refine ⟨usableSymbols_eq symbols, husable, ?_, hzeros, hones,
    fun bit => (toNat_readTotals hlength bit).2,
    fun a ha b hb => readClass_ordered hlength ha hb, readClass_ne_nil_iff hlength, ?_, ?_⟩
  · rw [hzeros.count, hones.count, husable, length_readClass_add]
  · intro first others last hsymbols hperm
    rw [hsymbols]
    exact analyzeWs2812Read_reorder last rmtPulseMonitorTickNs hperm
  · rw [haccepted, decide_eq_true_iff]

/-- Part of the distorted frame, a symbol without a level and one without a low time. -/
def foreignSymbols : List RmtSymbol :=
  distortedCapture.take 12 ++ [⟨16, false, 34, false⟩, ⟨16, true, 0, false⟩]

def lastSymbol : RmtSymbol := ⟨32, true, 18, false⟩

theorem analyzeWs2812Read_measures_foreign :
    (analyzeWs2812Read (foreignSymbols ++ [lastSymbol]) rmtPulseMonitorTickNs).1 = true ∧
      (∃ result, (analyzeWs2812Read (foreignSymbols ++ [lastSymbol]) rmtPulseMonitorTickNs).2 =
          result ∧ result.usableCount.toNat = 12 ∧
        (result.bit0Count.toNat = 7 ∧ (result.bit0HighAvgNs.toNat : ℤ) = 414 ∧
          (result.bit0PeriodAvgNs.toNat : ℤ) = 1264) ∧
        result.bit1Count.toNat = 5 ∧ (result.bit1HighAvgNs.toNat : ℤ) = 805 ∧
          (result.bit1PeriodAvgNs.toNat : ℤ) = 1255) ∧
      analyzeWs2812Read (foreignSymbols.reverse ++ [lastSymbol]) rmtPulseMonitorTickNs =
        analyzeWs2812Read (foreignSymbols ++ [lastSymbol]) rmtPulseMonitorTickNs := by
  obtain ⟨-, husable, -, hzeros, hones, -, -, -, hreorder, haccepted⟩ :=
    analyzeWs2812Read_measures (foreignSymbols ++ [lastSymbol]) (by decide +kernel)
  have hhigh := hzeros.high
  have hperiod := hzeros.period
  have hhigh' := hones.high
  have hperiod' := hones.period
  rw [round_mean] at hhigh hperiod hhigh' hperiod'
  refine ⟨haccepted.2 (by decide +kernel), ⟨_, rfl, ?_, ⟨?_, ?_, ?_⟩, ?_, ?_, ?_⟩,
    hreorder _ _ _ rfl (List.reverse_perm foreignSymbols)⟩
  · exact husable.trans (by decide +kernel)
  · exact hzeros.count.trans (by decide +kernel)
  · exact hhigh.trans (by decide +kernel)
  · exact hperiod.trans (by decide +kernel)
  · exact hones.count.trans (by decide +kernel)
  · exact hhigh'.trans (by decide +kernel)
  · exact hperiod'.trans (by decide +kernel)

end StripTuner.Ws2812
