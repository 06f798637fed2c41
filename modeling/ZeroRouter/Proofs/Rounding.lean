import ZeroRouter.Proofs.DepositFee

/-!
# What a decimal keeps of an exact result

`fitDecimal` picks the largest scale whose rounded mantissa fits, so two results are
often kept at different scales.  Order survives all the same, and what is lost is half
a unit of the scale that was kept.
-/

namespace ZeroRouter

variable {x kept : Decimal}

/-! ## Banker's rounding -/

/-- Rounding goes to one of the two neighbours, and to the nearer. -/
theorem roundHalfEven_cases (x : Decimal) :
    (roundHalfEven x = ⌊x⌋ ∧ x - ⌊x⌋ ≤ 1 / 2) ∨
      (roundHalfEven x = ⌊x⌋ + 1 ∧ 1 / 2 ≤ x - ⌊x⌋) := by
  unfold roundHalfEven
  by_cases below : x - ⌊x⌋ < 1 / 2
  · left
    simp only [if_pos below]
    exact ⟨trivial, below.le⟩
  · by_cases above : 1 / 2 < x - ⌊x⌋
    · right
      simp only [if_neg below, if_pos above]
      exact ⟨trivial, above.le⟩
    · have tie : x - ⌊x⌋ = 1 / 2 := le_antisymm (not_lt.mp above) (not_lt.mp below)
      simp only [if_neg below, if_neg above]
      by_cases even : ⌊x⌋ % 2 = 0
      · left
        rw [if_pos even]
        exact ⟨rfl, tie.le⟩
      · right
        rw [if_neg even]
        exact ⟨rfl, tie.ge⟩

/-- Rounding moves a value by at most one half. -/
theorem abs_roundHalfEven_sub_le (x : Decimal) : |(roundHalfEven x : Decimal) - x| ≤ 1 / 2 := by
  have low := Int.floor_le x
  have high := Int.lt_floor_add_one x
  rcases roundHalfEven_cases x with ⟨rounded, near⟩ | ⟨rounded, near⟩
  · rw [rounded, abs_le]
    constructor <;> linarith
  · rw [rounded, abs_le]
    push_cast
    constructor <;> linarith

theorem roundHalfEven_mono : Monotone roundHalfEven := by
  intro x y order
  have floors := Int.floor_mono order
  by_cases same : ⌊x⌋ = ⌊y⌋
  · -- between the same two neighbours the rest decides, and at a tie the same parity
    unfold roundHalfEven
    rw [same]
    by_cases below : y - ⌊y⌋ < 1 / 2
    · have belowX : x - ⌊y⌋ < 1 / 2 := by linarith
      simp only [if_pos below, if_pos belowX]
      exact le_refl _
    · by_cases above : 1 / 2 < y - ⌊y⌋
      · simp only [if_neg below, if_pos above]
        split
        · omega
        · split
          · exact le_refl _
          · split <;> omega
      · have aboveX : ¬ 1 / 2 < x - ⌊y⌋ := by linarith [not_lt.mp above]
        simp only [if_neg below, if_neg above, if_neg aboveX]
        split
        · split <;> omega
        · exact le_refl _
  · have apart : ⌊x⌋ + 1 ≤ ⌊y⌋ := by omega
    have up : roundHalfEven x ≤ ⌊x⌋ + 1 := by
      rcases roundHalfEven_cases x with ⟨rounded, -⟩ | ⟨rounded, -⟩ <;> omega
    have down : ⌊y⌋ ≤ roundHalfEven y := by
      rcases roundHalfEven_cases y with ⟨rounded, -⟩ | ⟨rounded, -⟩ <;> omega
    omega

theorem roundHalfEven_nonneg (nonneg : 0 ≤ x) : 0 ≤ roundHalfEven x := by
  have rounded := roundHalfEven_mono nonneg
  have zero := roundHalfEven_intCast 0
  rw [Int.cast_zero] at zero
  rwa [zero] at rounded

/-- What lies past the middle is rounded up. -/
theorem lt_roundHalfEven {n : ℤ} (past : (n : Decimal) + 1 / 2 < x) :
    n < roundHalfEven x := by
  have near := (abs_le.mp (abs_roundHalfEven_sub_le x)).1
  have above : (n : Decimal) < roundHalfEven x := by linarith
  exact_mod_cast above

/-! ## The scale that is kept -/

/-- The scale a value is kept at: it fits there, and at no larger one. -/
structure KeptAt (x kept : Decimal) (scale : Nat) : Prop where
  bound : scale ≤ 28
  rounded : kept = roundHalfEven (x * 10 ^ scale) / 10 ^ scale
  fits : |(roundHalfEven (x * 10 ^ scale) : Decimal)| ≤ decimalMax
  finest : ∀ finer, scale < finer → finer ≤ 28 →
    decimalMax < |(roundHalfEven (x * 10 ^ finer) : Decimal)|

theorem fitDecimal_keptAt (h : fitDecimal x = some kept) :
    ∃ scale, KeptAt x kept scale := by
  obtain ⟨above, scale, below, scales, here, skipped⟩ := List.findSome?_eq_some_iff.mp h
  have scanned : scale ∈ (List.range 29).reverse := by
    rw [scales]
    simp
  have bound : scale < 29 := by simpa using scanned
  simp only at here
  split at here
  · next fits =>
    refine ⟨scale, by omega, (Option.some.inj here).symm, fits, ?_⟩
    intro finer larger inside
    have listed : finer ∈ (List.range 29).reverse := by
      simp only [List.mem_reverse, List.mem_range]
      omega
    -- what the scan meets before `scale` is larger, what it meets after is smaller
    have descend := scales_descend
    rw [scales] at listed descend
    have before : finer ∈ above := by
      rcases List.mem_append.mp listed with before | rest
      · exact before
      · rcases List.mem_cons.mp rest with rfl | after
        · omega
        · have order := List.pairwise_cons.mp (List.pairwise_append.mp descend).2.1
          have := order.1 finer after
          omega
    have refused := skipped finer before
    simp only at refused
    split at refused
    · cases refused
    · next tooLarge => exact not_le.mp tooLarge
  · cases here

/-- A value inside the range is kept at some scale. -/
theorem fitDecimal_isSome (inside : |x| ≤ decimalMax) :
    ∃ kept, fitDecimal x = some kept := by
  apply Option.ne_none_iff_exists'.mp
  intro refused
  have zero := List.findSome?_eq_none_iff.mp refused 0 (by simp)
  simp only [pow_zero, mul_one, div_one] at zero
  have whole : decimalMax = ((79228162514264337593543950335 : ℤ) : Decimal) := by
    norm_num [decimalMax]
  rw [whole, abs_le] at inside
  have high := roundHalfEven_mono inside.2
  have low := roundHalfEven_mono inside.1
  rw [roundHalfEven_intCast] at high
  rw [← Int.cast_neg, roundHalfEven_intCast] at low
  have fits : |(roundHalfEven x : Decimal)| ≤ decimalMax := by
    rw [whole, ← Int.cast_abs]
    exact_mod_cast abs_le.mpr ⟨low, high⟩
  rw [if_pos fits] at zero
  cases zero

theorem fitDecimal_nonneg (nonneg : 0 ≤ x) (h : fitDecimal x = some kept) :
    0 ≤ kept := by
  obtain ⟨scale, held⟩ := fitDecimal_keptAt h
  rw [held.rounded]
  have mantissa := roundHalfEven_nonneg (x := x * 10 ^ scale) (by positivity)
  have : (0 : Decimal) ≤ roundHalfEven (x * 10 ^ scale) := by exact_mod_cast mantissa
  positivity

theorem KeptAt.mantissa_le {scale : Nat} (held : KeptAt x kept scale) :
    roundHalfEven (x * 10 ^ scale) ≤ 79228162514264337593543950335 := by
  have fits := (abs_le.mp held.fits).2
  unfold decimalMax at fits
  exact_mod_cast fits

/-- Past the scale that is kept the value alone is out of range. -/
theorem KeptAt.large {scale finer : Nat} (held : KeptAt x kept scale) (nonneg : 0 ≤ x)
    (larger : scale < finer) (inside : finer ≤ 28) :
    79228162514264337593543950336 ≤ roundHalfEven (x * 10 ^ finer) := by
  have tooLarge := held.finest finer larger inside
  have mantissa := roundHalfEven_nonneg (x := x * 10 ^ finer) (by positivity)
  rw [abs_of_nonneg (by exact_mod_cast mantissa)] at tooLarge
  unfold decimalMax at tooLarge
  have : (79228162514264337593543950335 : ℤ) < roundHalfEven (x * 10 ^ finer) := by
    exact_mod_cast tooLarge
  omega

/-- A smaller value is kept at least as finely. -/
theorem KeptAt.scale_anti {y keptX keptY : Decimal} {scaleX scaleY : Nat}
    (heldX : KeptAt x keptX scaleX) (heldY : KeptAt y keptY scaleY) (nonneg : 0 ≤ x)
    (order : x ≤ y) : scaleY ≤ scaleX := by
  by_contra finer
  have tooLarge := heldX.large nonneg (not_le.mp finer) heldY.bound
  have scaled : x * 10 ^ scaleY ≤ y * 10 ^ scaleY := by gcongr
  have rounded := roundHalfEven_mono scaled
  have fits := heldY.mantissa_le
  omega

/-- Keeping what fits never reverses an order. -/
theorem fitDecimal_mono {y keptX keptY : Decimal} (nonneg : 0 ≤ x) (order : x ≤ y)
    (hx : fitDecimal x = some keptX) (hy : fitDecimal y = some keptY) : keptX ≤ keptY := by
  obtain ⟨scaleX, heldX⟩ := fitDecimal_keptAt hx
  obtain ⟨scaleY, heldY⟩ := fitDecimal_keptAt hy
  have scales := heldX.scale_anti heldY nonneg order
  rw [heldX.rounded, heldY.rounded]
  rcases Nat.eq_or_lt_of_le scales with rfl | coarser
  · have scaled : x * 10 ^ scaleY ≤ y * 10 ^ scaleY := by gcongr
    have rounded : (roundHalfEven (x * 10 ^ scaleY) : Decimal) ≤
        roundHalfEven (y * 10 ^ scaleY) := by
      exact_mod_cast roundHalfEven_mono scaled
    gcongr
  · -- one scale further `y` leaves the range, so at its own its mantissa passes a tenth of it
    have past := heldY.large (nonneg.trans order) (Nat.lt_succ_self scaleY)
      (show scaleY + 1 ≤ 28 from le_trans coarser heldX.bound)
    have near := (abs_le.mp (abs_roundHalfEven_sub_le (y * 10 ^ (scaleY + 1)))).2
    have past' : (79228162514264337593543950336 : Decimal) ≤
        roundHalfEven (y * 10 ^ (scaleY + 1)) := by exact_mod_cast past
    rw [pow_succ, ← mul_assoc] at near past'
    have tenth := lt_roundHalfEven (n := 7922816251426433759354395033) (x := y * 10 ^ scaleY)
      (by push_cast; linarith)
    have tenth' : (7922816251426433759354395034 : Decimal) ≤ roundHalfEven (y * 10 ^ scaleY) := by
      exact_mod_cast tenth
    have fits : (roundHalfEven (x * 10 ^ scaleX) : Decimal) ≤ 79228162514264337593543950335 := by
      exact_mod_cast heldX.mantissa_le
    have unit : (10 : Decimal) ^ (scaleY + 1) ≤ 10 ^ scaleX :=
      pow_le_pow_right₀ (by norm_num) coarser
    have positive : (0 : Decimal) < 10 ^ scaleY := by positivity
    calc (roundHalfEven (x * 10 ^ scaleX) : Decimal) / 10 ^ scaleX
        ≤ 79228162514264337593543950335 / 10 ^ scaleX := by gcongr
      _ ≤ 79228162514264337593543950335 / 10 ^ (scaleY + 1) := by gcongr
      _ ≤ 7922816251426433759354395034 * 10 / 10 ^ (scaleY + 1) := by
          gcongr
          norm_num
      _ = 7922816251426433759354395034 / 10 ^ scaleY := by
          rw [pow_succ]
          exact mul_div_mul_right _ _ (by norm_num)
      _ ≤ roundHalfEven (y * 10 ^ scaleY) / 10 ^ scaleY := by gcongr

/-- What is lost is half a unit of the last place, 28 places or 96 bits in. -/
theorem fitDecimal_error (nonneg : 0 ≤ x) (h : fitDecimal x = some kept) :
    |kept - x| ≤ 5 * x / decimalMax + 1 / 10 ^ 28 := by
  obtain ⟨scale, held⟩ := fitDecimal_keptAt h
  have positive : (0 : Decimal) < 10 ^ scale := by positivity
  have lost : |kept - x| ≤ 1 / 2 / 10 ^ scale := by
    have split : kept - x = (roundHalfEven (x * 10 ^ scale) - x * 10 ^ scale) / 10 ^ scale := by
      rw [held.rounded, sub_div, mul_div_cancel_right₀ _ positive.ne']
    rw [split, abs_div, abs_of_pos positive]
    exact div_le_div_of_nonneg_right (abs_roundHalfEven_sub_le _) positive.le
  have share : 0 ≤ 5 * x / decimalMax := by
    unfold decimalMax
    positivity
  rcases Nat.eq_or_lt_of_le held.bound with rfl | coarse
  · have half : (1 : Decimal) / 2 / 10 ^ 28 ≤ 1 / 10 ^ 28 := by norm_num
    linarith
  · -- the value fills the range one scale further
    have past := held.large nonneg (Nat.lt_succ_self scale) coarse
    have near := (abs_le.mp (abs_roundHalfEven_sub_le (x * 10 ^ (scale + 1)))).2
    have past' : (79228162514264337593543950336 : Decimal) ≤
        roundHalfEven (x * 10 ^ (scale + 1)) := by exact_mod_cast past
    rw [pow_succ, ← mul_assoc] at near past'
    have filled : decimalMax ≤ x * 10 ^ scale * 10 := by
      unfold decimalMax
      linarith
    have unit : (1 : Decimal) / 2 / 10 ^ scale ≤ 5 * x / decimalMax := by
      rw [div_div, div_le_div_iff₀ (by positivity) (by norm_num [decimalMax])]
      linarith
    have tiny : (0 : Decimal) ≤ 1 / 10 ^ 28 := by positivity
    linarith

end ZeroRouter
