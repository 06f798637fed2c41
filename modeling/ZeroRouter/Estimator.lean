import ZeroRouter.Db.Admission
import Mathlib.Data.Rat.Floor

/-!
# The estimator's learned output bound

`src/router/src/estimator.rs`: a warm segment's 99th percentile, with headroom,
between a quarter of what was requested and all of it.  The percentiles are the
rationals the source's floats denote.
-/

namespace ZeroRouter

structure OutputPercentiles where
  p50 : ℚ
  p90 : ℚ
  p99 : ℚ
  rows : Int
  deriving DecidableEq, Repr

/-- `RESERVATION_HEADROOM`. -/
def reservationHeadroom : ℚ := 5 / 4

/-- `RESERVATION_FLOOR_FRACTION`. -/
def reservationFloorFraction : ℚ := 1 / 4

/-- `TAIL_GATE_RATIO`. -/
def tailGateRatio : ℚ := 8

/-- `learned_output_bound`. -/
def learnedOutputBound (percentiles : OutputPercentiles) (requestedMaxTokens : Nat) : Option Nat :=
  if percentiles.p50 ≤ 0 ∨ percentiles.p99 / percentiles.p50 > tailGateRatio then none
  else
    let sized := ⌈percentiles.p99 * reservationHeadroom⌉
    let floor := ⌈(requestedMaxTokens : ℚ) * reservationFloorFraction⌉
    some (min (max sized floor) requestedMaxTokens).toNat

/-- A learned bound lies between a quarter of the requested one and all of it. -/
theorem learnedOutputBound_between {percentiles : OutputPercentiles} {requestedMaxTokens bound : Nat}
    (h : learnedOutputBound percentiles requestedMaxTokens = some bound) :
    requestedMaxTokens ≤ 4 * bound ∧ bound ≤ requestedMaxTokens := by
  unfold learnedOutputBound at h
  split at h
  · cases h
  simp only [Option.some.injEq] at h
  have floor : (requestedMaxTokens : ℚ) * reservationFloorFraction ≤
      ⌈(requestedMaxTokens : ℚ) * reservationFloorFraction⌉ := Int.le_ceil _
  generalize ⌈(requestedMaxTokens : ℚ) * reservationFloorFraction⌉ = quarter at h floor
  generalize ⌈percentiles.p99 * reservationHeadroom⌉ = sized at h
  have covers : (requestedMaxTokens : Int) ≤ 4 * quarter := by
    have scaled : (requestedMaxTokens : ℚ) ≤ 4 * quarter := by
      rw [reservationFloorFraction, mul_one_div, div_le_iff₀ (by norm_num)] at floor
      rw [mul_comm]
      exact floor
    exact_mod_cast scaled
  omega

/-- A request whose full bound is `full`, with no learned bound under a quarter of
    it. -/
def AdmissionRequest.HasShape (request : AdmissionRequest) (full : Nat) : Prop :=
  request.sizing.full.outputTokens = full ∧
    ∀ learned ∈ request.sizing.learned, (full : Int) ≤ 4 * learned.outputTokens

instance (request : AdmissionRequest) (full : Nat) : Decidable (request.HasShape full) :=
  inferInstanceAs (Decidable (_ ∧ _))

/-- Every request the estimator sized has the shape of its own full bound. -/
theorem hasShape_of_learnedOutputBound {request : AdmissionRequest} {full : Nat}
    (hfull : request.sizing.full.outputTokens = full)
    (hlearned : ∀ learned ∈ request.sizing.learned, ∃ percentiles bound,
      learnedOutputBound percentiles full = some bound ∧ learned.outputTokens = bound) :
    request.HasShape full := by
  refine ⟨hfull, fun learned hmem => ?_⟩
  obtain ⟨percentiles, bound, measured, hbound⟩ := hlearned learned hmem
  have quarter := (learnedOutputBound_between measured).1
  rw [hbound]
  exact_mod_cast quarter

end ZeroRouter
