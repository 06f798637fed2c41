import Mathlib.Order.Basic
import Mathlib.Algebra.Order.Ring.Int
import Mathlib.Tactic.IntervalCases

/-!
# Truncating an instant to its calendar bucket

`Truncation` is what makes bucketed totals answer range questions: a map to the
start of the bucket that is monotone, idempotent and never above its argument.
For such a map the events at or after a bucket start are exactly the events
whose own bucket starts there or later (`Truncation.start_le_iff`).

Instants are integers counting microseconds from 1970-01-01T00:00:00 UTC.  UTC
days are blocks of equal length; UTC weeks start on Monday; UTC months follow the
proleptic Gregorian calendar, computed in years that start in March so that the
leap day comes last.

The module names no particular program.
-/

namespace Civil

/-- A rounding-down of a linear order to bucket starts. -/
structure Truncation (τ : Type) [LinearOrder τ] where
  start : τ → τ
  mono : ∀ {s t : τ}, s ≤ t → start s ≤ start t
  idem : ∀ t : τ, start (start t) = start t
  le_self : ∀ t : τ, start t ≤ t

namespace Truncation

variable {τ : Type} [LinearOrder τ] (T : Truncation τ)

/-- Selecting by bucket start and selecting by instant agree at every bucket
    boundary, later buckets included. -/
theorem start_le_iff (now t : τ) : T.start now ≤ T.start t ↔ T.start now ≤ t := by
  constructor
  · intro h
    exact h.trans (T.le_self t)
  · intro h
    calc T.start now = T.start (T.start now) := (T.idem now).symm
      _ ≤ T.start t := T.mono h

end Truncation

/-- Rounding down to the last of an increasing sequence of boundaries. -/
def Truncation.ofBoundaries (index : Int → Int) (boundary : Int → Int)
    (below : ∀ t, boundary (index t) ≤ t) (above : ∀ t, t < boundary (index t + 1))
    (increasing : ∀ k, boundary k < boundary (k + 1)) : Truncation Int :=
  have strict : ∀ {j k : Int}, j < k → boundary j < boundary k := by
    intro j k hjk
    induction k, hjk using Int.leInduction with
    | base => exact increasing j
    | succ k _ ih => exact lt_trans ih (increasing k)
  have monotone : ∀ {j k : Int}, j ≤ k → boundary j ≤ boundary k := by
    intro j k hjk
    rcases eq_or_lt_of_le hjk with rfl | hlt
    · exact le_refl _
    · exact le_of_lt (strict hlt)
  have indexMono : ∀ {s t : Int}, s ≤ t → index s ≤ index t := by
    intro s t hst
    by_contra hlt
    have : boundary (index t + 1) ≤ boundary (index s) := monotone (by omega)
    have := above t
    have := below s
    omega
  { start := fun t => boundary (index t)
    mono := fun hst => monotone (indexMono hst)
    idem := by
      intro t
      have hle : index (boundary (index t)) ≤ index t := indexMono (below t)
      have hge : index t ≤ index (boundary (index t)) := by
        by_contra hlt
        have : boundary (index (boundary (index t)) + 1) ≤ boundary (index t) :=
          monotone (by omega)
        have := above (boundary (index t))
        omega
      rw [le_antisymm hle hge]
    le_self := below }

/-! ## Days and weeks -/

/-- Microseconds in a UTC day, which has no leap seconds here. -/
def dayLength : Int := 86400000000

/-- The number of the UTC day an instant falls in; day 0 is 1970-01-01. -/
def dayOf (t : Int) : Int := t / dayLength

/-- The Monday on or before a day; day 0 was a Thursday. -/
def mondayOf (day : Int) : Int := day - (day + 3) % 7

/-- Rounding down to UTC midnight. -/
def utcDay : Truncation Int :=
  .ofBoundaries dayOf (· * dayLength)
    (fun t => by simp only [dayOf, dayLength]; omega)
    (fun t => by simp only [dayOf, dayLength]; omega)
    (fun k => by simp only [dayLength]; omega)

/-- Rounding down to Monday, UTC midnight. -/
def utcWeek : Truncation Int :=
  .ofBoundaries (fun t => (dayOf t + 3) / 7) (fun k => (7 * k - 3) * dayLength)
    (fun t => by simp only [dayOf, dayLength]; omega)
    (fun t => by simp only [dayOf, dayLength]; omega)
    (fun k => by simp only [dayLength]; omega)

theorem utcWeek_start (t : Int) : utcWeek.start t = mondayOf (dayOf t) * dayLength := by
  simp only [utcWeek, Truncation.ofBoundaries, mondayOf]
  congr 1
  omega

/-! ## Months -/

/-- Days from 1 March of year 0 to 1 March of year `y`. -/
def marchYearStart (y : Int) : Int := 365 * y + y / 4 - y / 100 + y / 400

theorem marchYearStart_lt (y : Int) :
    marchYearStart y + 365 ≤ marchYearStart (y + 1) ∧
      marchYearStart (y + 1) ≤ marchYearStart y + 366 := by
  simp only [marchYearStart]
  omega

/-- The March-based year of a day counted from 1 March of year 0: an estimate
    from the mean year length, corrected by at most one. -/
def marchYearOf (z : Int) : Int :=
  let estimate := 400 * z / 146097
  if z < marchYearStart estimate then estimate - 1
  else if marchYearStart (estimate + 1) ≤ z then estimate + 1
  else estimate

theorem marchYearOf_spec (z : Int) :
    marchYearStart (marchYearOf z) ≤ z ∧ z < marchYearStart (marchYearOf z + 1) := by
  unfold marchYearOf
  dsimp only
  split
  · simp only [marchYearStart] at *
    omega
  · split <;> (simp only [marchYearStart] at *; omega)

/-- Months are counted from March of year 0, so month `12 * y + m` is the
    `m`-th month after March of year `y`.  The result is a day number from
    1970-01-01. -/
def monthFirstDay (k : Int) : Int :=
  marchYearStart (k / 12) + (153 * (k % 12) + 2) / 5 - 719468

/-- The month a day falls in. -/
def monthOf (day : Int) : Int :=
  let z := day + 719468
  let y := marchYearOf z
  12 * y + (5 * (z - marchYearStart y) + 2) / 153

theorem monthFirstDay_lt (k : Int) : monthFirstDay k < monthFirstDay (k + 1) := by
  have year := marchYearStart_lt (k / 12)
  simp only [monthFirstDay]
  by_cases last : k % 12 = 11
  · have hdiv : (k + 1) / 12 = k / 12 + 1 := by omega
    have hmod : (k + 1) % 12 = 0 := by omega
    rw [hdiv, hmod]
    omega
  · have hdiv : (k + 1) / 12 = k / 12 := by omega
    have hmod : (k + 1) % 12 = k % 12 + 1 := by omega
    rw [hdiv, hmod]
    omega

theorem monthOf_spec (day : Int) :
    monthFirstDay (monthOf day) ≤ day ∧ day < monthFirstDay (monthOf day + 1) := by
  have year := marchYearOf_spec (day + 719468)
  have next := marchYearStart_lt (marchYearOf (day + 719468))
  simp only [monthOf, monthFirstDay]
  generalize marchYearOf (day + 719468) = y at *
  generalize hm : (5 * (day + 719468 - marchYearStart y) + 2) / 153 = m
  have hdiv : (12 * y + m) / 12 = y := by omega
  have hmod : (12 * y + m) % 12 = m := by omega
  rw [hdiv, hmod]
  refine ⟨by omega, ?_⟩
  by_cases last : m = 11
  · have hdiv' : (12 * y + m + 1) / 12 = y + 1 := by omega
    have hmod' : (12 * y + m + 1) % 12 = 0 := by omega
    rw [hdiv', hmod']
    omega
  · have hdiv' : (12 * y + m + 1) / 12 = y := by omega
    have hmod' : (12 * y + m + 1) % 12 = m + 1 := by omega
    rw [hdiv', hmod']
    omega

/-- Rounding down to the first of the month, UTC midnight. -/
def utcMonth : Truncation Int :=
  .ofBoundaries (fun t => monthOf (dayOf t)) (fun k => monthFirstDay k * dayLength)
    (fun t => by
      have := (monthOf_spec (dayOf t)).1
      simp only [dayLength, dayOf] at *
      omega)
    (fun t => by
      have := (monthOf_spec (dayOf t)).2
      simp only [dayLength, dayOf] at *
      omega)
    (fun k => by
      have := monthFirstDay_lt k
      simp only [dayLength]
      omega)

-- 2024-02-29T23:59:59.999999Z is still in the month that began 2024-02-01.
example : utcMonth.start 1709251199999999 = 1706745600000000 := by decide
example : utcMonth.start 1709251200000000 = 1709251200000000 := by decide

end Civil
