import Mathlib.Algebra.Order.Group.MinMax
import Mathlib.Algebra.Order.BigOperators.Group.List
import Mathlib.Tactic.Abel

/-!
# Charging what exceeds a running allowance

A sequence of charges `c₁, c₂, …` draws on one allowance `A`.  Each charge is
billed only for the part of it that the allowance no longer covers.  Because the
allowance is consumed by the whole charge, each bill is the growth of one
function of the running total (`billable_eq`), so the bills of a run telescope
(`sum_bills`) and their sum forgets the order they were made in.

Everything is over an arbitrary linearly ordered group; the module names no
program.
-/

namespace Allowance

variable {α : Type} [AddCommGroup α] [LinearOrder α] [IsOrderedAddMonoid α]

/-- What is left of the allowance once `consumed` has been drawn. -/
def remaining (allowance consumed : α) : α := max (allowance - consumed) 0

/-- The part of a charge the remaining allowance does not cover. -/
def billable (allowance charge consumed : α) : α := max (charge - remaining allowance consumed) 0

/-- What a running total exceeds the allowance by. -/
def excess (allowance total : α) : α := max (total - allowance) 0

variable {A c t : α}

omit [IsOrderedAddMonoid α] in
theorem billable_nonneg : 0 ≤ billable A c t := le_max_right _ _

theorem billable_le (hc : 0 ≤ c) : billable A c t ≤ c :=
  max_le (sub_le_self c (le_max_right _ _)) hc

/-- A charge the remaining allowance covers is free. -/
theorem billable_eq_zero (h : c ≤ remaining A t) : billable A c t = 0 :=
  max_eq_right (sub_nonpos.mpr h)

/-- What was set aside next to the consumed part is still covered. -/
theorem le_remaining {p : α} (room : t + p ≤ A) (hc : c ≤ p) : c ≤ remaining A t := by
  have left : p ≤ A - t := le_sub_iff_add_le'.mpr room
  exact (hc.trans left).trans (le_max_left _ _)

/-- Each bill is the growth of the excess over the running total. -/
theorem billable_eq (hc : 0 ≤ c) : billable A c t = excess A (t + c) - excess A t := by
  unfold billable excess remaining
  rcases le_total A t with spent | left
  · have hsum : 0 ≤ t + c - A := sub_nonneg.mpr (spent.trans (le_add_of_nonneg_right hc))
    rw [max_eq_right (sub_nonpos.mpr spent), max_eq_left (sub_nonneg.mpr spent),
      max_eq_left hsum, sub_zero, max_eq_left hc]
    abel
  · rw [max_eq_left (sub_nonneg.mpr left), max_eq_right (sub_nonpos.mpr left), sub_zero]
    congr 1
    abel

/-- The bills of a run of charges, starting from `consumed`. -/
def bills (allowance : α) : α → List α → List α
  | _, [] => []
  | consumed, charge :: rest =>
      billable allowance charge consumed :: bills allowance (consumed + charge) rest

omit [IsOrderedAddMonoid α] in
/-- One more charge is billed against everything charged before it. -/
theorem bills_append_singleton (charges : List α) (c t : α) :
    bills A t (charges ++ [c]) = bills A t charges ++ [billable A c (t + charges.sum)] := by
  induction charges generalizing t with
  | nil => simp [bills]
  | cons d rest ih =>
      rw [List.cons_append, bills, bills, ih, List.sum_cons, List.cons_append, add_assoc]

/-- The bills of a whole run telescope. -/
theorem sum_bills {charges : List α} (nonneg : ∀ c ∈ charges, 0 ≤ c) (t : α) :
    (bills A t charges).sum = excess A (t + charges.sum) - excess A t := by
  induction charges generalizing t with
  | nil => simp [bills]
  | cons c rest ih =>
      have head : 0 ≤ c := nonneg c List.mem_cons_self
      have tail := ih (fun x hx => nonneg x (List.mem_cons_of_mem _ hx)) (t + c)
      rw [bills, List.sum_cons, tail, billable_eq head, List.sum_cons, add_assoc]
      abel

end Allowance
