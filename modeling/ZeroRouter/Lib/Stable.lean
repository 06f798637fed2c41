import Mathlib.Data.List.Sort

/-!
# Stable sorting by rank

Insertion sort on a rank keeps the items of each rank in the order it met them, and
leaves every item of a lower rank before every item of a higher one.

The module names no item of any particular program.
-/

namespace Ordered

open List

variable {α : Type}

/-- A list sorted by rank, ties left in place. -/
def sortByRank (rank : α → Nat) (items : List α) : List α :=
  items.insertionSort fun a b => rank a ≤ rank b

theorem sortByRank_perm (rank : α → Nat) (items : List α) : (sortByRank rank items).Perm items :=
  perm_insertionSort _ items

theorem filter_orderedInsert (rank : α → Nat) (k : Nat) (item : α) (items : List α) :
    (items.orderedInsert (fun a b => rank a ≤ rank b) item).filter (rank · = k) =
      if rank item = k then item :: items.filter (rank · = k) else items.filter (rank · = k) := by
  induction items with
  | nil => by_cases h : rank item = k <;> simp [h]
  | cons first rest ih =>
      rw [orderedInsert_cons]
      by_cases hle : rank item ≤ rank first
      · rw [if_pos hle]
        by_cases h : rank item = k <;> simp [h]
      · rw [if_neg hle, filter_cons, ih]
        by_cases h : rank item = k
        · have : rank first ≠ k := by omega
          simp [h, this]
        · simp [h, filter_cons]

/-- The items of one rank keep their order. -/
theorem filter_sortByRank (rank : α → Nat) (k : Nat) (items : List α) :
    (sortByRank rank items).filter (rank · = k) = items.filter (rank · = k) := by
  unfold sortByRank
  induction items with
  | nil => rfl
  | cons item rest ih =>
      rw [insertionSort_cons, filter_orderedInsert, ih]
      by_cases h : rank item = k <;> simp [h]

/-- Items in rank order are those up to a rank, then those over it. -/
theorem split_of_pairwise {rank : α → Nat} {items : List α}
    (h : items.Pairwise fun a b => rank a ≤ rank b) (k : Nat) :
    items = items.filter (rank · ≤ k) ++ items.filter (k < rank ·) := by
  induction items with
  | nil => rfl
  | cons first rest ih =>
      obtain ⟨hfirst, hrest⟩ := pairwise_cons.mp h
      by_cases hle : rank first ≤ k
      · have : ¬ k < rank first := by omega
        simpa [hle, this] using ih hrest
      · -- Everything after an item over the rank is over it.
        have hover : ∀ item ∈ first :: rest, k < rank item := by
          intro item hitem
          rcases mem_cons.mp hitem with rfl | hitem
          · omega
          · have := hfirst item hitem
            omega
        have hnone : (first :: rest).filter (rank · ≤ k) = [] := by
          rw [filter_eq_nil_iff]
          intro item hitem
          have := hover item hitem
          simp only [decide_eq_true_eq]
          omega
        have hall : (first :: rest).filter (k < rank ·) = first :: rest := by
          rw [filter_eq_self]
          intro item hitem
          simpa using hover item hitem
        rw [hnone, hall, nil_append]

theorem pairwise_sortByRank (rank : α → Nat) (items : List α) :
    (sortByRank rank items).Pairwise fun a b => rank a ≤ rank b := by
  have : Std.Total fun a b : α => rank a ≤ rank b := ⟨fun a b => Nat.le_total (rank a) (rank b)⟩
  have : IsTrans α fun a b : α => rank a ≤ rank b := ⟨fun _ _ _ => Nat.le_trans⟩
  exact pairwise_insertionSort _ items

end Ordered
