import Mathlib.Data.Prod.Lex
import Mathlib.Data.List.Sort
import Mathlib.Order.Fin.Basic

/-!
# Stable orders as lexicographic ones

A list of distinct items from a linear order is put in the order of a key, ties in their own order,
when it is strictly sorted by the pair of the two.  A stable partition puts the test in front of the
key and a stable sort a second key: several passes come to one lexicographic order.

The module names no item of any particular program.
-/

namespace Ordered

open List

variable {ι κ μ : Type} [LinearOrder ι] [LinearOrder κ] [LinearOrder μ] {key : ι → κ} {i j : ι}
  {order : List ι}

/-- In the order of a key, ties in their own order. -/
def Before (key : ι → κ) (i j : ι) : Prop := toLex (key i, i) < toLex (key j, j)

theorem before_iff :
    Before key i j ↔ key i < key j ∨ key i = key j ∧ i < j := Prod.Lex.toLex_lt_toLex

/-- A second key in front of the first. -/
theorem before_cons_iff {front : ι → μ} :
    Before (fun i => toLex (front i, key i)) i j ↔
      front i < front j ∨ front i = front j ∧ Before key i j := by
  rw [before_iff, before_iff, Prod.Lex.toLex_lt_toLex]
  constructor
  · rintro ((h | ⟨same, h⟩) | ⟨same, h⟩)
    · exact .inl h
    · exact .inr ⟨same, .inl h⟩
    · obtain ⟨front_same, key_same⟩ := Prod.mk.inj (toLex.injective same)
      exact .inr ⟨front_same, .inr ⟨key_same, h⟩⟩
  · rintro (h | ⟨same, h | ⟨key_same, h⟩⟩)
    · exact .inl (.inl h)
    · exact .inl (.inr ⟨same, h⟩)
    · exact .inr ⟨by rw [same, key_same], h⟩

/-- The items that pass a test, then the others, each part in the order of a key. -/
theorem pairwise_partition (test : ι → Bool) (h : order.Pairwise (Before key)) :
    (order.filter test ++ order.filter (!test ·)).Pairwise
      (Before fun i => toLex (!test i, key i)) := by
  have part : ∀ passes : ι → Bool, (∀ i j, passes i = true → passes j = true → test i = test j) →
      (order.filter passes).Pairwise (Before fun i => toLex (!test i, key i)) := by
    intro passes same
    refine (h.filter passes).imp_of_mem ?_
    intro i j hi hj before
    have agree := same i j (mem_filter.mp hi).2 (mem_filter.mp hj).2
    exact before_cons_iff.mpr (.inr ⟨congrArg (!·) agree, before⟩)
  refine pairwise_append.mpr ⟨part test ?_, part (!test ·) ?_, ?_⟩
  · intro i j hi hj
    rw [hi, hj]
  · intro i j hi hj
    rw [Bool.not_eq_true'] at hi hj
    rw [hi, hj]
  · intro i hi j hj
    have passes := (mem_filter.mp hi).2
    have fails := (mem_filter.mp hj).2
    rw [Bool.not_eq_true'] at fails
    refine before_cons_iff.mpr (.inl ?_)
    rw [passes, fails]
    decide

/-- A stable sort of items that stand in their own order. -/
theorem pairwise_mergeSort_key (key : ι → κ) (h : order.Pairwise (· < ·)) :
    (order.mergeSort fun i j => key i ≤ key j).Pairwise (Before key) := by
  rw [← List.mergeSort_zipIdx, List.pairwise_map]
  have sorted : (order.zipIdx.mergeSort
      (List.zipIdxLE fun i j : ι => decide (key i ≤ key j))).Pairwise
        fun a b => List.zipIdxLE (fun i j : ι => decide (key i ≤ key j)) a b = true := by
    refine List.pairwise_mergeSort (List.zipIdxLE_trans ?_) (List.zipIdxLE_total ?_) _
    · intro a b c hab hbc
      rw [decide_eq_true_eq] at *
      exact hab.trans hbc
    · intro a b
      rw [Bool.or_eq_true, decide_eq_true_eq, decide_eq_true_eq]
      exact le_total _ _
  have distinct : (order.zipIdx.mergeSort
      (List.zipIdxLE fun i j : ι => decide (key i ≤ key j))).Pairwise (fun a b => a.2 ≠ b.2) := by
    have nodup : (order.zipIdx.map Prod.snd).Nodup := by
      rw [List.zipIdx_map_snd]
      exact List.nodup_range'
    have perm := (List.mergeSort_perm order.zipIdx
      (List.zipIdxLE fun i j : ι => decide (key i ≤ key j))).map Prod.snd
    exact List.pairwise_map.mp (perm.nodup_iff.mpr nodup)
  refine (sorted.and distinct).imp_of_mem ?_
  rintro ⟨i, m⟩ ⟨j, n⟩ hi hj ⟨le, ne⟩
  have at_i := List.mem_zipIdx_iff_getElem?.mp (List.mem_mergeSort.mp hi)
  have at_j := List.mem_zipIdx_iff_getElem?.mp (List.mem_mergeSort.mp hj)
  unfold List.zipIdxLE at le
  rw [before_iff]
  dsimp only at le ne ⊢
  split at le
  · next up =>
      split at le
      · next down =>
          -- A tie goes by the places in the list that was sorted, and those by the items.
          have same : key i = key j := le_antisymm (of_decide_eq_true up) (of_decide_eq_true down)
          have earlier : m < n := lt_of_le_of_ne (of_decide_eq_true le) ne
          obtain ⟨hm, is_i⟩ := List.getElem?_eq_some_iff.mp at_i
          obtain ⟨hn, is_j⟩ := List.getElem?_eq_some_iff.mp at_j
          have lt := List.pairwise_iff_getElem.mp h m n hm hn earlier
          rw [is_i, is_j] at lt
          exact .inr ⟨same, lt⟩
      · next up' => exact .inl (lt_of_not_ge (by simpa using up'))
  · cases le

/-- Neighbours of an order with equal keys come out as neighbours. -/
theorem neighbours_of_pairwise (h : order.Pairwise (Before key)) (hi : i ∈ order) (hj : j ∈ order)
    (succ : i ⋖ j) (same : key i = key j) :
    ∃ before after, order = before ++ i :: j :: after := by
  obtain ⟨before, rest, rfl⟩ := append_of_mem hi
  obtain ⟨-, tail, cross⟩ := pairwise_append.mp h
  obtain ⟨first, tail⟩ := pairwise_cons.mp tail
  -- Nothing can stand between the two.
  have between : ∀ k, Before key i k → ¬ Before key k j := by
    intro k hik hkj
    rw [before_iff] at hik hkj
    rcases hik with lt | ⟨eq, lt⟩
    · rcases hkj with lt' | ⟨eq', lt'⟩
      · exact lt_irrefl _ ((lt.trans lt').trans_eq same.symm)
      · exact lt_irrefl _ ((lt.trans_eq eq').trans_eq same.symm)
    · rcases hkj with lt' | ⟨eq', lt'⟩
      · exact lt_irrefl _ ((lt'.trans_eq same.symm).trans_eq eq)
      · exact succ.2 lt lt'
  have after : Before key i j := before_iff.mpr (.inr ⟨same, succ.1⟩)
  have in_rest : j ∈ rest := by
    rcases mem_append.mp hj with earlier | later
    · exact absurd (cross j earlier i mem_cons_self) (not_lt_of_gt after)
    · rcases mem_cons.mp later with rfl | later
      · exact absurd after (lt_irrefl _)
      · exact later
  cases rest with
  | nil => cases in_rest
  | cons head rest =>
      rcases mem_cons.mp in_rest with rfl | later
      · exact ⟨before, rest, rfl⟩
      · obtain ⟨lead, -⟩ := pairwise_cons.mp tail
        exact absurd (lead j later) (between head (first head mem_cons_self))

end Ordered
