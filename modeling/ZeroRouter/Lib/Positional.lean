import Mathlib.Algebra.Order.Field.Rat
import Mathlib.Data.List.Induction
import Mathlib.Data.Nat.Digits.Defs
import Mathlib.Data.Rat.Defs
import Mathlib.Tactic.FieldSimp
import Mathlib.Tactic.Ring

/-!
# Numbers with a point

A number written in a base: the digits before its point and the digits behind it, the highest first.
The point is moved to the right by taking digits from behind it, and zeros where they run out.

The module names no number of any particular program.
-/

namespace Positional

open List

variable {α : Type} (base : Nat) (digit : α → Nat)

/-- The number a row of digits writes. -/
def natOf (digits : List α) : Nat := Nat.ofDigits base (digits.map digit).reverse

@[simp] theorem natOf_nil : natOf base digit [] = 0 := rfl

theorem natOf_append (digits more : List α) :
    natOf base digit (digits ++ more) =
      natOf base digit digits * base ^ more.length + natOf base digit more := by
  unfold natOf
  rw [map_append, reverse_append, Nat.ofDigits_append, length_reverse,
    length_map]
  ring

theorem natOf_cons (d : α) (digits : List α) :
    natOf base digit (d :: digits) = digit d * base ^ digits.length + natOf base digit digits := by
  rw [← singleton_append, natOf_append]
  simp [natOf]

/-- Digits read one after another. -/
theorem natOf_eq_foldl (digits : List α) :
    digits.foldl (fun value d => value * base + digit d) 0 = natOf base digit digits := by
  induction digits using List.reverseRecOn with
  | nil => rfl
  | append_singleton digits d ih =>
      rw [foldl_append, ih, natOf_append]
      simp [natOf]

theorem natOf_zeros {zero : α} (is_zero : digit zero = 0) (count : Nat) :
    natOf base digit (List.replicate count zero) = 0 := by
  induction count with
  | zero => rfl
  | succ count ih =>
      rw [replicate_succ, natOf_cons, is_zero, ih, Nat.zero_mul]

/-- A number's digits before its point and behind it. -/
structure Numeral (α : Type) where
  whole : List α
  fraction : List α
  deriving DecidableEq, Repr

namespace Numeral

def value (numeral : Numeral α) : ℚ :=
  natOf base digit (numeral.whole ++ numeral.fraction) / (base : ℚ) ^ numeral.fraction.length

/-- The point moved to the right. -/
def shift (zero : α) (places : Nat) (numeral : Numeral α) : Numeral α where
  whole := numeral.whole ++ numeral.fraction.take places ++
    List.replicate (places - numeral.fraction.length) zero
  fraction := numeral.fraction.drop places

/-- Every digit of a moved number is one of its own or a zero. -/
theorem mem_shift {zero d : α} {places : Nat} {numeral : Numeral α}
    (mem : d ∈ (numeral.shift zero places).whole ++ (numeral.shift zero places).fraction) :
    d ∈ numeral.whole ++ numeral.fraction ∨ d = zero := by
  simp only [shift, mem_append, mem_replicate] at mem ⊢
  rcases mem with ((mem | mem) | mem) | mem
  · exact .inl (.inl mem)
  · exact .inl (.inr (mem_of_mem_take mem))
  · exact .inr mem.2
  · exact .inl (.inr (mem_of_mem_drop mem))

/-- Moving the point by some places multiplies by the base once for each of them. -/
theorem value_shift {zero : α} (is_zero : digit zero = 0) (positive : 0 < base) (places : Nat)
    (numeral : Numeral α) :
    (numeral.shift zero places).value base digit =
      (base : ℚ) ^ places * numeral.value base digit := by
  have base_ne : (base : ℚ) ≠ 0 := by exact_mod_cast positive.ne'
  obtain ⟨whole, fraction⟩ := numeral
  by_cases long : places ≤ fraction.length
  · -- the digits stay in their order, and only the point moves
    have no_zeros : places - fraction.length = 0 := by omega
    have same :
        whole ++ fraction.take places ++ [] ++ fraction.drop places = whole ++ fraction := by
      rw [append_nil, append_assoc, take_append_drop]
    have powers : (base : ℚ) ^ fraction.length =
        base ^ places * base ^ (fraction.length - places) := by
      rw [← pow_add]
      congr 1
      omega
    simp only [value, shift, no_zeros, replicate_zero, same, length_drop, powers]
    field_simp
  · -- nothing is left behind the point
    have short : fraction.length ≤ places := by omega
    have zeros := natOf_zeros base digit is_zero (places - fraction.length)
    have powers : (base : ℚ) ^ places =
        base ^ fraction.length * base ^ (places - fraction.length) := by
      rw [← pow_add]
      congr 1
      omega
    simp only [value, shift, take_of_length_le short, drop_of_length_le short,
      append_nil, length_nil, pow_zero, div_one, powers, natOf_append, zeros,
      length_replicate, Nat.add_zero]
    push_cast
    field_simp

end Numeral

end Positional
