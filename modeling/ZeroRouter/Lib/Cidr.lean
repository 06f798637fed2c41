import Mathlib.Data.Nat.Bitwise
import Mathlib.Algebra.Order.Ring.Nat

/-!
# Subnets

An address is the number its digits spell, and a subnet is the addresses that agree with its base
above its lowest bits.  A test of one digit against a mask is membership in such a subnet.
-/

namespace Cidr

/-- The addresses agreeing with `base` above the lowest `hostBits` bits. -/
structure Subnet where
  base : Nat
  hostBits : Nat
  deriving DecidableEq, Repr

namespace Subnet

def Contains (subnet : Subnet) (address : Nat) : Prop :=
  address / 2 ^ subnet.hostBits = subnet.base / 2 ^ subnet.hostBits

instance (subnet : Subnet) (address : Nat) : Decidable (subnet.Contains address) :=
  inferInstanceAs (Decidable (_ = _))

end Subnet

/-- The addresses of some subnet of a list. -/
def Within (subnets : List Subnet) (address : Nat) : Prop :=
  ∃ subnet ∈ subnets, subnet.Contains address

instance (subnets : List Subnet) (address : Nat) : Decidable (Within subnets address) :=
  inferInstanceAs (Decidable (∃ subnet ∈ subnets, subnet.Contains address))

@[simp] theorem within_nil (address : Nat) : ¬ Within [] address := by simp [Within]

@[simp] theorem within_cons (subnet : Subnet) (subnets : List Subnet) (address : Nat) :
    Within (subnet :: subnets) address ↔
      address / 2 ^ subnet.hostBits = subnet.base / 2 ^ subnet.hostBits ∨ Within subnets address := by
  simp [Within, Subnet.Contains]

/-- The number a big-endian list of digits spells. -/
def number (radix : Nat) (digits : List Nat) : Nat :=
  digits.foldl (fun value digit => value * radix + digit) 0

/-- The mask of the bits from `low` up to `high` keeps what stands above `low`. -/
theorem and_mask {x high low : Nat} (h : x < 2 ^ high) :
    x &&& (2 ^ high - 2 ^ low) = x / 2 ^ low * 2 ^ low := by
  rcases Nat.le_total low high with le | le
  · have mask : 2 ^ high - 2 ^ low = 2 ^ low * (2 ^ (high - low) - 1) := by
      rw [Nat.mul_sub, Nat.mul_one, ← pow_add, Nat.add_sub_cancel' le]
    apply Nat.eq_of_testBit_eq
    intro i
    rw [mask, Nat.testBit_and, Nat.mul_comm, Nat.testBit_mul_two_pow, Nat.testBit_mul_two_pow,
      Nat.testBit_two_pow_sub_one, Nat.testBit_div_two_pow]
    by_cases above : low ≤ i
    · by_cases within : i < high
      · have : i - low < high - low := by omega
        simp [above, this, Nat.sub_add_cancel above]
      · have out : x.testBit i = false :=
          Nat.testBit_lt_two_pow (lt_of_lt_of_le h (Nat.pow_le_pow_right (by simp) (by omega)))
        simp [above, out, Nat.sub_add_cancel above]
    · simp [above]
  · have small : x < 2 ^ low := lt_of_lt_of_le h (Nat.pow_le_pow_right (by simp) le)
    have empty : 2 ^ high - 2 ^ low = 0 :=
      Nat.sub_eq_zero_of_le (Nat.pow_le_pow_right (by simp) le)
    rw [empty, Nat.and_zero, Nat.div_eq_of_lt small, Nat.zero_mul]

/-- A masked digit has a given value exactly when its upper bits do. -/
theorem and_mask_eq_iff (high low q : Nat) {x : Nat} (h : x < 2 ^ high) :
    x &&& (2 ^ high - 2 ^ low) = q * 2 ^ low ↔ x / 2 ^ low = q := by
  rw [and_mask h]
  exact Nat.mul_left_inj (Nat.two_pow_pos low).ne'

end Cidr
