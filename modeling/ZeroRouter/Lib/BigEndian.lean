import Mathlib.Data.List.Induction
import Mathlib.Tactic.Ring

/-!
# Natural numbers in big-endian bytes

Of a given width: a number that fits is read back from its bytes, and any bytes are
those of the number they read as.
-/

namespace BigEndian

/-- The number some bytes read as. -/
def ofBytes (bytes : List UInt8) : Nat :=
  bytes.foldl (fun n byte => 256 * n + byte.toNat) 0

/-- The last `width` bytes of a number. -/
def toBytes : Nat → Nat → List UInt8
  | 0, _ => []
  | width + 1, n => toBytes width (n / 256) ++ [UInt8.ofNat n]

@[simp] theorem length_toBytes (width n : Nat) : (toBytes width n).length = width := by
  induction width generalizing n with
  | zero => rfl
  | succ width ih => simp [toBytes, ih]

theorem ofBytes_concat (bytes : List UInt8) (byte : UInt8) :
    ofBytes (bytes ++ [byte]) = 256 * ofBytes bytes + byte.toNat := by
  simp [ofBytes]

theorem ofBytes_lt (bytes : List UInt8) : ofBytes bytes < 256 ^ bytes.length := by
  induction bytes using List.reverseRecOn with
  | nil => simp [ofBytes]
  | append_singleton bytes byte ih =>
      have := byte.toNat_lt
      rw [ofBytes_concat, List.length_append, List.length_singleton, pow_succ]
      omega

theorem ofBytes_toBytes {width n : Nat} (h : n < 256 ^ width) : ofBytes (toBytes width n) = n := by
  induction width generalizing n with
  | zero =>
      have : n = 0 := by simpa using h
      simp [toBytes, ofBytes, this]
  | succ width ih =>
      have hdiv : n / 256 < 256 ^ width := by
        rw [pow_succ] at h
        omega
      rw [toBytes, ofBytes_concat, ih hdiv, UInt8.toNat_ofNat']
      omega

theorem toBytes_ofBytes (bytes : List UInt8) : toBytes bytes.length (ofBytes bytes) = bytes := by
  induction bytes using List.reverseRecOn with
  | nil => rfl
  | append_singleton bytes byte ih =>
      have := byte.toNat_lt
      rw [List.length_append, List.length_singleton, toBytes, ofBytes_concat]
      have hdiv : (256 * ofBytes bytes + byte.toNat) / 256 = ofBytes bytes := by omega
      have hlast : UInt8.ofNat (256 * ofBytes bytes + byte.toNat) = byte := by
        apply UInt8.toNat_inj.mp
        rw [UInt8.toNat_ofNat']
        omega
      rw [hdiv, ih, hlast]

/-- Bytes of a known length are those of the number they read as. -/
theorem eq_toBytes {bytes : List UInt8} {width : Nat} (h : bytes.length = width) :
    bytes = toBytes width (ofBytes bytes) := by
  rw [← h, toBytes_ofBytes]

end BigEndian
