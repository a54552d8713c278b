/-
Numbers and their bytes.

The other half of the correspondence between numbers and byte strings: a number that fits
into so many bytes is the value of its own writing.
-/
import ChainWatch.Bytes
import Mathlib.Tactic.Ring

set_option autoImplicit false

namespace ChainWatch

theorem leValue_lt (bytes : Bytes) : leValue bytes < 256 ^ bytes.length := by
  induction bytes with
  | nil => simp [leValue]
  | cons b rest ih =>
      have hb := b.toNat_lt
      simp only [leValue, List.length_cons, Nat.pow_succ]
      omega

/-- Writing a number into enough bytes loses nothing. -/
theorem leValue_leBytes (width n : Nat) (h : n < 256 ^ width) :
    leValue (leBytes width n) = n := by
  induction width generalizing n with
  | zero =>
      simp only [Nat.pow_zero] at h
      simp only [leBytes, leValue]
      omega
  | succ width ih =>
      have hdiv : n / 256 < 256 ^ width := by
        rw [Nat.pow_succ] at h
        omega
      have hbyte : (UInt8.ofNat (n % 256)).toNat = n % 256 := by
        simp only [UInt8.toNat_ofNat']
        omega
      simp only [leBytes, leValue, ih _ hdiv, hbyte]
      omega

end ChainWatch
