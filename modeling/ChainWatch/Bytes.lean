/-
Byte strings, and the byte string of a text.

Two rules of this library look at the bytes of a text and not at its characters:
hex text is measured and searched byte by byte, and the keys of a `TextMap` stand in
the order of their bytes. Both go through `utf8`. Numbers on the wire are written
least significant byte first; `leValue` and `leBytes` are that correspondence in both
directions, and the lemmas of § 2 make it exact.
-/

set_option autoImplicit false

namespace ChainWatch

/-- A string of bytes. -/
abbrev Bytes := List UInt8

/-! ## 1. The bytes of a text -/

/-- The UTF-8 bytes of a text, character by character. -/
def utf8 (s : String) : Bytes := s.toList.flatMap String.utf8EncodeChar

/-! ## 2. Least significant byte first -/

/-- The number that `bytes` stands for, least significant byte first. -/
def leValue : Bytes → Nat
  | [] => 0
  | b :: rest => b.toNat + 256 * leValue rest

/-- The lowest `width` bytes of `n`, least significant first. -/
def leBytes : Nat → Nat → Bytes
  | 0, _ => []
  | width + 1, n => UInt8.ofNat (n % 256) :: leBytes width (n / 256)

@[simp] theorem leBytes_length (width n : Nat) : (leBytes width n).length = width := by
  induction width generalizing n with
  | zero => rfl
  | succ width ih => simp only [leBytes, List.length_cons, ih]

/-- Every byte string is the writing of its own value at its own length. -/
theorem leBytes_leValue (bytes : Bytes) : leBytes bytes.length (leValue bytes) = bytes := by
  induction bytes with
  | nil => rfl
  | cons b rest ih =>
      have hb := b.toNat_lt
      have hmod : (b.toNat + 256 * leValue rest) % 256 = b.toNat := by omega
      have hdiv : (b.toNat + 256 * leValue rest) / 256 = leValue rest := by omega
      simp only [leValue, List.length_cons, leBytes, hmod, hdiv, ih, UInt8.ofNat_toNat]

end ChainWatch
