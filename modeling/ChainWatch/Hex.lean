/-
Hex text.

`encode` writes two lower-case digits for each byte. `decode` reads either case and
names the first thing that is wrong, in this order: an odd number of bytes in the text,
then the first byte, from the left, that is no hex digit. Both measures are of the
UTF-8 bytes of the text, so a text may be refused for a length that its characters do
not show.

The digits written, the order of the two checks and the texts of `HexError.message` are those
of the `hex` library (0.4), whose `encode` and `decode` these are.
-/
import ChainWatch.Bytes
import ChainWatch.Quoted

set_option autoImplicit false

namespace ChainWatch

/-- Why a text is not the hex form of a byte string. -/
inductive HexError where
  /-- The text has an odd number of bytes. -/
  | oddLength
  /-- The byte at `index` is no hex digit, and no byte before it is at fault. -/
  | badDigit (byte : UInt8) (index : Nat)
  deriving DecidableEq, Repr

/-- A byte at fault is shown as the character of the same number. -/
def HexError.message : HexError → String
  | .oddLength => "Odd number of digits"
  | .badDigit byte index =>
      "Invalid character " ++ Quoted.char (Char.ofNat byte.toNat) ++ " at position "
        ++ toString index

namespace Hex

/-! ## 1. Writing -/

/-- The lower-case digit for a number below sixteen. -/
def digit (n : Nat) : Char :=
  if n < 10 then Char.ofNat (48 + n) else Char.ofNat (87 + n)

/-- The two digits of one byte, high half first. -/
def pair (b : UInt8) : List Char := [digit (b.toNat / 16), digit (b.toNat % 16)]

/-- The lower-case hex text of a byte string. -/
def encode (bytes : Bytes) : String := String.ofList (bytes.flatMap pair)

/-! ## 2. Reading -/

/-- The value of one hex digit of either case, given by its byte. -/
def value? (b : UInt8) : Option Nat :=
  let n := b.toNat
  if 48 ≤ n ∧ n ≤ 57 then some (n - 48)
  else if 97 ≤ n ∧ n ≤ 102 then some (n - 87)
  else if 65 ≤ n ∧ n ≤ 70 then some (n - 55)
  else none

/-- Reads pairs of digits; `index` is the position of the first byte. A last byte
without a partner is left to `decode`, which never passes one on. -/
def decodeFrom (index : Nat) : Bytes → Except HexError Bytes
  | hi :: lo :: rest =>
      match value? hi, value? lo with
      | some h, some l => (decodeFrom (index + 2) rest).map (UInt8.ofNat (16 * h + l) :: ·)
      | none, _ => .error (.badDigit hi index)
      | some _, none => .error (.badDigit lo (index + 1))
  | _ => .ok []

/-- Reads hex text of either case. -/
def decode (s : String) : Except HexError Bytes :=
  let bytes := utf8 s
  if bytes.length % 2 = 1 then .error .oddLength else decodeFrom 0 bytes

end Hex

end ChainWatch
