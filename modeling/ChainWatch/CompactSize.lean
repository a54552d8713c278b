/-
Counts and lengths in as few bytes as they need.

A number below `0xfd` is one byte; above, a marker byte says whether two, four or eight
bytes follow. A number must be written in the shortest of the four forms: the reader
takes the whole form first and only then refuses one that is longer than needed. These are
the lengths in front of lists and byte strings in Bitcoin's consensus serialization.
-/
import ChainWatch.Reader

set_option autoImplicit false

namespace ChainWatch.CompactSize

/-- The shortest form of a number below `2 ^ 64`. -/
def encode (n : Nat) : Bytes :=
  if n < 0xfd then [UInt8.ofNat n]
  else if n < 0x10000 then 0xfd :: leBytes 2 n
  else if n < 0x100000000 then 0xfe :: leBytes 4 n
  else 0xff :: leBytes 8 n

/-- How many bytes the shortest form takes. -/
def width (n : Nat) : Nat :=
  if n < 0xfd then 1 else if n < 0x10000 then 3 else if n < 0x100000000 then 5 else 9

/-- A number in `bytes` bytes that no shorter form could hold. -/
def wide (bytes least : Nat) : Reader Nat := do
  let n ← Reader.number bytes
  if n < least then Reader.fail .nonMinimal else return n

/-- Reads a number in its shortest form. -/
def read : Reader Nat := do
  let marker ← Reader.number 1
  if marker = 0xfd then wide 2 0xfd
  else if marker = 0xfe then wide 4 0x10000
  else if marker = 0xff then wide 8 0x100000000
  else return marker

end ChainWatch.CompactSize
