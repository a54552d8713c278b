/-
Transaction and block identifiers.

A digest is 32 bytes, kept in the order of the wire. Its text form is the hex of the
reversed bytes, which is how identifiers are printed everywhere else; `ofText?` undoes
that, and `text` always prints 64 lower-case digits.
-/
import ChainWatch.Error
import ChainWatch.Hex

set_option autoImplicit false

namespace ChainWatch

/-- A 32-byte identifier in wire order. -/
structure Digest where
  bytes : Bytes
  length_bytes : bytes.length = 32
  deriving DecidableEq

namespace Digest

/-- The digest of 32 bytes; any other number of bytes is refused. -/
def ofBytes? (bytes : Bytes) : Except PayloadError Digest :=
  if h : bytes.length = 32 then .ok ⟨bytes, h⟩ else .error (.hashLength bytes.length)

/-- The identifier of no transaction and no block. -/
def zero : Digest := ⟨List.replicate 32 0, List.length_replicate⟩

/-- The hex of the reversed bytes. -/
def text (d : Digest) : String := Hex.encode d.bytes.reverse

/-- The structure of a digest shows its text form. -/
def inspect (d : Digest) : String := "ChainHash(" ++ d.text ++ ")"

/-- Reads the text form, in either case. Hex is checked before the length. -/
def ofText? (s : String) : Except PayloadError Digest :=
  match Hex.decode s with
  | .ok bytes => ofBytes? bytes.reverse
  | .error e => .error (.hex e.message)

/-- Digests are ordered as their bytes are, first byte first. -/
instance : Ord Digest where
  compare a b := if a.bytes < b.bytes then .lt else if a.bytes = b.bytes then .eq else .gt

@[ext] theorem ext {a b : Digest} (h : a.bytes = b.bytes) : a = b := by
  cases a; cases b; cases h; rfl

@[simp] theorem ofBytes?_bytes (d : Digest) : ofBytes? d.bytes = .ok d := by
  simp only [ofBytes?, d.length_bytes, dite_true]

end Digest

end ChainWatch
