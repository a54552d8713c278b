/-
Reading a byte string from the left.

A `Reader` takes what it needs from the front of the bytes and hands on the rest, or
stops at the first fault. Everything a serialized transaction is made of is put together
from `take` with `bind`, so a fault is always the leftmost one, and a reader that
succeeded never looked at the bytes it left.
-/
import ChainWatch.Digest

set_option autoImplicit false

namespace ChainWatch

/-- Why bytes are not a serialized transaction; the leftmost fault is the one named. -/
inductive TxFault where
  /-- The bytes ended too early. -/
  | truncated
  /-- A count or a length was written in more bytes than it needs. -/
  | nonMinimal
  /-- The flag after an empty list of inputs is not the one flag that is known. -/
  | flag (byte : UInt8)
  /-- The form with witnesses was used for inputs that all have none. -/
  | noWitness
  /-- A witness that would need more room than any witness may take. -/
  | oversized (requested : Nat)
  /-- Bytes are left over. -/
  | trailing
  deriving DecidableEq, Repr

def TxFault.message : TxFault → String
  | truncated => "IO error"
  | nonMinimal => "non-minimal varint"
  | flag byte => "unsupported segwit version: " ++ toString byte.toNat
  | noWitness => "parse failed: witness flag set but no witnesses present"
  | oversized requested =>
      "allocation of oversized vector: requested " ++ toString requested ++ ", maximum 4000000"
  | trailing => "parse failed: data not consumed entirely when explicitly deserializing"

/-- A reader of one value from the front of a byte string. -/
def Reader (α : Type) : Type := Bytes → Except TxFault (α × Bytes)

namespace Reader

variable {α β : Type}

/-- Reads nothing. -/
def pure (a : α) : Reader α := fun bytes => .ok (a, bytes)

/-- Stops. -/
def fail (fault : TxFault) : Reader α := fun _ => .error fault

/-- Reads one thing and then, from what is left, the next. -/
def bind (r : Reader α) (f : α → Reader β) : Reader β := fun bytes =>
  match r bytes with
  | .ok (a, rest) => f a rest
  | .error fault => .error fault

instance : Monad Reader where
  pure := Reader.pure
  bind := Reader.bind

/-- The next `n` bytes. Whether there are so many is asked of what was taken, not of all the
bytes that are left, so that many short readings of a long byte string stay cheap. -/
def take (n : Nat) : Reader Bytes := fun bytes =>
  if (bytes.take n).length = n then .ok (bytes.take n, bytes.drop n) else .error .truncated

/-- A number in `width` bytes, least significant first. -/
def number (width : Nat) : Reader Nat := do
  let bytes ← take width
  return leValue bytes

/-- A digest, in wire order. -/
def digest : Reader Digest := fun bytes =>
  if h : (bytes.take 32).length = 32 then .ok (⟨bytes.take 32, h⟩, bytes.drop 32)
  else .error .truncated

/-- The same thing `n` times. -/
def replicate (r : Reader α) : Nat → Reader (List α)
  | 0 => return []
  | n + 1 => do
      let a ← r
      let rest ← replicate r n
      return a :: rest

/-- Reads the whole of a byte string. -/
def runAll (r : Reader α) (bytes : Bytes) : Except TxFault α :=
  match r bytes with
  | .ok (a, []) => .ok a
  | .ok (_, _ :: _) => .error .trailing
  | .error fault => .error fault

/-! ## Evaluation -/

@[simp] theorem pure_apply (a : α) (bytes : Bytes) :
    (Pure.pure a : Reader α) bytes = .ok (a, bytes) :=
  rfl

theorem bind_apply (r : Reader α) (f : α → Reader β) (bytes : Bytes) :
    (r >>= f) bytes = match r bytes with
      | .ok (a, rest) => f a rest
      | .error fault => .error fault := rfl

theorem bind_ok {r : Reader α} {f : α → Reader β} {bytes rest : Bytes} {a : α}
    (h : r bytes = .ok (a, rest)) : (r >>= f) bytes = f a rest := by
  rw [bind_apply, h]

theorem bind_error {r : Reader α} {f : α → Reader β} {bytes : Bytes} {fault : TxFault}
    (h : r bytes = .error fault) : (r >>= f) bytes = .error fault := by
  rw [bind_apply, h]

/-- Bytes that are long enough are split where asked. -/
theorem take_append (front rest : Bytes) :
    take front.length (front ++ rest) = .ok (front, rest) := by
  rw [take, List.take_left, List.drop_left, if_pos rfl]

end Reader

end ChainWatch
