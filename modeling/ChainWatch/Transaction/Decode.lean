/-
Reading a serialized transaction.

`Transaction.decode` is the reading of `Transaction.encode`: it takes a byte string apart
from left to right and names the first fault. Counts of inputs and outputs are not
limited, they run out of bytes; a witness is limited in the number of its elements and in
their total size, and both limits are checked before the bytes are taken.

This is the consensus reading of the `bitcoin` library (0.32), which the transcoder calls for
the whole of it: its checks in its order, its limits on a witness and the texts of its faults
(`TxFault.message`). A byte string that is read is the one that is written for the result, so
the library's own writer is `Transaction.encode`.
-/
import ChainWatch.Transaction.Basic

set_option autoImplicit false

namespace ChainWatch

/-- Most elements of one witness, and most bytes of its elements together. -/
def witnessLimit : Nat := 4000000

namespace Reader

def u32 : Reader UInt32 := do
  let n ← number 4
  return UInt32.ofNat n

def u64 : Reader UInt64 := do
  let n ← number 8
  return UInt64.ofNat n

/-- A byte string behind its length. -/
def counted : Reader Bytes := do
  let n ← CompactSize.read
  take n

/-- As many things as the number in front of them says. -/
def listOf {α : Type} (r : Reader α) : Reader (List α) := do
  let n ← CompactSize.read
  replicate r n

end Reader

/-- An input as it stands in the list of inputs, its witness still to come. -/
def TxInput.read : Reader TxInput := do
  let previous ← Reader.digest
  let index ← Reader.u32
  let script ← Reader.counted
  let sequence ← Reader.u32
  return ⟨previous, index, script, sequence, []⟩

def TxOutput.read : Reader TxOutput := do
  let value ← Reader.u64
  let script ← Reader.counted
  return ⟨value, script⟩

namespace Transaction

/-- A request that no 64-bit number holds is reported as the largest one. -/
def refuseWitness {α : Type} (requested : Nat) : Reader α :=
  Reader.fail (.oversized (min requested (UInt64.size - 1)))

/-- The elements of a witness. `room` is what an index of all elements takes, and `used`
what the elements read so far took; the sum with the next element is what is requested. -/
def readElements (room : Nat) : Nat → Nat → Reader (List Bytes)
  | 0, _ => return []
  | n + 1, used => do
      let size ← CompactSize.read
      let used := used + size + CompactSize.width size
      if witnessLimit < used then refuseWitness (room + used)
      else do
        let element ← Reader.take size
        let rest ← readElements room n used
        return element :: rest

/-- The witness of one input. -/
def readWitness : Reader (List Bytes) := do
  let n ← CompactSize.read
  if witnessLimit < n then refuseWitness n else readElements (4 * n) n 0

/-- The witnesses of the inputs, in their order. -/
def readWitnesses : List TxInput → Reader (List TxInput)
  | [] => return []
  | i :: rest => do
      let witness ← readWitness
      let rest ← readWitnesses rest
      return { i with witness } :: rest

/-- What stands behind the marker: the version is known, the inputs come next. -/
def readMarked (version : Int32) : Reader Transaction := do
  let flag ← Reader.number 1
  if flag ≠ 1 then Reader.fail (.flag (UInt8.ofNat flag))
  else do
    let inputs ← Reader.listOf TxInput.read
    let outputs ← Reader.listOf TxOutput.read
    let inputs ← readWitnesses inputs
    -- inputs without a single witness have the plain shape, so this would be a second one
    if !inputs.isEmpty && inputs.all (fun i => i.witness.isEmpty) then Reader.fail .noWitness
    else do
      let lockTime ← Reader.u32
      return ⟨version, inputs, outputs, lockTime⟩

/-- A transaction in either shape. -/
def read : Reader Transaction := do
  let version ← Reader.u32
  let inputs ← Reader.listOf TxInput.read
  -- no inputs are never written plainly: the empty list is the marker
  if inputs.isEmpty then readMarked version.toInt32
  else do
    let outputs ← Reader.listOf TxOutput.read
    let lockTime ← Reader.u32
    return ⟨version.toInt32, inputs, outputs, lockTime⟩

/-- The transaction that a byte string stands for; nothing may be left over. -/
def decode (bytes : Bytes) : Except TxFault Transaction := Reader.runAll read bytes

end Transaction

end ChainWatch
