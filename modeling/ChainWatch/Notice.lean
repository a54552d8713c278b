/-
What a notification says, once its payload has been checked.

Each function here takes one message and gives either the value it stands for or the
first check it fails, in the order the checks are written. The other direction, from a
value back to its message, is written beside it where a request needs it.
-/
import ChainWatch.Message
import ChainWatch.Transaction.Decode

set_option autoImplicit false

namespace ChainWatch

/-! ## 1. Parts -/

/-- A height that the domain can hold; the wire leaves one bit too many. -/
def decodeHeight (field : String) (value : UInt32) : Except PayloadError Int32 :=
  if value < 0x80000000 then .ok value.toInt32 else .error (.outOfRange field value)

/-- The transaction that raw bytes stand for. -/
def decodeTransaction (raw : Bytes) : Except PayloadError Transaction :=
  match Transaction.decode raw with
  | .ok tx => .ok tx
  | .error fault => .error (.transaction fault.message)

/-- An output of a transaction. -/
structure Outpoint where
  hash : Digest
  index : UInt32
  deriving DecidableEq

namespace Outpoint

def text (o : Outpoint) : String := o.hash.text ++ ":" ++ toString o.index.toNat

/-- The structure of a reference. -/
def inspect (o : Outpoint) : String :=
  "Outpoint \x7b hash: " ++ o.hash.inspect ++ ", index: " ++ toString o.index.toNat ++ " \x7d"

/-- The wire form of a reference. -/
def toRef (o : Outpoint) : OutputRef := ⟨o.hash.bytes, o.index⟩

end Outpoint

def OutputRef.decode (m : OutputRef) : Except PayloadError Outpoint := do
  return ⟨← Digest.ofBytes? m.hash, m.index⟩

theorem Outpoint.decode_toRef (o : Outpoint) : o.toRef.decode = .ok o := by
  simp only [OutputRef.decode, Outpoint.toRef, Digest.ofBytes?_bytes]
  rfl

/-! ## 2. Notifications -/

def BlockEpoch.decode (m : BlockEpoch) : Except PayloadError Int32 := decodeHeight "height" m.height

/-- A transaction that reached the depth asked for. -/
structure Confirmation where
  blockHeight : UInt32
  blockHash : Digest
  tx : Transaction
  /-- The place of the transaction within the block. -/
  txIndex : UInt32
  deriving DecidableEq

/-- The transaction is checked first, then the hash of the block. -/
def ConfirmDetails.decode (m : ConfirmDetails) : Except PayloadError Confirmation := do
  let tx ← decodeTransaction m.rawTx
  let blockHash ← Digest.ofBytes? m.blockHash
  return ⟨m.blockHeight, blockHash, tx, m.txIndex⟩

/-- The spend of a watched output. -/
structure Spend where
  output : Outpoint
  txHash : Digest
  inputIndex : UInt32
  tx : Transaction
  height : Int32
  deriving DecidableEq

/-- The output is checked first, then the hash of the spending transaction, the
transaction itself and the height. -/
def SpendDetails.decode (m : SpendDetails) : Except PayloadError Spend := do
  let ref ← match m.output with
    | some ref => Except.ok ref
    | none => Except.error (PayloadError.missingField "spending_outpoint")
  let output ← ref.decode
  let txHash ← Digest.ofBytes? m.txHash
  let tx ← decodeTransaction m.rawTx
  let height ← decodeHeight "spending_height" m.height
  return ⟨output, txHash, m.inputIndex, tx, height⟩

end ChainWatch
