/-
Transactions and their serialized form.

`Transaction.encode` is the one byte string that stands for a transaction. It has two
shapes. A transaction with an input and without any witness is written plainly. As soon
as some input has a witness, a marker follows the version, zero inputs and the flag one,
and the witnesses stand after the outputs, one for each input; a transaction without
inputs takes this shape too, because its plain form would be read as a marker.

The form is Bitcoin's consensus serialization, as the `bitcoin` library (0.32) writes it.
-/
import ChainWatch.CompactSize
import ChainWatch.Total

set_option autoImplicit false

namespace ChainWatch

/-- One spent output, with the proof that it may be spent. -/
structure TxInput where
  previous : Digest
  index : UInt32
  script : Bytes
  sequence : UInt32
  witness : List Bytes
  deriving DecidableEq

/-- One created output. -/
structure TxOutput where
  value : UInt64
  script : Bytes
  deriving DecidableEq

structure Transaction where
  version : Int32
  inputs : List TxInput
  outputs : List TxOutput
  lockTime : UInt32
  deriving DecidableEq

/-! ## 1. The serialized form -/

/-- A byte string behind its length. -/
def encodeCounted (bytes : Bytes) : Bytes := CompactSize.encode bytes.length ++ bytes

namespace TxInput

/-- An input without its witness. -/
def encode (i : TxInput) : Bytes :=
  i.previous.bytes ++ leBytes 4 i.index.toNat ++ encodeCounted i.script
    ++ leBytes 4 i.sequence.toNat

/-- The elements of the witness behind their number. -/
def encodeWitness (i : TxInput) : Bytes :=
  CompactSize.encode i.witness.length ++ i.witness.flatMap encodeCounted

/-- How many bytes the elements of a witness take, lengths included. -/
def witnessSize (i : TxInput) : Nat :=
  total (fun element => CompactSize.width element.length + element.length) i.witness

end TxInput

def TxOutput.encode (o : TxOutput) : Bytes := leBytes 8 o.value.toNat ++ encodeCounted o.script

namespace Transaction

def encodeInputs (inputs : List TxInput) : Bytes :=
  CompactSize.encode inputs.length ++ inputs.flatMap TxInput.encode

def encodeOutputs (outputs : List TxOutput) : Bytes :=
  CompactSize.encode outputs.length ++ outputs.flatMap TxOutput.encode

/-- Whether the plain shape is the one to use: there is an input, and no input has a
witness. -/
def isPlain (tx : Transaction) : Bool :=
  !tx.inputs.isEmpty && tx.inputs.all fun i => i.witness.isEmpty

/-- The byte string that stands for a transaction. -/
def encode (tx : Transaction) : Bytes :=
  let version := leBytes 4 tx.version.toUInt32.toNat
  let lockTime := leBytes 4 tx.lockTime.toNat
  if tx.isPlain then
    version ++ encodeInputs tx.inputs ++ encodeOutputs tx.outputs ++ lockTime
  else
    version ++ [0, 1] ++ encodeInputs tx.inputs ++ encodeOutputs tx.outputs
      ++ tx.inputs.flatMap TxInput.encodeWitness ++ lockTime

end Transaction

end ChainWatch
