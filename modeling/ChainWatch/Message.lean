/-
The messages of a node's notification service.

Byte fields hold hashes, scripts and transactions exactly as the node sends them; what
they have to look like is checked where a message is decoded. An event of the two
single-result streams carries the details its stream is about, or the mark of a
reorganization, or something this client has no name for, or nothing. Each message has
one JSON form, given here by a writer and a reader.
-/
import ChainWatch.Hex
import ChainWatch.Json.Fields

set_option autoImplicit false

namespace ChainWatch

/-- Bytes are written as hex text. -/
def Json.bytes (bytes : Bytes) : Json := .text (Hex.encode bytes)

/-- Bytes are read from hex text of either case. -/
def Json.bytes? (j : Json) : Option Bytes :=
  match j.text? with
  | some s => (Hex.decode s).toOption
  | none => none

def Json.u32 (n : UInt32) : Json := .nat n.toNat

/-- Nothing is written as `null`. -/
def Json.optional {α : Type} (write : α → Json) : Option α → Json
  | some a => write a
  | none => .null

/-! ## 1. Blocks -/

/-- A new best block. An empty one asks for the stream of them. -/
structure BlockEpoch where
  hash : Bytes
  height : UInt32
  deriving DecidableEq

namespace BlockEpoch

def empty : BlockEpoch := ⟨[], 0⟩

def names : List String := ["hash", "height"]

def toJson (m : BlockEpoch) : Json := .object [("hash", .bytes m.hash), ("height", .u32 m.height)]

def ofFields? : List (Option Json) → Option BlockEpoch
  | [hash, height] => do
      return ⟨← Json.withDefault [] Json.bytes? hash, ← Json.withDefault 0 Json.u32? height⟩
  | _ => none

def ofJson? (j : Json) : Option BlockEpoch := (j.fields? names).bind ofFields?

end BlockEpoch

/-! ## 2. References to outputs -/

/-- The output of a transaction, by a hash of unchecked length. -/
structure OutputRef where
  hash : Bytes
  index : UInt32
  deriving DecidableEq

namespace OutputRef

def empty : OutputRef := ⟨[], 0⟩

def names : List String := ["hash", "index"]

def toJson (m : OutputRef) : Json := .object [("hash", .bytes m.hash), ("index", .u32 m.index)]

def ofFields? : List (Option Json) → Option OutputRef
  | [hash, index] => do
      return ⟨← Json.required Json.bytes? hash, ← Json.required Json.u32? index⟩
  | _ => none

def ofJson? (j : Json) : Option OutputRef := (j.fields? names).bind ofFields?

end OutputRef

/-! ## 3. Confirmations -/

/-- Asks for the confirmation of a transaction, or of any that pays to `script` when
`txid` is empty. -/
structure ConfirmRequest where
  txid : Bytes
  script : Bytes
  numConfs : UInt32
  heightHint : UInt32
  deriving DecidableEq

namespace ConfirmRequest

def empty : ConfirmRequest := ⟨[], [], 0, 0⟩

def names : List String := ["txid", "script", "num_confs", "height_hint"]

def toJson (m : ConfirmRequest) : Json :=
  .object [("txid", .bytes m.txid), ("script", .bytes m.script), ("num_confs", .u32 m.numConfs),
    ("height_hint", .u32 m.heightHint)]

def ofFields? : List (Option Json) → Option ConfirmRequest
  | [txid, script, numConfs, heightHint] => do
      return ⟨← Json.withDefault [] Json.bytes? txid, ← Json.withDefault [] Json.bytes? script,
        ← Json.required Json.u32? numConfs, ← Json.required Json.u32? heightHint⟩
  | _ => none

def ofJson? (j : Json) : Option ConfirmRequest := (j.fields? names).bind ofFields?

end ConfirmRequest

/-- A transaction that is buried as deep as was asked for. -/
structure ConfirmDetails where
  rawTx : Bytes
  blockHash : Bytes
  blockHeight : UInt32
  txIndex : UInt32
  deriving DecidableEq

namespace ConfirmDetails

def empty : ConfirmDetails := ⟨[], [], 0, 0⟩

def names : List String := ["raw_tx", "block_hash", "block_height", "tx_index"]

def toJson (m : ConfirmDetails) : Json :=
  .object [("raw_tx", .bytes m.rawTx), ("block_hash", .bytes m.blockHash),
    ("block_height", .u32 m.blockHeight), ("tx_index", .u32 m.txIndex)]

def ofFields? : List (Option Json) → Option ConfirmDetails
  | [rawTx, blockHash, blockHeight, txIndex] => do
      return ⟨← Json.required Json.bytes? rawTx, ← Json.required Json.bytes? blockHash,
        ← Json.required Json.u32? blockHeight, ← Json.required Json.u32? txIndex⟩
  | _ => none

def ofJson? (j : Json) : Option ConfirmDetails := (j.fields? names).bind ofFields?

end ConfirmDetails

/-! ## 4. Spends -/

/-- Asks for the spend of an output, or of any that pays to `script` when none is given. -/
structure SpendRequest where
  output : Option OutputRef
  script : Bytes
  heightHint : UInt32
  deriving DecidableEq

namespace SpendRequest

def empty : SpendRequest := ⟨none, [], 0⟩

def names : List String := ["outpoint", "script", "height_hint"]

def toJson (m : SpendRequest) : Json :=
  .object [("outpoint", .optional OutputRef.toJson m.output), ("script", .bytes m.script),
    ("height_hint", .u32 m.heightHint)]

def ofFields? : List (Option Json) → Option SpendRequest
  | [output, script, heightHint] => do
      return ⟨← Json.withDefault none (Json.optional? OutputRef.ofJson?) output,
        ← Json.withDefault [] Json.bytes? script, ← Json.required Json.u32? heightHint⟩
  | _ => none

def ofJson? (j : Json) : Option SpendRequest := (j.fields? names).bind ofFields?

end SpendRequest

/-- The transaction that spent the watched output. -/
structure SpendDetails where
  output : Option OutputRef
  rawTx : Bytes
  txHash : Bytes
  inputIndex : UInt32
  height : UInt32
  deriving DecidableEq

namespace SpendDetails

def empty : SpendDetails := ⟨none, [], [], 0, 0⟩

def names : List String :=
  ["spending_outpoint", "raw_spending_tx", "spending_tx_hash", "spending_input_index",
    "spending_height"]

def toJson (m : SpendDetails) : Json :=
  .object [("spending_outpoint", .optional OutputRef.toJson m.output),
    ("raw_spending_tx", .bytes m.rawTx), ("spending_tx_hash", .bytes m.txHash),
    ("spending_input_index", .u32 m.inputIndex), ("spending_height", .u32 m.height)]

def ofFields? : List (Option Json) → Option SpendDetails
  | [output, rawTx, txHash, inputIndex, height] => do
      return ⟨← Json.withDefault none (Json.optional? OutputRef.ofJson?) output,
        ← Json.required Json.bytes? rawTx, ← Json.required Json.bytes? txHash,
        ← Json.required Json.u32? inputIndex, ← Json.required Json.u32? height⟩
  | _ => none

def ofJson? (j : Json) : Option SpendDetails := (j.fields? names).bind ofFields?

end SpendDetails

/-! ## 5. Events -/

/-- The mark that a notification was undone by a reorganization. It carries nothing. -/
structure Reorg where
  deriving DecidableEq

namespace Reorg

def toJson (_ : Reorg) : Json := .object []

def ofJson? (j : Json) : Option Reorg := (j.fields? []).map fun _ => ⟨⟩

end Reorg

/-- What an event of a single-result stream with the given details can carry. -/
inductive EventBody (δ : Type) where
  | details (d : δ)
  | reorg (mark : Reorg)
  /-- A kind of event this client has no name for. -/
  | unknown (tag : String)
  deriving DecidableEq

/-- One event of a single-result stream. -/
structure Event (δ : Type) where
  body : Option (EventBody δ)
  deriving DecidableEq

namespace EventBody

variable {δ : Type}

/-- `tag` names the details among the choices. -/
def toJson (tag : String) (write : δ → Json) : EventBody δ → Json
  | details d => .object [(tag, write d)]
  | reorg mark => .object [("reorg", mark.toJson)]
  | unknown other => .object [("unknown", .text other)]

def ofJson? (tag : String) (read : Json → Option δ) (j : Json) : Option (EventBody δ) :=
  match j.choice? with
  | some (name, payload) =>
      if name = tag then (read payload).map details
      else if name = "reorg" then (Reorg.ofJson? payload).map reorg
      else if name = "unknown" then payload.text?.map unknown
      else none
  | none => none

end EventBody

namespace Event

variable {δ : Type}

def empty : Event δ := ⟨none⟩

def ofDetails (d : δ) : Event δ := ⟨some (.details d)⟩

def ofReorg : Event δ := ⟨some (.reorg ⟨⟩)⟩

def names : List String := ["event"]

def toJson (tag : String) (write : δ → Json) (e : Event δ) : Json :=
  .object [("event", .optional (EventBody.toJson tag write) e.body)]

def ofFields? (tag : String) (read : Json → Option δ) : List (Option Json) → Option (Event δ)
  | [event] => do
      return ⟨← Json.withDefault none (Json.optional? (EventBody.ofJson? tag read)) event⟩
  | _ => none

def ofJson? (tag : String) (read : Json → Option δ) (j : Json) : Option (Event δ) :=
  (j.fields? names).bind (ofFields? tag read)

end Event

/-- An event of a confirmation stream. -/
abbrev ConfirmEvent : Type := Event ConfirmDetails

def ConfirmEvent.toJson (e : ConfirmEvent) : Json := Event.toJson "conf" ConfirmDetails.toJson e

def ConfirmEvent.ofJson? (j : Json) : Option ConfirmEvent :=
  Event.ofJson? "conf" ConfirmDetails.ofJson? j

/-- An event of a spend stream. -/
abbrev SpendEvent : Type := Event SpendDetails

def SpendEvent.toJson (e : SpendEvent) : Json := Event.toJson "spend" SpendDetails.toJson e

def SpendEvent.ofJson? (j : Json) : Option SpendEvent :=
  Event.ofJson? "spend" SpendDetails.ofJson? j

end ChainWatch
