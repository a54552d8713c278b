/-
Which details are decoded.

The parts of a message are checked one after the other, and the first check that fails is the
error: `faults` lists what each check has to say, and decoding `Obeys` the list. Once all checks
have passed nothing is lost, because the value writes the message again (`toDetails`); for the
transaction that is so because it has one form only.
-/
import ChainWatch.Proofs.Digest
import ChainWatch.Proofs.Transaction

set_option autoImplicit false

namespace ChainWatch

/-! ## 1. Checks -/

/-- What a check has to say against its part, if anything. -/
abbrev Fault : Type := Option PayloadError

/-- A computation fails with the first of its faults, whatever comes behind it, and succeeds if
there is none. -/
inductive Obeys {α : Type} : Except PayloadError α → List Fault → Prop where
  | done (a : α) : Obeys (.ok a) []
  | failed (e : PayloadError) (faults : List Fault) : Obeys (.error e) (some e :: faults)
  | passed {x : Except PayloadError α} {faults : List Fault} (h : Obeys x faults) :
      Obeys x (none :: faults)

section Obeys

variable {α β : Type} {x : Except PayloadError α} {fault : Fault} {faults : List Fault}

theorem obeys_pure (a : α) : Obeys (pure a) [] := .done a

/-- The later checks are only made if the first has nothing to say. -/
theorem Obeys.bind {f : α → Except PayloadError β} (h : Obeys x [fault])
    (h' : ∀ a, Obeys (f a) faults) : Obeys (x >>= f) (fault :: faults) := by
  cases h with
  | failed e => exact .failed e faults
  | passed h =>
      cases h with
      | done a => exact .passed (h' a)

theorem Obeys.error_iff (h : Obeys x faults) (e : PayloadError) :
    x = .error e ↔ faults.findSome? id = some e := by
  induction h with
  | done a => simp
  | failed own faults => simp
  | passed h ih => exact ih

theorem Obeys.ok_iff (h : Obeys x faults) :
    (∃ a, x = .ok a) ↔ ∀ fault ∈ faults, fault = none := by
  induction h with
  | done a => simp
  | failed e faults => simp
  | passed h ih => rw [ih, List.forall_mem_cons, eq_self, true_and]

end Obeys

theorem ok_of_bind {ε α β : Type} {x : Except ε α} {f : α → Except ε β} {b : β}
    (h : (x >>= f) = .ok b) : ∃ a, x = .ok a ∧ f a = .ok b := by
  cases x with
  | ok a => exact ⟨a, rfl, h⟩
  | error e => cases h

/-! ## 2. Parts -/

/-- Checks that a hash has 32 bytes. -/
def hashFault (bytes : Bytes) : Fault :=
  if bytes.length = 32 then none else some (.hashLength bytes.length)

theorem hashFault_eq_none {bytes : Bytes} : hashFault bytes = none ↔ bytes.length = 32 := by
  unfold hashFault
  split <;> simp_all

theorem Digest.obeys_ofBytes? (bytes : Bytes) : Obeys (ofBytes? bytes) [hashFault bytes] := by
  unfold ofBytes? hashFault
  split
  · exact .passed (.done _)
  · exact .failed _ _

/-- Checks that raw bytes are a transaction. -/
def transactionFault (raw : Bytes) : Fault :=
  match Transaction.decode raw with
  | .ok _ => none
  | .error fault => some (.transaction fault.message)

theorem obeys_decodeTransaction (raw : Bytes) :
    Obeys (decodeTransaction raw) [transactionFault raw] := by
  unfold decodeTransaction transactionFault
  cases Transaction.decode raw with
  | ok tx => exact .passed (.done tx)
  | error fault => exact .failed _ _

theorem transactionFault_eq_none {raw : Bytes} :
    transactionFault raw = none ↔ ∃ tx, decodeTransaction raw = .ok tx := by
  rw [(obeys_decodeTransaction raw).ok_iff, List.forall_mem_singleton]

/-- Checks that a height leaves the highest bit free. -/
def heightFault (field : String) (value : UInt32) : Fault :=
  if value.toNat < 2 ^ 31 then none else some (.outOfRange field value)

theorem heightFault_eq_none {field : String} {value : UInt32} :
    heightFault field value = none ↔ value.toNat < 2 ^ 31 := by
  unfold heightFault
  split <;> simp_all

theorem obeys_decodeHeight (field : String) (value : UInt32) :
    Obeys (decodeHeight field value) [heightFault field value] := by
  have hlt : value < 0x80000000 ↔ value.toNat < 2 ^ 31 := UInt32.lt_iff_toNat_lt
  unfold decodeHeight heightFault
  by_cases h : value.toNat < 2 ^ 31
  · rw [if_pos h, if_pos (hlt.mpr h)]
    exact .passed (.done _)
  · rw [if_neg h, if_neg (mt hlt.mp h)]
    exact .failed _ _

/-- A height that was narrowed is widened to what it was. -/
theorem toUInt32_of_decodeHeight {field : String} {value : UInt32} {height : Int32}
    (h : decodeHeight field value = .ok height) : height.toUInt32 = value := by
  unfold decodeHeight at h
  split at h
  · cases h
    exact UInt32.toUInt32_toInt32 value
  · cases h

theorem OutputRef.obeys_decode (m : OutputRef) : Obeys m.decode [hashFault m.hash] :=
  (Digest.obeys_ofBytes? m.hash).bind fun _ => obeys_pure _

theorem OutputRef.toRef_of_decode {m : OutputRef} {output : Outpoint} (h : m.decode = .ok output) :
    output.toRef = m := by
  obtain ⟨hash, hhash, hdone⟩ := ok_of_bind h
  cases hdone
  rw [Outpoint.toRef, Digest.bytes_of_ofBytes? hhash]

/-! ## 3. Messages -/

/-- The message that a confirmation is decoded from. -/
def Confirmation.toDetails (c : Confirmation) : ConfirmDetails :=
  ⟨c.tx.encode, c.blockHash.bytes, c.blockHeight, c.txIndex⟩

/-- The message that a spend is decoded from. -/
def Spend.toDetails (s : Spend) : SpendDetails :=
  ⟨some s.output.toRef, s.tx.encode, s.txHash.bytes, s.inputIndex, s.height.toUInt32⟩

namespace ConfirmDetails

/-- The checks of a confirmation, in their order. -/
def faults (m : ConfirmDetails) : List Fault := [transactionFault m.rawTx, hashFault m.blockHash]

theorem obeys_decode (m : ConfirmDetails) : Obeys m.decode m.faults :=
  (obeys_decodeTransaction m.rawTx).bind fun _ =>
    (Digest.obeys_ofBytes? m.blockHash).bind fun _ => obeys_pure _

theorem toDetails_of_decode {m : ConfirmDetails} {c : Confirmation} (h : m.decode = .ok c) :
    c.toDetails = m := by
  obtain ⟨tx, htx, h⟩ := ok_of_bind h
  obtain ⟨blockHash, hhash, hdone⟩ := ok_of_bind h
  cases hdone
  rw [Confirmation.toDetails, Digest.bytes_of_ofBytes? hhash, ← (decodeTransaction_iff.mp htx).2]

end ConfirmDetails

namespace SpendDetails

/-- What is behind the check that there is an output. -/
def decodeWith (m : SpendDetails) (ref : OutputRef) : Except PayloadError Spend := do
  let output ← ref.decode
  let txHash ← Digest.ofBytes? m.txHash
  let tx ← decodeTransaction m.rawTx
  let height ← decodeHeight "spending_height" m.height
  return ⟨output, txHash, m.inputIndex, tx, height⟩

theorem decode_eq (m : SpendDetails) :
    m.decode = m.output.elim (.error (.missingField "spending_outpoint")) m.decodeWith := by
  unfold decode
  cases m.output <;> rfl

/-- The checks of a spend, in their order. -/
def faults (m : SpendDetails) : List Fault :=
  [m.output.elim (some (.missingField "spending_outpoint")) fun _ => none,
    m.output.bind fun ref => hashFault ref.hash, hashFault m.txHash, transactionFault m.rawTx,
    heightFault "spending_height" m.height]

/-- The first two checks are about the output: it is there, and its hash has 32 bytes. -/
theorem output_faults_eq_none (m : SpendDetails) :
    (m.output.elim (some (.missingField "spending_outpoint")) fun _ => none : Fault) = none
        ∧ (m.output.bind fun ref => hashFault ref.hash) = none
      ↔ ∃ ref, m.output = some ref ∧ ref.hash.length = 32 := by
  cases m.output with
  | none => simp
  | some ref => simp [hashFault_eq_none]

theorem obeys_decode (m : SpendDetails) : Obeys m.decode m.faults := by
  rw [decode_eq, faults]
  cases m.output with
  | none => exact .failed _ _
  | some ref =>
      -- the first check has passed, and each of the others goes with one line of the decoder
      apply Obeys.passed
      exact ref.obeys_decode.bind fun _ => (Digest.obeys_ofBytes? m.txHash).bind fun _ =>
        (obeys_decodeTransaction m.rawTx).bind fun _ =>
          (obeys_decodeHeight "spending_height" m.height).bind fun _ => obeys_pure _

theorem toDetails_of_decode {m : SpendDetails} {s : Spend} (h : m.decode = .ok s) :
    s.toDetails = m := by
  rw [decode_eq] at h
  cases hsome : m.output with
  | none =>
      rw [hsome] at h
      cases h
  | some ref =>
      rw [hsome] at h
      obtain ⟨output, houtput, h⟩ := ok_of_bind h
      obtain ⟨txHash, hhash, h⟩ := ok_of_bind h
      obtain ⟨tx, htx, h⟩ := ok_of_bind h
      obtain ⟨height, hheight, hdone⟩ := ok_of_bind h
      cases hdone
      rw [Spend.toDetails, OutputRef.toRef_of_decode houtput, Digest.bytes_of_ofBytes? hhash,
        ← (decodeTransaction_iff.mp htx).2, toUInt32_of_decodeHeight hheight, ← hsome]

end SpendDetails

/-- **Details are decoded if they pass every check, with the error of the first that they do not
pass, and without loss.** -/
theorem details_decoded :
    (∀ m : ConfirmDetails,
      ((∃ c, m.decode = .ok c)
        ↔ (∃ tx, decodeTransaction m.rawTx = .ok tx) ∧ m.blockHash.length = 32)
      ∧ (∀ e, m.decode = .error e ↔ m.faults.findSome? id = some e)
      ∧ ∀ c, m.decode = .ok c → c.toDetails = m)
    ∧ (∀ m : SpendDetails,
      ((∃ s, m.decode = .ok s)
        ↔ (∃ ref, m.output = some ref ∧ ref.hash.length = 32) ∧ m.txHash.length = 32
          ∧ (∃ tx, decodeTransaction m.rawTx = .ok tx) ∧ m.height.toNat < 2 ^ 31)
      ∧ (∀ e, m.decode = .error e ↔ m.faults.findSome? id = some e)
      ∧ ∀ s, m.decode = .ok s → s.toDetails = m)
    ∧ (∀ (m m' : ConfirmDetails) c, m.decode = .ok c → m'.decode = .ok c → m = m')
    ∧ ∀ (m m' : SpendDetails) s, m.decode = .ok s → m'.decode = .ok s → m = m' := by
  refine ⟨fun m => ⟨?_, m.obeys_decode.error_iff, fun c => m.toDetails_of_decode⟩,
    fun m => ⟨?_, m.obeys_decode.error_iff, fun s => m.toDetails_of_decode⟩, ?_, ?_⟩
  · rw [m.obeys_decode.ok_iff, ConfirmDetails.faults, List.forall_mem_cons,
      List.forall_mem_singleton, transactionFault_eq_none, hashFault_eq_none]
  · rw [m.obeys_decode.ok_iff, SpendDetails.faults, List.forall_mem_cons, List.forall_mem_cons,
      List.forall_mem_cons, List.forall_mem_cons, List.forall_mem_singleton, ← and_assoc,
      m.output_faults_eq_none, hashFault_eq_none, transactionFault_eq_none, heightFault_eq_none]
  · intro m m' c h h'
    rw [← m.toDetails_of_decode h, m'.toDetails_of_decode h']
  · intro m m' s h h'
    rw [← m.toDetails_of_decode h, m'.toDetails_of_decode h']

end ChainWatch
