/-
Which byte strings are transactions.

Part by part, from compact sizes to whole transactions, the reader takes what `encode` writes and
nothing else (`Transaction.reads_read`), as long as no count is beyond 64 bits and no witness beyond
its limit. So every transaction has one byte string and no other stands for it, and because each
part is taken from left to right, a byte string that was cut short is told from one that is too
long.
-/
import ChainWatch.Notice
import ChainWatch.Proofs.Reader

set_option autoImplicit false

namespace ChainWatch

open Reader

/-! ## 1. Counts and lengths -/

namespace CompactSize

theorem reads_wide (width least : Nat) :
    Reads (wide width least) fun n used =>
      (least ≤ n ∧ n < 256 ^ width) ∧ used = leBytes width n := by
  refine ((reads_number width).bind fun n =>
    reads_ite (fun _ => reads_fail _) fun _ => reads_pure n).iff ?_
  intro n used
  constructor
  · rintro ⟨m, _, _, ⟨hlt, rfl⟩, ⟨-, hnever⟩ | ⟨hleast, rfl, rfl⟩, rfl⟩
    · cases hnever
    · exact ⟨⟨Nat.not_lt.mp hleast, hlt⟩, List.append_nil _⟩
  · rintro ⟨⟨hleast, hlt⟩, rfl⟩
    exact ⟨n, _, [], ⟨hlt, rfl⟩, Or.inr ⟨Nat.not_lt.mpr hleast, rfl, rfl⟩, (List.append_nil _).symm⟩

/-- A number has one form, the shortest. -/
theorem reads_read : Reads read fun n used => n < UInt64.size ∧ used = encode n := by
  refine ((reads_number 1).bind fun marker =>
    reads_ite (fun _ => reads_wide 2 0xfd) fun _ =>
    reads_ite (fun _ => reads_wide 4 0x10000) fun _ =>
    reads_ite (fun _ => reads_wide 8 0x100000000) fun _ => reads_pure marker).iff ?_
  have hbyte {n : Nat} (h : n < 0xfd) : leBytes 1 n = [UInt8.ofNat n] := by
    rw [leBytes, leBytes, Nat.mod_eq_of_lt (by omega)]
  have hsize : UInt64.size = 256 ^ 8 := rfl
  intro n used
  unfold encode
  constructor
  · rintro ⟨marker, _, _, ⟨hmarker, rfl⟩, hrest, rfl⟩
    rcases hrest with ⟨rfl, ⟨hleast, hlt⟩, rfl⟩ | ⟨h2, hrest⟩
    · rw [if_neg (by omega), if_pos (by omega)]
      exact ⟨by omega, rfl⟩
    rcases hrest with ⟨rfl, ⟨hleast, hlt⟩, rfl⟩ | ⟨h4, hrest⟩
    · rw [if_neg (by omega), if_neg (by omega), if_pos (by omega)]
      exact ⟨by omega, rfl⟩
    rcases hrest with ⟨rfl, ⟨hleast, hlt⟩, rfl⟩ | ⟨h8, rfl, rfl⟩
    · rw [if_neg (by omega), if_neg (by omega), if_neg (by omega)]
      exact ⟨by omega, rfl⟩
    · -- a byte that is no marker is the number itself
      have hsmall : n < 0xfd := by omega
      rw [if_pos hsmall, List.append_nil, hbyte hsmall]
      exact ⟨by omega, rfl⟩
  · rintro ⟨hlt, rfl⟩
    split
    · rename_i h1
      refine ⟨n, _, [], ⟨by omega, rfl⟩, Or.inr ⟨by omega, Or.inr ⟨by omega, Or.inr ⟨by omega, rfl,
        rfl⟩⟩⟩, ?_⟩
      rw [List.append_nil, hbyte h1]
    split
    · exact ⟨0xfd, _, _, ⟨by omega, rfl⟩, Or.inl ⟨rfl, ⟨by omega, by omega⟩, rfl⟩, rfl⟩
    split
    · exact ⟨0xfe, _, _, ⟨by omega, rfl⟩, Or.inr ⟨by omega, Or.inl ⟨rfl, ⟨by omega, by omega⟩,
        rfl⟩⟩, rfl⟩
    · exact ⟨0xff, _, _, ⟨by omega, rfl⟩, Or.inr ⟨by omega, Or.inr ⟨by omega, Or.inl ⟨rfl,
        ⟨by omega, by omega⟩, rfl⟩⟩⟩, rfl⟩

end CompactSize

namespace Reader

theorem reads_u32 : Reads u32 fun n used => used = leBytes 4 n.toNat := by
  have hread : Reads u32 fun n used => True ∧ used = leBytes 4 n.toNat := by
    refine (reads_number 4).map ?_ ?_
    · intro n hlt
      refine ⟨trivial, ?_⟩
      rw [UInt32.toNat_ofNat', Nat.mod_eq_of_lt (show n < 2 ^ 32 from hlt)]
    · intro n _
      exact ⟨n.toNat_lt, UInt32.ofNat_toNat⟩
  refine hread.iff ?_
  intro n used
  rw [true_and]

theorem reads_u64 : Reads u64 fun n used => used = leBytes 8 n.toNat := by
  have hread : Reads u64 fun n used => True ∧ used = leBytes 8 n.toNat := by
    refine (reads_number 8).map ?_ ?_
    · intro n hlt
      refine ⟨trivial, ?_⟩
      rw [UInt64.toNat_ofNat', Nat.mod_eq_of_lt (show n < 2 ^ 64 from hlt)]
    · intro n _
      exact ⟨n.toNat_lt, UInt64.ofNat_toNat⟩
  refine hread.iff ?_
  intro n used
  rw [true_and]

theorem reads_counted :
    Reads counted fun a used => a.length < UInt64.size ∧ used = encodeCounted a := by
  refine (CompactSize.reads_read.bind fun n => reads_take n).iff ?_
  intro a used
  constructor
  · rintro ⟨_, _, _, ⟨hlt, rfl⟩, ⟨rfl, rfl⟩, rfl⟩
    exact ⟨hlt, rfl⟩
  · rintro ⟨hlt, rfl⟩
    exact ⟨a.length, _, a, ⟨hlt, rfl⟩, ⟨rfl, rfl⟩, rfl⟩

theorem reads_listOf {α : Type} {r : Reader α} {Valid : α → Prop} {write : α → Bytes}
    (h : Reads r fun a used => Valid a ∧ used = write a) :
    Reads (listOf r) fun as used => (as.length < UInt64.size ∧ ∀ a ∈ as, Valid a)
      ∧ used = CompactSize.encode as.length ++ as.flatMap write := by
  refine (CompactSize.reads_read.bind fun n => reads_replicate h n).iff ?_
  intro as used
  constructor
  · rintro ⟨_, _, _, ⟨hlt, rfl⟩, ⟨rfl, hvalid, rfl⟩, rfl⟩
    exact ⟨⟨hlt, hvalid⟩, rfl⟩
  · rintro ⟨⟨hlt, hvalid⟩, rfl⟩
    exact ⟨as.length, _, _, ⟨hlt, rfl⟩, ⟨rfl, hvalid, rfl⟩, rfl⟩

end Reader

/-! ## 2. Inputs and outputs -/

theorem TxInput.reads_read : Reads TxInput.read fun i used =>
    (i.script.length < UInt64.size ∧ i.witness = []) ∧ used = i.encode := by
  refine (reads_digest.bind fun previous => reads_u32.bind fun index => reads_counted.bind
    fun script => reads_u32.bind fun sequence =>
      reads_pure (TxInput.mk previous index script sequence [])).iff ?_
  intro i used
  constructor
  · rintro ⟨previous, _, _, rfl, ⟨index, _, _, rfl, ⟨script, _, _, ⟨hlt, rfl⟩, ⟨sequence, _, _, rfl,
      ⟨rfl, rfl⟩, rfl⟩, rfl⟩, rfl⟩, rfl⟩
    refine ⟨⟨hlt, rfl⟩, ?_⟩
    simp only [TxInput.encode, List.append_assoc, List.append_nil]
  · rintro ⟨⟨hlt, hwitness⟩, rfl⟩
    refine ⟨i.previous, _, _, rfl, ⟨i.index, _, _, rfl, ⟨i.script, _, _, ⟨hlt, rfl⟩, ⟨i.sequence, _,
      [], rfl, ⟨?_, rfl⟩, rfl⟩, rfl⟩, rfl⟩, ?_⟩
    · rw [← hwitness]
    · simp only [TxInput.encode, List.append_assoc, List.append_nil]

theorem TxOutput.reads_read : Reads TxOutput.read fun o used =>
    o.script.length < UInt64.size ∧ used = o.encode := by
  refine (reads_u64.bind fun value => reads_counted.bind fun script =>
    reads_pure (TxOutput.mk value script)).iff ?_
  intro o used
  constructor
  · rintro ⟨value, _, _, rfl, ⟨script, _, _, ⟨hlt, rfl⟩, ⟨rfl, rfl⟩, rfl⟩, rfl⟩
    refine ⟨hlt, ?_⟩
    rw [TxOutput.encode, List.append_nil]
  · rintro ⟨hlt, rfl⟩
    refine ⟨o.value, _, _, rfl, ⟨o.script, _, [], ⟨hlt, rfl⟩, ⟨rfl, rfl⟩, rfl⟩, ?_⟩
    rw [TxOutput.encode, List.append_nil]

/-! ## 3. Witnesses -/

namespace TxInput

/-- The input as it stands in the list of inputs. -/
def bare (i : TxInput) : TxInput := { i with witness := [] }

/-- The witness is within its limits, in the number of its elements and in their size. -/
def WitnessFits (i : TxInput) : Prop :=
  i.witness.length ≤ witnessLimit ∧ i.witnessSize ≤ witnessLimit

theorem flatMap_encode_bare (inputs : List TxInput) :
    (inputs.map bare).flatMap encode = inputs.flatMap encode := by
  rw [List.flatMap_map]
  rfl

end TxInput

namespace Transaction

/-- How many bytes an element takes, its length included. -/
def elementSize (element : Bytes) : Nat := CompactSize.width element.length + element.length

/-- The elements are read as long as they stay within the limit, together with those before. -/
theorem reads_readElements (room n : Nat) {before : Nat} (hbefore : before ≤ witnessLimit) :
    Reads (readElements room n before) fun elements used =>
      (elements.length = n ∧ before + total elementSize elements ≤ witnessLimit)
        ∧ used = elements.flatMap encodeCounted := by
  induction n generalizing before with
  | zero =>
      refine (reads_pure []).iff ?_
      intro elements used
      constructor
      · rintro ⟨rfl, rfl⟩
        exact ⟨⟨rfl, hbefore⟩, rfl⟩
      · rintro ⟨⟨hlength, -⟩, rfl⟩
        obtain rfl := List.length_eq_zero_iff.mp hlength
        exact ⟨rfl, rfl⟩
  | succ n ih =>
      -- what is read so far grows by the element, so the rest starts nearer to the limit
      refine (CompactSize.reads_read.bind fun size =>
        reads_ite (fun _ => reads_fail _) fun hroom => (reads_take size).bind fun element =>
          (ih (Nat.not_lt.mp hroom)).bind fun rest => reads_pure (element :: rest)).iff ?_
      intro elements used
      constructor
      · rintro ⟨_, _, _, ⟨-, rfl⟩, ⟨-, hnever⟩ | ⟨-, element, _, _, ⟨rfl, rfl⟩, ⟨rest, _, _,
          ⟨⟨rfl, htotal⟩, rfl⟩, ⟨rfl, rfl⟩, rfl⟩, rfl⟩, rfl⟩
        · cases hnever
        refine ⟨⟨rfl, ?_⟩, ?_⟩
        · rw [total, elementSize]
          omega
        · rw [List.append_nil, List.flatMap_cons, encodeCounted, List.append_assoc]
      · rintro ⟨⟨hlength, htotal⟩, rfl⟩
        cases elements with
        | nil => cases hlength
        | cons element rest =>
            rw [total, elementSize] at htotal
            have hlimit : witnessLimit < UInt64.size := by decide
            refine ⟨element.length, _, _, ⟨by omega, rfl⟩, Or.inr ⟨by omega, element, _, _,
              ⟨rfl, rfl⟩, ⟨rest, _, [], ⟨⟨Nat.succ.inj hlength, by omega⟩, rfl⟩, ⟨rfl, rfl⟩, rfl⟩,
              rfl⟩, ?_⟩
            rw [List.append_nil, List.flatMap_cons, encodeCounted, List.append_assoc]

theorem reads_readWitness : Reads readWitness fun elements used =>
    (elements.length ≤ witnessLimit ∧ total elementSize elements ≤ witnessLimit)
      ∧ used = CompactSize.encode elements.length ++ elements.flatMap encodeCounted := by
  refine (CompactSize.reads_read.bind fun n => reads_ite (fun _ => reads_fail _) fun _ =>
    reads_readElements (4 * n) n (Nat.zero_le _)).iff ?_
  intro elements used
  constructor
  · rintro ⟨_, _, _, ⟨-, rfl⟩, ⟨-, hnever⟩ | ⟨hcount, ⟨rfl, htotal⟩, rfl⟩, rfl⟩
    · cases hnever
    · rw [Nat.zero_add] at htotal
      exact ⟨⟨Nat.not_lt.mp hcount, htotal⟩, rfl⟩
  · rintro ⟨⟨hcount, htotal⟩, rfl⟩
    have hlimit : witnessLimit < UInt64.size := by decide
    refine ⟨elements.length, _, _, ⟨by omega, rfl⟩, Or.inr ⟨Nat.not_lt.mpr hcount, ⟨rfl, ?_⟩, rfl⟩,
      rfl⟩
    rw [Nat.zero_add]
    exact htotal

/-- Each input gets its witness back, and nothing else of it changes. -/
theorem reads_readWitnesses (inputs : List TxInput) :
    Reads (readWitnesses inputs) fun full used =>
      (full.map TxInput.bare = inputs.map TxInput.bare ∧ ∀ i ∈ full, i.WitnessFits)
        ∧ used = full.flatMap TxInput.encodeWitness := by
  induction inputs with
  | nil =>
      refine (reads_pure []).iff ?_
      intro full used
      constructor
      · rintro ⟨rfl, rfl⟩
        exact ⟨⟨rfl, fun _ hmem => absurd hmem List.not_mem_nil⟩, rfl⟩
      · rintro ⟨⟨hbare, -⟩, rfl⟩
        obtain rfl := List.map_eq_nil_iff.mp hbare
        exact ⟨rfl, rfl⟩
  | cons i inputs ih =>
      refine (reads_readWitness.bind fun witness => ih.bind fun rest =>
        reads_pure ({ i with witness } :: rest)).iff ?_
      intro full used
      constructor
      · rintro ⟨witness, _, _, ⟨hfits, rfl⟩, ⟨rest, _, _, ⟨⟨hbare, hrest⟩, rfl⟩, ⟨rfl, rfl⟩, rfl⟩,
          rfl⟩
        refine ⟨⟨?_, List.forall_mem_cons.mpr ⟨hfits, hrest⟩⟩, ?_⟩
        · rw [List.map_cons, List.map_cons, hbare]
          rfl
        · rw [List.append_nil, List.flatMap_cons]
          rfl
      · rintro ⟨⟨hbare, hfits⟩, rfl⟩
        cases full with
        | nil => cases hbare
        | cons j full =>
            obtain ⟨hj, hfull⟩ := List.forall_mem_cons.mp hfits
            obtain ⟨hhead, htail⟩ := List.cons_eq_cons.mp hbare
            have hwitness : { i with witness := j.witness } = j := by
              cases i
              cases j
              cases hhead
              rfl
            refine ⟨j.witness, _, _, ⟨hj, rfl⟩, ⟨full, _, [], ⟨⟨htail, hfull⟩, rfl⟩, ⟨?_, rfl⟩,
              rfl⟩, ?_⟩
            · rw [hwitness]
            · rw [List.append_nil, List.flatMap_cons]
              rfl

/-! ## 4. Transactions -/

/-- Every list in it is one whose length can be written. -/
structure LengthsFit (tx : Transaction) : Prop where
  inputs : tx.inputs.length < UInt64.size
  inputScripts : ∀ i ∈ tx.inputs, i.script.length < UInt64.size
  outputs : tx.outputs.length < UInt64.size
  outputScripts : ∀ o ∈ tx.outputs, o.script.length < UInt64.size

/-- No witness goes beyond its limits. -/
def WitnessesFit (tx : Transaction) : Prop := ∀ i ∈ tx.inputs, i.WitnessFits

theorem reads_inputs : Reads (listOf TxInput.read) fun inputs used =>
    (inputs.length < UInt64.size ∧ ∀ i ∈ inputs, i.script.length < UInt64.size ∧ i.witness = [])
      ∧ used = encodeInputs inputs := reads_listOf TxInput.reads_read

theorem reads_outputs : Reads (listOf TxOutput.read) fun outputs used =>
    (outputs.length < UInt64.size ∧ ∀ o ∈ outputs, o.script.length < UInt64.size)
      ∧ used = encodeOutputs outputs := reads_listOf TxOutput.reads_read

/-- Inputs are written as they stand in their list, whatever their witnesses. -/
theorem encodeInputs_bare (inputs : List TxInput) :
    encodeInputs (inputs.map TxInput.bare) = encodeInputs inputs := by
  rw [encodeInputs, encodeInputs, List.length_map, TxInput.flatMap_encode_bare]

theorem map_bare_of_bare {inputs : List TxInput} (h : ∀ i ∈ inputs, i.witness = []) :
    inputs.map TxInput.bare = inputs := by
  rw [List.map_congr_left (g := id), List.map_id]
  intro i hi
  rw [TxInput.bare, ← h i hi]
  rfl

theorem isPlain_iff {tx : Transaction} :
    tx.isPlain = true ↔ tx.inputs ≠ [] ∧ ∀ i ∈ tx.inputs, i.witness = [] := by
  simp only [isPlain, Bool.and_eq_true, Bool.not_eq_true', List.isEmpty_eq_false_iff,
    List.all_eq_true, List.isEmpty_iff]

/-- What stands behind the marker, for a transaction of the version. -/
theorem reads_readMarked (version : Int32) :
    Reads (readMarked version) fun tx used =>
      (tx.version = version ∧ tx.isPlain = false ∧ tx.LengthsFit ∧ tx.WitnessesFit)
        ∧ used = [1] ++ encodeInputs tx.inputs ++ encodeOutputs tx.outputs
            ++ tx.inputs.flatMap TxInput.encodeWitness ++ leBytes 4 tx.lockTime.toNat := by
  refine ((reads_number 1).bind fun flag => reads_ite (fun _ => reads_fail _) fun _ =>
    reads_inputs.bind fun inputs => reads_outputs.bind fun outputs =>
      (reads_readWitnesses inputs).bind fun inputs => reads_ite (fun _ => reads_fail _) fun _ =>
        reads_u32.bind fun lockTime =>
          reads_pure (Transaction.mk version inputs outputs lockTime)).iff ?_
  intro tx used
  constructor
  · rintro ⟨flag, _, _, ⟨-, rfl⟩, ⟨-, hnever⟩ | ⟨hflag, bare, _, _, ⟨⟨hcount, hbare⟩, rfl⟩,
      ⟨outputs, _, _, ⟨⟨houtputs, hscripts⟩, rfl⟩, ⟨inputs, _, _, ⟨⟨hsame, hfits⟩, rfl⟩,
      ⟨-, hnever⟩ | ⟨hplain, lockTime, _, _, rfl, ⟨rfl, rfl⟩, rfl⟩, rfl⟩, rfl⟩, rfl⟩, rfl⟩
    · cases hnever
    · cases hnever
    obtain rfl := not_not.mp hflag
    -- the inputs were read before their witnesses
    rw [map_bare_of_bare fun i hi => (hbare i hi).2] at hsame
    subst hsame
    refine ⟨⟨rfl, Bool.eq_false_iff.mpr hplain, ⟨?_, ?_, houtputs, hscripts⟩, hfits⟩, ?_⟩
    · rw [List.length_map] at hcount
      exact hcount
    · intro i hi
      exact (hbare i.bare (List.mem_map_of_mem hi)).1
    · rw [encodeInputs_bare]
      simp only [List.append_assoc, List.append_nil]
      rfl
  · rintro ⟨⟨rfl, hplain, hlengths, hfits⟩, rfl⟩
    refine ⟨1, _, _, ⟨by decide, rfl⟩, Or.inr ⟨not_not.mpr rfl, tx.inputs.map TxInput.bare, _, _,
      ⟨⟨?_, ?_⟩, rfl⟩, ⟨tx.outputs, _, _, ⟨⟨hlengths.outputs, hlengths.outputScripts⟩, rfl⟩,
      ⟨tx.inputs, _, _, ⟨⟨?_, hfits⟩, rfl⟩, Or.inr ⟨Bool.eq_false_iff.mp hplain, tx.lockTime, _, [],
      rfl, ⟨rfl, rfl⟩, rfl⟩, rfl⟩, rfl⟩, rfl⟩, ?_⟩
    · rw [List.length_map]
      exact hlengths.inputs
    · intro i hi
      obtain ⟨j, hj, rfl⟩ := List.mem_map.mp hi
      exact ⟨hlengths.inputScripts j hj, rfl⟩
    · rw [List.map_map]
      rfl
    · rw [encodeInputs_bare]
      simp only [List.append_assoc, List.append_nil]
      rfl

/-- A byte string is read as a transaction if it is the one that is written for it. -/
theorem reads_read : Reads read fun tx used =>
    (tx.LengthsFit ∧ tx.WitnessesFit) ∧ used = tx.encode := by
  refine (reads_u32.bind fun version => reads_inputs.bind fun inputs =>
    reads_ite (fun _ => reads_readMarked version.toInt32) fun _ =>
      reads_outputs.bind fun outputs => reads_u32.bind fun lockTime =>
        reads_pure (Transaction.mk version.toInt32 inputs outputs lockTime)).iff ?_
  intro tx used
  constructor
  · rintro ⟨version, _, _, rfl, ⟨inputs, _, _, ⟨⟨hcount, hbare⟩, rfl⟩,
      ⟨hempty, ⟨hversion, hplain, hlengths, hfits⟩, rfl⟩ | ⟨hsome, outputs, _, _,
        ⟨⟨houtputs, hscripts⟩, rfl⟩, ⟨lockTime, _, _, rfl, ⟨rfl, rfl⟩, rfl⟩, rfl⟩, rfl⟩, rfl⟩
    · -- no inputs are the marker
      obtain rfl := List.isEmpty_iff.mp hempty
      refine ⟨⟨hlengths, hfits⟩, ?_⟩
      rw [encode, hplain, hversion, UInt32.toUInt32_toInt32, if_neg Bool.false_ne_true]
      simp only [List.append_assoc]
      rfl
    · have hwitness (i : TxInput) (hi : i ∈ inputs) : i.witness = [] := (hbare i hi).2
      have hplain : isPlain ⟨version.toInt32, inputs, outputs, lockTime⟩ = true :=
        isPlain_iff.mpr ⟨fun hnil => hsome (List.isEmpty_iff.mpr hnil), hwitness⟩
      refine ⟨⟨⟨hcount, fun i hi => (hbare i hi).1, houtputs, hscripts⟩, ?_⟩, ?_⟩
      · intro i hi
        rw [TxInput.WitnessFits, TxInput.witnessSize, hwitness i hi]
        exact ⟨Nat.zero_le _, Nat.zero_le _⟩
      · rw [encode, if_pos hplain, UInt32.toUInt32_toInt32]
        simp only [List.append_assoc, List.append_nil]
  · rintro ⟨⟨hlengths, hfits⟩, rfl⟩
    cases hplain : tx.isPlain with
    | true =>
        obtain ⟨hsome, hwitness⟩ := isPlain_iff.mp hplain
        refine ⟨tx.version.toUInt32, _, _, rfl, ⟨tx.inputs, _, _, ⟨⟨hlengths.inputs, ?_⟩, rfl⟩,
          Or.inr ⟨?_, tx.outputs, _, _, ⟨⟨hlengths.outputs, hlengths.outputScripts⟩, rfl⟩,
          ⟨tx.lockTime, _, [], rfl, ⟨?_, rfl⟩, rfl⟩, rfl⟩, rfl⟩, ?_⟩
        · exact fun i hi => ⟨hlengths.inputScripts i hi, hwitness i hi⟩
        · exact fun hempty => hsome (List.isEmpty_iff.mp hempty)
        · rw [Int32.toInt32_toUInt32]
        · rw [encode, if_pos hplain]
          simp only [List.append_assoc, List.append_nil]
    | false =>
        -- the marker is read as an empty list of inputs
        refine ⟨tx.version.toUInt32, _, _, rfl, ⟨[], _, _, ⟨⟨by decide, ?_⟩, rfl⟩,
          Or.inl ⟨rfl, ⟨?_, rfl, hlengths, hfits⟩, rfl⟩, rfl⟩, ?_⟩
        · exact fun i hi => absurd hi List.not_mem_nil
        · rw [Int32.toInt32_toUInt32]
        · rw [encode, hplain, if_neg Bool.false_ne_true]
          simp only [List.append_assoc]
          rfl

/-! ## 5. Byte strings -/

theorem TxInput.encode_pos (i : TxInput) : 0 < i.encode.length := by
  rw [TxInput.encode, List.length_append, leBytes_length]
  omega

theorem TxOutput.encode_pos (o : TxOutput) : 0 < o.encode.length := by
  rw [TxOutput.encode, List.length_append, leBytes_length]
  omega

/-- A list takes more bytes than it has parts, and more than any of them. -/
theorem length_flatMap_le {α : Type} {write : α → Bytes} (hwrite : ∀ a, 0 < (write a).length)
    (as : List α) :
    as.length ≤ (as.flatMap write).length
      ∧ ∀ a ∈ as, (write a).length ≤ (as.flatMap write).length := by
  induction as with
  | nil => exact ⟨Nat.le_refl _, fun _ hmem => absurd hmem List.not_mem_nil⟩
  | cons a as ih =>
      have hfirst := hwrite a
      rw [List.flatMap_cons, List.length_append, List.length_cons]
      refine ⟨by omega, List.forall_mem_cons.mpr ⟨Nat.le_add_right _ _, ?_⟩⟩
      intro b hb
      exact Nat.le_trans (ih.2 b hb) (Nat.le_add_left _ _)

/-- No list is longer than the byte string it is written in. -/
theorem lengthsFit_of_length {tx : Transaction} (h : tx.encode.length < UInt64.size) :
    tx.LengthsFit := by
  -- both lists stand in either form
  have hparts : (tx.inputs.flatMap TxInput.encode).length < UInt64.size
      ∧ (tx.outputs.flatMap TxOutput.encode).length < UInt64.size := by
    simp only [encode] at h
    split at h <;>
      simp only [encodeInputs, encodeOutputs, List.length_append] at h <;>
      omega
  obtain ⟨hinputs, heach⟩ := length_flatMap_le TxInput.encode_pos tx.inputs
  obtain ⟨houtputs, heach'⟩ := length_flatMap_le TxOutput.encode_pos tx.outputs
  refine ⟨by omega, ?_, by omega, ?_⟩
  · intro i hi
    have hscript := heach i hi
    simp only [TxInput.encode, encodeCounted, List.length_append] at hscript
    omega
  · intro o ho
    have hscript := heach' o ho
    simp only [TxOutput.encode, encodeCounted, List.length_append] at hscript
    omega

end Transaction

theorem decodeTransaction_eq_ok {raw : Bytes} {tx : Transaction} :
    decodeTransaction raw = .ok tx ↔ Transaction.decode raw = .ok tx := by
  unfold decodeTransaction
  cases Transaction.decode raw <;> simp

/-- The transactions that are decoded are those that were written. -/
theorem decodeTransaction_iff {raw : Bytes} {tx : Transaction} :
    decodeTransaction raw = .ok tx ↔ (tx.LengthsFit ∧ tx.WitnessesFit) ∧ raw = tx.encode :=
  decodeTransaction_eq_ok.trans Transaction.reads_read.runAll

/-- **A transaction is decoded from its one form and from nothing else.** The lengths only matter
for byte strings beyond all memory, whose compact sizes would not hold them. -/
theorem transaction_has_one_form :
    (∀ raw tx, decodeTransaction raw = .ok tx
      ↔ raw = tx.encode ∧ tx.WitnessesFit ∧ tx.LengthsFit)
    ∧ (∀ raw tx, raw.length < UInt64.size →
      (decodeTransaction raw = .ok tx ↔ raw = tx.encode ∧ tx.WitnessesFit))
    ∧ ∀ raw raw' tx, decodeTransaction raw = .ok tx → decodeTransaction raw' = .ok tx →
      raw = raw' := by
  refine ⟨?_, ?_, ?_⟩
  · intro raw tx
    rw [decodeTransaction_iff, and_comm, and_comm (a := tx.LengthsFit)]
  · intro raw tx hraw
    rw [decodeTransaction_iff]
    constructor
    · rintro ⟨⟨-, hfits⟩, heq⟩
      exact ⟨heq, hfits⟩
    · rintro ⟨rfl, hfits⟩
      exact ⟨⟨Transaction.lengthsFit_of_length hraw, hfits⟩, rfl⟩
  · intro raw raw' tx h h'
    rw [(decodeTransaction_iff.mp h).2, (decodeTransaction_iff.mp h').2]

/-- **Too short is told from too long.** -/
theorem cut_told_from_extended {raw : Bytes} {tx : Transaction}
    (h : decodeTransaction raw = .ok tx) :
    (∀ cut, cut <+: raw → cut ≠ raw →
      decodeTransaction cut = .error (.transaction "IO error"))
    ∧ ∀ more, more ≠ [] → decodeTransaction (raw ++ more) = .error (.transaction
        "parse failed: data not consumed entirely when explicitly deserializing") := by
  have htakes := Transaction.reads_read.takes
    (Transaction.reads_read.runAll.mp (decodeTransaction_eq_ok.mp h))
  constructor
  · rintro cut ⟨missing, rfl⟩ hcut
    have hmissing : missing ≠ [] := by
      rintro rfl
      exact hcut (List.append_nil cut).symm
    rw [decodeTransaction, Transaction.decode, htakes.runAll_cut hmissing]
    rfl
  · intro more hmore
    rw [decodeTransaction, Transaction.decode, htakes.runAll_more hmore]
    rfl

/-- The cut is where the item of the witness should be. -/
theorem cut_told_from_extended_in_witness :
    ∃ tx : Transaction, tx.isPlain = false ∧ decodeTransaction tx.encode = .ok tx
      ∧ decodeTransaction (tx.encode.take 60) = .error (.transaction "IO error")
      ∧ decodeTransaction (tx.encode ++ [0]) = .error (.transaction
          "parse failed: data not consumed entirely when explicitly deserializing") := by
  let tx : Transaction := ⟨2, [⟨.zero, 0, [], 0xffffffff, [[0xaa]]⟩], [⟨50000, []⟩], 0⟩
  have hdecode : decodeTransaction tx.encode = .ok tx := by decide +kernel
  obtain ⟨hcut, hmore⟩ := cut_told_from_extended hdecode
  refine ⟨tx, rfl, hdecode, ?_, ?_⟩
  · exact hcut _ (List.take_prefix ..) (by decide +kernel)
  · exact hmore [0] (by decide)

end ChainWatch
