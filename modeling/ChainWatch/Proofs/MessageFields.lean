/-
What each message is read from.

The shape of a message lists its fields: the name of each, the values of its type, and what it holds
when it is absent. The reader of a message goes by its shape (`follows`), so all that is known of
such readers holds of each of the nine (`messages_read_by_fields`). The spellings of a byte string
are `Hex.Spells`; a field that may hold nothing takes `null` besides the values of its type.
-/
import ChainWatch.Message
import ChainWatch.Proofs.Hex
import ChainWatch.Proofs.JsonFields

set_option autoImplicit false

namespace ChainWatch

/-! ## 1. The types of fields -/

namespace Json

/-- A text of hex digits of either case, two for each byte. -/
def IsHex (j : Json) (bytes : Bytes) : Prop := ∃ s, j = .text s ∧ Hex.Spells s.toList bytes

/-- A plain integer, without sign, fraction and exponent, that 32 bits hold. -/
def IsU32 (j : Json) (n : UInt32) : Prop := j = .nat n.toNat

/-- `null` for nothing, or a value of a type. -/
inductive IsOptional {β : Type} (Is : Json → β → Prop) : Json → Option β → Prop where
  | null : IsOptional Is .null none
  | some {j : Json} {b : β} (h : Is j b) : IsOptional Is j (some b)

theorem text?_eq_some {j : Json} {s : String} : j.text? = some s ↔ j = .text s := by
  constructor
  · intro h
    cases j with
    | str s' =>
        rw [text?] at h
        rw [h, text]
    | _ => cases h
  · rintro rfl
    exact text?_text s

theorem bool?_eq_some (j : Json) (b : Bool) : j.bool? = some b ↔ j = .bool b := by
  cases j <;> simp [bool?]

theorem bytes?_eq_some (j : Json) (bytes : Bytes) : j.bytes? = some bytes ↔ IsHex j bytes := by
  constructor
  · intro h
    unfold bytes? at h
    split at h
    · rename_i s htext
      cases hs : Hex.decode s with
      | error e =>
          rw [hs] at h
          cases h
      | ok decoded =>
          rw [hs] at h
          cases h
          exact ⟨s, text?_eq_some.mp htext, Hex.decode_eq_ok.mp hs⟩
    · cases h
  · rintro ⟨s, rfl, hs⟩
    simp only [bytes?, text?_text, Hex.decode_eq_ok.mpr hs]
    rfl

theorem u32?_eq_some (j : Json) (n : UInt32) : j.u32? = some n ↔ IsU32 j n := by
  constructor
  · intro h
    cases j with
    | num number =>
        obtain ⟨negative, whole, tail⟩ := number
        simp only [u32?, nat?] at h
        split at h
        · rename_i hplain
          split at hplain
          · cases hplain
          rename_i hsign
          rw [Bool.or_eq_true, not_or, Bool.not_eq_true, bne_iff_ne, Decidable.not_not] at hsign
          cases hplain
          split at h
          · rename_i hsize
            cases h
            have hnat : (UInt32.ofNat whole).toNat = whole := Nat.mod_eq_of_lt hsize
            rw [IsU32, hnat, nat, hsign.1, hsign.2]
          · cases h
        · cases h
    | _ => cases h
  · rintro rfl
    exact u32?_nat n

theorem optional?_eq_some {β : Type} {read : Json → Option β} {Is : Json → β → Prop}
    (hread : ∀ j b, read j = some b ↔ Is j b) (hnull : ∀ b, ¬ Is .null b) (j : Json)
    (o : Option β) : j.optional? read = some o ↔ IsOptional Is j o := by
  constructor
  · intro h
    unfold optional? at h
    split at h
    · cases h
      exact .null
    · obtain ⟨b, hb, rfl⟩ := Option.map_eq_some_iff.mp h
      exact .some ((hread _ b).mp hb)
  · intro h
    cases h with
    | null => rfl
    | @some _ b h =>
        unfold optional?
        split
        · exact absurd h (hnull b)
        · rw [(hread j b).mpr h]
          rfl

end Json

/-! ## 2. Records of bytes and numbers -/

open Json (IsHex IsU32 IsOptional IsRecord Follows readsFields_cons readsFields_nil readBy_required
  readBy_withDefault bytes?_eq_some u32?_eq_some optional?_eq_some)

def BlockEpoch.shape : List (Json.Field BlockEpoch) :=
  [⟨"hash", Bytes, hash, IsHex, some []⟩, ⟨"height", UInt32, height, IsU32, some 0⟩]

theorem BlockEpoch.follows : Follows shape ofFields? where
  nodup := by decide
  fields :=
    readsFields_cons (readBy_withDefault bytes?_eq_some "hash" hash []) fun hash =>
    readsFields_cons (readBy_withDefault u32?_eq_some "height" height 0) fun height =>
    readsFields_nil fun m => by
      cases m
      simp

def OutputRef.shape : List (Json.Field OutputRef) :=
  [⟨"hash", Bytes, hash, IsHex, none⟩, ⟨"index", UInt32, index, IsU32, none⟩]

theorem OutputRef.follows : Follows shape ofFields? where
  nodup := by decide
  fields :=
    readsFields_cons (readBy_required bytes?_eq_some "hash" hash) fun hash =>
    readsFields_cons (readBy_required u32?_eq_some "index" index) fun index =>
    readsFields_nil fun m => by
      cases m
      simp

def ConfirmRequest.shape : List (Json.Field ConfirmRequest) :=
  [⟨"txid", Bytes, txid, IsHex, some []⟩, ⟨"script", Bytes, script, IsHex, some []⟩,
    ⟨"num_confs", UInt32, numConfs, IsU32, none⟩,
    ⟨"height_hint", UInt32, heightHint, IsU32, none⟩]

theorem ConfirmRequest.follows : Follows shape ofFields? where
  nodup := by decide
  fields :=
    readsFields_cons (readBy_withDefault bytes?_eq_some "txid" txid []) fun txid =>
    readsFields_cons (readBy_withDefault bytes?_eq_some "script" script []) fun script =>
    readsFields_cons (readBy_required u32?_eq_some "num_confs" numConfs) fun numConfs =>
    readsFields_cons (readBy_required u32?_eq_some "height_hint" heightHint) fun heightHint =>
    readsFields_nil fun m => by
      cases m
      simp [and_assoc]

def ConfirmDetails.shape : List (Json.Field ConfirmDetails) :=
  [⟨"raw_tx", Bytes, rawTx, IsHex, none⟩, ⟨"block_hash", Bytes, blockHash, IsHex, none⟩,
    ⟨"block_height", UInt32, blockHeight, IsU32, none⟩, ⟨"tx_index", UInt32, txIndex, IsU32, none⟩]

theorem ConfirmDetails.follows : Follows shape ofFields? where
  nodup := by decide
  fields :=
    readsFields_cons (readBy_required bytes?_eq_some "raw_tx" rawTx) fun rawTx =>
    readsFields_cons (readBy_required bytes?_eq_some "block_hash" blockHash) fun blockHash =>
    readsFields_cons (readBy_required u32?_eq_some "block_height" blockHeight) fun blockHeight =>
    readsFields_cons (readBy_required u32?_eq_some "tx_index" txIndex) fun txIndex =>
    readsFields_nil fun m => by
      cases m
      simp [and_assoc]

/-! ## 3. Records that refer to an output -/

/-- An output may be left out, and may be given as nothing. -/
theorem OutputRef.optional?_eq_some (j : Json) (output : Option OutputRef) :
    j.optional? ofJson? = some output ↔ IsOptional (IsRecord shape) j output :=
  Json.optional?_eq_some follows.readsRecord.exact (fun _ => nofun) j output

def SpendRequest.shape : List (Json.Field SpendRequest) :=
  [⟨"outpoint", Option OutputRef, output, IsOptional (IsRecord OutputRef.shape), some none⟩,
    ⟨"script", Bytes, script, IsHex, some []⟩, ⟨"height_hint", UInt32, heightHint, IsU32, none⟩]

theorem SpendRequest.follows : Follows shape ofFields? where
  nodup := by decide
  fields :=
    readsFields_cons (readBy_withDefault OutputRef.optional?_eq_some "outpoint" output none)
      fun output =>
    readsFields_cons (readBy_withDefault bytes?_eq_some "script" script []) fun script =>
    readsFields_cons (readBy_required u32?_eq_some "height_hint" heightHint) fun heightHint =>
    readsFields_nil fun m => by
      cases m
      simp [and_assoc]

def SpendDetails.shape : List (Json.Field SpendDetails) :=
  [⟨"spending_outpoint", Option OutputRef, output, IsOptional (IsRecord OutputRef.shape),
      some none⟩,
    ⟨"raw_spending_tx", Bytes, rawTx, IsHex, none⟩,
    ⟨"spending_tx_hash", Bytes, txHash, IsHex, none⟩,
    ⟨"spending_input_index", UInt32, inputIndex, IsU32, none⟩,
    ⟨"spending_height", UInt32, height, IsU32, none⟩]

theorem SpendDetails.follows : Follows shape ofFields? where
  nodup := by decide
  fields :=
    readsFields_cons
      (readBy_withDefault OutputRef.optional?_eq_some "spending_outpoint" output none) fun output =>
    readsFields_cons (readBy_required bytes?_eq_some "raw_spending_tx" rawTx) fun rawTx =>
    readsFields_cons (readBy_required bytes?_eq_some "spending_tx_hash" txHash) fun txHash =>
    readsFields_cons (readBy_required u32?_eq_some "spending_input_index" inputIndex)
      fun inputIndex =>
    readsFields_cons (readBy_required u32?_eq_some "spending_height" height) fun height =>
    readsFields_nil fun m => by
      cases m
      simp [and_assoc]

/-! ## 4. Events -/

def Reorg.shape : List (Json.Field Reorg) := []

theorem Reorg.follows : Follows shape fun _ => some ⟨⟩ where
  nodup := by decide
  fields := readsFields_nil fun _ => ⟨fun _ => rfl, fun _ => trivial⟩

/-- The reader of the mark does not ask for what it has been given. -/
theorem Reorg.ofJson?_eq (j : Json) :
    ofJson? j = (j.fields? (Json.fieldNames shape)).bind fun _ => some ⟨⟩ :=
  Option.map_eq_bind

theorem Reorg.readsRecord : Json.ReadsRecord shape ofJson? := by
  rw [funext ofJson?_eq]
  exact follows.readsRecord

namespace EventBody

variable {δ : Type}

/-- An object whose only member is named for what it carries. -/
inductive Is (tag : String) (IsDetails : Json → δ → Prop) : Json → EventBody δ → Prop where
  | details {payload : Json} {d : δ} (h : IsDetails payload d) :
      Is tag IsDetails (.object [(tag, payload)]) (details d)
  | reorg {payload : Json} {mark : Reorg} (h : IsRecord Reorg.shape payload mark) :
      Is tag IsDetails (.object [("reorg", payload)]) (reorg mark)
  | unknown (other : String) : Is tag IsDetails (.object [("unknown", .text other)]) (unknown other)

/-- A body is read from an object with one member, whose name says which of the three it is. The
names differ (`hreorg`, `hunknown`), so none of the forms is taken for another. -/
theorem ofJson?_eq_some {tag : String} (hreorg : tag ≠ "reorg") (hunknown : tag ≠ "unknown")
    {read : Json → Option δ} {IsDetails : Json → δ → Prop}
    (hread : ∀ j d, read j = some d ↔ IsDetails j d) (j : Json) (body : EventBody δ) :
    ofJson? tag read j = some body ↔ Is tag IsDetails j body := by
  constructor
  · intro h
    unfold ofJson? at h
    split at h
    · rename_i name payload hchoice
      rw [Json.choice?_eq_some.mp hchoice]
      split at h
      · rename_i heq
        obtain ⟨d, hd, rfl⟩ := Option.map_eq_some_iff.mp h
        rw [heq]
        exact .details ((hread _ d).mp hd)
      split at h
      · rename_i heq
        obtain ⟨mark, hmark, rfl⟩ := Option.map_eq_some_iff.mp h
        rw [heq]
        exact .reorg ((Reorg.readsRecord.exact _ mark).mp hmark)
      split at h
      · rename_i heq
        obtain ⟨other, hother, rfl⟩ := Option.map_eq_some_iff.mp h
        rw [heq, Json.text?_eq_some.mp hother]
        exact .unknown other
      · cases h
    · cases h
  · intro h
    unfold ofJson?
    cases h with
    | @details payload d h =>
        rw [Json.choice?_eq_some.mpr rfl]
        simp only [if_true, (hread payload d).mpr h, Option.map_some]
    | @reorg payload mark h =>
        rw [Json.choice?_eq_some.mpr rfl]
        simp only [if_neg hreorg.symm, if_true, (Reorg.readsRecord.exact payload mark).mpr h,
          Option.map_some]
    | unknown other =>
        rw [Json.choice?_eq_some.mpr rfl]
        simp only [if_neg hunknown.symm, if_neg (show "unknown" ≠ "reorg" by decide), if_true,
          Json.text?_text, Option.map_some]

end EventBody

namespace Event

variable {δ : Type}

def shape (tag : String) (IsDetails : Json → δ → Prop) : List (Json.Field (Event δ)) :=
  [⟨"event", Option (EventBody δ), body, IsOptional (EventBody.Is tag IsDetails), some none⟩]

theorem follows {tag : String} (hreorg : tag ≠ "reorg") (hunknown : tag ≠ "unknown")
    {read : Json → Option δ} {IsDetails : Json → δ → Prop}
    (hread : ∀ j d, read j = some d ↔ IsDetails j d) :
    Follows (shape tag IsDetails) (ofFields? tag read) where
  nodup := List.pairwise_singleton _ _
  fields :=
    readsFields_cons (readBy_withDefault (optional?_eq_some
        (EventBody.ofJson?_eq_some hreorg hunknown hread) nofun) "event" body none) fun body =>
    readsFields_nil fun e => by
      cases e
      simp

end Event

def ConfirmEvent.shape : List (Json.Field ConfirmEvent) :=
  Event.shape "conf" (IsRecord ConfirmDetails.shape)

def SpendEvent.shape : List (Json.Field SpendEvent) :=
  Event.shape "spend" (IsRecord SpendDetails.shape)

/-! ## 5. All messages -/

/-- Each message is read from the objects that give every field at most once, with a value of its
type, and leave out only fields that have a value of their own; it holds what they give. Nothing
else about an object matters, and a list of values is read as the object that gives them to the
first fields. -/
theorem messages_read_by_fields :
    Json.ReadsRecord BlockEpoch.shape BlockEpoch.ofJson?
    ∧ Json.ReadsRecord OutputRef.shape OutputRef.ofJson?
    ∧ Json.ReadsRecord ConfirmRequest.shape ConfirmRequest.ofJson?
    ∧ Json.ReadsRecord ConfirmDetails.shape ConfirmDetails.ofJson?
    ∧ Json.ReadsRecord ConfirmEvent.shape ConfirmEvent.ofJson?
    ∧ Json.ReadsRecord SpendRequest.shape SpendRequest.ofJson?
    ∧ Json.ReadsRecord SpendDetails.shape SpendDetails.ofJson?
    ∧ Json.ReadsRecord SpendEvent.shape SpendEvent.ofJson?
    ∧ Json.ReadsRecord Reorg.shape Reorg.ofJson? := by
  have hconfirm := ConfirmDetails.follows.readsRecord
  have hspend := SpendDetails.follows.readsRecord
  have hconfirmEvent : Follows ConfirmEvent.shape (Event.ofFields? "conf" ConfirmDetails.ofJson?) :=
    Event.follows (by decide) (by decide) hconfirm.exact
  have hspendEvent : Follows SpendEvent.shape (Event.ofFields? "spend" SpendDetails.ofJson?) :=
    Event.follows (by decide) (by decide) hspend.exact
  exact ⟨BlockEpoch.follows.readsRecord, OutputRef.follows.readsRecord,
    ConfirmRequest.follows.readsRecord, hconfirm, hconfirmEvent.readsRecord,
    SpendRequest.follows.readsRecord, hspend, hspendEvent.readsRecord, Reorg.readsRecord⟩

/-- Hex digits of either case, a member with another name, and a field that was left out. -/
example :
    BlockEpoch.ofJson? (.object [("parent", .list [.null]), ("hash", .text "aB")])
      = some ⟨[0xab], 0⟩ := by decide

end ChainWatch
