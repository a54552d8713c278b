/-
Every message is read back from its text.

A message is written as an object of hex texts, plain numbers, `null` and further objects. Hence its
text is read as the object that was written (`Json.parse?_render`), and what remains is that the
reader of each message undoes its writer. A record is undone if its fields are, as it is laid out in
the order in which it was written (`inverts_record`). `RoundTrips` puts both together and holds of
all nine messages (`messages_round_trip`), whatever bytes, numbers and texts are in them.
-/
import ChainWatch.Message
import ChainWatch.Proofs.Hex
import ChainWatch.Proofs.JsonFields
import ChainWatch.Proofs.JsonText

set_option autoImplicit false

namespace ChainWatch

/-! ## 1. Fields -/

namespace Json

@[simp]
theorem unadorned_bytes (bytes : Bytes) : Unadorned (Json.bytes bytes).tokens := unadorned_str _

@[simp]
theorem bytes?_bytes (bytes : Bytes) : (Json.bytes bytes).bytes? = some bytes := by
  rw [bytes?, Json.bytes, text?_text]
  simp only [Hex.decode_encode]
  rfl

@[simp]
theorem unadorned_u32 (n : UInt32) : Unadorned (Json.u32 n).tokens := unadorned_nat _

@[simp]
theorem u32?_u32 (n : UInt32) : (Json.u32 n).u32? = some n := u32?_nat n

@[simp]
theorem required_some {α : Type} (read : Json → Option α) (j : Json) :
    required read (some j) = read j := rfl

@[simp]
theorem withDefault_some {α : Type} (default : α) (read : Json → Option α) (j : Json) :
    withDefault default read (some j) = read j := rfl

end Json

section Inverts

variable {α : Type} {write : α → Json} {read : Json → Option α}

/-- The reader undoes the writer, and no number in what is written has a fraction or an exponent. -/
structure Inverts (write : α → Json) (read : Json → Option α) : Prop where
  plain : ∀ a, Json.Unadorned (write a).tokens
  read : ∀ a, read (write a) = some a

/-- What may be missing is undone too, unless something is written as `null` itself. -/
theorem Inverts.optional (h : Inverts write read) (hnull : ∀ a, write a ≠ .null) :
    Inverts (Json.optional write) (Json.optional? read) where
  plain
    | some a => h.plain a
    | none => Json.unadorned_null
  read
    | some a => by
        rw [Json.optional]
        unfold Json.optional?
        split
        · rename_i heq
          exact absurd heq (hnull a)
        · rw [h.read, Option.map_some]
    | none => rfl

/-- A record is undone if its fields are. -/
theorem inverts_record (names : List String) (ofFields? : List (Option Json) → Option α)
    (values : α → List Json) (hnodup : names.Nodup)
    (hlength : ∀ m, (values m).length = names.length)
    (hplain : ∀ m, ∀ j ∈ values m, Json.Unadorned j.tokens)
    (hread : ∀ m, ofFields? ((values m).map some) = some m) :
    Inverts (fun m => .object (names.zip (values m)))
      fun j => (j.fields? names).bind ofFields? where
  plain m := by
    apply Json.unadorned_object
    rintro ⟨n, j⟩ hmem
    exact hplain m j (List.of_mem_zip hmem).2
  read m := by
    rw [Json.fields?_zip hnodup (values m) (hlength m), Option.bind_some, hread]

end Inverts

/-! ## 2. Records -/

theorem BlockEpoch.inverts : Inverts toJson ofJson? :=
  inverts_record names ofFields? (fun m => [.bytes m.hash, .u32 m.height])
    (by decide) (fun _ => rfl) (fun _ => by simp) fun _ => by simp [ofFields?]

theorem OutputRef.inverts : Inverts toJson ofJson? :=
  inverts_record names ofFields? (fun m => [.bytes m.hash, .u32 m.index])
    (by decide) (fun _ => rfl) (fun _ => by simp) fun _ => by simp [ofFields?]

theorem OutputRef.inverts_optional :
    Inverts (Json.optional toJson) (Json.optional? ofJson?) := inverts.optional nofun

theorem ConfirmRequest.inverts : Inverts toJson ofJson? :=
  inverts_record names ofFields?
    (fun m => [.bytes m.txid, .bytes m.script, .u32 m.numConfs, .u32 m.heightHint])
    (by decide) (fun _ => rfl) (fun _ => by simp) fun _ => by simp [ofFields?]

theorem ConfirmDetails.inverts : Inverts toJson ofJson? :=
  inverts_record names ofFields?
    (fun m => [.bytes m.rawTx, .bytes m.blockHash, .u32 m.blockHeight, .u32 m.txIndex])
    (by decide) (fun _ => rfl) (fun _ => by simp) fun _ => by simp [ofFields?]

theorem SpendRequest.inverts : Inverts toJson ofJson? :=
  inverts_record names ofFields?
    (fun m => [.optional OutputRef.toJson m.output, .bytes m.script, .u32 m.heightHint])
    (by decide) (fun _ => rfl) (fun _ => by simp [OutputRef.inverts_optional.plain])
    fun _ => by simp [ofFields?, OutputRef.inverts_optional.read]

theorem SpendDetails.inverts : Inverts toJson ofJson? :=
  inverts_record names ofFields?
    (fun m => [.optional OutputRef.toJson m.output, .bytes m.rawTx, .bytes m.txHash,
      .u32 m.inputIndex, .u32 m.height])
    (by decide) (fun _ => rfl) (fun _ => by simp [OutputRef.inverts_optional.plain])
    fun _ => by simp [ofFields?, OutputRef.inverts_optional.read]

/-! ## 3. Events -/

theorem Reorg.inverts : Inverts toJson ofJson? where
  plain _ := Json.unadorned_object nofun
  read _ := by simp [toJson, ofJson?, Json.fields?_object, Json.Once]

section Events

variable {δ : Type} {write : δ → Json} {read : Json → Option δ} {tag : String}

theorem EventBody.inverts (hreorg : tag ≠ "reorg") (hunknown : tag ≠ "unknown")
    (h : Inverts write read) : Inverts (toJson tag write) (ofJson? tag read) where
  plain body := by
    cases body with
    | details d => exact Json.unadorned_object (by simp [h.plain])
    | reorg mark => exact Json.unadorned_object (by simp [Reorg.inverts.plain])
    | unknown other => exact Json.unadorned_object (by simp [Json.text, Json.unadorned_str])
  read body := by
    have hchoice (name : String) (payload : Json) :
        (Json.object [(name, payload)]).choice? = some (name, payload) :=
      Json.choice?_eq_some.mpr rfl
    cases body with
    | details d => simp [toJson, ofJson?, hchoice, h.read]
    | reorg mark => simp [toJson, ofJson?, hchoice, hreorg.symm, Reorg.inverts.read]
    | unknown other => simp [toJson, ofJson?, hchoice, hunknown.symm, Json.text?_text]

theorem Event.inverts (hreorg : tag ≠ "reorg") (hunknown : tag ≠ "unknown")
    (h : Inverts write read) : Inverts (toJson tag write) (ofJson? tag read) := by
  have hbody := (EventBody.inverts hreorg hunknown h).optional fun body => by
    cases body <;> exact nofun
  exact inverts_record names (ofFields? tag read)
    (fun e => [.optional (EventBody.toJson tag write) e.body]) (by decide) (fun _ => rfl)
    (fun _ => by simp [hbody.plain]) fun _ => by simp [ofFields?, hbody.read]

end Events

/-! ## 4. Texts -/

/-- Every value is read from its text, so no other value has this text. -/
structure RoundTrips {α : Type} (write : α → Json) (read : Json → Option α) : Prop where
  back : ∀ a, (Json.parse? (write a).render).bind read = some a
  injective : ∀ a b, (write a).render = (write b).render → a = b

theorem Inverts.roundTrips {α : Type} {write : α → Json} {read : Json → Option α}
    (h : Inverts write read) : RoundTrips write read := by
  have hback (a : α) : (Json.parse? (write a).render).bind read = some a := by
    rw [Json.parse?_render (h.plain a), Option.bind_some, h.read]
  refine ⟨hback, ?_⟩
  intro a b hab
  apply Option.some.inj
  rw [← hback a, ← hback b, hab]

/-- Every message is read back from its text. -/
theorem messages_round_trip :
    RoundTrips BlockEpoch.toJson BlockEpoch.ofJson?
    ∧ RoundTrips OutputRef.toJson OutputRef.ofJson?
    ∧ RoundTrips ConfirmRequest.toJson ConfirmRequest.ofJson?
    ∧ RoundTrips ConfirmDetails.toJson ConfirmDetails.ofJson?
    ∧ RoundTrips ConfirmEvent.toJson ConfirmEvent.ofJson?
    ∧ RoundTrips SpendRequest.toJson SpendRequest.ofJson?
    ∧ RoundTrips SpendDetails.toJson SpendDetails.ofJson?
    ∧ RoundTrips SpendEvent.toJson SpendEvent.ofJson?
    ∧ RoundTrips Reorg.toJson Reorg.ofJson? := by
  have hconfirm : Inverts ConfirmEvent.toJson ConfirmEvent.ofJson? :=
    Event.inverts (by decide) (by decide) ConfirmDetails.inverts
  have hspend : Inverts SpendEvent.toJson SpendEvent.ofJson? :=
    Event.inverts (by decide) (by decide) SpendDetails.inverts
  exact ⟨BlockEpoch.inverts.roundTrips, OutputRef.inverts.roundTrips,
    ConfirmRequest.inverts.roundTrips, ConfirmDetails.inverts.roundTrips, hconfirm.roundTrips,
    SpendRequest.inverts.roundTrips, SpendDetails.inverts.roundTrips, hspend.roundTrips,
    Reorg.inverts.roundTrips⟩

end ChainWatch
