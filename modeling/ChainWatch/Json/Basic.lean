/-
JSON values.

A value keeps what its reader may still care about: a number keeps its sign, its integer
digits and whatever follows them, since only some spellings of a number are accepted
where an unsigned one is wanted, and an object keeps its members in order, repetitions
included. The one thing a JSON string can hold that a text cannot is half of a surrogate
pair; such a string is `str none`. It is legal wherever nobody asks for its text, as it is
for `serde_json`.
-/

set_option autoImplicit false

namespace ChainWatch

/-- A number as it was written. -/
structure JsonNumber where
  negative : Bool
  whole : Nat
  /-- The fraction and the exponent as they were written, empty for a plain integer. -/
  tail : String
  deriving DecidableEq, Repr

inductive Json where
  | null
  | bool (b : Bool)
  | num (n : JsonNumber)
  | str (text : Option String)
  | list (items : List Json)
  | record (members : List (Option String × Json))

namespace Json

/-! ## 1. Making values -/

def nat (n : Nat) : Json := .num ⟨false, n, ""⟩

def text (s : String) : Json := .str (some s)

/-- An object with the given members, in this order. -/
def object (members : List (String × Json)) : Json :=
  .record (members.map fun m => (some m.1, m.2))

/-! ## 2. Taking values apart -/

/-- The number that a plain unsigned integer stands for. A sign, a fraction or an exponent
makes a number something else, whatever its value. -/
def nat? : Json → Option Nat
  | .num n => if n.negative || n.tail != "" then none else some n.whole
  | _ => none

/-- The number that a plain integer stands for, with or without a sign. -/
def int? : Json → Option Int
  | .num n =>
      if n.tail != "" then none else some (if n.negative then -(n.whole : Int) else n.whole)
  | _ => none

def u32? (j : Json) : Option UInt32 :=
  match j.nat? with
  | some n => if n < UInt32.size then some (UInt32.ofNat n) else none
  | none => none

def u64? (j : Json) : Option UInt64 :=
  match j.nat? with
  | some n => if n < UInt64.size then some (UInt64.ofNat n) else none
  | none => none

def bool? : Json → Option Bool
  | .bool b => some b
  | _ => none

def text? : Json → Option String
  | .str s => s
  | _ => none

/-- `null` for nothing, anything else as `read` takes it. -/
def optional? {α : Type} (read : Json → Option α) : Json → Option (Option α)
  | .null => some none
  | j => (read j).map some

@[simp] theorem nat?_nat (n : Nat) : (nat n).nat? = some n := rfl

@[simp] theorem text?_text (s : String) : (text s).text? = some s := rfl

@[simp] theorem bool?_bool (b : Bool) : (Json.bool b).bool? = some b := rfl

theorem u32?_nat (n : UInt32) : (nat n.toNat).u32? = some n := by
  simp only [u32?, nat?_nat, UInt32.ofNat_toNat]
  rw [if_pos n.toNat_lt_size]

theorem u64?_nat (n : UInt64) : (nat n.toNat).u64? = some n := by
  simp only [u64?, nat?_nat, UInt64.ofNat_toNat]
  rw [if_pos n.toNat_lt_size]

end Json

end ChainWatch
