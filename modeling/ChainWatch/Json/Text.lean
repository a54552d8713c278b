/-
JSON text and the value it stands for.

`tokens` lays a value out as tokens, and `ofTokens?` reads them back with a stack of the
containers that are still open: one token at a time, so depth costs nothing. `render`
writes a value without any blanks; `parse?` reads a whole text.

These are the compact writer and the reader of `serde_json` (1.0). Its limit on nesting is one
on values that are kept, and those of a message are a few levels deep; a member that is passed
over may be nested without limit there too.
-/
import ChainWatch.Json.Token

set_option autoImplicit false

namespace ChainWatch.Json

/-! ## 1. Writing -/

mutual

/-- The tokens of a value, in the order of its text. -/
def tokens : Json → List Token
  | .list items => .beginList :: itemTokens items ++ [.endList]
  | .record members => .beginRecord :: memberTokens members ++ [.endRecord]
  | .null => [.leaf .null]
  | .bool b => [.leaf (.bool b)]
  | .num n => [.leaf (.num n)]
  | .str s => [.leaf (.str s)]

/-- The tokens of the items of a list, commas between them. -/
def itemTokens : List Json → List Token
  | [] => []
  | [j] => tokens j
  | j :: rest => tokens j ++ .comma :: itemTokens rest

/-- The tokens of the members of an object, commas between them. -/
def memberTokens : List (Option String × Json) → List Token
  | [] => []
  | [(k, j)] => .leaf (.str k) :: .colon :: tokens j
  | (k, j) :: rest => .leaf (.str k) :: .colon :: tokens j ++ .comma :: memberTokens rest

end

/-- The text of a value, without blanks. -/
def render (j : Json) : String := String.ofList ((tokens j).flatMap Token.chars)

/-! ## 2. Reading -/

/-- A container whose end has not been read yet, with what it holds so far, last first. -/
inductive Frame where
  | list (done : List Json)
  | record (done : List (Option String × Json)) (key : Option String)

/-- What may come next. -/
inductive Expect where
  /-- A value. -/
  | value
  /-- The first item of a list, or its end. -/
  | firstItem
  /-- The first key of an object, or its end. -/
  | firstKey
  /-- A further key of an object with the given members, last first. -/
  | key (done : List (Option String × Json))
  /-- The colon behind a key. -/
  | colon (done : List (Option String × Json)) (key : Option String)
  /-- Whatever may follow a value that is complete. -/
  | after (value : Json)

/-- Where a reading stands: what may come next, inside which open containers. -/
structure Progress where
  expect : Expect
  stack : List Frame

/-- A token where a value has to start. -/
def Progress.start (stack : List Frame) : Token → Option Progress
  | .leaf v => some ⟨.after v, stack⟩
  | .beginList => some ⟨.firstItem, stack⟩
  | .beginRecord => some ⟨.firstKey, stack⟩
  | _ => none

/-- One token further. -/
def Progress.step (p : Progress) (t : Token) : Option Progress :=
  match p.expect with
  | .value => Progress.start p.stack t
  | .firstItem =>
      match t with
      | .endList => some ⟨.after (.list []), p.stack⟩
      | t => Progress.start (.list [] :: p.stack) t
  | .firstKey =>
      match t with
      | .endRecord => some ⟨.after (.record []), p.stack⟩
      | .leaf (.str k) => some ⟨.colon [] k, p.stack⟩
      | _ => none
  | .key done =>
      match t with
      | .leaf (.str k) => some ⟨.colon done k, p.stack⟩
      | _ => none
  | .colon done k =>
      match t with
      | .colon => some ⟨.value, .record done k :: p.stack⟩
      | _ => none
  | .after v =>
      match p.stack, t with
      | .list done :: rest, .comma => some ⟨.value, .list (v :: done) :: rest⟩
      | .list done :: rest, .endList => some ⟨.after (.list (v :: done).reverse), rest⟩
      | .record done k :: rest, .comma => some ⟨.key ((k, v) :: done), rest⟩
      | .record done k :: rest, .endRecord =>
          some ⟨.after (.record ((k, v) :: done).reverse), rest⟩
      | _, _ => none

/-- The value, once a reading has come to its end. -/
def Progress.value? : Progress → Option Json
  | ⟨.after v, []⟩ => some v
  | _ => none

/-- The value that a list of tokens stands for. -/
def ofTokens? (ts : List Token) : Option Json :=
  match ts.foldlM Progress.step ⟨.value, []⟩ with
  | some p => p.value?
  | none => none

/-- The value that a text stands for. -/
def parse? (s : String) : Option Json :=
  match Token.ofText? s with
  | some ts => ofTokens? ts
  | none => none

end ChainWatch.Json
