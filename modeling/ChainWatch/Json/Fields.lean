/-
Records with named fields.

A record is written as an object with one member for each field, in the order in which
the fields are declared. It is read from an object whose members stand in any order and
among any others, or from the list of its values in declaration order, from which the
last ones may be missing. Both ways first lay the values out in declaration order, a gap
where there is none (`fields?`), and what a gap means is then up to the field.
-/
import ChainWatch.Json.Text

set_option autoImplicit false

namespace ChainWatch.Json

/-- The value of each named field, in the order of `names`. Two members for one field are
refused, and so is a member whose name is no text. -/
def fields? (names : List String) : Json → Option (List (Option Json))
  | .record members =>
      if members.all (fun m => m.1.isSome)
          && names.all (fun n => (members.filter fun m => m.1 == some n).length ≤ 1) then
        some (names.map fun n => members.lookup (some n))
      else none
  | .list values =>
      if values.length ≤ names.length then
        some (values.map some ++ List.replicate (names.length - values.length) none)
      else none
  | _ => none

/-- A field that must be there. -/
def required {α : Type} (read : Json → Option α) : Option Json → Option α
  | some j => read j
  | none => none

/-- A field with a value of its own when it is absent. -/
def withDefault {α : Type} (default : α) (read : Json → Option α) : Option Json → Option α
  | some j => read j
  | none => some default

/-- One of several things, given as an object whose only member is named for the choice. -/
def choice? : Json → Option (String × Json)
  | .record [(some tag, payload)] => some (tag, payload)
  | _ => none

end ChainWatch.Json
