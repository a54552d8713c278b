/-
Values that a filter compares fields with.

Such a value is a number or a regular expression. No event is ever compared with one, so
all there is to say is which texts are refused. A reader goes over an expression from left
to right and remembers how many groups are open and what it stands behind.
-/
import ChainWatch.Alphanumeric

set_option autoImplicit false

namespace ChainWatch.Log.Pattern

/-! ## 1. Expressions -/

/-- How far a set of characters has been read. -/
inductive SetPart where
  | opened
  | negated
  /-- It has a member. -/
  | filled
  deriving DecidableEq, Repr

/-- What a reader stands behind. -/
inductive Spot where
  /-- The start of an alternative: there is nothing to repeat. -/
  | start
  /-- Something that can be repeated. -/
  | item
  | backslash
  /-- The parenthesis that opens a group. -/
  | group
  /-- The options of a group, and whether there is one. -/
  | options (given : Bool)
  /-- The name of a group, as far as it has been read. -/
  | name (isEmpty : Bool)
  /-- So many hex digits are still to come. -/
  | hex (digits : Nat)
  /-- The letter of a class of characters is still to come. -/
  | category
  /-- A part of a set, which stands in others if the depth is more than one. -/
  | set (depth : Nat) (part : SetPart)
  /-- A backslash in a set. -/
  | setBackslash (depth : Nat)
  deriving DecidableEq, Repr

/-- A reader: the number of open groups, and what it stands behind. -/
structure Reader where
  groups : Nat
  spot : Spot
  deriving DecidableEq, Repr

namespace Reader

/-- What a backslash makes of a character; none if nothing. A sign stands for itself. -/
def escaped (c : Char) : Option Spot :=
  if c ∈ ['d', 'D', 's', 'S', 'w', 'W', 'a', 'f', 'n', 'r', 't', 'v', 'A', 'z'] then some .item
  else if c = 'p' || c = 'P' then some .category
  else if c = 'x' then some (.hex 2)
  else if c = 'u' then some (.hex 4)
  else if c = 'U' then some (.hex 8)
  else if c.toNat < 0x80 && !c.isAlphanum && c ≠ '<' && c ≠ '>' then some .item
  else none

/-- A character that is no part of anything longer. A brace would start a count, which
nothing could end: the value itself stands in braces. -/
def plain (groups : Nat) (repeatable : Bool) (c : Char) : Option Reader :=
  match c with
  | '\\' => some ⟨groups, .backslash⟩
  | '(' => some ⟨groups + 1, .group⟩
  | ')' => if groups = 0 then none else some ⟨groups - 1, .item⟩
  | '[' => some ⟨groups, .set 1 .opened⟩
  | '|' => some ⟨groups, .start⟩
  | '*' | '+' | '?' => if repeatable then some ⟨groups, .item⟩ else none
  | '{' => none
  | _ => some ⟨groups, .item⟩

/-- A character in a set. A closing bracket that comes first is a member of it. -/
def inSet (depth : Nat) (part : SetPart) (c : Char) : Spot :=
  if c = '[' then .set (depth + 1) .opened
  else if c = '\\' then .setBackslash depth
  else if c = '^' && part = .opened then .set depth .negated
  else if c = ']' && part = .filled then if depth ≤ 1 then .item else .set (depth - 1) .filled
  else .set depth .filled

/-- The reader behind one more character; none if that is refused. -/
def next (r : Reader) (c : Char) : Option Reader :=
  let stay (spot : Spot) : Option Reader := some ⟨r.groups, spot⟩
  match r.spot with
  | .start => plain r.groups false c
  | .item => plain r.groups true c
  | .backslash => (escaped c).bind stay
  | .group => if c = '?' then stay (.options false) else plain r.groups false c
  | .options given =>
      if c = ':' then stay .start
      -- options alone are no group, and nothing that can be repeated
      else if c = ')' && given then some ⟨r.groups - 1, .start⟩
      else if c = '<' && !given then stay (.name true)
      else if c = 'P' && !given then stay (.options false)
      else if c ∈ ['i', 'm', 's', 'R', 'U', 'u', 'x', '-'] then stay (.options true)
      else none
  | .name isEmpty =>
      if c = '>' && !isEmpty then stay .start
      else if isAlphanumeric c || c = '_' then stay (.name false)
      else none
  | .hex digits =>
      if !c.isDigit && c.toLower ∉ ['a', 'b', 'c', 'd', 'e', 'f'] then none
      else stay (if digits ≤ 1 then .item else .hex (digits - 1))
  | .category => if c ∈ ['C', 'L', 'M', 'N', 'P', 'S', 'Z'] then stay .item else none
  | .set depth part => stay (inSet depth part c)
  | .setBackslash depth => (escaped c).bind fun _ => stay (.set depth .filled)

/-- Whether an expression may end here. -/
def isDone (r : Reader) : Bool := r.groups = 0 && (r.spot = .start || r.spot = .item)

end Reader

/-- Whether a text is a regular expression. -/
def isExpression (cs : List Char) : Bool :=
  match cs.foldlM Reader.next ⟨0, .start⟩ with
  | some r => r.isDone
  | none => false

/-! ## 2. Numbers -/

/-- Whether a text is nothing, or the exponent of a number. -/
def isExponent : List Char → Bool
  | [] => true
  | e :: sign :: digits =>
      let digits := if sign = '+' || sign = '-' then digits else sign :: digits
      (e = 'e' || e = 'E') && digits != [] && digits.all Char.isDigit
  | [_] => false

/-- Whether a text is a number without a sign. -/
def isNumber (cs : List Char) : Bool :=
  let whole := cs.takeWhile Char.isDigit
  let rest := cs.dropWhile Char.isDigit
  let fraction := match rest with
    | '.' :: rest => rest.takeWhile Char.isDigit
    | _ => []
  let rest := match rest with
    | '.' :: rest => rest.dropWhile Char.isDigit
    | rest => rest
  String.ofList (cs.map Char.toLower) ∈ ["inf", "infinity", "nan"]
    || (whole ++ fraction != [] && isExponent rest)

/-- Whether fields can be compared with a text. A number that would be no expression is one
with a plus in front. -/
def isValue : List Char → Bool
  | '+' :: number => isNumber number
  | cs => isExpression cs

example : ["a+|b", "([a-z]\\d)*?", "[]x]", "(?i)x", "\\x41", "", "+1.5"].map (isValue ·.toList)
    = [true, true, true, true, true, true, true] := by decide +kernel

example : ["+", "a|*", "(a", "a)", "[x", "\\", "\\y", "a\x7b2", "(?i)*"].map (isValue ·.toList)
    = [false, false, false, false, false, false, false, false, false] := by decide +kernel

end ChainWatch.Log.Pattern
