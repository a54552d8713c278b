/-
Text and characters in quotes.

Error texts and the structural text of a value show strings and characters in quotes,
with whatever would not be readable escaped. The quote that encloses is escaped, the
other one is not; a character without a glyph of its own, or one that would attach to
its neighbour, is written by its number.
-/
import ChainWatch.Unprintable

set_option autoImplicit false

namespace ChainWatch.Quoted

/-- The lower-case hex digits of a number, without leading zeros. -/
def hexNumber (n : Nat) : List Char := Nat.toDigits 16 n

/-- One character between quotes of the kind `quote`. -/
def escape (quote : Char) (c : Char) : List Char :=
  if c = '\x00' then ['\\', '0']
  else if c = '\t' then ['\\', 't']
  else if c = '\n' then ['\\', 'n']
  else if c = '\r' then ['\\', 'r']
  else if c = '\\' then ['\\', '\\']
  else if c = quote then ['\\', quote]
  else if isUnprintable c then
    ['\\', 'u', '{'] ++ hexNumber c.toNat ++ ['}']
  else [c]

/-- A text in double quotes. -/
def text (s : String) : String :=
  String.ofList ('"' :: s.toList.flatMap (escape '"') ++ ['"'])

/-- A character in single quotes. -/
def char (c : Char) : String :=
  String.ofList ('\'' :: escape '\'' c ++ ['\''])

end ChainWatch.Quoted
