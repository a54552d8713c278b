/-
Which log events are let through.

A filter is a list of directives, read from a text of parts between commas. A part is a
level for everything, or a level for the targets that start with a given name; brackets
behind the name narrow it down to events with a certain field, or to what happens within
a span. The most specific directive that is about an event decides: the one with the
longest name, and of those one that asks for a field.

    part  = level | place [ "=" [ level ] ]
    place = name | [ name ] "[" [ span ] [ "{" field [ "=" value ] "}" ] "]"

No event of this library happens within a span, so a directive about spans never decides.
-/
import ChainWatch.Log.Event
import ChainWatch.Log.Pattern

set_option autoImplicit false

namespace ChainWatch.Log

/-! ## 1. Directives -/

/-- Which events of its targets a directive is about. -/
inductive Scope where
  | every
  /-- Those that have a field of this name. -/
  | field (name : String)
  /-- Those within a span, which a value of a field describes as well. -/
  | spans
  deriving DecidableEq, Repr

/-- Lets events through up to a level; zero lets none through, five all. -/
structure Directive where
  /-- What the target has to start with; a directive without a name is for all targets. -/
  target : Option String
  scope : Scope
  most : Nat
  deriving DecidableEq, Repr

namespace Directive

/-- The number from zero to five that a text of digits gives. -/
def numberedLevel? (s : String) : Option Nat :=
  let digits := match s.toList with
    | '+' :: rest => rest
    | cs => cs
  let n := Json.decimalValue digits
  if digits != [] && digits.all Char.isDigit && n ≤ 5 then some n else none

/-- A level by its name, in any case, or by its number. -/
def level? (s : String) : Option Nat :=
  match String.ofList (s.toList.map Char.toLower) with
  | "off" => some 0
  | "error" => some 1
  | "warn" => some 2
  | "info" => some 3
  | "debug" => some 4
  | "trace" => some 5
  | _ => numberedLevel? s

/-- Whether a directive is about an event. -/
def covers (d : Directive) (e : Event) : Bool :=
  let onTarget := match d.target with
    | none => true
    | some name => name.toList.isPrefixOf e.origin.target.toList
  let inScope := match d.scope with
    | .every => true
    | .field name => e.hasField name
    | .spans => false
  onTarget && inScope

/-- Whether a directive is no more specific than another. Both are about one event, so of two
names of one length both are the same; two fields go by their order. -/
def givesWay (d other : Directive) : Bool :=
  let reach (d : Directive) : Nat := match d.target with
    | none => 0
    | some name => name.length + 1
  let narrower := match d.scope, other.scope with
    | .field a, .field b => a ≤ b
    | .field _, _ => false
    | _, _ => true
  reach d < reach other || (reach d = reach other && narrower)

/-! ## 2. Their text -/

/-- Whether a character is white space. -/
def isBlank (c : Char) : Bool :=
  c = ' ' || ('\t' ≤ c && c ≤ '\r') || c = '\u0085' || c = '\u00a0' || c = '\u1680'
    || ('\u2000' ≤ c && c ≤ '\u200a') || c = '\u2028' || c = '\u2029' || c = '\u202f'
    || c = '\u205f' || c = '\u3000'

/-- Whether a name or a level may start with this character. -/
def mayStart (c : Char) : Bool := isAlphanumeric c || c = '-' || c = ':' || c = '_'

/-- What stands in the braces: the name of a field, or a value for one. -/
def ofBraces? (cs : List Char) : Option Scope :=
  let name := cs.takeWhile (· != '=')
  match cs.dropWhile (· != '=') with
  | [] => if cs = [] then none else some (.field (String.ofList name))
  | _ :: value => if Pattern.isValue (value.takeWhile (· != '=')) then some .spans else none

/-- What stands in the brackets, and the text behind them. The name of a span may be empty,
unless there are braces as well. -/
def ofBrackets? (cs : List Char) : Option (Scope × List Char) :=
  let span := cs.takeWhile fun c => c != ']' && c != '{'
  match cs.drop span.length with
  | ']' :: rest => some (.spans, rest)
  | '{' :: rest =>
      let braces := rest.takeWhile (· != '}')
      match ofBraces? braces, rest.drop braces.length with
      | some scope, '}' :: ']' :: rest => some (if span = [] then scope else .spans, rest)
      | _, _ => none
  | _ => none

/-- The directive of one part; none if the part is refused. Blanks around a part belong to the
piece they touch, and no target and no level has any. Those in front move the level as
well, so that none can be read. A place without a level lets everything through. -/
def ofPart? (part : List Char) : Option Directive :=
  let before := part.takeWhile isBlank
  let text := part.dropWhile isBlank
  let after := (text.reverse.takeWhile isBlank).reverse
  let text := (text.reverse.dropWhile isBlank).reverse
  let name := text.takeWhile fun c => c != '=' && c != '['
  let target := if before ++ name = [] then none else some (String.ofList (before ++ name))
  let leveled (scope : Scope) (level : List Char) : Option Directive :=
    if before != [] then none
    else if level = [] then some ⟨target, scope, 5⟩
    else (level? (String.ofList level)).map (⟨target, scope, ·⟩)
  if !(name.take 1).all mayStart then none
  else
    match text.drop name.length with
    | [] =>
        if name = [] then none
        else
          match level? (String.ofList part) with
          | some n => some ⟨none, .every, n⟩
          | none => some ⟨some (String.ofList part), .every, 5⟩
    | '[' :: rest =>
        match ofBrackets? rest with
        | some (scope, []) => some ⟨target, scope, 5⟩
        | some (scope, '=' :: level) => leveled scope (level ++ after)
        | _ => none
    | _ :: level => if name = [] then none else leveled .every (level ++ after)

end Directive

/-! ## 3. Filters -/

/-- The directives of a filter, in the order they were given. -/
structure Filter where
  directives : List Directive

namespace Filter

/-- The parts of a text between commas, empty ones left out. -/
def parts (s : String) : List (List Char) :=
  ((s.toList.splitOn ',').filter (· != []))

/-- Reads a filter. A single part that is refused makes the whole text useless, and
everything up to `info` is let through; a text without parts lets errors through. -/
def ofText (s : String) : Filter :=
  match (parts s).mapM Directive.ofPart? with
  | some [] => ⟨[⟨none, .every, 1⟩]⟩
  | some ds => ⟨ds⟩
  | none => ⟨[⟨none, .every, 3⟩]⟩

/-- The more specific of two directives, the later one if there is no difference. -/
def sharper (best : Option Directive) (d : Directive) : Option Directive :=
  match best with
  | none => some d
  | some b => if b.givesWay d then some d else some b

/-- The directive that decides about an event, if there is one. -/
def deciding? (f : Filter) (e : Event) : Option Directive :=
  (f.directives.filter (·.covers e)).foldl sharper none

/-- Whether an event is let through. -/
def admits (f : Filter) (e : Event) : Bool :=
  match f.deciding? e with
  | some d => e.level.rank ≤ d.most
  | none => false

end Filter

end ChainWatch.Log
