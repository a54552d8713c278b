/-
Log events and their two printed forms.

An event has a level, the part of the library it comes from, a message and named values
in a fixed order. `line` prints it for people, `toJson` as one JSON object; the time an
event was printed at is no part of either.
-/
import ChainWatch.Quoted
import ChainWatch.Json.Text

set_option autoImplicit false

namespace ChainWatch.Log

/-- How loud an event is, from the gravest down. -/
inductive Level where
  | error
  | warn
  | info
  | debug
  | trace
  deriving DecidableEq, Repr

namespace Level

/-- One for the gravest, five for the least. -/
def rank : Level → Nat
  | error => 1
  | warn => 2
  | info => 3
  | debug => 4
  | trace => 5

def text : Level → String
  | error => "ERROR"
  | warn => "WARN"
  | info => "INFO"
  | debug => "DEBUG"
  | trace => "TRACE"

end Level

/-- The part of the library an event comes from. -/
inductive Origin where
  /-- Registrations. -/
  | client
  /-- Workers. -/
  | worker
  /-- The count of workers. -/
  | tracker
  deriving DecidableEq, Repr

/-- The name that filters know an origin by. -/
def Origin.target : Origin → String
  | client => "chainnotify_client::client"
  | worker => "chainnotify_client::worker"
  | tracker => "chainnotify_client::tracker"

/-- A value of an event. -/
inductive Value where
  /-- A text that stands for something else and is printed as it is. -/
  | shown (text : String)
  /-- A text in its own right, printed in quotes. -/
  | text (text : String)
  | number (n : Int)
  deriving DecidableEq

structure Event where
  level : Level
  origin : Origin
  message : String
  fields : List (String × Value)
  deriving DecidableEq

namespace Value

def print : Value → String
  | shown s => s
  | text s => Quoted.text s
  | number n => toString n

def toJson : Value → Json
  | shown s | text s => .text s
  | number n => .num ⟨n < 0, n.natAbs, ""⟩

end Value

namespace Event

/-- Whether an event has a field of this name. The message is one. -/
def hasField (e : Event) (name : String) : Bool :=
  name = "message" || e.fields.any fun f => f.1 = name

/-- The event on one line, its level right-aligned. -/
def line (e : Event) : String :=
  let level := String.ofList (List.replicate (5 - e.level.text.length) ' ') ++ e.level.text
  let fields := e.fields.map fun f => " " ++ f.1 ++ "=" ++ f.2.print
  level ++ " " ++ e.origin.target ++ ": " ++ e.message ++ String.join fields

/-- The event as one object. -/
def toJson (e : Event) : Json :=
  .object [
    ("level", .text e.level.text),
    ("fields", .object (("message", .text e.message) :: e.fields.map fun f => (f.1, f.2.toJson))),
    ("target", .text e.origin.target)]

end Event

end ChainWatch.Log
