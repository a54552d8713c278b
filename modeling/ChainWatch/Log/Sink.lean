/-
Where log events are printed.

A process has at most one sink. The first settings that are installed stay; installing
others later fails and changes nothing. A sink prints the events its filter lets through,
one line each, in the form the settings ask for.
-/
import ChainWatch.Settings

set_option autoImplicit false

namespace ChainWatch.Log

/-- A printed event. -/
inductive Line where
  | text (line : String)
  | object (value : Json)

/-- A filter and a form. -/
structure Sink where
  filter : Filter
  json : Bool

namespace Sink

def ofSettings (s : LogSettings) : Sink := ⟨s.filter, s.json⟩

/-- Installs a sink with the given settings if there is none. Says whether it did. -/
def install (installed : Option Sink) (s : LogSettings) : Option Sink × Bool :=
  match installed with
  | none => (some (.ofSettings s), true)
  | some sink => (some sink, false)

/-- The lines of a run of events. -/
def print (sink : Sink) (events : List Event) : List Line :=
  (events.filter sink.filter.admits).map fun e =>
    if sink.json then .object e.toJson else .text e.line

end Sink

end ChainWatch.Log
