/-
Settings, and their JSON form.

Settings bound how long a stream may take to open and say what is logged and how. Every
part has a default. `LogSettings.directives` puts the levels of the components into the
text that `Log.Filter` reads, in the byte order of the component names.
-/
import ChainWatch.Json.Fields
import ChainWatch.Log.Filter
import ChainWatch.Span
import ChainWatch.TextMap

set_option autoImplicit false

namespace ChainWatch

/-! ## 1. Logging -/

/-- What is logged, and whether as JSON. -/
structure LogSettings where
  /-- The level of every component without one of its own. -/
  level : String
  /-- The levels of components, by name. -/
  components : TextMap
  json : Bool
  deriving DecidableEq

namespace LogSettings

def default : LogSettings := ⟨"info", .empty, false⟩

/-- A component as targets spell it. -/
def targetName (component : String) : String :=
  String.ofList (component.toList.map fun c => if c = '-' then '_' else c)

/-- One component and its level, behind a comma. -/
def directive (entry : TextEntry) : String := "," ++ targetName entry.1 ++ "=" ++ entry.2

/-- The filter text of the settings with the components taken in the given order. They are sorted
before they are written, so that order does not show. -/
def directivesWith (components : List TextEntry) (s : LogSettings) : String :=
  s.level ++ String.join ((components.mergeSort TextEntry.le).map directive)

/-- The filter text of the settings. -/
def directives (s : LogSettings) : String := s.directivesWith s.components.entries

/-- The filter the settings ask for. -/
def filter (s : LogSettings) : Log.Filter := .ofText s.directives

def names : List String := ["level", "components", "json"]

/-- The object whose members are these, in this order. -/
def entriesJson (entries : List TextEntry) : Json :=
  .object (entries.map fun entry => (entry.1, .text entry.2))

/-- The settings with the members of the component map in the given order. -/
def toJsonWith (components : List TextEntry) (s : LogSettings) : Json :=
  .object [("level", .text s.level), ("components", entriesJson components), ("json", .bool s.json)]

def toJson (s : LogSettings) : Json := s.toJsonWith s.components.entries

/-- The entry that a member of an object gives. -/
def entryOf? : Option String × Json → Option TextEntry
  | (some key, j) => j.text?.map fun value => (key, value)
  | (none, _) => none

/-- The members of an object of texts, in their order. -/
def entries? : Json → Option (List TextEntry)
  | .record members => members.mapM entryOf?
  | _ => none

/-- A map from component to level is an object of texts; the last member of a name wins. -/
def components? (j : Json) : Option TextMap := (entries? j).map TextMap.ofList

def ofFields? : List (Option Json) → Option LogSettings
  | [level, components, json] => do
      return ⟨← Json.withDefault "info" Json.text? level,
        ← Json.withDefault .empty components? components,
        ← Json.withDefault false Json.bool? json⟩
  | _ => none

def ofJson? (j : Json) : Option LogSettings := (j.fields? names).bind ofFields?

end LogSettings

/-! ## 2. The client -/

structure Settings where
  /-- The longest a stream may take to open, in milliseconds. -/
  rpcTimeoutMs : UInt64
  log : LogSettings
  deriving DecidableEq

namespace Settings

def defaultTimeoutMs : UInt64 := 30000

def default : Settings := ⟨defaultTimeoutMs, .default⟩

def rpcTimeout (s : Settings) : Span := .ofMillis s.rpcTimeoutMs

/-- The settings with another timeout, in whole milliseconds. -/
def withRpcTimeout (s : Settings) (d : Span) : Settings := { s with rpcTimeoutMs := d.wholeMillis }

def names : List String := ["rpc_timeout_ms", "log"]

/-- The settings with the members of the component map in the given order. -/
def toJsonWith (components : List TextEntry) (s : Settings) : Json :=
  .object [("rpc_timeout_ms", .nat s.rpcTimeoutMs.toNat), ("log", s.log.toJsonWith components)]

def toJson (s : Settings) : Json := s.toJsonWith s.log.components.entries

def ofFields? : List (Option Json) → Option Settings
  | [timeout, log] => do
      return ⟨← Json.withDefault defaultTimeoutMs Json.u64? timeout,
        ← Json.withDefault .default LogSettings.ofJson? log⟩
  | _ => none

def ofJson? (j : Json) : Option Settings := (j.fields? names).bind ofFields?

/-- Whether writing the settings and reading them again gives the same timeout, filter
text and log format. -/
def survivesText (s : Settings) : Bool :=
  match (Json.parse? s.toJson.render).bind ofJson? with
  | some t =>
      t.rpcTimeout == s.rpcTimeout && t.log.directives == s.log.directives
        && t.log.json == s.log.json
  | none => false

end Settings

end ChainWatch
