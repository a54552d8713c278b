/-
The contexts under which calls are made.

A context has a cancellation token and metadata. Contexts that were derived from one
another, or made on one another's token, are cancelled together and for good; their
metadata is copied when one is derived and shared with nobody. A `CallBook` keeps
contexts by name, together with the state of all tokens.
-/
import ChainWatch.Macaroon
import ChainWatch.TextMap

set_option autoImplicit false

namespace ChainWatch

/-! ## 1. Tokens -/

/-- A cancellation token, known by the order in which it was made. -/
structure Token where
  index : Nat
  deriving DecidableEq

/-- Every token made so far, with whether it has been cancelled. -/
structure Tokens where
  fired : List Bool
  deriving DecidableEq

namespace Tokens

def empty : Tokens := ⟨[]⟩

/-- The token that is made next. -/
def next (t : Tokens) : Token := ⟨t.fired.length⟩

/-- Makes a token that is not cancelled. -/
def fresh (t : Tokens) : Tokens := ⟨t.fired ++ [false]⟩

/-- Cancels a token; there is no way back. -/
def cancel (t : Tokens) (token : Token) : Tokens := ⟨t.fired.set token.index true⟩

def isCancelled (t : Tokens) (token : Token) : Bool := t.fired.getD token.index false

end Tokens

/-! ## 2. Contexts -/

/-- The context of a call. -/
structure Call where
  token : Token
  metadata : TextMap
  deriving DecidableEq

namespace Call

/-- A context on a token, without metadata. -/
def onToken (token : Token) : Call := ⟨token, .empty⟩

/-- A copy of the context with one entry of the metadata set. -/
def withMetadata (c : Call) (key value : String) : Call :=
  { c with metadata := c.metadata.insert key value }

/-- A copy of the context that carries a credential. -/
def withAuth (c : Call) (m : Macaroon) : Call := c.withMetadata Macaroon.metadataKey m.hex

end Call

/-! ## 3. Contexts by name -/

/-- What can be seen of a context. -/
structure CallView where
  cancelled : Bool
  metadata : TextMap
  deriving DecidableEq

/-- Contexts by name, the newest of a name first, and the tokens they are on. -/
structure CallBook where
  tokens : Tokens
  calls : List (String × Call)
  deriving DecidableEq

namespace CallBook

def empty : CallBook := ⟨.empty, []⟩

def find? (b : CallBook) (name : String) : Option Call := b.calls.lookup name

/-- Keeps a context under a name, instead of the one that had the name before. -/
def store (b : CallBook) (name : String) (c : Call) : CallBook :=
  { b with calls := (name, c) :: b.calls.filter fun entry => entry.1 != name }

/-- A context on a token of its own. -/
def create (b : CallBook) (name : String) : CallBook :=
  { b with tokens := b.tokens.fresh }.store name (.onToken b.tokens.next)

def view (b : CallBook) (c : Call) : CallView := ⟨b.tokens.isCancelled c.token, c.metadata⟩

/-- Cancels the token of a context, and with it every context on that token. -/
def cancel (b : CallBook) (c : Call) : CallBook := { b with tokens := b.tokens.cancel c.token }

end CallBook

/-! ## 4. Operations on a book -/

/-- One operation on named contexts. -/
inductive CallStep where
  /-- A context on a token of its own. -/
  | create (name : String)
  /-- A context without metadata on the token of another. -/
  | share (name source : String)
  /-- A copy of a context with one entry of the metadata set. -/
  | withMetadata (name source key value : String)
  /-- A copy of a context with a credential, given the outcome of reading it. -/
  | withAuth (name source : String) (credential : Except PayloadError Macaroon)
  /-- Looks an entry of the metadata up. -/
  | get (name key : String)
  | cancel (name : String)

/-- What an operation answers. -/
inductive CallAnswer where
  | done
  | value (found : Option String)
  | refused (cause : PayloadError)
  deriving DecidableEq

namespace CallBook

/-- Derives a context from a named one; without that one nothing happens. -/
def derive (b : CallBook) (name source : String) (f : Call → Call) : CallBook :=
  match b.find? source with
  | some c => b.store name (f c)
  | none => b

def perform (b : CallBook) : CallStep → CallBook × CallAnswer
  | .create name => (b.create name, .done)
  | .share name source => (b.derive name source fun c => .onToken c.token, .done)
  | .withMetadata name source key value =>
      (b.derive name source fun c => c.withMetadata key value, .done)
  | .withAuth name source (.ok m) => (b.derive name source fun c => c.withAuth m, .done)
  | .withAuth _ _ (.error cause) => (b, .refused cause)
  | .get name key => (b, .value ((b.find? name).bind fun c => c.metadata.get? key))
  | .cancel name =>
      match b.find? name with
      | some c => (b.cancel c, .done)
      | none => (b, .done)

/-- Every name with what can be seen of its context. -/
def views (b : CallBook) : List (String × CallView) :=
  b.calls.map fun entry => (entry.1, b.view entry.2)

end CallBook

end ChainWatch
