/-
What can go wrong, by cause.

Three layers fail in three ways. A `LinkError` is raised by the connection that carries
the notification streams, a `PayloadError` says which structural check a message failed,
and a `WatchError` is what the holder of a subscription is told. Each has one wording
(`message`); a cause that a text can be retried for is told apart by `isRetryable`, and
`inspect` shows the structure of the two inner layers with its texts in quotes.
-/
import ChainWatch.Quoted

set_option autoImplicit false

namespace ChainWatch

/-! ## 1. The connection -/

/-- A failure while a notification stream is opened or read. -/
inductive LinkError where
  /-- The connection to the node is unavailable or was reset. -/
  | connection (reason : String)
  /-- The node rejected the credentials of the call. -/
  | unauthenticated (reason : String)
  /-- The node answered with a status other than success. -/
  | status (code : Int32) (reason : String)
  /-- The server ended the stream. -/
  | streamClosed
  /-- The stream was not opened within so many whole milliseconds. -/
  | timeout (ms : UInt64)
  /-- The call was cancelled by its own side. -/
  | cancelled
  /-- Anything else. -/
  | other (reason : String)
  deriving DecidableEq

namespace LinkError

def message : LinkError → String
  | connection reason => "connection error: " ++ reason
  | unauthenticated reason => "authentication rejected: " ++ reason
  | status code reason => "RPC status " ++ toString code.toInt ++ ": " ++ reason
  | streamClosed => "stream closed by server"
  | timeout ms => "call timed out after " ++ toString ms.toNat ++ "ms"
  | cancelled => "call cancelled"
  | other reason => reason

/-- The failures after which subscribing again may succeed. -/
def isRetryable : LinkError → Bool
  | connection _ | streamClosed | timeout _ => true
  | unauthenticated _ | status _ _ | cancelled | other _ => false

/-- The structure of the error, texts in quotes. -/
def inspect : LinkError → String
  | connection reason => "Connection(" ++ Quoted.text reason ++ ")"
  | unauthenticated reason => "Unauthenticated(" ++ Quoted.text reason ++ ")"
  | status code reason =>
      "Status \x7b code: " ++ toString code.toInt ++ ", message: " ++ Quoted.text reason ++ " \x7d"
  | streamClosed => "StreamClosed"
  | timeout ms => "Timeout \x7b ms: " ++ toString ms.toNat ++ " \x7d"
  | cancelled => "Cancelled"
  | other reason => "Other(" ++ Quoted.text reason ++ ")"

end LinkError

/-! ## 2. The payload -/

/-- The first structural check that a message failed. -/
inductive PayloadError where
  /-- A hash of the given number of bytes, which is not 32. -/
  | hashLength (length : Nat)
  /-- A text that is not hex. -/
  | hex (reason : String)
  /-- Bytes that are no consensus-serialized transaction. -/
  | transaction (reason : String)
  /-- A part that must be there is absent. -/
  | missingField (field : String)
  /-- A number that its field cannot hold. -/
  | outOfRange (field : String) (value : UInt32)
  /-- An event of the named kind that carries nothing at all. -/
  | emptyEvent (kind : String)
  deriving DecidableEq

namespace PayloadError

def message : PayloadError → String
  | hashLength length => "invalid hash length: expected 32 bytes, got " ++ toString length
  | hex reason => "invalid hex: " ++ reason
  | transaction reason => "malformed transaction: " ++ reason
  | missingField field => "missing field: " ++ field
  | outOfRange field value => field ++ " out of range: " ++ toString value.toNat
  | emptyEvent kind => kind ++ " event empty"

/-- The structure of the error, texts in quotes. -/
def inspect : PayloadError → String
  | hashLength length => "InvalidHashLength(" ++ toString length ++ ")"
  | hex reason => "InvalidHex(" ++ Quoted.text reason ++ ")"
  | transaction reason => "Transaction(" ++ Quoted.text reason ++ ")"
  | missingField field => "MissingField(" ++ Quoted.text field ++ ")"
  | outOfRange field value =>
      "OutOfRange \x7b field: " ++ Quoted.text field ++ ", value: " ++ toString value.toNat
        ++ " \x7d"
  | emptyEvent kind => "EmptyEvent(" ++ Quoted.text kind ++ ")"

end PayloadError

/-! ## 3. The subscription -/

/-- Why a registration failed or a subscription ended. -/
inductive WatchError where
  /-- The stream could not be opened; no worker was started. -/
  | setup (cause : LinkError)
  /-- The stream ended or failed after it was opened. -/
  | stream (cause : LinkError)
  /-- An event failed its structural checks. -/
  | payload (cause : PayloadError)
  /-- The server sent a kind of event that this subscription does not expect. -/
  | protocol (reason : String)
  /-- The worker is gone and left no result, or its result was taken before. -/
  | workerGone
  deriving DecidableEq

namespace WatchError

def message : WatchError → String
  | setup cause => "subscription setup failed: " ++ cause.message
  | stream cause => "notification stream failed: " ++ cause.message
  | payload cause => "decode error: " ++ cause.message
  | protocol reason => "protocol error: " ++ reason
  | workerGone => "subscription worker exited without a result"

/-- Whether the failure came before any worker was started. -/
def isSetup : WatchError → Bool
  | setup _ => true
  | stream _ | payload _ | protocol _ | workerGone => false

/-- Whether subscribing again may succeed: a payload or protocol error repeats on every
attempt, so only the connection can be worth another try. -/
def isRetryable : WatchError → Bool
  | setup cause | stream cause => cause.isRetryable
  | payload _ | protocol _ | workerGone => false

/-- The wording of the wrapped cause, where there is one. -/
def source? : WatchError → Option String
  | setup cause | stream cause => some cause.message
  | payload cause => some cause.message
  | protocol _ | workerGone => none

end WatchError

end ChainWatch
