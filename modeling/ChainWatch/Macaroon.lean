/-
Credentials.

A macaroon is presented to the node as hex text. It can be made from its bytes or from
text that is hex already; the text is kept in lower case, so both ways of making one
agree. Its own text form hides it.
-/
import ChainWatch.Error
import ChainWatch.Hex

set_option autoImplicit false

namespace ChainWatch

/-- A credential, as the hex text that is sent along with a call. -/
structure Macaroon where
  hex : String
  deriving DecidableEq

namespace Macaroon

def ofBytes (bytes : Bytes) : Macaroon := ⟨Hex.encode bytes⟩

/-- Takes hex text of either case. Only the letters of ASCII are lowered, and no other
letter gets this far. -/
def ofHex? (s : String) : Except PayloadError Macaroon :=
  match Hex.decode s with
  | .ok _ => .ok ⟨String.ofList (s.toList.map Char.toLower)⟩
  | .error e => .error (.hex e.message)

/-- The credential is not shown. -/
def inspect (_ : Macaroon) : String := "Macaroon(<redacted>)"

/-- The metadata key under which a call carries the credential. -/
def metadataKey : String := "macaroon"

end Macaroon

end ChainWatch
