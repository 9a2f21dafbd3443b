import Mathlib.Data.List.Basic

/-!
# Status codes

A status code is a 16-bit value; the codes that the library names are constants.
The category is recovered from the value alone. Codes are grouped in bands of one
thousand, so the category is a division.
-/

namespace Rillnet

/-- The broad category of a status code. -/
inductive StatusCategory where
  | ok
  | transport
  | protocol
  | serialization
  | operation
  | timeout
  | cancellation
  | resourceLimit
deriving DecidableEq, Repr

/-- A status code carried on the wire and used to classify an outcome. The type is
as wide as its underlying value: a codec of the application may fail with a value
that has no name below. -/
structure StatusCode where
  value : UInt16
deriving DecidableEq, Repr

namespace StatusCode

/-! The codes with a name. -/

abbrev ok : StatusCode := ⟨0⟩
abbrev transportError : StatusCode := ⟨1000⟩
abbrev connectionClosed : StatusCode := ⟨1001⟩
abbrev connectionReset : StatusCode := ⟨1002⟩
abbrev connectionTimedOut : StatusCode := ⟨1003⟩
abbrev protocolError : StatusCode := ⟨2000⟩
abbrev unsupportedVersion : StatusCode := ⟨2001⟩
abbrev malformedFrame : StatusCode := ⟨2002⟩
abbrev unknownStream : StatusCode := ⟨2003⟩
abbrev serializationError : StatusCode := ⟨3000⟩
abbrev unknownMessageType : StatusCode := ⟨3001⟩
abbrev decodeError : StatusCode := ⟨3002⟩
abbrev operationError : StatusCode := ⟨4000⟩
abbrev timeoutError : StatusCode := ⟨5000⟩
abbrev cancelled : StatusCode := ⟨6000⟩
abbrev resourceLimitExceeded : StatusCode := ⟨7000⟩

end StatusCode

/-- The category is read off the thousands of the value; everything from the
seventh band on is a resource limit. -/
def statusCategory (code : StatusCode) : StatusCategory :=
  if code.value = 0 then .ok
  else
    match (code.value / 1000).toNat with
    | 1 => .transport
    | 2 => .protocol
    | 3 => .serialization
    | 4 => .operation
    | 5 => .timeout
    | 6 => .cancellation
    | _ => .resourceLimit

end Rillnet
