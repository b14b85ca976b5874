import EdgeGateway.Event
import EdgeGateway.Http.Message

/-!
# Outbound requests

What a backend receives is built from scratch.  Of the header fields of the client only its
credentials and the media type are used, and of each only the first value.
-/

namespace EdgeGateway

open Http

/-- A request for a backend. -/
structure Outbound where
  method : Method
  url : Text
  headers : Headers
  body : Option Bytes
  deriving DecidableEq, Repr

namespace Outbound

/-- The fields that are copied when the client sent them. -/
def credentials : List FieldName :=
  [.authorization, .apiKey]

/-- The media type of a request that does not name one. -/
def defaultMediaType : Text :=
  "application/json".toList

/-- The first values of some names. -/
def pick (names : List FieldName) (inbound : Headers) : Headers :=
  names.filterMap fun name => (inbound.get? name).map (HeaderField.mk name)

/-- The credentials among the fields of a client. -/
def credentialFields (inbound : Headers) : Headers :=
  pick credentials inbound

/-- The fields for a backend. -/
def headersFor (inbound : Headers) : Headers :=
  ⟨.contentType, (inbound.get? .contentType).getD (valueOf defaultMediaType)⟩
    :: credentialFields inbound

/-- The events about credentials; their values are not shown. -/
def headerEvents (inbound : Headers) : List Event :=
  (credentialFields inbound).map fun f =>
    ⟨.debug, .forwardedHeaders, "Forwarding header".toList, [("header".toList, f.name.text)]⟩

end Outbound

end EdgeGateway
