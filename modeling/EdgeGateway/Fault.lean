import EdgeGateway.Http.Message
import EdgeGateway.Telemetry.Metrics
import EdgeGateway.Text.Quoted

/-!
# Faults

A request that cannot be answered by a backend is answered by the gateway itself, with a status and
a short JSON object that say why.  Among the reasons is an exchange with a backend that fails before
it starts, on the way, or while it is being redirected.

Main results:

- Theorem `status_response`: the answer has the status of the fault.
-/

namespace EdgeGateway

/-! ## Failed exchanges -/

namespace Client

/-- Why an exchange with a backend failed. -/
inductive Failure where
  /-- The text is no URL. -/
  | unreadableUrl
  /-- The URL is none that a request can be sent to. -/
  | unusableUrl (url : Text)
  /-- No complete answer arrived. -/
  | noAnswer (url : Text)
  /-- The answers kept pointing elsewhere. -/
  | tooManyRedirects (url : Text)
  deriving DecidableEq, Repr

/-- The wording of what happened, with the URL it happened to. -/
def Failure.about (what url : Text) : Text :=
  what ++ " for url (".toList ++ url ++ [')']

/-- The wording of a failure. -/
def Failure.message : Failure → Text
  | .unreadableUrl => "builder error".toList
  | .unusableUrl url => about "builder error".toList url
  | .noAnswer url => about "error sending request".toList url
  | .tooManyRedirects url => about "error following redirect".toList url

end Client

/-! ## Faults -/

/-- Why the gateway answers a request itself. -/
inductive Fault where
  | noRoute
  | notConfigured (backend : Backend)
  | exchange (failure : Client.Failure)
  | brokenUpload (cause : Text)
  | unavailable (reason : Text)
  deriving DecidableEq, Repr

namespace Fault

/-- The wording of a fault. -/
def message : Fault → Text
  | .noRoute => "Not found".toList
  | .notConfigured backend => backend.name ++ " backend is not configured".toList
  | .exchange failure => failure.message
  | .brokenUpload cause => "failed to read request body: ".toList ++ cause
  | .unavailable reason => reason

/-- The status of the answer. -/
def status : Fault → Http.Status
  | .noRoute => .notFound
  | .notConfigured _ => .internalServerError
  | .exchange _ => .badGateway
  | .brokenUpload _ => .badGateway
  | .unavailable _ => .badGateway

/-- How the request ended. -/
def outcome : Fault → Telemetry.Outcome
  | .noRoute => .notFound
  | .notConfigured _ => .notConfigured
  | .exchange _ => .unavailable
  | .brokenUpload _ => .unavailable
  | .unavailable _ => .unavailable

/-- What the client is told in any case. -/
def title : Fault → Text
  | .noRoute => "Not found".toList
  | .notConfigured _ => "Backend not configured".toList
  | .exchange _ => "Backend unavailable".toList
  | .brokenUpload _ => "Backend unavailable".toList
  | .unavailable _ => "Backend unavailable".toList

/-- What the client is told about a backend that cannot be used. -/
def details? (fault : Fault) : Option Text :=
  match fault with
  | .noRoute => none
  | .notConfigured _ => none
  | .exchange _ => some fault.message
  | .brokenUpload _ => some fault.message
  | .unavailable _ => some fault.message

/-- The body of the answer. -/
def bodyText (fault : Fault) : Text :=
  Json.object
    (("error".toList, Json.string fault.title)
      :: fault.details?.toList.map fun details => ("details".toList, Json.string details))

/-- The kind of the answer's body. -/
def mediaType : Text :=
  "application/json".toList

/-- The answer. -/
def response (fault : Fault) : Http.Response where
  status := fault.status
  headers := [⟨.contentType, Http.valueOf mediaType⟩]
  body := .full (Utf8.encode fault.bodyText)

@[simp]
theorem status_response (fault : Fault) : fault.response.status = fault.status :=
  rfl

end Fault

end EdgeGateway
