import EdgeGateway.Client.Exchange
import EdgeGateway.Url.Parse

/-!
# Redirections

Some answers say that the request should be made elsewhere.  Depending on the status the request
is repeated as it is or turned into one that only asks for something.
-/

namespace EdgeGateway

namespace Client

open Http

/-- How a redirection treats the request. -/
inductive Redirection where
  /-- Uploads by `POST` become requests that only ask. -/
  | softens
  /-- Every request becomes one that only asks. -/
  | asks
  /-- The request is repeated as it is. -/
  | keeps
  deriving DecidableEq, Repr

/-- The redirection that a status stands for. -/
def Redirection.ofStatus? (status : Status) : Option Redirection :=
  if status.code = 301 ∨ status.code = 302 then some .softens
  else if status.code = 303 then some .asks
  else if status.code = 307 ∨ status.code = 308 then some .keeps
  else none

/-- An errand that only asks for something. -/
def Errand.withoutBody (e : Errand) (method : Method) : Errand where
  method := method
  headers := e.headers.erase .contentType
  body := none

/-- What is left of an errand behind a redirection. -/
def Errand.after (e : Errand) : Redirection → Errand
  | .softens => if e.method = .post then e.withoutBody .get else e
  | .asks => e.withoutBody (if e.method = .head then .head else .get)
  | .keeps => e

/-- A URL without its fragment, which is never sent. -/
def withoutFragment (u : Url) : Url :=
  { u with fragment := none }

/-- Where an answer to a request for a URL points, if it can be understood. -/
def location? (u : Url) (r : Response) : Option Url := do
  let value ← r.headers.get? .location
  let reference ← Utf8.decode? value
  let next ← Url.resolve? u reference
  if isRequestable next then some (withoutFragment next) else none

/-- The redirection in an answer to a request for a URL, and where it leads. -/
def redirection? (u : Url) (r : Response) : Option (Redirection × Url) := do
  let redirection ← Redirection.ofStatus? r.status
  let next ← location? u r
  return (redirection, next)

/-! ## Fields on the way -/

/-- Two URLs are on different machines or ports. -/
def crossesOrigin (previous next : Url) : Bool :=
  previous.host ≠ next.host || previous.effectivePort ≠ next.effectivePort

/-- The URL that a request names as the one it comes from. -/
def refererText (u : Url) : Text :=
  (withoutFragment u.withoutUserinfo).text

/-- A secure page is not named to an insecure one. -/
def isDowngrade (previous next : Url) : Bool :=
  previous.scheme == "https".toList && next.scheme == "http".toList

/-- The fields for the next request of an errand.  Credentials do not go from one machine to
another, but only the previous request is looked at. -/
def hopHeaders (hs : Headers) (previous : Option Url) (next : Url) : Headers :=
  match previous with
  | none => hs
  | some u =>
    let hs := if crossesOrigin u next then hs.erase .authorization else hs
    if isDowngrade u next then hs else hs.insert .referer (valueOf (refererText u))

/-- The next request of an errand. -/
def Errand.exchange (e : Errand) (previous : Option Url) (next : Url) : Exchange where
  method := e.method
  url := next
  headers := hopHeaders e.headers previous next ++ framing next e.body
  body := e.body

end Client

end EdgeGateway
