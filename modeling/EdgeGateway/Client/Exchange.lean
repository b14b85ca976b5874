import EdgeGateway.Fault
import EdgeGateway.Http.Message
import EdgeGateway.Outbound
import EdgeGateway.Url.Parse

/-!
# Exchanges

An exchange is one request on the wire.  Its URL is read forgivingly, user information in it
becomes a field of its own, in Base64, and a few fields that every request needs are added.
-/

namespace EdgeGateway

/-! ## Base64 -/

namespace Base64

/-- The alphabet. -/
def alphabet : Text :=
  "ABCDEFGHIJKLMNOPQRSTUVWXYZabcdefghijklmnopqrstuvwxyz0123456789+/".toList

/-- The character of a number below sixty-four. -/
def digit (n : Nat) : Char :=
  alphabet.getD (n % 64) 'A'

/-- The written form of bytes. -/
def encode : Bytes → Text
  | a :: b :: c :: rest =>
    let n := 65536 * a.toNat + 256 * b.toNat + c.toNat
    digit (n / 262144) :: digit (n / 4096) :: digit (n / 64) :: digit n :: encode rest
  | [a, b] =>
    let n := 1024 * a.toNat + 4 * b.toNat
    [digit (n / 4096), digit (n / 64), digit n, '=']
  | [a] =>
    let n := 16 * a.toNat
    [digit (n / 64), digit n, '=', '=']
  | [] => []

end Base64

/-! ## Requests on the wire -/

namespace Client

open Http

/-- What a client wants done, wherever redirections lead it. -/
structure Errand where
  method : Method
  headers : Headers
  body : Option Bytes
  deriving DecidableEq, Repr

/-- One request on the wire. -/
structure Exchange where
  method : Method
  url : Url
  headers : Headers
  body : Option Bytes
  deriving DecidableEq, Repr

/-! ## Reading the URL -/

/-- The URL is one of the web. -/
def isWebScheme (u : Url) : Bool :=
  u.scheme == "http".toList || u.scheme == "https".toList

/-- The value of a field that identifies a user. -/
def basicCredentials (user password : Text) : Bytes :=
  valueOf ("Basic ".toList ++ Base64.encode (Utf8.encode (user ++ ':' :: password)))

/-- A URL without its user information, and the user information as the value of a field.  User
names that are no text stay where they are. -/
def extractUserinfo (u : Url) : Url × Option Bytes :=
  match Url.Percent.decode? u.username with
  | none => (u, none)
  | some user =>
    let password := if u.password = [] then none else Url.Percent.decode? u.password
    if user = [] ∧ password.isNone then (u, none)
    else (u.withoutUserinfo, some (basicCredentials user (password.getD [])))

/-- The written form of a URL is one that can be asked for. -/
def isRequestable (u : Url) : Bool :=
  (Target.parse (Utf8.encode u.text)).isOk

/-- A URL that can be requested, and the credentials in it. -/
def readUrl (t : Text) : Except Failure (Url × Option Bytes) :=
  match Url.parse? t with
  | none => .error .unreadableUrl
  | some u =>
    if !u.hasHost then .error (.unusableUrl u.text)
    else
      let (u, credentials) := extractUserinfo u
      if isWebScheme u && isRequestable u then .ok (u, credentials)
      else .error (.unusableUrl u.text)

/-! ## Fields on the wire -/

/-- Adds a field unless there is one of its name. -/
def withDefault (hs : Headers) (name : FieldName) (value : Bytes) : Headers :=
  if (hs.get? name).isSome then hs else hs.append name value

/-- The fields that are sent wherever the errand leads. -/
def errandHeaders (hs : Headers) (credentials : Option Bytes) : Headers :=
  let hs :=
    match credentials with
    | some value => withDefault hs .authorization value
    | none => hs
  withDefault hs .accept (valueOf "*/*".toList)

/-- Host and port as a request names them. -/
def hostText (u : Url) : Text :=
  ((u.host.map Url.Host.text).getD []) ++ u.portText

/-- The fields about the machine and the body. -/
def framing (u : Url) (body : Option Bytes) : Headers :=
  ⟨.host, valueOf (hostText u)⟩
    :: match body with
      | some (b :: bytes) =>
        [⟨.contentLength, valueOf (Text.decimal (b :: bytes).length)⟩]
      | _ => []

end Client

end EdgeGateway
