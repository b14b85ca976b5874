import EdgeGateway.Http.Headers
import EdgeGateway.Http.Target

/-!
# Requests and responses

A request has a method, whose letter case matters, and a response a status code of three digits.
The body of either is known as a whole or arrives in chunks; a body in chunks may break off, and
says then why.

Main results:

- Theorem `read_full`, `read_stream_ok`: how a body reads when it does not break.
- Theorem `values_withLength`: adding the length of the body changes no other field.
-/

namespace EdgeGateway

namespace Http

/-! ## Methods -/

/-- A request method. -/
structure Method where
  token : Text
  deriving DecidableEq, Repr

namespace Method

/-- Reads a method: one or more token characters. -/
def ofText? (t : Text) : Option Method :=
  if t ≠ [] ∧ t.all isTokenChar then some ⟨t⟩ else none

def get : Method := ⟨"GET".toList⟩
def head : Method := ⟨"HEAD".toList⟩
def post : Method := ⟨"POST".toList⟩
def options : Method := ⟨"OPTIONS".toList⟩

end Method

/-! ## Status codes -/

/-- A status code. -/
structure Status where
  code : Nat
  valid : 100 ≤ code ∧ code ≤ 999 := by decide
  deriving DecidableEq, Repr

namespace Status

/-- The status of a number in range. -/
def ofNat? (n : Nat) : Option Status :=
  if h : 100 ≤ n ∧ n ≤ 999 then some ⟨n, h⟩ else none

def ok : Status := ⟨200, by decide⟩
def notFound : Status := ⟨404, by decide⟩
def internalServerError : Status := ⟨500, by decide⟩
def badGateway : Status := ⟨502, by decide⟩

/-- The registered status codes and their reason phrases. -/
def reasons : List (Nat × String) :=
  [(100, "Continue"), (101, "Switching Protocols"), (102, "Processing"), (103, "Early Hints"),
    (200, "OK"), (201, "Created"), (202, "Accepted"), (203, "Non Authoritative Information"),
    (204, "No Content"), (205, "Reset Content"), (206, "Partial Content"), (207, "Multi-Status"),
    (208, "Already Reported"), (226, "IM Used"), (300, "Multiple Choices"),
    (301, "Moved Permanently"), (302, "Found"), (303, "See Other"), (304, "Not Modified"),
    (305, "Use Proxy"), (307, "Temporary Redirect"), (308, "Permanent Redirect"),
    (400, "Bad Request"), (401, "Unauthorized"), (402, "Payment Required"), (403, "Forbidden"),
    (404, "Not Found"), (405, "Method Not Allowed"), (406, "Not Acceptable"),
    (407, "Proxy Authentication Required"), (408, "Request Timeout"), (409, "Conflict"),
    (410, "Gone"), (411, "Length Required"), (412, "Precondition Failed"),
    (413, "Payload Too Large"), (414, "URI Too Long"), (415, "Unsupported Media Type"),
    (416, "Range Not Satisfiable"), (417, "Expectation Failed"), (418, "I'm a teapot"),
    (421, "Misdirected Request"), (422, "Unprocessable Entity"), (423, "Locked"),
    (424, "Failed Dependency"), (425, "Too Early"), (426, "Upgrade Required"),
    (428, "Precondition Required"), (429, "Too Many Requests"),
    (431, "Request Header Fields Too Large"), (451, "Unavailable For Legal Reasons"),
    (500, "Internal Server Error"), (501, "Not Implemented"), (502, "Bad Gateway"),
    (503, "Service Unavailable"), (504, "Gateway Timeout"), (505, "HTTP Version Not Supported"),
    (506, "Variant Also Negotiates"), (507, "Insufficient Storage"), (508, "Loop Detected"),
    (510, "Not Extended"), (511, "Network Authentication Required")]

/-- The reason phrase of a status, or a stand-in for codes that have none. -/
def reason (s : Status) : Text :=
  ((reasons.lookup s.code).getD "<unknown status code>").toList

/-- Code and reason phrase. -/
def text (s : Status) : Text :=
  Text.decimal s.code ++ ' ' :: s.reason

end Status

/-! ## Bodies -/

/-- The body of a message. -/
inductive Body where
  /-- All bytes are known from the start. -/
  | full (bytes : Bytes)
  /-- The chunks that arrive, and the reason why the body breaks off after them, if it does. -/
  | stream (chunks : List Bytes) (fault : Option Text)
  deriving DecidableEq, Repr

namespace Body

/-- The body without any bytes. -/
def empty : Body := .full []

/-- The bytes that arrive, up to the break if there is one. -/
def bytes : Body → Bytes
  | .full bytes => bytes
  | .stream chunks _ => chunks.flatten

/-- Why the body breaks off. -/
def fault? : Body → Option Text
  | .full _ => none
  | .stream _ fault => fault

/-- The length that is known before the body arrives. -/
def knownLength? : Body → Option Nat
  | .full bytes => some bytes.length
  | .stream _ _ => none

/-- Reads a body to its end. -/
def read (b : Body) : Except Text Bytes :=
  match b.fault? with
  | none => .ok b.bytes
  | some fault => .error fault

@[simp]
theorem read_full (bytes : Bytes) : (full bytes).read = .ok bytes :=
  rfl

@[simp]
theorem read_stream_ok (chunks : List Bytes) : (stream chunks none).read = .ok chunks.flatten :=
  rfl

@[simp]
theorem read_stream_error (chunks : List Bytes) (fault : Text) :
    (stream chunks (some fault)).read = .error fault :=
  rfl

end Body

/-! ## Messages -/

/-- A request as a client sends it. -/
structure Request where
  method : Method
  target : Target
  headers : Headers
  body : Body
  deriving DecidableEq, Repr

/-- A response as a client receives it. -/
structure Response where
  status : Status
  headers : Headers
  body : Body
  deriving DecidableEq, Repr

namespace Response

/-- Adds the length of the body to the header section, when it is known and no length is given. -/
def withLength (r : Response) : Response :=
  match r.body.knownLength?, r.headers.get? .contentLength with
  | some n, none =>
    { r with headers := r.headers.append .contentLength (valueOf (Text.decimal n)) }
  | _, _ => r

@[simp]
theorem withLength_status (r : Response) : r.withLength.status = r.status := by
  unfold withLength
  split <;> rfl

@[simp]
theorem withLength_body (r : Response) : r.withLength.body = r.body := by
  unfold withLength
  split <;> rfl

theorem values_withLength (r : Response) {name : FieldName} (h : name ≠ .contentLength) :
    r.withLength.headers.values name = r.headers.values name := by
  unfold withLength
  split
  · simp [Ne.symm h]
  · rfl

end Response

end Http

end EdgeGateway
