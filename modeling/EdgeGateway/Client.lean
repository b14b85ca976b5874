import EdgeGateway.Client.Redirect
import EdgeGateway.Gateway
import EdgeGateway.Http.HopByHop

/-!
# The client

Requests reach the backends over a network.  The network is a parameter: it takes one request at a
time and returns an answer or nothing.  Redirections are followed up to a limit, and the last
answer is passed on without the fields of its connection.

Main results:

- Theorem `follow_of_answer`: an answer that does not redirect ends the errand.
- Theorem `follow_of_silence`: so does the lack of an answer.
-/

namespace EdgeGateway

namespace Client

open Http

/-- A network with a state in `σ`; it returns nothing when no complete head of an answer arrives. -/
abbrev Network (σ : Type) := Exchange → σ → Option Response × σ

/-- How many redirections are followed. -/
def maxRedirections : Nat := 10

/-- Carries out an errand that began at the URL `first` and has now come from `previous` to `next`,
with `left` redirections to go. -/
def follow {σ : Type} (net : Network σ) (first : Text) :
    Nat → Errand → Option Url → Url → σ → Except Failure Response × σ
  | left, e, previous, next, s =>
    match net (e.exchange previous next) s with
    | (none, s) => (.error (.noAnswer first), s)
    | (some r, s) =>
      match redirection? next r with
      | none => (.ok r, s)
      | some (redirection, target) =>
        match left with
        | 0 => (.error (.tooManyRedirects next.text), s)
        | left + 1 =>
          if isWebScheme target then
            follow net first left (e.after redirection) (some next) target s
          else (.error (.unusableUrl target.text), s)

variable {σ : Type} {net : Network σ} {first : Text} {left : Nat} {e : Errand}
  {previous : Option Url} {next : Url} {s t : σ}

theorem follow_of_silence (h : net (e.exchange previous next) s = (none, t)) :
    follow net first left e previous next s = (.error (.noAnswer first), t) := by
  unfold follow
  rw [h]

theorem follow_of_answer {r : Response} (h : net (e.exchange previous next) s = (some r, t))
    (hr : redirection? next r = none) :
    follow net first left e previous next s = (.ok r, t) := by
  unfold follow
  simp [h, hr]

/-- Sends a request and follows redirections. -/
def request (net : Network σ) (out : Outbound) (s : σ) : Except Failure Response × σ :=
  match readUrl out.url with
  | .error failure => (.error failure, s)
  | .ok (u, credentials) =>
    let e := ⟨out.method, errandHeaders out.headers credentials, out.body⟩
    follow net u.text maxRedirections e none (withoutFragment u) s

/-- What a client of the gateway is told about a body that broke off. -/
def brokenBody : Text :=
  "error decoding response body".toList

/-- A body as it is passed on: chunk by chunk, and with the wording of the gateway when it breaks
off. -/
def passBody (body : Body) : Body :=
  match body with
  | .full bytes => .stream [bytes] none
  | .stream chunks fault => .stream chunks (fault.map fun _ => brokenBody)

/-- A response as it is passed on. -/
def passOn (r : Response) : Response where
  status := r.status
  headers := r.headers.endToEnd
  body := passBody r.body

/-- The event about an answer. -/
def answerEvent (status : Status) : Event :=
  ⟨.debug, .client, "Backend responded".toList, [("status".toList, status.text)]⟩

/-- The event about a body that broke off. -/
def brokenBodyEvent : Event :=
  ⟨.error, .client, "Backend body stream error: ".toList ++ brokenBody, []⟩

/-- The answer for the gateway. -/
def answerOf (result : Except Failure Response) : Answer :=
  match result with
  | .error failure => ⟨.error (.exchange failure), []⟩
  | .ok r =>
    ⟨.ok (passOn r),
      answerEvent r.status :: if r.body.fault?.isSome then [brokenBodyEvent] else []⟩

/-- The name of the client in the log. -/
def name : Text := "http".toList

/-- The client as what sends the requests of a gateway. -/
def carrier (net : Network σ) : Carrier σ where
  name := name
  send out s :=
    let (result, s) := request net out s
    (answerOf result, s)

end Client

end EdgeGateway
