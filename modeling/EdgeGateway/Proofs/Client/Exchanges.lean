import EdgeGateway.Client

/-!
# The exchanges behind one request

A request that is handed to the client becomes one exchange for every hop it is led over.  The
exchanges are made visible by a network that records them, which changes nothing else.

The client follows redirections, so a request is a single exchange, whose answer is passed on, only
as long as that answer does not redirect it.

Main results:

- Theorem `follow_recording`: recording the exchanges of an errand changes no result.
- Theorem `length_hops_le`: an errand takes at most one exchange more than it has redirections left.
- Theorem `send_exchanges`: what is exchanged for a request, and exactly when that is a single
  exchange whose answer is passed on.
- Theorem `send_leaks_apiKey`: a redirection to another machine takes the key of the caller there.
-/

namespace EdgeGateway

namespace Client

open Http

/-! ## One turn of an errand -/

/-- What an answer, or the lack of one, makes of an errand. -/
inductive Turn where
  | ends (result : Except Failure Response)
  | goesOn (redirection : Redirection) (target : Url)

/-- The turn that an errand with `left` redirections to go takes at the URL `next`. -/
def turn (first : Text) (left : Nat) (next : Url) (answer : Option Response) : Turn :=
  match answer with
  | none => .ends (.error (.noAnswer first))
  | some r =>
    match redirection? next r with
    | none => .ends (.ok r)
    | some (redirection, target) =>
      if left = 0 then .ends (.error (.tooManyRedirects next.text))
      else if isWebScheme target then .goesOn redirection target
      else .ends (.error (.unusableUrl target.text))

/-- An answer that does not redirect is what the errand was for. -/
theorem turn_of_answer {first : Text} {left : Nat} {next : Url} {r : Response}
    (h : redirection? next r = none) : turn first left next (some r) = .ends (.ok r) := by
  simp [turn, h]

/-- No answer ends an errand well if it redirects. -/
theorem redirection?_of_turn {first : Text} {left : Nat} {next : Url} {r r' : Response}
    (h : turn first left next (some r) = .ends (.ok r')) : redirection? next r = none := by
  unfold turn at h
  split at h
  · cases h
  · rename_i hr
    cases hr
    split at h
    · assumption
    · split at h
      · cases h
      · split at h <;> cases h

/-- An errand without redirections to go is over. -/
theorem turn_zero_ne_goesOn {first : Text} {next target : Url} {answer : Option Response}
    {redirection : Redirection} : turn first 0 next answer ≠ .goesOn redirection target := by
  intro h
  unfold turn at h
  split at h
  · cases h
  · split at h
    · cases h
    · simp at h

variable {σ : Type}

/-- An errand is a sequence of turns. -/
theorem follow_eq (net : Network σ) (first : Text) (left : Nat) (e : Errand)
    (previous : Option Url) (next : Url) (s : σ) :
    follow net first left e previous next s =
      match turn first left next (net (e.exchange previous next) s).1 with
      | .ends result => (result, (net (e.exchange previous next) s).2)
      | .goesOn redirection target =>
        follow net first (left - 1) (e.after redirection) (some next) target
          (net (e.exchange previous next) s).2 := by
  rcases h : net (e.exchange previous next) s with ⟨_ | r, t⟩
  · rw [follow_of_silence h]
    rfl
  · rcases hr : redirection? next r with _ | ⟨redirection, target⟩
    · rw [follow_of_answer h hr, turn_of_answer hr]
    · cases left with
      | zero =>
        rw [follow]
        simp [h, hr, turn]
      | succ left =>
        rw [follow]
        cases hw : isWebScheme target <;> simp [h, hr, hw, turn]

/-! ## Recorded exchanges -/

/-- A network that also keeps every exchange, oldest first. -/
def Network.recording (net : Network σ) : Network (List Exchange × σ) :=
  fun exchange s => ((net exchange s.2).1, (s.1 ++ [exchange], (net exchange s.2).2))

/-- The exchanges of an errand that began at `first` and has come from `previous` to `next`, with a
number of redirections to go. -/
def hops (net : Network σ) (first : Text) : Nat → Errand → Option Url → Url → σ → List Exchange
  | 0, e, previous, next, _ => [e.exchange previous next]
  | left + 1, e, previous, next, s =>
    e.exchange previous next ::
      match turn first (left + 1) next (net (e.exchange previous next) s).1 with
      | .ends _ => []
      | .goesOn redirection target =>
        hops net first left (e.after redirection) (some next) target
          (net (e.exchange previous next) s).2

variable {net : Network σ} {first : Text} {left : Nat} {e : Errand} {previous : Option Url}
  {next target : Url} {redirection : Redirection} {s : σ}

/-- An errand that is over takes one exchange. -/
theorem hops_of_ends {result : Except Failure Response}
    (h : turn first left next (net (e.exchange previous next) s).1 = .ends result) :
    hops net first left e previous next s = [e.exchange previous next] := by
  cases left with
  | zero => rfl
  | succ left => simp [hops, h]

/-- An errand that goes on takes the exchanges that are still to come. -/
theorem hops_of_goesOn
    (h : turn first (left + 1) next (net (e.exchange previous next) s).1 =
      .goesOn redirection target) :
    hops net first (left + 1) e previous next s =
      e.exchange previous next ::
        hops net first left (e.after redirection) (some next) target
          (net (e.exchange previous next) s).2 := by
  simp [hops, h]

/-- Every errand begins with the exchange it stands at. -/
theorem head?_hops (net : Network σ) (first : Text) (left : Nat) (e : Errand)
    (previous : Option Url) (next : Url) (s : σ) :
    (hops net first left e previous next s).head? = some (e.exchange previous next) := by
  cases left <;> rfl

/-- An errand takes at most one exchange more than it has redirections left. -/
theorem length_hops_le (net : Network σ) (first : Text) (left : Nat) (e : Errand)
    (previous : Option Url) (next : Url) (s : σ) :
    (hops net first left e previous next s).length ≤ left + 1 := by
  induction left generalizing e previous next s with
  | zero => exact Nat.le_refl 1
  | succ left ih =>
    cases h : turn first (left + 1) next (net (e.exchange previous next) s).1 with
    | ends result => simp [hops_of_ends h]
    | goesOn redirection target =>
      have hrest := ih (e.after redirection) (some next) target
        (net (e.exchange previous next) s).2
      rw [hops_of_goesOn h, List.length_cons]
      omega

/-- Recording the exchanges of an errand changes neither its result nor the network, and appends
exactly its exchanges. -/
theorem follow_recording (net : Network σ) (first : Text) (left : Nat) (e : Errand)
    (previous : Option Url) (next : Url) (sent : List Exchange) (s : σ) :
    follow net.recording first left e previous next (sent, s) =
      ((follow net first left e previous next s).1,
        (sent ++ hops net first left e previous next s,
          (follow net first left e previous next s).2)) := by
  induction left generalizing e previous next sent s with
  | zero =>
    rw [follow_eq net.recording, follow_eq net]
    simp only [Network.recording]
    cases h : turn first 0 next (net (e.exchange previous next) s).1 with
    | ends result => rfl
    | goesOn redirection target => exact absurd h turn_zero_ne_goesOn
  | succ left ih =>
    rw [follow_eq net.recording, follow_eq net]
    simp only [Network.recording]
    cases h : turn first (left + 1) next (net (e.exchange previous next) s).1 with
    | ends result => rw [hops_of_ends h]
    | goesOn redirection target =>
      have hrest := ih (e.after redirection) (some next) target
        (sent ++ [e.exchange previous next]) (net (e.exchange previous next) s).2
      rw [hops_of_goesOn h]
      simp only [Nat.add_sub_cancel, hrest, List.append_assoc, List.singleton_append]

/-! ## When there is a single exchange -/

/-- An answer does not redirect when its status is not one of the five that do, or it names no place
that can be understood. -/
def StaysPut (u : Url) (r : Response) : Prop :=
  r.status.code ∈ [301, 302, 303, 307, 308] → location? u r = none

/-- The client passes on exactly the answers that do not redirect. -/
theorem redirection?_eq_none_iff {u : Url} {r : Response} :
    redirection? u r = none ↔ StaysPut u r := by
  unfold redirection? StaysPut Redirection.ofStatus?
  rcases hl : location? u r with _ | target
  · simp
  · simp only [Option.bind_eq_bind, Option.bind_some]
    split
    · simp
      omega
    · split
      · simp_all
      · split
        · simp_all
        · simp
          omega

/-- An answer that does not redirect is the only one, and the result. -/
theorem follow_of_staysPut (first : Text) (left : Nat) {r : Response}
    (h : (net (e.exchange previous next) s).1 = some r) (hr : StaysPut next r) :
    hops net first left e previous next s = [e.exchange previous next] ∧
      follow net first left e previous next s =
        (.ok r, (net (e.exchange previous next) s).2) := by
  have hturn : turn first left next (net (e.exchange previous next) s).1 = .ends (.ok r) := by
    rw [h, turn_of_answer (redirection?_eq_none_iff.2 hr)]
  rw [hops_of_ends hturn, follow_eq, hturn]
  exact ⟨rfl, rfl⟩

/-- A single exchange that ends well had an answer that does not redirect. -/
theorem staysPut_of_single {r r' : Response} (h : (net (e.exchange previous next) s).1 = some r)
    (hsingle : hops net first (left + 1) e previous next s = [e.exchange previous next])
    (hresult : (follow net first (left + 1) e previous next s).1 = .ok r') : StaysPut next r := by
  rw [follow_eq, h] at hresult
  cases hturn : turn first (left + 1) next (some r) with
  | ends result =>
    rw [hturn] at hresult
    subst hresult
    exact redirection?_eq_none_iff.1 (redirection?_of_turn hturn)
  | goesOn redirection target =>
    rw [← h] at hturn
    rw [hops_of_goesOn hturn] at hsingle
    have hempty := congrArg List.head? (List.tail_eq_of_cons_eq hsingle)
    rw [head?_hops] at hempty
    cases hempty

/-! ## Requests -/

/-- The errand that a request is. -/
def errandFor (out : Outbound) (credentials : Option Bytes) : Errand where
  method := out.method
  headers := errandHeaders out.headers credentials
  body := out.body

/-- The exchange that a request begins with. -/
def firstExchange (out : Outbound) (u : Url) (credentials : Option Bytes) : Exchange :=
  (errandFor out credentials).exchange none (withoutFragment u)

/-- A request whose URL cannot be used is never put on the wire. -/
theorem send_of_unusable (net : Network σ) {out : Outbound} {s : σ} {failure : Failure}
    (h : readUrl out.url = .error failure) :
    (carrier net).send out s = (answerOf (.error failure), s) := by
  simp [carrier, request, h]

variable {out : Outbound} {u : Url} {credentials : Option Bytes}

/-- The recorded exchanges of a request are those of its errand. -/
theorem send_recording (net : Network σ) (s : σ) (h : readUrl out.url = .ok (u, credentials)) :
    (carrier net.recording).send out ([], s) =
      (answerOf (follow net u.text maxRedirections (errandFor out credentials) none
          (withoutFragment u) s).1,
        (hops net u.text maxRedirections (errandFor out credentials) none (withoutFragment u) s,
          (follow net u.text maxRedirections (errandFor out credentials) none
            (withoutFragment u) s).2)) := by
  simp [carrier, request, h, errandFor, follow_recording]

/-- A request without an answer is one exchange. -/
theorem send_of_silence (h : readUrl out.url = .ok (u, credentials))
    (hnone : (net (firstExchange out u credentials) s).1 = none) :
    (carrier net.recording).send out ([], s) =
      (answerOf (.error (.noAnswer u.text)),
        ([firstExchange out u credentials], (net (firstExchange out u credentials) s).2)) := by
  have hturn : turn u.text maxRedirections (withoutFragment u)
      (net ((errandFor out credentials).exchange none (withoutFragment u)) s).1 =
        .ends (.error (.noAnswer u.text)) := by
    rw [← firstExchange, hnone]
    rfl
  rw [send_recording net s h, hops_of_ends hturn, follow_eq, hturn]
  rfl

/-- A request whose answer does not redirect is one exchange, and that answer is passed on. -/
theorem send_of_staysPut {r : Response} (h : readUrl out.url = .ok (u, credentials))
    (hr : (net (firstExchange out u credentials) s).1 = some r)
    (hput : StaysPut (withoutFragment u) r) :
    (carrier net.recording).send out ([], s) =
      (answerOf (.ok r),
        ([firstExchange out u credentials], (net (firstExchange out u credentials) s).2)) := by
  rcases follow_of_staysPut u.text maxRedirections hr hput with ⟨hsingle, hresult⟩
  rw [send_recording net s h, hsingle, hresult]
  rfl

/-- A request that is one exchange and ends well had an answer that does not redirect. -/
theorem staysPut_of_send {r r' : Response} (h : readUrl out.url = .ok (u, credentials))
    (hr : (net (firstExchange out u credentials) s).1 = some r)
    (hsingle : ((carrier net.recording).send out ([], s)).2.1 = [firstExchange out u credentials])
    (hresult : ((carrier net.recording).send out ([], s)).1.result = .ok r') :
    StaysPut (withoutFragment u) r := by
  rw [send_recording net s h] at hsingle hresult
  rcases hfollow : (follow net u.text maxRedirections (errandFor out credentials) none
      (withoutFragment u) s).1 with failure | answer
  · rw [hfollow] at hresult
    cases hresult
  · exact staysPut_of_single hr hsingle hfollow

/-- A request whose URL can be used begins with one exchange that has its method, its URL without
user information and fragment, and its body, and takes eleven exchanges at most.  It takes no other
exchange and brings back the answer exactly when that answer does not redirect; every exchange is
then with the host of the URL. -/
theorem send_exchanges (net : Network σ) (out : Outbound) (s : σ) :
    let sent := (carrier net.recording).send out ([], s)
    let exchanges := sent.2.1
    (∀ failure, readUrl out.url = .error failure →
      exchanges = [] ∧ sent.1.result = .error (.exchange failure)) ∧
    (∀ u credentials, readUrl out.url = .ok (u, credentials) →
      let first := firstExchange out u credentials
      first.method = out.method ∧ first.url = withoutFragment u ∧ first.body = out.body ∧
      exchanges.head? = some first ∧ exchanges.length ≤ 11 ∧
      ((net first s).1 = none →
        exchanges = [first] ∧ sent.1.result = .error (.exchange (.noAnswer u.text))) ∧
      (∀ r, (net first s).1 = some r →
        (exchanges = [first] ∧ sent.1.result = .ok (passOn r) ↔ StaysPut first.url r) ∧
        (StaysPut first.url r → ∀ exchange ∈ exchanges, exchange.url.host = u.host))) := by
  intro sent exchanges
  constructor
  · intro failure h
    have hsent : sent = (answerOf (.error failure), ([], s)) := send_of_unusable net.recording h
    simp only [exchanges, hsent]
    exact ⟨trivial, rfl⟩
  · intro u credentials h first
    have hexchanges : exchanges = hops net u.text maxRedirections (errandFor out credentials) none
        (withoutFragment u) s := congrArg (fun sent => sent.2.1) (send_recording net s h)
    refine ⟨rfl, rfl, rfl, ?_, ?_, ?_, ?_⟩
    · rw [hexchanges, head?_hops]
      rfl
    · rw [hexchanges]
      exact length_hops_le net u.text maxRedirections _ none (withoutFragment u) s
    · intro hnone
      have hsent := send_of_silence h hnone
      exact ⟨congrArg (fun sent => sent.2.1) hsent, congrArg (fun sent => sent.1.result) hsent⟩
    · intro r hr
      have hstays (hput : StaysPut first.url r) :
          exchanges = [first] ∧ sent.1.result = .ok (passOn r) := by
        have hsent := send_of_staysPut h hr hput
        exact ⟨congrArg (fun sent => sent.2.1) hsent, congrArg (fun sent => sent.1.result) hsent⟩
      refine ⟨⟨?_, hstays⟩, ?_⟩
      · rintro ⟨hsingle, hresult⟩
        exact staysPut_of_send h hr hsingle hresult
      · intro hput exchange hmem
        rw [(hstays hput).1, List.mem_singleton] at hmem
        rw [hmem]
        rfl

/-- A request to the machine `[::1]` with the key of a caller. -/
def keyed : Outbound where
  method := .get
  url := "http://[::1]/api/v1/keys".toList
  headers := [⟨.apiKey, valueOf "secret".toList⟩]
  body := none

/-- The URL of this request. -/
def keyedUrl : Url where
  scheme := "http".toList
  username := []
  password := []
  host := some (.ipv6 [0, 0, 0, 0, 0, 0, 0, 1])
  port := none
  path := .segments ["api".toList, "v1".toList, "keys".toList]
  query := none
  fragment := none

/-- An answer that redirects to a place without naming it. -/
def aimless : Response where
  status := ⟨302, by decide⟩
  headers := [⟨.contentType, valueOf "text/plain".toList⟩]
  body := .stream [[60, 62]] none

/-- A network on which every answer is of this kind. -/
def wandering : Network Nat := fun _ n => (some aimless, n + 1)

/-- The answer stays put, so the request is one exchange with its machine, and the answer comes
back. -/
theorem send_exchanges_keyed :
    let sent := (carrier wandering.recording).send keyed ([], 0)
    sent.2.1 = [firstExchange keyed keyedUrl none] ∧ sent.1.result = .ok (passOn aimless) := by
  have hread : readUrl keyed.url = .ok (keyedUrl, none) := rfl
  have hput : StaysPut (withoutFragment keyedUrl) aimless := fun _ => rfl
  obtain ⟨-, -, -, -, -, -, hanswered⟩ := (send_exchanges wandering keyed 0).2 keyedUrl none hread
  exact (hanswered aimless rfl).1.2 hput

/-! ## A redirection to another machine -/

/-- A network on which the first answer points to the machine `[::2]`, and all others are empty. -/
def luring : Network Bool := fun _ lured =>
  if lured then (some ⟨.ok, [], .empty⟩, true)
  else (some ⟨⟨302, by decide⟩, [⟨.location, valueOf "http://[::2]/".toList⟩], .empty⟩, true)

/-- The redirection is not passed on: a second exchange takes the key to the other machine, and its
answer comes back. -/
theorem send_leaks_apiKey :
    let sent := (carrier luring.recording).send keyed ([], false)
    sent.2.1.map (fun exchange => exchange.url.host) =
        [some (.ipv6 [0, 0, 0, 0, 0, 0, 0, 1]), some (.ipv6 [0, 0, 0, 0, 0, 0, 0, 2])] ∧
      sent.2.1.map (fun exchange => exchange.headers.values .apiKey) =
        [[valueOf "secret".toList], [valueOf "secret".toList]] ∧
      sent.1.result = .ok (passOn ⟨.ok, [], .empty⟩) := by
  refine ⟨?_, ?_, ?_⟩ <;> rfl

end Client

end EdgeGateway
