import EdgeGateway.Gateway

/-!
# Recorded calls

What a gateway sends is made visible by a carrier that keeps every request it was handed.  Keeping
them changes no answer, and which requests are kept depends on the gateway and the request alone,
not on what the carrier answers.

Main results:

- Theorem `course`: the three courses that a request can take, and what is sent in each.
- Theorem `handle_noting`: whatever is kept of the calls of a request, its answer is the same.
- Theorem `serve_recording_fst`, `serve_recording_state`: a recording carrier answers like the
  carrier it records.
- Theorem `sent_serve_recording`: one request adds the calls that it is worth.
- Theorem `sent_run_recording`: a run adds the calls of its requests, in order.
- Theorem `length_sent_run_recording_le`: a run never makes more calls than it has requests.
-/

namespace EdgeGateway

open Http

/-! ## Carriers that keep something -/

/-- A carrier that also keeps something of every request it was handed and of its answer, oldest
first. -/
def Carrier.noting {σ β : Type} (note : Outbound → Answer → β) (carrier : Carrier σ) :
    Carrier (List β × σ) where
  name := carrier.name
  send out s :=
    ((carrier.send out s.2).1,
      (s.1 ++ [note out (carrier.send out s.2).1], (carrier.send out s.2).2))

/-- A carrier that also keeps every request it was handed, oldest first. -/
def Carrier.recording {σ : Type} (carrier : Carrier σ) : Carrier (List Outbound × σ) where
  name := carrier.name
  send out s := ((carrier.send out s.2).1, (s.1 ++ [out], (carrier.send out s.2).2))

/-- Recording is keeping the requests. -/
theorem Carrier.recording_eq {σ : Type} (carrier : Carrier σ) :
    carrier.recording = carrier.noting fun out _ => out :=
  rfl

namespace Gateway

/-- The requests that a gateway sends for a request: none, or the one that was drafted. -/
def calls (g : Gateway) (r : Request) : List Outbound :=
  if r.method = .options then []
  else
    match (g.draft r).1 with
    | .ok (_, out) => [out]
    | .error _ => []

/-- Nothing is sent for a browser's question. -/
theorem calls_of_options {g : Gateway} {r : Request} (h : r.method = .options) :
    g.calls r = [] := by
  simp [calls, h]

/-- Nothing is sent for a request that cannot be drafted. -/
theorem calls_of_error {g : Gateway} {r : Request} {fault : Fault}
    (h : (g.draft r).1 = .error fault) : g.calls r = [] := by
  simp [calls, h]

/-- A request that can be drafted is sent as it was drafted. -/
theorem calls_of_ok {g : Gateway} {r : Request} {backend : Backend} {out : Outbound}
    (hm : r.method ≠ .options) (h : (g.draft r).1 = .ok (backend, out)) :
    g.calls r = [out] := by
  simp [calls, hm, h]

/-- The three courses that a request can take, each with its calls. -/
inductive Course (g : Gateway) (r : Request) : Prop where
  /-- A browser's question is answered without looking at anything else. -/
  | preflight (hm : r.method = .options) (hcalls : g.calls r = []) : Course g r
  /-- A request that cannot be drafted is refused. -/
  | refused (fault : Fault) (events : List Event) (hm : r.method ≠ .options)
    (hdraft : g.draft r = (.error fault, events)) (hcalls : g.calls r = []) : Course g r
  /-- A request that can be drafted is sent. -/
  | sent (backend : Backend) (out : Outbound) (events : List Event) (hm : r.method ≠ .options)
    (hdraft : g.draft r = (.ok (backend, out), events)) (hcalls : g.calls r = [out]) : Course g r

/-- Every request takes one of the three courses. -/
theorem course (g : Gateway) (r : Request) : Course g r := by
  by_cases hm : r.method = .options
  · exact .preflight hm (calls_of_options hm)
  · rcases hdraft : g.draft r with ⟨fault | ⟨backend, out⟩, events⟩
    · exact .refused fault events hm hdraft (calls_of_error (by rw [hdraft]))
    · exact .sent backend out events hm hdraft (calls_of_ok hm (by rw [hdraft]))

/-- No request is worth more than one call. -/
theorem length_calls_le (g : Gateway) (r : Request) : (g.calls r).length ≤ 1 := by
  cases g.course r with
  | preflight _ hcalls => simp [hcalls]
  | refused _ _ _ _ hcalls => simp [hcalls]
  | sent _ _ _ _ _ hcalls => simp [hcalls]

/-! ## One request -/

variable {σ : Type} (g : Gateway) (carrier : Carrier σ) (r : Request) (sent : List Outbound) (s : σ)

/-- Keeping something of the calls of a request changes neither its answer nor the state of the
carrier, and appends exactly what is kept of its calls. -/
theorem handle_noting {β : Type} (note : Outbound → Answer → β) (kept : List β) :
    g.handle (carrier.noting note) r (kept, s) =
      ((g.handle carrier r s).1,
        (kept ++ (g.calls r).map fun out => note out (carrier.send out s).1,
          (g.handle carrier r s).2)) := by
  cases g.course r with
  | preflight hm hcalls =>
    rw [handle_options hm, handle_options hm, hcalls, List.map_nil, List.append_nil]
  | refused fault events hm hdraft hcalls =>
    rw [handle_of_error hm hdraft, handle_of_error hm hdraft, hcalls, List.map_nil, List.append_nil]
    rfl
  | sent backend out events hm hdraft hcalls =>
    rw [handle_of_ok hm hdraft, handle_of_ok hm hdraft, hcalls]
    rfl

/-- Recording the calls of a request changes neither its answer nor the state of the carrier, and
appends exactly its calls. -/
theorem handle_recording :
    g.handle carrier.recording r (sent, s) =
      ((g.handle carrier r s).1, (sent ++ g.calls r, (g.handle carrier r s).2)) := by
  rw [Carrier.recording_eq, handle_noting, List.map_id']

/-- Recording the calls does not change what the client receives. -/
theorem serve_recording_fst :
    (g.serve carrier.recording r (sent, s)).1 = (g.serve carrier r s).1 := by
  simp only [serve, handle_recording]

/-- Recording the calls does not change what happens to the carrier. -/
theorem serve_recording_state :
    (g.serve carrier.recording r (sent, s)).2.2 = (g.serve carrier r s).2 := by
  simp only [serve, handle_recording]

/-- Serving a request appends its calls to those made before. -/
theorem sent_serve_recording :
    (g.serve carrier.recording r (sent, s)).2.1 = sent ++ g.calls r := by
  simp only [serve, handle_recording]

/-! ## Runs -/

/-- A run appends the calls of its requests, in the order of the requests. -/
theorem sent_run_recording (rs : List Request) :
    (g.run carrier.recording rs (sent, s)).2.1 = sent ++ rs.flatMap g.calls := by
  induction rs generalizing sent s with
  | nil => simp [run]
  | cons r rest ih =>
    have hstep : (g.serve carrier.recording r (sent, s)).2 =
        (sent ++ g.calls r, (g.serve carrier r s).2) :=
      Prod.ext (sent_serve_recording g carrier r sent s) (serve_recording_state g carrier r sent s)
    simp only [run, hstep]
    rw [ih, List.flatMap_cons, List.append_assoc]

/-- A run makes at most one call for each of its requests. -/
theorem length_sent_run_recording_le (rs : List Request) :
    (g.run carrier.recording rs ([], s)).2.1.length ≤ rs.length := by
  rw [sent_run_recording, List.nil_append]
  induction rs with
  | nil => simp
  | cons r rest ih =>
    have h := length_calls_le g r
    rw [List.flatMap_cons, List.length_append, List.length_cons]
    omega

end Gateway

end EdgeGateway
