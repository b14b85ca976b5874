import EdgeGateway.Proofs.Gateway.Decision
import EdgeGateway.Proofs.Telemetry.Metrics

/-!
# Accounts of a run

What a run leaves in the metrics, in the log and at the carrier belongs together.  Every request is
counted once and timed once, under the backend that it was sent to and the status that its client
received, and every fault is reported once, at the level of its kind.

The carrier is made to keep what it was handed and what it answered, which changes nothing else; its
own events are counted apart from those of the gateway.

Main results:

- Theorem `run_transcribing`: keeping the answers of a carrier changes no run.
- Theorem `booked_handle`: whichever way a request takes, two updates record its sample.
- Theorem `balanced_serve`: the accounts of one request.
- Theorem `Balanced.append`: the accounts of two runs, one behind the other.
- Theorem `run_balanced`: the accounts of every run, and what one more request adds to them.
-/

namespace EdgeGateway

open Http Telemetry

/-! ## Samples of an outcome -/

namespace Telemetry

/-- A sample has the status and the backend that go with its outcome. -/
def Sample.Fits (s : Sample) : Prop :=
  match s.outcome with
  | .preflight => s.status = 200 ∧ s.backend = none
  | .forwarded => s.backend ≠ none
  | .notFound => s.status = 404
  | .notConfigured => s.status = 500
  | .unavailable => s.status = 502

/-- The level at which an outcome is reported, if it is one that is reported. -/
def Outcome.level? : Outcome → Option Level
  | .preflight => none
  | .forwarded => none
  | .notFound => some .info
  | .notConfigured => some .warn
  | .unavailable => some .error

end Telemetry

/-- How many events have a level. -/
def countAt (level : Level) (events : List Event) : Nat :=
  events.countP fun e => e.level = level

/-- Events are counted one list after the other. -/
theorem countAt_append (level : Level) (events more : List Event) :
    countAt level (events ++ more) = countAt level events + countAt level more :=
  List.countP_append

/-! ## What a carrier was handed and answered -/

/-- A carrier that also keeps every request it was handed with its answer, oldest first. -/
def Carrier.transcribing {σ : Type} (carrier : Carrier σ) :
    Carrier (List (Outbound × Answer) × σ) :=
  carrier.noting Prod.mk

namespace Gateway

/-- The requests that a gateway sends for a request, with the backends they are for. -/
def dispatches (g : Gateway) (r : Request) : List (Backend × Outbound) :=
  if r.method = .options then [] else (g.draft r).1.toOption.toList

variable {σ : Type} {g : Gateway} {carrier : Carrier σ} {r : Request} {s : σ}

/-- Calls are dispatches whose backend does not matter. -/
theorem calls_eq_map_dispatches (g : Gateway) (r : Request) :
    g.calls r = (g.dispatches r).map Prod.snd := by
  unfold calls dispatches
  split
  · rfl
  · cases (g.draft r).1 <;> rfl

/-- What is sent to a backend is sent to an address that begins with its origin. -/
theorem exists_origin_of_dispatch {d : Backend × Outbound} (h : d ∈ g.dispatches r) :
    ∃ origin, g.origins.get? d.1 = some origin ∧ origin <+: d.2.url := by
  unfold dispatches at h
  split at h
  · cases h
  · rcases hd : (g.draft r).1 with fault | ⟨backend, out⟩
    · simp [hd, Except.toOption] at h
    · obtain rfl : d = (backend, out) := by simpa [hd, Except.toOption] using h
      rcases draft_eq_ok hd with ⟨destination, origin, body, -, -, horigin, -, rfl⟩
      refine ⟨origin, horigin, ?_⟩
      rw [outboundFor, urlAt, List.append_assoc]
      exact List.prefix_append _ _

/-- The requests that are sent for a request, with the answers of a carrier in a state. -/
def dealings (g : Gateway) (carrier : Carrier σ) (r : Request) (s : σ) : List (Outbound × Answer) :=
  (g.calls r).map fun out => (out, (carrier.send out s).1)

/-- What a carrier was handed and answered in a run. -/
def transcript (g : Gateway) (carrier : Carrier σ) : List Request → σ → List (Outbound × Answer)
  | [], _ => []
  | r :: rest, s => g.dealings carrier r s ++ g.transcript carrier rest (g.serve carrier r s).2

/-- Keeping the answers of a carrier changes no run, and adds what the carrier was handed and
answered. -/
theorem run_transcribing (g : Gateway) (carrier : Carrier σ) (rs : List Request)
    (log : List (Outbound × Answer)) (s : σ) :
    g.run carrier.transcribing rs (log, s) =
      ((g.run carrier rs s).1, (log ++ g.transcript carrier rs s, (g.run carrier rs s).2)) := by
  induction rs generalizing log s with
  | nil => simp [run, transcript]
  | cons r rest ih =>
    have hstep : g.handle carrier.transcribing r (log, s) =
        ((g.handle carrier r s).1, (log ++ g.dealings carrier r s, (g.handle carrier r s).2)) :=
      handle_noting g carrier r s Prod.mk log
    simp only [run, serve, transcript, hstep, ih, List.append_assoc]

/-- Runs are served one after the other. -/
theorem run_append (g : Gateway) (carrier : Carrier σ) (rs more : List Request) (s : σ) :
    g.run carrier (rs ++ more) s =
      ((g.run carrier rs s).1 ++ (g.run carrier more (g.run carrier rs s).2).1,
        (g.run carrier more (g.run carrier rs s).2).2) := by
  induction rs generalizing s with
  | nil => simp [run]
  | cons r rest ih => simp [run, ih]

/-! ## Accounts -/

/-- The samples of handled requests. -/
def samples (handled : List Handled) : List Sample :=
  handled.map (·.sample)

/-- The samples of handled requests with the times they took. -/
def timed {α : Type} (time : Nat → α) (handled : List Handled) : List (Sample × α) :=
  (samples handled).zipIdx.map fun entry => (entry.1, time entry.2)

/-- The accounts of requests that were handled, with what the carrier was handed and answered. -/
structure Balanced (g : Gateway) (rs : List Request) (handled : List Handled)
    (log : List (Outbound × Answer)) : Prop where
  /-- Every request is counted. -/
  counted : total (samples handled) (fun _ => true) = rs.length
  /-- The carrier was handed what was to be sent. -/
  sent : log.map Prod.fst = (rs.flatMap g.dispatches).map Prod.snd
  /-- The counters of a backend show how much was sent to it. -/
  reached (backend : Backend) : total (samples handled) (fun s => s.backend = some backend) =
    (rs.flatMap g.dispatches).countP fun d => d.1 = backend
  /-- The counters without a backend show how many requests made no call. -/
  unreached : total (samples handled) (fun s => s.backend = none) =
    rs.countP fun r => g.calls r = []
  /-- The status that is counted is the one that the client receives. -/
  status : ∀ h ∈ handled, h.sample.status = h.response.status.code
  /-- The metrics are told of every request to raise one counter and to collect one time. -/
  recorded : ∀ h ∈ handled, Recorded h.sample h.updates
  /-- Every counter has the status and the backend that go with its outcome. -/
  fits : ∀ s ∈ samples handled, s.Fits
  /-- Above the events for debugging, the log has the events of the carrier, and one event for every
  fault, at the level of its kind. -/
  reported (level : Level) (h : level ≠ .debug) : countAt level (handled.flatMap (·.events)) =
    total (samples handled) (fun s => s.outcome.level? = some level) +
      countAt level (log.flatMap (·.2.events))

/-- The accounts before the first request. -/
theorem Balanced.nil (g : Gateway) : Balanced g [] [] [] where
  counted := total_eq _ _
  sent := rfl
  reached _ := total_eq _ _
  unreached := total_eq _ _
  status _ h := nomatch h
  recorded _ h := nomatch h
  fits _ h := nomatch h
  reported _ _ := by
    rw [samples, List.map_nil, total_eq]
    rfl

/-- The accounts of two runs add up. -/
theorem Balanced.append {rs more : List Request} {handled handled' : List Handled}
    {log log' : List (Outbound × Answer)} (h : Balanced g rs handled log)
    (h' : Balanced g more handled' log') :
    Balanced g (rs ++ more) (handled ++ handled') (log ++ log') where
  counted := by
    rw [samples, List.map_append, total_append, List.length_append]
    exact congrArg₂ (· + ·) h.counted h'.counted
  sent := by rw [List.map_append, List.flatMap_append, List.map_append, h.sent, h'.sent]
  reached backend := by
    rw [samples, List.map_append, total_append, List.flatMap_append, List.countP_append]
    exact congrArg₂ (· + ·) (h.reached backend) (h'.reached backend)
  unreached := by
    rw [samples, List.map_append, total_append, List.countP_append]
    exact congrArg₂ (· + ·) h.unreached h'.unreached
  status := List.forall_mem_append.2 ⟨h.status, h'.status⟩
  recorded := List.forall_mem_append.2 ⟨h.recorded, h'.recorded⟩
  fits := by
    rw [samples, List.map_append]
    exact List.forall_mem_append.2 ⟨h.fits, h'.fits⟩
  reported level hlevel := by
    have hfirst := h.reported level hlevel
    have hmore := h'.reported level hlevel
    simp only [samples, List.map_append, List.flatMap_append, countAt_append, total_append] at *
    omega

/-! ## One request -/

/-- Drafting is reported for debugging only. -/
theorem countAt_draft {level : Level} (h : level ≠ .debug) : countAt level (g.draft r).2 = 0 := by
  have hdebug : ∀ e ∈ (g.draft r).2, e.level = .debug := by
    intro e he
    unfold draft at he
    split at he
    · cases he
    · rcases List.mem_cons.1 he with rfl | he
      · rfl
      · obtain ⟨field, -, rfl⟩ := List.mem_map.1 he
        rfl
  rw [countAt, List.countP_eq_zero]
  intro e he
  simpa [hdebug e he] using h.symm

/-- A fault is reported once, at the level of its kind. -/
theorem countAt_fail (name : Text) (backend : Option Backend) (fault : Fault)
    (before : List Event) (level : Level) :
    countAt level (fail name r backend fault before).events =
      countAt level before + if fault.outcome.level? = some level then 1 else 0 := by
  rw [fail, countAt_append]
  cases fault <;> cases level <;> rfl

/-- The sample of a fault fits, whether or not the request was sent. -/
theorem fits_fail (name : Text) (backend : Option Backend) (fault : Fault) (before : List Event) :
    (fail name r backend fault before).sample.Fits := by
  cases fault <;> rfl

/-- What a request comes to before it leaves the gateway: a sample under the backend that it was
sent to, the updates that record it, and the events of the carrier with those of the gateway. -/
structure Booked (g : Gateway) (r : Request) (handled : Handled)
    (log : List (Outbound × Answer)) : Prop where
  backend : handled.sample.backend = (g.dispatches r).head?.map Prod.fst
  status : handled.sample.status = handled.response.status.code
  recorded : Recorded handled.sample handled.updates
  fits : handled.sample.Fits
  reported (level : Level) (h : level ≠ .debug) : countAt level handled.events =
    (if handled.sample.outcome.level? = some level then 1 else 0) +
      countAt level (log.flatMap (·.2.events))

/-- Every request is booked. -/
theorem booked_handle (g : Gateway) (carrier : Carrier σ) (r : Request) (s : σ) :
    Booked g r (g.handle carrier r s).1 (g.dealings carrier r s) := by
  cases g.course r with
  | preflight hm hcalls =>
    rw [handle_options hm, dealings, hcalls]
    refine ⟨by simp [dispatches, hm, answerPreflight], rfl, recorded_record _, ⟨rfl, rfl⟩, ?_⟩
    exact fun _ _ => rfl
  | refused fault events hm hdraft hcalls =>
    have hnone : g.dispatches r = [] := by simp [dispatches, hm, hdraft, Except.toOption]
    rw [handle_of_error hm hdraft, dealings, hcalls]
    refine ⟨by rw [hnone]; rfl, rfl, recorded_record _, fits_fail _ _ _ _, fun level hlevel => ?_⟩
    have hdrafted : countAt level events = 0 := by
      simpa [hdraft] using countAt_draft (g := g) (r := r) hlevel
    rw [countAt_fail, hdrafted]
    exact Nat.zero_add _
  | sent backend out events hm hdraft hcalls =>
    have hone : g.dispatches r = [(backend, out)] := by
      simp [dispatches, hm, hdraft, Except.toOption]
    rw [handle_of_ok hm hdraft, dealings, hcalls]
    have hdrafted (level : Level) (hlevel : level ≠ .debug) : countAt level events = 0 := by
      simpa [hdraft] using countAt_draft (g := g) (r := r) hlevel
    cases hanswer : (carrier.send out s).1 with
    | mk result own =>
      cases result with
      | ok response =>
        refine ⟨by rw [hone]; rfl, rfl, recorded_record _, ?_, ?_⟩
        · simp [conclude, forward, Sample.Fits]
        intro level hlevel
        simp [conclude, forward, countAt_append, hdrafted level hlevel, hanswer, Outcome.level?]
      | error fault =>
        refine ⟨by rw [hone]; rfl, rfl, recorded_record _, fits_fail _ _ _ _, ?_⟩
        intro level hlevel
        simp only [conclude]
        rw [countAt_fail, countAt_append, hdrafted level hlevel]
        simp [hanswer, fail, Nat.add_comm]

/-- The accounts of one request. -/
theorem balanced_serve (g : Gateway) (carrier : Carrier σ) (r : Request) (s : σ) :
    Balanced g [r] [(g.serve carrier r s).1] (g.dealings carrier r s) := by
  have h := booked_handle g carrier r s
  have hsample : (g.serve carrier r s).1.sample = (g.handle carrier r s).1.sample := rfl
  have hevents : (g.serve carrier r s).1.events = (g.handle carrier r s).1.events := rfl
  have hone (p : Sample → Bool) : total (samples [(g.serve carrier r s).1]) p =
      if p (g.handle carrier r s).1.sample then 1 else 0 := by
    rw [total_eq, samples, List.map_singleton, List.countP_singleton, hsample]
  have hcalls : (g.dispatches r).length ≤ 1 := by
    have := length_calls_le g r
    rwa [calls_eq_map_dispatches, List.length_map] at this
  constructor
  case counted => rw [hone]; rfl
  case sent =>
    rw [List.flatMap_singleton, ← calls_eq_map_dispatches, dealings, List.map_map]
    exact List.map_id _
  case reached =>
    intro backend
    rw [hone, h.backend, List.flatMap_singleton]
    rcases hd : g.dispatches r with _ | ⟨d, rest⟩
    · rfl
    · rw [hd] at hcalls
      obtain rfl : rest = [] := List.eq_nil_of_length_eq_zero (by simpa using hcalls)
      rw [List.countP_singleton]
      simp
  case unreached =>
    rw [hone, h.backend, List.countP_singleton, calls_eq_map_dispatches]
    cases g.dispatches r <;> simp
  case status =>
    intro handled hmem
    obtain rfl := List.mem_singleton.1 hmem
    rw [hsample, h.status, response_serve, status_delivered]
  case recorded =>
    intro handled hmem
    obtain rfl := List.mem_singleton.1 hmem
    exact h.recorded
  case fits =>
    intro sample hmem
    obtain rfl := List.mem_singleton.1 hmem
    exact h.fits
  case reported =>
    intro level hlevel
    rw [hone, List.flatMap_singleton, hevents, h.reported level hlevel]
    simp

/-! ## Runs -/

/-- The accounts of every run are balanced. -/
theorem balanced_run (g : Gateway) (carrier : Carrier σ) (rs : List Request) (s : σ) :
    Balanced g rs (g.run carrier rs s).1 (g.transcript carrier rs s) := by
  induction rs generalizing s with
  | nil => exact Balanced.nil g
  | cons r rest ih => exact (balanced_serve g carrier r s).append (ih (g.serve carrier r s).2)

/-- One more request is timed behind the others. -/
theorem timed_concat {α : Type} (time : Nat → α) (handled : List Handled) (h : Handled) :
    timed time (handled ++ [h]) = timed time handled ++ [(h.sample, time handled.length)] := by
  simp [timed, samples, List.zipIdx_append]

/-- The samples that are timed are those that are counted. -/
theorem fst_timed {α : Type} (time : Nat → α) (handled : List Handled) :
    (timed time handled).map Prod.fst = samples handled := by
  rw [timed, List.map_map]
  exact List.zipIdx_map_fst 0 _

/-- The counters that are raised and the times that are collected for requests that were recorded
have the labels of their samples. -/
theorem labels_of_recorded {handled : List Handled}
    (hall : ∀ h ∈ handled, Recorded h.sample h.updates) :
    increments (handled.flatMap (·.updates)) = (samples handled).map Sample.labels ∧
      observations (handled.flatMap (·.updates)) =
        (samples handled).map fun s => s.toSeries.labels := by
  induction handled with
  | nil => exact ⟨rfl, rfl⟩
  | cons first rest ih =>
    have hfirst : Recorded first.sample first.updates := hall first List.mem_cons_self
    obtain ⟨hraised, htimed⟩ := ih fun h hmem => hall h (List.mem_cons_of_mem _ hmem)
    rw [List.flatMap_cons, increments_append, observations_append, hfirst.raised, hfirst.timed,
      hraised, htimed]
    exact ⟨rfl, rfl⟩

/-- The accounts of every run are balanced, whatever the carrier answers and however long the
requests take: counters, calls, answers and events tally, no two counters and no two series have the
same labels, and every series has as many times as its counters show together.  Counters and series
are what the metrics were told of the requests, one after the other.  One more request raises the
one counter with its labels by one, and adds its time to the one series with its outcome and its
backend. -/
theorem run_balanced {σ α : Type} (g : Gateway) (carrier : Carrier σ) (time : Nat → α)
    (rs : List Request) (s : σ) :
    let handled := (g.run carrier rs s).1
    let log := (g.run carrier.transcribing rs ([], s)).2.1
    Balanced g rs handled log ∧
      (∀ d ∈ rs.flatMap g.dispatches,
        ∃ origin, g.origins.get? d.1 = some origin ∧ origin <+: d.2.url) ∧
      ((counters (samples handled)).map fun entry => entry.1.labels).Nodup ∧
      ((histograms (timed time handled)).map fun entry => entry.1.labels).Nodup ∧
      (∀ series : Series, (collected (timed time handled) series.labels).length =
        total (samples handled) fun s => s.toSeries = series) ∧
      tally (increments (handled.flatMap (·.updates))) =
        (counters (samples handled)).map (fun entry => (entry.1.labels, entry.2)) ∧
      tally (observations (handled.flatMap (·.updates))) =
        (histograms (timed time handled)).map (fun entry => (entry.1.labels, entry.2.length)) ∧
      ∀ r, let h := (g.serve carrier r (g.run carrier rs s).2).1
        (g.run carrier (rs ++ [r]) s).1 = handled ++ [h] ∧
          (∀ labels, reading (samples (handled ++ [h])) labels =
            reading (samples handled) labels + if h.sample.labels = labels then 1 else 0) ∧
          ∀ labels, collected (timed time (handled ++ [h])) labels =
            collected (timed time handled) labels ++
              if h.sample.toSeries.labels = labels then [time rs.length] else [] := by
  intro handled log
  have hlog : log = g.transcript carrier rs s := by
    show (g.run carrier.transcribing rs ([], s)).2.1 = _
    rw [run_transcribing, List.nil_append]
  have hbalanced : Balanced g rs handled log := by
    rw [hlog]
    exact balanced_run g carrier rs s
  have hlabels := labels_of_recorded hbalanced.recorded
  refine ⟨hbalanced, ?_, nodup_counters _, nodup_histograms _, fun series => ?_, ?_, ?_,
    fun r => ⟨?_, fun labels => ?_, fun labels => ?_⟩⟩
  · intro d hd
    obtain ⟨r, -, hr⟩ := List.mem_flatMap.1 hd
    exact exists_origin_of_dispatch hr
  · rw [length_collected, fst_timed]
  · rw [hlabels.1, tally_increments]
  · rw [hlabels.2, ← tally_observations, fst_timed]
  · rw [run_append]
    rfl
  · rw [samples, List.map_append]
    exact reading_concat _ _ labels
  · have hlength : handled.length = rs.length := length_run g carrier rs s
    rw [timed_concat, collected_concat, hlength]

/-- A carrier that denies that there is a route. -/
def denying : Carrier Nat where
  name := "denying".toList
  send _ n := (⟨.error .noRoute, []⟩, n + 1)

/-- A question of a browser, an upload that breaks off, a path without a route, and a request that
is sent. -/
def mixed : List Request :=
  [{ brokenUpload with method := .options }, brokenUpload,
    { brokenUpload with target := ⟨"/admin".toList, none⟩ }, { brokenUpload with method := .get }]

/-- One of these requests reaches a backend, two end without a route, and one is reported as an
error. -/
theorem run_balanced_mixed :
    let handled := (configured.run denying mixed 0).1
    total (samples handled) (fun _ => true) = 4 ∧
      total (samples handled) (fun s => s.backend = some .billing) = 1 ∧
      total (samples handled) (fun s => s.backend = none) = 3 ∧
      countAt .error (handled.flatMap (·.events)) = 1 ∧
      countAt .info (handled.flatMap (·.events)) = 2 := by
  intro handled
  have h := (run_balanced configured denying id mixed 0).1
  refine ⟨h.counted, (h.reached .billing).trans (by decide +kernel),
    h.unreached.trans (by decide +kernel), ?_, ?_⟩
  · rw [h.reported .error (by decide), total_eq]
    decide +kernel
  · rw [h.reported .info (by decide), total_eq]
    decide +kernel

end Gateway

end EdgeGateway
