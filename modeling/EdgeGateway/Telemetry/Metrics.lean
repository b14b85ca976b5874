import EdgeGateway.Backend

/-!
# Metrics

Every request leaves one sample: how it ended, which backend it reached, and the status that the
client received.  Samples are counted by all of their labels, and the times that requests took are
collected by outcome and backend.  Both are shown in the order of their labels, and both can be told
from the updates that recording the samples comes to.

Main results:

- Theorem `Outcome.label_injective`: the labels of outcomes tell them apart.
- Theorem `backendLabel_injective`: so do the labels of backends.
-/

namespace EdgeGateway

namespace Telemetry

/-! ## Samples -/

/-- How a request ended. -/
inductive Outcome where
  | preflight
  | forwarded
  | notFound
  | notConfigured
  | unavailable
  deriving DecidableEq, Repr

/-- The label of an outcome. -/
def Outcome.label : Outcome → Text
  | .preflight => "preflight".toList
  | .forwarded => "forwarded".toList
  | .notFound => "not_found".toList
  | .notConfigured => "not_configured".toList
  | .unavailable => "unavailable".toList

theorem Outcome.label_injective {a b : Outcome} (h : a.label = b.label) : a = b := by
  revert h
  cases a <;> cases b <;> decide

/-- The label of a backend, or of having reached none. -/
def backendLabel : Option Backend → Text
  | some backend => backend.name
  | none => "none".toList

theorem backendLabel_injective {a b : Option Backend} (h : backendLabel a = backendLabel b) :
    a = b := by
  revert h
  rcases a with _ | _ | _ <;> rcases b with _ | _ | _ <;> decide

/-- What is counted together: requests that ended alike at the same backend. -/
structure Series where
  backend : Option Backend
  outcome : Outcome
  deriving DecidableEq, Repr

/-- What a request leaves behind. -/
structure Sample extends Series where
  status : Nat
  deriving DecidableEq, Repr

/-- The labels of a series, by name. -/
def Series.labels (s : Series) : List (Text × Text) :=
  [("backend".toList, backendLabel s.backend), ("outcome".toList, s.outcome.label)]

/-- The labels of a sample, by name. -/
def Sample.labels (s : Sample) : List (Text × Text) :=
  s.toSeries.labels ++ [("status".toList, Text.decimal s.status)]

/-! ## Recording -/

/-- The name of the counters. -/
def counterName : Text := "edge_router.requests".toList

/-- The name of the collected times. -/
def histogramName : Text := "edge_router.duration_seconds".toList

/-- What the metrics are told: a counter goes up by one, or one more time is collected.  Which time
that is, is known to whoever measures it. -/
inductive Update where
  | increment (name : Text) (labels : List (Text × Text))
  | observe (name : Text) (labels : List (Text × Text))
  deriving DecidableEq, Repr

/-- What the metrics are told of a sample. -/
def record (s : Sample) : List Update :=
  [.increment counterName s.labels, .observe histogramName s.toSeries.labels]

/-- The labels of the counter that goes up, if it is one of the requests. -/
def Update.incremented? : Update → Option (List (Text × Text))
  | .increment name labels => if name = counterName then some labels else none
  | .observe _ _ => none

/-- The labels under which a time is collected, if it is one that requests took. -/
def Update.observed? : Update → Option (List (Text × Text))
  | .increment _ _ => none
  | .observe name labels => if name = histogramName then some labels else none

/-- The labels of the counters that go up, once for every time. -/
def increments (updates : List Update) : List (List (Text × Text)) :=
  updates.filterMap Update.incremented?

/-- The labels under which times are collected, once for every time. -/
def observations (updates : List Update) : List (List (Text × Text)) :=
  updates.filterMap Update.observed?

/-! ## Durations -/

/-- A time span in seconds and billionths of a second. -/
structure Duration where
  seconds : UInt64
  nanos : UInt32
  deriving DecidableEq, Repr

/-- A billion. -/
def nanosPerSecond : UInt32 := 1000000000

/-- The time span of some seconds and billionths, which may be more than a second. -/
def Duration.make (seconds : UInt64) (nanos : UInt32) : Duration :=
  ⟨seconds + (nanos / nanosPerSecond).toUInt64, nanos % nanosPerSecond⟩

/-- A time span as a number of seconds. -/
def Duration.toFloat (d : Duration) : Float :=
  d.seconds.toFloat + d.nanos.toUInt64.toFloat / nanosPerSecond.toUInt64.toFloat

/-! ## Grouping -/

/-- The order of texts, by the first character that differs. -/
def textBefore (s t : Text) : Bool :=
  List.lex s t fun c d => decide (c.toNat < d.toNat)

/-- The order of labels, by the value of the first one that differs. -/
def precedes (a b : List (Text × Text)) : Bool :=
  !List.lex (b.map Prod.snd) (a.map Prod.snd) textBefore

/-- The labels that occur, in their order, and how often each of them does. -/
def tally (labels : List (List (Text × Text))) : List (List (Text × Text) × Nat) :=
  (labels.eraseDups.mergeSort precedes).map fun l => (l, labels.count l)

/-- The samples that occur, in the order of their labels, and how often each one does. -/
def counters (samples : List Sample) : List (Sample × Nat) :=
  (samples.eraseDups.mergeSort fun a b => precedes a.labels b.labels).map fun s =>
    (s, samples.count s)

/-- The series that occur, in the order of their labels, and the values that were collected. -/
def histograms {α : Type} (samples : List (Sample × α)) : List (Series × List α) :=
  let series := (samples.map (·.1.toSeries)).eraseDups
  (series.mergeSort fun a b => precedes a.labels b.labels).map fun s =>
    (s, (samples.filter (·.1.toSeries = s)).map Prod.snd)

end Telemetry

end EdgeGateway
