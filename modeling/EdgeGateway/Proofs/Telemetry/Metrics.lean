import EdgeGateway.Telemetry.Metrics
import Mathlib.Algebra.BigOperators.Group.List.Lemmas
import Mathlib.Algebra.GroupWithZero.Nat
import Mathlib.Data.List.Count

/-!
# What metrics show

Counters and collected times are looked up by their labels, which tell them apart.  A look-up shows
how many samples have the labels, and which times they took; so another sample raises one counter
by one, adds one time to one series, and leaves everything else as it was.

Main results:

- Theorem `Sample.labels_injective`, `Series.labels_injective`: labels tell samples and series
  apart.
- Theorem `nodup_counters`, `nodup_histograms`: nothing is shown twice.
- Theorem `total_eq`: some of the counters add up to the number of the samples they count.
- Theorem `reading_concat`, `collected_concat`: what one more sample changes.
- Theorem `length_collected`: a series has as many times as its counters show together.
- Theorem `tally_increments`, `tally_observations`: the counters and the series are what the updates
  come to that recording the samples makes.
-/

namespace EdgeGateway

namespace Telemetry

/-! ## Labels -/

/-- The labels of series tell them apart. -/
theorem Series.labels_injective : Function.Injective Series.labels := by
  rintro ⟨backend, outcome⟩ ⟨backend', outcome'⟩ h
  simp only [Series.labels, List.cons.injEq, Prod.mk.injEq, true_and, and_true] at h
  rw [backendLabel_injective h.1, Outcome.label_injective h.2]

/-- A number can be read of its decimal digits. -/
theorem decimal_injective : Function.Injective Text.decimal := by
  intro m n h
  have hread := congrArg (Nat.ofDigitChars 10 · 0) h
  simpa only [Text.decimal, Nat.ofDigitChars_ten_toDigits] using hread

/-- The labels of samples tell them apart. -/
theorem Sample.labels_injective : Function.Injective Sample.labels := by
  rintro ⟨series, status⟩ ⟨series', status'⟩ h
  obtain ⟨hseries, hstatus⟩ := List.append_inj' h rfl
  simp only [List.cons.injEq, Prod.mk.injEq, true_and, and_true] at hstatus
  have hsame : series = series' := Series.labels_injective hseries
  rw [hsame, decimal_injective hstatus]

/-! ## Groups -/

section Groups

variable {κ β : Type} [DecidableEq κ]

/-- No element is left twice when duplicates are erased. -/
theorem nodup_eraseDups (xs : List κ) : xs.eraseDups.Nodup := by
  cases xs with
  | nil => simp
  | cons x rest =>
    rw [List.eraseDups_cons, List.nodup_cons]
    exact ⟨by simp [List.mem_eraseDups], nodup_eraseDups (rest.filter fun y => !y == x)⟩
termination_by xs.length
decreasing_by exact Nat.lt_succ_of_le (List.length_filter_le _ _)

/-- The keys of groups are the elements that occur, each of them once. -/
theorem keys_perm (xs : List κ) (before : κ → κ → Bool) :
    (xs.eraseDups.mergeSort before).Perm xs.dedup := by
  refine (List.mergeSort_perm _ _).trans ?_
  refine (List.perm_ext_iff_of_nodup (nodup_eraseDups xs) (List.nodup_dedup xs)).2 fun x => ?_
  rw [List.mem_eraseDups, List.mem_dedup]

/-- Every element that occurs is the key of a group. -/
theorem mem_keys {xs : List κ} {before : κ → κ → Bool} {k : κ} :
    k ∈ xs.eraseDups.mergeSort before ↔ k ∈ xs := by
  rw [(keys_perm xs before).mem_iff, List.mem_dedup]

variable {labels : κ → List (Text × Text)} {xs : List κ} {before : κ → κ → Bool}

/-- No two groups have the same labels. -/
theorem nodup_groups (hinj : Function.Injective labels) (f : κ → β) :
    (((xs.eraseDups.mergeSort before).map fun k => (k, f k)).map fun entry =>
      labels entry.1).Nodup := by
  rw [List.map_map]
  exact ((keys_perm xs before).nodup_iff.2 (List.nodup_dedup xs)).map hinj

/-- The group of an element is found by its labels. -/
theorem find?_of_mem (hinj : Function.Injective labels) (f : κ → β) {k : κ} (hk : k ∈ xs) :
    ((xs.eraseDups.mergeSort before).map fun k => (k, f k)).find?
      (fun entry => labels entry.1 = labels k) = some (k, f k) := by
  have hsome : ((xs.eraseDups.mergeSort before).find? fun k' => labels k' = labels k).isSome := by
    rw [List.find?_isSome]
    exact ⟨k, mem_keys.2 hk, decide_eq_true rfl⟩
  obtain ⟨k', hk'⟩ := Option.isSome_iff_exists.1 hsome
  have heq : labels k' = labels k := by simpa using List.find?_some hk'
  rw [List.find?_map]
  show ((xs.eraseDups.mergeSort before).find? fun k' => labels k' = labels k).map _ = _
  rw [hk', hinj heq, Option.map_some]

/-- No group is found by labels that no element has. -/
theorem find?_of_not_mem (f : κ → β) {l : List (Text × Text)} (hl : ∀ k ∈ xs, labels k ≠ l) :
    ((xs.eraseDups.mergeSort before).map fun k => (k, f k)).find?
      (fun entry => labels entry.1 = l) = none := by
  rw [List.find?_eq_none]
  intro entry hentry
  obtain ⟨k, hk, rfl⟩ := List.mem_map.1 hentry
  simpa using hl k (mem_keys.1 hk)

end Groups

/-! ## Counters -/

/-- What the counter with some labels shows; a counter that does not occur shows nothing. -/
def reading (samples : List Sample) (labels : List (Text × Text)) : Nat :=
  (((counters samples).find? fun entry => entry.1.labels = labels).map Prod.snd).getD 0

/-- What some of the counters show together. -/
def total (samples : List Sample) (p : Sample → Bool) : Nat :=
  (((counters samples).filter fun entry => p entry.1).map Prod.snd).sum

/-- No two counters have the same labels. -/
theorem nodup_counters (samples : List Sample) :
    ((counters samples).map fun entry => entry.1.labels).Nodup :=
  nodup_groups Sample.labels_injective samples.count

/-- A counter shows how many samples have its labels. -/
theorem reading_eq (samples : List Sample) (labels : List (Text × Text)) :
    reading samples labels = samples.countP fun s => s.labels = labels := by
  by_cases hlabels : ∃ s ∈ samples, s.labels = labels
  · obtain ⟨s, hs, rfl⟩ := hlabels
    rw [reading, counters, find?_of_mem Sample.labels_injective samples.count hs, Option.map_some,
      Option.getD_some, List.count]
    refine List.countP_congr fun s' _ => ?_
    rw [beq_iff_eq, decide_eq_true_iff, Sample.labels_injective.eq_iff]
  · have hnone : ∀ s ∈ samples, s.labels ≠ labels := fun s hs heq => hlabels ⟨s, hs, heq⟩
    rw [reading, counters, find?_of_not_mem samples.count hnone, Option.map_none, Option.getD_none,
      eq_comm, List.countP_eq_zero]
    simpa using hnone

/-- Some of the counters add up to the number of the samples they count. -/
theorem total_eq (samples : List Sample) (p : Sample → Bool) :
    total samples p = samples.countP p := by
  rw [← List.sum_map_count_dedup_filter_eq_countP, total, counters, List.filter_map, List.map_map]
  exact (((keys_perm samples _).filter p).map samples.count).sum_nat

/-- More samples add what they count. -/
theorem total_append (samples more : List Sample) (p : Sample → Bool) :
    total (samples ++ more) p = total samples p + total more p := by
  rw [total_eq, total_eq, total_eq, List.countP_append]

/-- One more sample raises the counter with its labels by one, and no other. -/
theorem reading_concat (samples : List Sample) (s : Sample) (labels : List (Text × Text)) :
    reading (samples ++ [s]) labels =
      reading samples labels + if s.labels = labels then 1 else 0 := by
  rw [reading_eq, reading_eq, List.countP_append, List.countP_singleton]
  simp only [decide_eq_true_eq]

/-! ## Collected times -/

variable {α : Type}

/-- The times that were collected under some labels. -/
def collected (timed : List (Sample × α)) (labels : List (Text × Text)) : List α :=
  (((histograms timed).find? fun entry => entry.1.labels = labels).map Prod.snd).getD []

/-- No two series have the same labels. -/
theorem nodup_histograms (timed : List (Sample × α)) :
    ((histograms timed).map fun entry => entry.1.labels).Nodup :=
  nodup_groups Series.labels_injective _

/-- The times under some labels are those of the samples of a series with these labels. -/
theorem collected_eq (timed : List (Sample × α)) (labels : List (Text × Text)) :
    collected timed labels =
      (timed.filter fun entry => entry.1.toSeries.labels = labels).map Prod.snd := by
  by_cases hlabels : ∃ series ∈ timed.map (·.1.toSeries), series.labels = labels
  · obtain ⟨series, hseries, rfl⟩ := hlabels
    rw [collected, histograms, find?_of_mem Series.labels_injective _ hseries, Option.map_some,
      Option.getD_some]
    refine congrArg (List.map Prod.snd) (List.filter_congr fun entry _ => ?_)
    rw [decide_eq_decide, Series.labels_injective.eq_iff]
  · have hnone : ∀ series ∈ timed.map (·.1.toSeries), series.labels ≠ labels :=
      fun series hseries heq => hlabels ⟨series, hseries, heq⟩
    rw [collected, histograms, find?_of_not_mem _ hnone, Option.map_none, Option.getD_none,
      eq_comm, List.map_eq_nil_iff, List.filter_eq_nil_iff]
    intro entry hentry
    simpa using hnone _ (List.mem_map_of_mem hentry)

/-- One more sample adds its time to its series, and to no other. -/
theorem collected_concat (timed : List (Sample × α)) (s : Sample) (time : α)
    (labels : List (Text × Text)) :
    collected (timed ++ [(s, time)]) labels =
      collected timed labels ++ if s.toSeries.labels = labels then [time] else [] := by
  rw [collected_eq, collected_eq, List.filter_append, List.map_append, List.filter_singleton]
  split <;> simp_all

/-- A series has as many times as its counters show together. -/
theorem length_collected (timed : List (Sample × α)) (series : Series) :
    (collected timed series.labels).length =
      total (timed.map Prod.fst) fun s => s.toSeries = series := by
  rw [collected_eq, List.length_map, total_eq, List.countP_map, List.countP_eq_length_filter]
  refine congrArg List.length (List.filter_congr fun entry _ => ?_)
  exact decide_eq_decide.2 Series.labels_injective.eq_iff

/-! ## Updates -/

/-- Recording a sample raises one counter, the one with its labels, and collects one time, in the
series with its outcome and its backend. -/
structure Recorded (s : Sample) (updates : List Update) : Prop where
  length : updates.length = 2
  raised : increments updates = [s.labels]
  timed : observations updates = [s.toSeries.labels]

/-- That is what recording comes to. -/
theorem recorded_record (s : Sample) : Recorded s (record s) where
  length := rfl
  raised := by simp only [increments, record, Update.incremented?, List.filterMap, if_true]
  timed := by simp only [observations, record, Update.observed?, List.filterMap, if_true]

/-- The counters that are raised are those of one list of updates after the other. -/
theorem increments_append (updates more : List Update) :
    increments (updates ++ more) = increments updates ++ increments more :=
  List.filterMap_append

/-- So are the times that are collected. -/
theorem observations_append (updates more : List Update) :
    observations (updates ++ more) = observations updates ++ observations more :=
  List.filterMap_append

section Tallies

variable {κ κ' : Type} [DecidableEq κ] [BEq κ'] [LawfulBEq κ']

/-- Names that tell elements apart let duplicates be erased before or after naming. -/
theorem eraseDups_map {name : κ → κ'} (hinj : Function.Injective name) (xs : List κ) :
    (xs.map name).eraseDups = xs.eraseDups.map name := by
  cases xs with
  | nil => rfl
  | cons x rest =>
    have hrest : ((rest.map name).filter fun y => !y == name x) =
        (rest.filter fun y => !y == x).map name := by
      rw [List.filter_map]
      refine congrArg (List.map name) (List.filter_congr fun y _ => ?_)
      exact congrArg not (hinj.beq_eq)
    rw [List.map_cons, List.eraseDups_cons, List.eraseDups_cons, List.map_cons, hrest,
      eraseDups_map hinj (rest.filter fun y => !y == x)]
termination_by xs.length
decreasing_by exact Nat.lt_succ_of_le (List.length_filter_le _ _)

/-- Labels that tell elements apart are tallied as the elements are. -/
theorem tally_map {labels : κ → List (Text × Text)} (hinj : Function.Injective labels)
    (xs : List κ) :
    tally (xs.map labels) =
      (xs.eraseDups.mergeSort fun a b => precedes (labels a) (labels b)).map fun k =>
        (labels k, xs.count k) := by
  have hkeys : (xs.map labels).eraseDups.mergeSort precedes =
      (xs.eraseDups.mergeSort fun a b => precedes (labels a) (labels b)).map labels := by
    rw [eraseDups_map hinj]
    exact Eq.symm (List.map_mergeSort fun _ _ _ _ => rfl)
  rw [tally, hkeys, List.map_map]
  refine List.map_congr_left fun k _ => ?_
  rw [Function.comp_apply, List.count_map_of_injective xs labels hinj]

end Tallies

/-- The counters are what the raised ones come to. -/
theorem tally_increments (samples : List Sample) :
    tally (samples.map Sample.labels) = (counters samples).map fun e => (e.1.labels, e.2) := by
  rw [tally_map Sample.labels_injective, counters, List.map_map]
  rfl

/-- The series have as many times as were collected for them. -/
theorem tally_observations (timed : List (Sample × α)) :
    tally ((timed.map Prod.fst).map fun s => s.toSeries.labels) =
      (histograms timed).map fun e => (e.1.labels, e.2.length) := by
  have hseries : ((timed.map Prod.fst).map fun s => s.toSeries.labels) =
      (timed.map (·.1.toSeries)).map Series.labels := by
    rw [List.map_map, List.map_map]
    rfl
  rw [hseries, tally_map Series.labels_injective, histograms, List.map_map]
  refine List.map_congr_left fun series _ => ?_
  rw [Function.comp_apply, List.length_map, ← List.countP_eq_length_filter, List.count,
    List.countP_map]
  rfl

end Telemetry

end EdgeGateway
