import EdgeGateway.Url.Parse

/-!
# Climbing out of a path

Two dots go up one level, and nothing stops them where one part of a path ends and the next begins.
This module says how far the segments of a text climb above the place where the text was put, and
what is left of the whole path: the part above without the levels that were lost, and the part of
the text that would be there without anything above it.

Main results:

- Theorem `carryOut_append_above`: what segments do to a path, from what they do by themselves.
- Theorem `carryOut_append`: a whole path, from what leads to a place and what was put there.
-/

namespace EdgeGateway

namespace Url

/-! ## Levels -/

/-- How many double dots in segments find none of these segments left to go up from; what the
segments before them have put in place is reversed. -/
def escapes (own : List Text) : List Text → Nat
  | [] => 0
  | segment :: rest =>
    if isDoubleDot segment then
      if own = [] then escapes [] rest + 1 else escapes (goUp own) rest
    else if isSingleDot segment then escapes own rest
    else escapes (segment :: own) rest

/-- Goes up some levels in a reversed list of segments. -/
def goUpBy : Nat → List Text → List Text
  | 0, above => above
  | levels + 1, above => goUpBy levels (goUp above)

/-- Goes up some levels from the place that segments name. -/
def climb (levels : Nat) (names : List Text) : List Text :=
  (goUpBy levels names.reverse).reverse

/-- The place that segments lead to when something follows them, reversed. -/
def walk (above : List Text) : List Text → List Text
  | [] => above
  | segment :: rest =>
    if isDoubleDot segment then walk (goUp above) rest
    else if isSingleDot segment then walk above rest
    else walk (segment :: above) rest

/-- Going up from below a place stays below it. -/
theorem goUp_append {own : List Text} (above : List Text) (h : own ≠ []) :
    goUp (own ++ above) = goUp own ++ above := by
  cases own with
  | nil => exact absurd rfl h
  | cons top rest =>
    simp only [List.cons_append, goUp]
    split <;> rfl

/-- A segment that something follows moves the place, or is added to it. -/
theorem carryOut_cons (above : List Text) (segment : Text) {rest : List Text} (h : rest ≠ []) :
    carryOut false above (segment :: rest) =
      if isDoubleDot segment then carryOut false (goUp above) rest
      else if isSingleDot segment then carryOut false above rest
      else carryOut false (segment :: above) rest := by
  rcases List.exists_cons_of_ne_nil h with ⟨next, others, rfl⟩
  rw [carryOut, settle_false]
  simp

/-- Segments that something follows are walked through. -/
theorem carryOut_append_segments (above segments : List Text) {rest : List Text} (h : rest ≠ []) :
    carryOut false above (segments ++ rest) = carryOut false (walk above segments) rest := by
  induction segments generalizing above with
  | nil => rfl
  | cons segment more ih =>
    rw [List.cons_append, carryOut_cons _ _ (by simp [h]), walk]
    split
    · exact ih _
    · split <;> exact ih _

/-- What segments do to a path: they climb out of it as far as they climb by themselves, and leave
behind what they leave by themselves. -/
theorem carryOut_append_above (own above : List Text) {segments : List Text} (h : segments ≠ []) :
    carryOut false (own ++ above) segments =
      (goUpBy (escapes own segments) above).reverse ++ carryOut false own segments := by
  induction segments generalizing own above with
  | nil => exact absurd rfl h
  | cons segment rest ih =>
    rcases rest with _ | ⟨next, others⟩
    · by_cases hdouble : isDoubleDot segment = true
      · by_cases hown : own = []
        · subst hown
          simp [carryOut, escapes, hdouble, goUpBy, goUp]
        · simp [carryOut, escapes, hdouble, hown, goUpBy, goUp_append above hown]
      · by_cases hsingle : isSingleDot segment = true
        · simp [carryOut, escapes, hdouble, hsingle, goUpBy]
        · simp [carryOut, escapes, hdouble, hsingle, goUpBy]
    · have hne : next :: others ≠ [] := by simp
      rw [carryOut_cons _ _ hne, carryOut_cons _ _ hne, escapes]
      by_cases hdouble : isDoubleDot segment = true
      · by_cases hown : own = []
        · subst hown
          simp only [hdouble, if_true, List.nil_append]
          exact ih [] (goUp above) hne
        · simp only [hdouble, if_true, hown, if_false]
          rw [goUp_append above hown, ih (goUp own) above hne]
      · by_cases hsingle : isSingleDot segment = true
        · simp only [hdouble, hsingle, if_true, Bool.false_eq_true, if_false]
          exact ih own above hne
        · simp only [hdouble, hsingle, Bool.false_eq_true, if_false]
          exact ih (segment :: own) above hne

/-- The segments of a whole path, from what leads to a place and what was put there. -/
theorem carryOut_append (lead : List Text) {segments : List Text} (h : segments ≠ []) :
    carryOut false [] (lead ++ segments) =
      climb (escapes [] segments) (walk [] lead).reverse ++ carryOut false [] segments := by
  rw [carryOut_append_segments [] lead h]
  have hall := carryOut_append_above [] (walk [] lead) h
  rw [List.nil_append] at hall
  rw [hall, climb, List.reverse_reverse]

/-- Walking through two lists of segments is walking through one after the other. -/
theorem walk_append (above first second : List Text) :
    walk above (first ++ second) = walk (walk above first) second := by
  induction first generalizing above with
  | nil => rfl
  | cons segment rest ih =>
    rw [List.cons_append, walk, walk]
    split
    · exact ih _
    · split <;> exact ih _

/-- Walking through segments without dots adds them. -/
theorem walk_of_no_dots {above segments : List Text}
    (h : ∀ s ∈ segments, isDoubleDot s = false ∧ isSingleDot s = false) :
    walk above segments = segments.reverse ++ above := by
  induction segments generalizing above with
  | nil => rfl
  | cons segment rest ih =>
    have hsegment := h segment (by simp)
    have hrest : ∀ s ∈ rest, isDoubleDot s = false ∧ isSingleDot s = false := fun s hs =>
      h s (List.mem_cons_of_mem _ hs)
    simp [walk, hsegment, ih hrest]

/-! ## Losing levels -/

/-- Going up leaves the outer levels as they are. -/
theorem goUp_suffix (above : List Text) : goUp above <:+ above := by
  unfold goUp
  split
  · exact List.suffix_rfl
  · split
    · exact List.suffix_rfl
    · exact List.suffix_cons _ _

/-- Going up several levels leaves the outer ones as they are. -/
theorem goUpBy_suffix (levels : Nat) (above : List Text) : goUpBy levels above <:+ above := by
  induction levels generalizing above with
  | zero => exact List.suffix_rfl
  | succ levels ih => exact (ih (goUp above)).trans (goUp_suffix above)

/-- What is left after climbing is the front of what was there. -/
theorem climb_front (levels : Nat) (names : List Text) : climb levels names <+: names := by
  have hsuffix := List.reverse_prefix.2 (goUpBy_suffix levels names.reverse)
  rwa [List.reverse_reverse] at hsuffix

/-- The levels that climbing loses. -/
def lost (levels : Nat) (names : List Text) : List Text :=
  names.drop (climb levels names).length

/-- Climbing splits the levels into those that are left and those that are lost. -/
theorem climb_append_lost (levels : Nat) (names : List Text) :
    climb levels names ++ lost levels names = names :=
  List.prefix_iff_eq_append.1 (climb_front levels names)

/-- Where nothing climbs everything is left. -/
theorem climb_zero (names : List Text) : climb 0 names = names :=
  List.reverse_reverse names

/-- Where nothing climbs nothing is lost. -/
theorem lost_zero (names : List Text) : lost 0 names = [] := by
  rw [lost, climb_zero, List.drop_length]

/-- A list of segments never comes to nothing. -/
theorem carryOut_ne_nil (above : List Text) {segments : List Text} (h : segments ≠ []) :
    carryOut false above segments ≠ [] := by
  induction segments generalizing above with
  | nil => exact absurd rfl h
  | cons segment rest ih =>
    by_cases hrest : rest = []
    · subst hrest
      rw [carryOut]
      split
      · simp
      · split <;> simp
    · rw [carryOut_cons _ _ hrest]
      split
      · exact ih _ hrest
      · split <;> exact ih _ hrest

/-! ## Paths behind a text -/

/-- A path with more segments behind it: the segments in front do not depend on what follows. -/
theorem exists_specialPath_append {front : Text}
    (h : ∀ c ∈ front.head?, isSlash true c = true) :
    ∃ lead, ∀ t, specialPath (front ++ '/' :: t) =
      .segments (carryOut false [] (lead ++ rawSegments true t)) := by
  cases front with
  | nil => exact ⟨[], fun t => rfl⟩
  | cons c rest =>
    refine ⟨rawSegments true rest, fun t => ?_⟩
    have hc : isSlash true c = true := h c rfl
    have hslash : isSlash true '/' = true := rfl
    rw [specialPath, List.cons_append, dropSlash, if_pos hc, readPath, rawSegments, rawSegments,
      rawSegments, Text.segments, List.splitOnP_append_cons _ _ hslash, List.map_append]
    rfl

end Url

end EdgeGateway
