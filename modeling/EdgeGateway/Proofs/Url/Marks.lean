import EdgeGateway.Proofs.Url.Appended
import Mathlib.Data.List.TakeWhile

/-!
# Where the path of a URL ends

The path of a URL ends at the first question mark or number sign.  Whatever is put behind such a
mark is no longer part of the path, and a text without one is read as a path and nothing else.

Main results:

- Theorem `path_readTail_eq`: the path is what stands before the first mark.
- Theorem `readTail_of_query`: a question mark behind a path begins the query.
- Theorem `path_readTail_append`: behind a mark nothing has an influence on the path.
- Theorem `Origin.mem_tail_of_isMark`: a mark in an origin is read behind its authority.
-/

namespace EdgeGateway

namespace Url

open Unicode (IsLow)

/-- The characters that end the path of a URL. -/
def isMark (c : Char) : Bool :=
  c == '?' || c == '#'

theorem isMark_eq_false_iff {c : Char} : isMark c = false ↔ c ≠ '?' ∧ c ≠ '#' := by
  simp [isMark]

/-- No mark stands in a text without marks. -/
theorem not_mem_of_isMark {t : Text} {m : Char} (ht : ∀ c ∈ t, isMark c = false)
    (hm : isMark m = true) : m ∉ t := by
  intro hmem
  rw [ht m hmem] at hm
  cases hm

/-- The text before the fragment ends at the first number sign. -/
theorem splitFragment_fst (t : Text) : (splitFragment t).1 = Text.takeUntil (· == '#') t := by
  rw [← Text.fst_splitFirst?, splitFragment]
  cases Text.splitFirst? '#' t <;> rfl

/-- The text before the query ends at the first question mark. -/
theorem splitQuery_fst (t : Text) : (splitQuery t).1 = Text.takeUntil (· == '?') t := by
  rw [← Text.fst_splitFirst?, splitQuery]
  cases Text.splitFirst? '?' t <;> rfl

/-- A path is read of what stands before the first mark. -/
theorem path_readTail_eq (special : Bool) (path : Text → Path) (t : Text) :
    (readTail special path t).path = path (Text.takeUntil isMark t) := by
  have hmarks : Text.takeUntil (· == '?') (Text.takeUntil (· == '#') t) =
      Text.takeUntil isMark t := by
    rw [Text.takeUntil, Text.takeUntil, List.takeWhile_takeWhile, Text.takeUntil]
    refine congrArg (List.takeWhile · t) (funext fun c => ?_)
    simp [isMark, beq_eq_decide]
  rw [← hmarks, ← splitFragment_fst, ← splitQuery_fst]
  rfl

/-- A path is read up to the question mark that begins a query. -/
theorem path_readTail {special : Bool} {path : Text → Path} {t marked : Text}
    (ht : ∀ c ∈ t, c ≠ '?' ∧ c ≠ '#') (hmarked : marked = [] ∨ ∃ query, marked = '?' :: query) :
    (readTail special path (t ++ marked)).path = path t := by
  have hplain : ∀ c ∈ t, isMark c = false := fun c hc => isMark_eq_false_iff.2 (ht c hc)
  have hhead : ∀ c ∈ marked.head?, isMark c = true := by
    rcases hmarked with rfl | ⟨query, rfl⟩
    · simp
    · simp [isMark]
  rw [path_readTail_eq, (Text.cut_append_of_none hplain hhead).1]

/-- Nothing behind a mark has an influence on the path. -/
theorem path_readTail_append {special : Bool} {path : Text → Path} {t : Text} (behind : Text)
    (h : ∃ c ∈ t, isMark c = true) :
    (readTail special path (t ++ behind)).path = (readTail special path t).path := by
  have hcut : Text.dropUntil isMark t ≠ [] := by
    obtain ⟨c, hc, hmark⟩ := h
    exact List.ne_nil_of_mem (Text.mem_dropWhile (by simp [hmark]) hc)
  rw [path_readTail_eq, path_readTail_eq, (Text.cut_append_of_ne_nil behind hcut).1]

/-- A text without marks is a path. -/
theorem readTail_of_path {special : Bool} {path : Text → Path} {t : Text}
    (ht : ∀ c ∈ t, isMark c = false) :
    (readTail special path t).query = none ∧ (readTail special path t).fragment = none := by
  have hfragment : splitFragment t = (t, none) := by
    rw [splitFragment, Text.splitFirst?_eq_none (not_mem_of_isMark ht rfl)]
  have hquery : splitQuery t = (t, none) := by
    rw [splitQuery, Text.splitFirst?_eq_none (not_mem_of_isMark ht rfl)]
  simp only [readTail, hfragment, hquery, Option.map_none, and_self]

/-- A question mark behind a path begins the query, which has no number sign. -/
theorem readTail_of_query {special : Bool} {path : Text → Path} {t query : Text}
    (ht : ∀ c ∈ t, isMark c = false) (hquery : '#' ∉ query) :
    (readTail special path (t ++ '?' :: query)).query =
        some (Percent.encode (querySetFor special) query) ∧
      (readTail special path (t ++ '?' :: query)).fragment = none := by
  have hfragment : splitFragment (t ++ '?' :: query) = (t ++ '?' :: query, none) := by
    have hnone : '#' ∉ t ++ '?' :: query := by
      simp [not_mem_of_isMark (m := '#') ht rfl, hquery]
    rw [splitFragment, Text.splitFirst?_eq_none hnone]
  have hsplit : splitQuery (t ++ '?' :: query) = (t, some query) := by
    rw [splitQuery, Text.splitFirst?_eq_some_iff.2 ⟨rfl, not_mem_of_isMark ht rfl⟩]
  simp only [readTail, hfragment, hsplit, Option.map_some, Option.map_none, and_self]

/-- A mark is neither trimmed nor dropped. -/
theorem mem_cleanFront_of_isMark {t : Text} {c : Char} (hc : isMark c = true) (h : c ∈ t) :
    c ∈ cleanFront t := by
  have hplain : isEdge c = false ∧ isBreak c = false := by
    simp only [isMark, Bool.or_eq_true, beq_iff_eq] at hc
    rcases hc with rfl | rfl <;> decide
  exact List.mem_filter.2 ⟨Text.mem_dropWhile hplain.1 h, by simp [hplain.2]⟩

end Url

namespace Origin

open Url

/-- A mark in an origin with a scheme is read behind its authority. -/
theorem mem_tail_of_isMark {origin scheme rest : Text} {c : Char}
    (hscheme : takeScheme? (cleanFront origin) = some (scheme, rest)) (hc : isMark c = true)
    (h : c ∈ origin) : c ∈ tail origin := by
  have hplain : isSchemeChar c = false ∧ c ≠ ':' ∧ isSlash true c = false ∧
      endsAuthority true c = true := by
    simp only [isMark, Bool.or_eq_true, beq_iff_eq] at hc
    rcases hc with rfl | rfl <;> decide
  have hbehind : c ∈ behindScheme origin := by
    rw [behindScheme, hscheme]
    have hmem := mem_cleanFront_of_isMark hc h
    rcases takeScheme?_eq_some_iff.1 hscheme with ⟨first, more, htext, -, hall, -⟩
    rw [htext] at hmem
    rcases List.mem_append.1 hmem with hmem | hmem
    · rw [hall c hmem] at hplain
      cases hplain.1
    · exact (List.mem_cons.1 hmem).resolve_left hplain.2.1
  refine Text.mem_dropWhile ?_ (Text.mem_dropWhile hplain.2.2.1 hbehind)
  simp [hplain.2.2.2]

end Origin

end EdgeGateway
