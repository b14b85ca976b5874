import EdgeGateway.Proofs.Route.Rules
import EdgeGateway.Proofs.Text.Cutting

/-!
# The normal form of a prefix

A written prefix loses the white space around it and then the slashes around the rest.  What was in
front of the slashes at its end may be white space again, and stays.  A prefix that is accepted
therefore has one slash in front and none behind, but it is not always accepted as itself: when it
is written once more it loses the white space at its end, and may be refused.

Main results:

- Theorem `normalizePrefix?_accepted`: what becomes of an accepted prefix that is written once more.
- Theorem `normalizePrefix?_eq_self_iff`: the accepted prefixes that stay as they are.
- Theorem `normalizeTimes_accepted`: what is left of an accepted prefix in the end.
- Theorem `normalizePrefix?_settles`: all of this for every written prefix.
-/

namespace EdgeGateway

namespace Route

/-! ## Accepted prefixes -/

/-- The shape of an accepted prefix behind its slash. -/
structure Accepted (bare : Text) : Prop where
  ne_nil : bare ≠ []
  head : ∀ c ∈ bare.head?, isSlash c = false
  last : ∀ c ∈ bare.getLast?, isSlash c = false
  clear : collides ('/' :: bare) = false

/-- An accepted prefix is neither a slash alone nor the public interface. -/
theorem Accepted.not_refused {bare : Text} (h : Accepted bare) :
    ¬ ('/' :: bare = ['/'] ∨ '/' :: bare = publicApi) := by
  rintro (hslash | hapi)
  · exact h.ne_nil ((List.cons_inj_right '/').1 hslash)
  · have hclear := h.clear
    simp [collides, hapi] at hclear

/-- Cuts off the white space at the end of a text, and then the slashes at the end of the rest. -/
def pareEnd (t : Text) : Text :=
  Text.trimEnd isSlash (Text.trimEnd Text.isBlank t)

/-- What is left between the slashes begins and ends with something else. -/
theorem accepted_of_barePrefix {raw : Text} (hne : barePrefix raw ≠ [])
    (hclear : collides ('/' :: barePrefix raw) = false) : Accepted (barePrefix raw) where
  ne_nil := hne
  head := by
    rw [barePrefix, Text.trim, Text.head?_trimEnd hne]
    exact Text.head?_trimStart
  last := Text.getLast?_trimEnd
  clear := hclear

/-- Every accepted prefix has this shape. -/
theorem exists_accepted {raw pre : Text} (h : normalizePrefix? raw = some pre) :
    ∃ bare, pre = '/' :: bare ∧ Accepted bare := by
  obtain ⟨hpre, hne, hclear⟩ := normalizePrefix?_eq_some_iff.1 h
  rw [hpre] at hclear
  exact ⟨_, hpre, accepted_of_barePrefix hne hclear⟩

/-- The end of a written prefix becomes the end of the accepted one. -/
theorem getLast?_barePrefix {raw : Text} (h : barePrefix raw ≠ []) :
    (barePrefix raw).getLast? = (pareEnd raw).getLast? := by
  have hcore : Text.trimBlank raw ≠ [] := by
    intro hnil
    rw [barePrefix, hnil] at h
    exact h rfl
  obtain ⟨blanks, hblanks⟩ := Text.eq_append_trimStart Text.isBlank raw
  obtain ⟨slashes, hslashes⟩ := Text.eq_append_trimStart isSlash (Text.trimBlank raw)
  have hpared : pareEnd raw = blanks ++ (slashes ++ barePrefix raw) := by
    calc pareEnd raw
        = Text.trimEnd isSlash (Text.trimEnd Text.isBlank
            (blanks ++ Text.trimStart Text.isBlank raw)) := by rw [← hblanks, pareEnd]
      _ = Text.trimEnd isSlash (blanks ++ Text.trimBlank raw) := by
          rw [Text.trimEnd_append_of_ne_nil blanks hcore]
          rfl
      _ = Text.trimEnd isSlash
            ((blanks ++ slashes) ++ Text.trimStart isSlash (Text.trimBlank raw)) := by
          rw [List.append_assoc, ← hslashes]
      _ = blanks ++ (slashes ++ barePrefix raw) := by
          rw [Text.trimEnd_append_of_ne_nil (blanks ++ slashes) h, List.append_assoc]
          rfl
  rcases List.eq_nil_or_concat (barePrefix raw) with hnil | ⟨front, c, hconcat⟩
  · exact absurd hnil h
  · rw [hpared, hconcat]
    simp

/-! ## Writing an accepted prefix once more -/

/-- The slash in front protects the front of a prefix, so that only its end is trimmed. -/
theorem barePrefix_cons {bare : Text} (h : ∀ c ∈ bare.head?, isSlash c = false) :
    barePrefix ('/' :: bare) = pareEnd bare := by
  have hblank : Text.isBlank '/' = false := by decide
  have htrimmed : Text.trimBlank ('/' :: bare) = '/' :: Text.trimEnd Text.isBlank bare := by
    have hstart : Text.trimStart Text.isBlank ('/' :: bare) = '/' :: bare :=
      List.dropWhile_cons_of_neg (by simp [hblank])
    rw [Text.trimBlank, Text.trim, hstart, Text.trimEnd_cons_of_neg bare hblank]
  have hstart : Text.trimStart isSlash ('/' :: Text.trimEnd Text.isBlank bare) =
      Text.trimEnd Text.isBlank bare := by
    have hslash : isSlash '/' = true := by decide
    rw [Text.trimStart, List.dropWhile_cons_of_pos hslash]
    rcases hrest : Text.trimEnd Text.isBlank bare with _ | ⟨c, rest⟩
    · rfl
    · have hhead : (Text.trimEnd Text.isBlank bare).head? = bare.head? :=
        Text.head?_trimEnd (by simp [hrest])
      have hc : isSlash c = false := by
        apply h
        rw [← hhead, hrest]
        rfl
      exact List.dropWhile_cons_of_neg (by simp [hc])
  rw [barePrefix, htrimmed, Text.trim, hstart, pareEnd]

/-- Paring the end of a text leaves the front of it. -/
theorem pareEnd_front (t : Text) : pareEnd t <+: t := by
  obtain ⟨blanks, hblanks, -⟩ := Text.eq_trimEnd_append Text.isBlank t
  obtain ⟨slashes, hslashes, -⟩ := Text.eq_trimEnd_append isSlash (Text.trimEnd Text.isBlank t)
  refine ⟨slashes ++ blanks, ?_⟩
  rw [pareEnd, ← List.append_assoc, ← hslashes, ← hblanks]

/-- A front of a prefix that is accepted is refused only if it is the public interface itself. -/
theorem collides_iff_of_front {bare front : Text} (hclear : collides ('/' :: bare) = false)
    (hfront : front <+: bare) : collides ('/' :: front) = true ↔ '/' :: front = publicApi := by
  constructor
  · intro h
    simp only [collides, Bool.or_eq_true, beq_iff_eq, List.isPrefixOf_iff_prefix] at h
    rcases h with heq | hbelow
    · exact heq
    · exfalso
      have hlonger : publicApi ++ ['/'] <+: '/' :: bare :=
        hbelow.trans ((List.prefix_cons_inj '/').2 hfront)
      simp [collides, List.isPrefixOf_iff_prefix.2 hlonger] at hclear
  · intro h
    simp [collides, h]

/-- An accepted prefix that is written once more loses the white space at its end and the slashes in
front of that, and is refused if nothing or the public interface is left. -/
theorem normalizePrefix?_accepted {bare : Text} (h : Accepted bare) :
    normalizePrefix? ('/' :: bare) =
      if '/' :: pareEnd bare = ['/'] ∨ '/' :: pareEnd bare = publicApi then none
      else some ('/' :: pareEnd bare) := by
  unfold normalizePrefix?
  simp only [barePrefix_cons h.head, collides_iff_of_front h.clear (pareEnd_front bare),
    List.cons_inj_right]

/-- Nothing is pared off an accepted prefix exactly if it does not end in white space. -/
theorem pareEnd_eq_self_iff {bare : Text} (h : Accepted bare) :
    pareEnd bare = bare ↔ ∀ c ∈ bare.getLast?, Text.isBlank c = false := by
  rw [← Text.trimEnd_eq_self_iff]
  constructor
  · intro hpared
    obtain ⟨blanks, hblanks, -⟩ := Text.eq_trimEnd_append Text.isBlank bare
    obtain ⟨slashes, hslashes, -⟩ :=
      Text.eq_trimEnd_append isSlash (Text.trimEnd Text.isBlank bare)
    -- Both cuts are empty because together they do not change the length.
    have hlength := congrArg List.length hpared
    have hblanks' := congrArg List.length hblanks
    have hslashes' := congrArg List.length hslashes
    simp only [List.length_append, pareEnd] at hlength hblanks' hslashes'
    obtain rfl : blanks = [] := List.eq_nil_of_length_eq_zero (by omega)
    rw [List.append_nil] at hblanks
    exact hblanks.symm
  · intro hblank
    rw [pareEnd, hblank]
    exact Text.trimEnd_eq_self_iff.2 h.last

/-- An accepted prefix is accepted as itself exactly if it does not end in white space. -/
theorem normalizePrefix?_eq_self_iff {bare : Text} (h : Accepted bare) :
    normalizePrefix? ('/' :: bare) = some ('/' :: bare) ↔
      ∀ c ∈ bare.getLast?, Text.isBlank c = false := by
  rw [← pareEnd_eq_self_iff h, normalizePrefix?_accepted h]
  constructor
  · intro hsame
    split at hsame
    · cases hsame
    · exact (List.cons_inj_right '/').1 (Option.some.inj hsame)
  · intro hpared
    rw [hpared, if_neg h.not_refused]

/-! ## Writing it again and again -/

/-- The result of writing a prefix anew for a number of times. -/
def normalizeTimes : Nat → Text → Option Text
  | 0, pre => some pre
  | n + 1, pre => (normalizePrefix? pre).bind (normalizeTimes n)

/-- White space and slashes. -/
def isBorder (c : Char) : Bool :=
  Text.isBlank c || isSlash c

/-- A prefix without all the white space and slashes at its end. -/
def firm (pre : Text) : Text :=
  '/' :: Text.trimEnd isBorder pre.tail

/-- What is left of a prefix in the end; the slash alone and the public interface are no prefixes. -/
def settled? (pre : Text) : Option Text :=
  if firm pre = ['/'] ∨ firm pre = publicApi then none else some (firm pre)

/-- Paring the end of a prefix does not change what is left of it in the end. -/
theorem firm_pareEnd (bare : Text) : firm ('/' :: pareEnd bare) = firm ('/' :: bare) := by
  unfold firm pareEnd
  rw [List.tail_cons, List.tail_cons, Text.trimEnd_trimEnd_of_imp, Text.trimEnd_trimEnd_of_imp]
  · intro c hc
    simp [isBorder, hc]
  · intro c hc
    simp [isBorder, hc]

/-- An accepted prefix that does not end in white space is firm. -/
theorem firm_of_last {bare : Text} (h : Accepted bare)
    (hlast : ∀ c ∈ bare.getLast?, Text.isBlank c = false) : firm ('/' :: bare) = '/' :: bare := by
  rw [firm, List.tail_cons, Text.trimEnd_eq_self_iff.2]
  intro c hc
  simp [isBorder, hlast c hc, h.last c hc]

/-- A front of an accepted prefix that does not end in a slash is accepted unless nothing or the public
interface is left. -/
theorem Accepted.of_front {bare front : Text} (h : Accepted bare) (hfront : front <+: bare)
    (hlast : ∀ c ∈ front.getLast?, isSlash c = false)
    (hkept : ¬ ('/' :: front = ['/'] ∨ '/' :: front = publicApi)) : Accepted front where
  ne_nil := by
    rintro rfl
    exact hkept (.inl rfl)
  head := by
    intro c hc
    apply h.head
    obtain ⟨rest, rfl⟩ := List.head?_eq_some_iff.1 hc
    obtain ⟨behind, rfl⟩ := hfront
    rfl
  last := hlast
  clear := by
    rw [← Bool.not_eq_true, collides_iff_of_front h.clear hfront]
    exact fun hapi => hkept (.inr hapi)

/-- A prefix that is accepted as itself stays as it is. -/
theorem normalizeTimes_of_fixed {pre : Text} (h : normalizePrefix? pre = some pre) (n : Nat) :
    normalizeTimes n pre = some pre := by
  induction n with
  | zero => rfl
  | succ n ih => rw [normalizeTimes, h, Option.bind_some, ih]

/-- An accepted prefix that is written anew as often as it has characters has settled: each time it
gets shorter, is refused, or stays as it is from then on. -/
theorem normalizeTimes_accepted {bare : Text} {n : Nat} (h : Accepted bare)
    (hn : bare.length ≤ n) : normalizeTimes n ('/' :: bare) = settled? ('/' :: bare) := by
  induction n generalizing bare with
  | zero => exact absurd (List.eq_nil_of_length_eq_zero (Nat.le_zero.1 hn)) h.ne_nil
  | succ n ih =>
    by_cases hlast : ∀ c ∈ bare.getLast?, Text.isBlank c = false
    · rw [normalizeTimes_of_fixed ((normalizePrefix?_eq_self_iff h).2 hlast), settled?,
        firm_of_last h hlast, if_neg h.not_refused]
    · have hshorter : (pareEnd bare).length < bare.length := by
        apply Nat.lt_of_le_of_ne (pareEnd_front bare).length_le
        intro hlength
        exact hlast ((pareEnd_eq_self_iff h).1 ((pareEnd_front bare).eq_of_length hlength))
      have hsame : settled? ('/' :: pareEnd bare) = settled? ('/' :: bare) := by
        rw [settled?, firm_pareEnd, settled?]
      rw [normalizeTimes, normalizePrefix?_accepted h, ← hsame]
      split
      · rename_i hrefused
        rcases hrefused with hslash | hapi
        · rw [hslash, Option.bind_none]
          decide
        · rw [hapi, Option.bind_none]
          decide
      · rename_i hkept
        apply ih
        · exact h.of_front (pareEnd_front bare) Text.getLast?_trimEnd hkept
        · omega

/-- What has settled is accepted as itself. -/
theorem normalizePrefix?_of_settled {bare left : Text} (h : Accepted bare)
    (hleft : settled? ('/' :: bare) = some left) : normalizePrefix? left = some left := by
  unfold settled? at hleft
  split at hleft
  · cases hleft
  · rename_i hkept
    obtain rfl := Option.some.inj hleft
    have hborder : ∀ c ∈ (Text.trimEnd isBorder bare).getLast?, isBorder c = false :=
      Text.getLast?_trimEnd
    have haccepted : Accepted (Text.trimEnd isBorder bare) := by
      apply h.of_front
      · obtain ⟨block, hblock, -⟩ := Text.eq_trimEnd_append isBorder bare
        exact ⟨block, hblock.symm⟩
      · intro c hc
        exact (Bool.or_eq_false_iff.1 (hborder c hc)).2
      · exact hkept
    apply (normalizePrefix?_eq_self_iff haccepted).2
    intro c hc
    exact (Bool.or_eq_false_iff.1 (hborder c hc)).1

/-- An accepted prefix begins with exactly one slash, has something behind it, does not end in a
slash, and is neither the public interface nor below it.

Written once more it stays as it is exactly if it does not end in white space, that is, if there was
no white space in front of the slashes at the end of what was written.  If there was, it is accepted
without that white space, or refused if the slash alone or the public interface is left; and when it
has been written anew as often as it has characters, all the white space and slashes at its end are
gone, and it stays as it is. -/
theorem normalizePrefix?_settles {raw pre : Text} (h : normalizePrefix? raw = some pre) :
    (∃ c rest, pre = '/' :: c :: rest ∧ c ≠ '/') ∧ pre.getLast? ≠ some '/' ∧
      pre ≠ publicApi ∧ ¬ Below publicApi pre ∧
      pre.getLast? = (pareEnd raw).getLast? ∧
      (normalizePrefix? pre = some pre ↔ ∀ c ∈ pre.getLast?, Text.isBlank c = false) ∧
      (∀ n, pre.length ≤ n → normalizeTimes n pre = settled? pre) ∧
      ∀ left, settled? pre = some left → normalizePrefix? left = some left := by
  obtain ⟨hbare, hne, -⟩ := normalizePrefix?_eq_some_iff.1 h
  obtain ⟨bare, rfl, haccepted⟩ := exists_accepted h
  obtain rfl := (List.cons_inj_right '/').1 hbare
  have hlast : ('/' :: barePrefix raw).getLast? = (barePrefix raw).getLast? := by
    obtain ⟨c, rest, hcons⟩ := List.exists_cons_of_ne_nil hne
    rw [hcons, List.getLast?_cons_cons]
  refine ⟨?_, ?_, ?_, ?_, ?_, ?_, ?_, ?_⟩
  · obtain ⟨c, rest, hcons⟩ := List.exists_cons_of_ne_nil hne
    refine ⟨c, rest, by rw [hcons], ?_⟩
    rintro rfl
    have hslash := haccepted.head '/' (by simp [hcons])
    exact absurd hslash (by decide)
  · intro hslash
    rw [hlast] at hslash
    exact absurd (haccepted.last '/' hslash) (by decide)
  · exact fun hapi => haccepted.not_refused (.inr hapi)
  · intro hbelow
    have hclear := haccepted.clear
    simp [collides, List.isPrefixOf_iff_prefix.2 hbelow] at hclear
  · rw [hlast, getLast?_barePrefix hne]
  · rw [hlast, normalizePrefix?_eq_self_iff haccepted]
  · intro n hn
    apply normalizeTimes_accepted haccepted
    rw [List.length_cons] at hn
    omega
  · intro left hleft
    exact normalizePrefix?_of_settled haccepted hleft

/-- A prefix that gets shorter twice, until only the letter is left. -/
theorem normalizePrefix?_settles_spaced :
    normalizePrefix? "\t//a / //".toList = some "/a / ".toList ∧
      normalizePrefix? "/a / ".toList ≠ some "/a / ".toList ∧
      normalizeTimes 5 "/a / ".toList = some "/a".toList ∧
      normalizePrefix? "/a".toList = some "/a".toList := by
  have haccepted : normalizePrefix? "\t//a / //".toList = some "/a / ".toList := by decide
  obtain ⟨-, -, -, -, -, hself, htimes, hsettled⟩ := normalizePrefix?_settles haccepted
  have hleft : settled? "/a / ".toList = some "/a".toList := by decide
  refine ⟨haccepted, ?_, ?_, hsettled _ hleft⟩
  · intro hfixed
    exact absurd (hself.1 hfixed ' ' rfl) (by decide)
  · rw [htimes 5 (by decide), hleft]

/-- White space in front of the slash at the end makes the public interface an accepted prefix, which
is refused when it is written once more. -/
theorem not_normalizePrefix?_spacedApi :
    ¬ ∀ raw pre, normalizePrefix? raw = some pre → normalizePrefix? pre = some pre := by
  intro h
  have haccepted : normalizePrefix? "/api /".toList = some "/api ".toList := by decide
  have hrefused : normalizePrefix? "/api ".toList = none := by decide
  rw [h _ _ haccepted] at hrefused
  cases hrefused

end Route

end EdgeGateway
