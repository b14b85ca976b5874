import EdgeGateway.Proofs.Text.Cutting
import EdgeGateway.Proofs.Url.Climbing
import Mathlib.Data.List.DropRight

/-!
# The segments of a path and its text

No segment of a path that was read contains a slash, so that the text of the path determines its
segments.  Statements about the beginning and the end of the text are statements about the first
and the last segments.

Main results:

- Theorem `exists_names_of_readTail`: no segment of a path contains a slash.
- Theorem `prefix_text_iff`: a path text begins with another one exactly if the segments do.
- Theorem `trimEnd_text`: trimming the slashes of a path text drops the empty segments at its end.
-/

namespace EdgeGateway

namespace Url

/-- The segments of a path. -/
def Path.names : Path → List Text
  | .segments names => names
  | .opaqueText _ => []

/-- No segment contains a slash. -/
def SlashFree (names : List Text) : Prop :=
  ∀ name ∈ names, '/' ∉ name

/-! ## Segments without slashes -/

/-- Leaving out segments at the end adds no slash. -/
theorem SlashFree.rdropWhile {names : List Text} (h : SlashFree names) (p : Text → Bool) :
    SlashFree (names.rdropWhile p) := by
  intro name hname
  have hfront := List.rdropWhile_prefix p names
  exact h name (hfront.subset hname)

/-- Two lists of segments without slashes are one. -/
theorem SlashFree.append {first second : List Text} (hfirst : SlashFree first)
    (hsecond : SlashFree second) : SlashFree (first ++ second) := by
  intro name hname
  rcases List.mem_append.1 hname with hname | hname
  · exact hfirst name hname
  · exact hsecond name hname

/-- No hexadecimal digit is a slash. -/
theorem Percent.hexDigit_ne_slash (n : Nat) : hexDigit n ≠ '/' := by
  have hall : ∀ k < 16, (Nat.digitChar k).toUpper ≠ '/' := by decide
  exact hall _ (Nat.mod_lt _ (by decide))

/-- Percent-encoding adds no slash. -/
theorem Percent.slash_not_mem_encode {set : Char → Bool} {t : Text} (h : '/' ∉ t) :
    '/' ∉ encode set t := by
  intro hmem
  rcases List.mem_flatMap.1 hmem with ⟨c, hc, hslash⟩
  unfold encodeChar at hslash
  split at hslash
  · rcases List.mem_flatMap.1 hslash with ⟨b, -, hb⟩
    simp [encodeByte, Ne.symm (hexDigit_ne_slash _)] at hb
  · rw [List.mem_singleton] at hslash
    exact h (hslash ▸ hc)

/-- No segment of a written path contains a slash. -/
theorem slashFree_rawSegments (special : Bool) (t : Text) : SlashFree (rawSegments special t) := by
  intro name hname
  rcases List.mem_map.1 hname with ⟨s, hs, rfl⟩
  exact Percent.slash_not_mem_encode (Text.not_mem_of_mem_segments (by simp [isSlash]) hs)

/-- Going up only drops segments. -/
theorem mem_of_mem_goUp {name : Text} {above : List Text} (h : name ∈ goUp above) :
    name ∈ above := by
  unfold goUp at h
  split at h
  · exact h
  · split at h
    · exact h
    · exact List.mem_cons_of_mem _ h

/-- Carrying out dot segments adds no slash. -/
theorem slashFree_carryOut {above segments : List Text} (habove : SlashFree above)
    (hsegments : SlashFree segments) : SlashFree (carryOut false above segments) := by
  have hup : SlashFree (goUp above) := fun name hname => habove name (mem_of_mem_goUp hname)
  have hreverse : ∀ {names : List Text}, SlashFree names → SlashFree names.reverse :=
    fun hnames name hname => hnames name (List.mem_reverse.1 hname)
  have hcons : ∀ {name : Text} {names : List Text}, '/' ∉ name → SlashFree names →
      SlashFree (name :: names) := fun hname hnames => List.forall_mem_cons.2 ⟨hname, hnames⟩
  induction segments generalizing above with
  | nil => exact hreverse habove
  | cons segment rest ih =>
    rcases List.forall_mem_cons.1 hsegments with ⟨hsegment, hrest⟩
    have hupper : ∀ {names : List Text}, SlashFree names → SlashFree (goUp names) :=
      fun hnames name hname => hnames name (mem_of_mem_goUp hname)
    by_cases hlast : rest = []
    · subst hlast
      rw [carryOut, settle_false]
      split
      · exact hreverse (hcons (by simp) hup)
      · split
        · exact hreverse (hcons (by simp) habove)
        · exact hreverse (hcons hsegment habove)
    · rw [carryOut_cons _ _ hlast]
      split
      · exact ih hup hrest (hupper hup)
      · split
        · exact ih habove hrest hup
        · exact ih (hcons hsegment habove) hrest (hupper (hcons hsegment habove))

/-- The path of a special URL is a list of segments without slashes. -/
theorem exists_names_of_readTail (t : Text) :
    ∃ names, (readTail true specialPath t).path = .segments names ∧ SlashFree names :=
  ⟨_, rfl, slashFree_carryOut (by simp [SlashFree]) (slashFree_rawSegments true _)⟩

/-! ## Texts of paths -/

/-- The text of segments is written one segment after the other. -/
theorem text_segments_append (first second : List Text) :
    (Path.segments (first ++ second)).text =
      (Path.segments first).text ++ (Path.segments second).text := by
  simp [Path.text]

/-- Texts up to a slash are compared apart from what follows. -/
theorem append_prefix_append_iff {a b x y : Text} (ha : '/' ∉ a) (hb : '/' ∉ b)
    (hx : x.head? = some '/') (hy : ∀ c ∈ y.head?, c = '/') :
    a ++ x <+: b ++ y ↔ a = b ∧ x <+: y := by
  constructor
  · rintro ⟨z, hz⟩
    have hplain : ∀ {t : Text}, '/' ∉ t → ∀ c ∈ t, (c == '/') = false := fun ht c hc =>
      beq_false_of_ne fun heq => ht (heq ▸ hc)
    have hfront := (Text.cut_append_of_none (p := (· == '/')) (t := x ++ z) (hplain ha)
      (by simp [List.head?_append, hx])).1
    have hback := (Text.cut_append_of_none (p := (· == '/')) (t := y) (hplain hb)
      (by simpa using hy)).1
    rw [← List.append_assoc, hz, hback] at hfront
    subst hfront
    rw [List.append_assoc] at hz
    exact ⟨rfl, z, List.append_cancel_left hz⟩
  · rintro ⟨rfl, hxy⟩
    exact (List.prefix_append_right_inj a).2 hxy

/-- A text of segments is empty or begins with a slash. -/
theorem head?_text_segments (names : List Text) :
    ∀ c ∈ (Path.segments names).text.head?, c = '/' := by
  cases names with
  | nil => simp [Path.text]
  | cons name rest => simp [Path.text, eq_comm]

/-- A text of segments begins with another one exactly if the segments do. -/
theorem prefix_text_iff {names all : List Text} (hnames : SlashFree names) (hall : SlashFree all) :
    ((Path.segments names).text ++ ['/']) <+: (Path.segments all).text ↔
      names <+: all ∧ names ≠ all := by
  induction names generalizing all with
  | nil =>
    cases all with
    | nil => simp [Path.text]
    | cons first more => simp [Path.text]
  | cons name rest ih =>
    cases all with
    | nil => simp [Path.text]
    | cons first more =>
      rcases List.forall_mem_cons.1 hnames with ⟨hname, hrest⟩
      rcases List.forall_mem_cons.1 hall with ⟨hfirst, hmore⟩
      have hslash : ((Path.segments rest).text ++ ['/']).head? = some '/' := by
        cases rest <;> rfl
      rw [pathText_segments_cons, pathText_segments_cons, List.cons_append, List.cons_append,
        List.cons_append, List.cons_prefix_cons, List.append_assoc,
        append_prefix_append_iff hname hfirst hslash (head?_text_segments more),
        ih hrest hmore, List.cons_prefix_cons]
      constructor
      · rintro ⟨-, rfl, hfront, hne⟩
        exact ⟨⟨rfl, hfront⟩, fun heq => hne (List.cons_eq_cons.1 heq).2⟩
      · rintro ⟨⟨rfl, hfront⟩, hne⟩
        exact ⟨rfl, rfl, hfront, fun heq => hne (heq ▸ rfl)⟩

/-- Trimming the slashes at the end of a text of segments drops the empty segments there. -/
theorem trimEnd_text {names : List Text} (hnames : SlashFree names) :
    Text.trimEnd (· == '/') (Path.segments names).text =
      (Path.segments (names.rdropWhile (· == []))).text := by
  induction names using List.reverseRecOn with
  | nil => rfl
  | append_singleton rest last ih =>
    have hrest : SlashFree rest := fun name hname => hnames name (List.mem_append_left _ hname)
    have htext : (Path.segments (rest ++ [last])).text =
        (Path.segments rest).text ++ '/' :: last := by
      rw [text_segments_append]
      simp [Path.text]
    rw [htext]
    rcases List.eq_nil_or_concat last with rfl | ⟨front, c, rfl⟩
    · rw [Text.trimEnd_append_of_all _ (by simp), ih hrest, List.rdropWhile_concat_pos _ _ _ rfl]
    · have hc : (c == '/') = false := by
        have hlast := hnames _ (List.mem_append_right _ (List.mem_singleton_self _))
        simp at hlast
        exact beq_false_of_ne (Ne.symm hlast.2)
      rw [List.rdropWhile_concat_neg _ _ _ (by simp), htext, List.concat_eq_append,
        ← List.cons_append, ← List.append_assoc]
      exact Text.trimEnd_concat_of_neg _ hc

end Url

end EdgeGateway
