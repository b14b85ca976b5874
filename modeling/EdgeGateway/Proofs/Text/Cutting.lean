import EdgeGateway.Text

/-!
# Trimming and cutting texts with something behind them

What trimming and cutting do to a text does not change when something is put behind it, as long as
the place where they stop lies within the text.

Main results:

- Theorem `trimStart_append_of_ne_nil`, `trimEnd_append_of_ne_nil`: trimming one end of two texts.
- Theorem `eq_trimEnd_append`, `getLast?_trimEnd`: what trimming the end cuts off, and what is left.
- Theorem `trimEnd_eq_self_iff`: the texts that are not trimmed at the end.
- Theorem `cut_append_of_ne_nil`, `cut_append_of_none`: the two places where two texts can be cut.
- Theorem `fst_splitFirst?`: the text before the first of a character.
- Theorem `not_mem_of_mem_segments`: no piece of a text contains a character that cuts.
-/

namespace EdgeGateway

namespace Text

/-! ## Trimming -/

/-- What stands behind a text that is not trimmed away is not trimmed in front. -/
theorem trimStart_append_of_ne_nil {p : Char → Bool} {s : Text} (t : Text)
    (h : trimStart p s ≠ []) : trimStart p (s ++ t) = trimStart p s ++ t := by
  have hkept : (s.dropWhile p).isEmpty = false := by simpa [trimStart] using h
  simp [trimStart, List.dropWhile_append, hkept]

/-- What stands before a text that is not trimmed away is not trimmed at the end. -/
theorem trimEnd_append_of_ne_nil {p : Char → Bool} (s : Text) {t : Text}
    (h : trimEnd p t ≠ []) : trimEnd p (s ++ t) = s ++ trimEnd p t := by
  have hkept : (t.reverse.dropWhile p).isEmpty = false := by simpa [trimEnd] using h
  simp [trimEnd, List.dropWhile_append, hkept]

/-- A text without trimmed characters is not trimmed in front. -/
theorem trimStart_of_none {p : Char → Bool} {t : Text} (h : ∀ c ∈ t, ¬ p c = true) :
    trimStart p t = t := by
  cases t with
  | nil => rfl
  | cons c rest => exact List.dropWhile_cons_of_neg (h c (by simp))

/-- A text without trimmed characters is not trimmed at the end. -/
theorem trimEnd_of_none {p : Char → Bool} {t : Text} (h : ∀ c ∈ t, ¬ p c = true) :
    trimEnd p t = t := by
  have hreverse : trimStart p t.reverse = t.reverse :=
    trimStart_of_none fun c hc => h c (List.mem_reverse.1 hc)
  rw [trimEnd, show t.reverse.dropWhile p = t.reverse from hreverse, List.reverse_reverse]

/-- Trimming the end cuts off a block of trimmed characters. -/
theorem eq_trimEnd_append (p : Char → Bool) (t : Text) :
    ∃ s, t = trimEnd p t ++ s ∧ ∀ c ∈ s, p c = true := by
  refine ⟨(t.reverse.takeWhile p).reverse, ?_, fun c hc => ?_⟩
  · rw [trimEnd, ← List.reverse_append, List.takeWhile_append_dropWhile, List.reverse_reverse]
  · exact List.all_eq_true.1 List.all_takeWhile c (List.mem_reverse.1 hc)

/-- What is left after trimming the end does not end in a trimmed character. -/
theorem getLast?_trimEnd {p : Char → Bool} {t : Text} :
    ∀ c ∈ (trimEnd p t).getLast?, p c = false := by
  intro c hc
  have hhead := List.head?_dropWhile_not p t.reverse
  rw [trimEnd, List.getLast?_reverse] at hc
  rw [show (t.reverse.dropWhile p).head? = some c from hc] at hhead
  exact hhead

/-- A text is not trimmed at the end exactly if it does not end in a trimmed character. -/
theorem trimEnd_eq_self_iff {p : Char → Bool} {t : Text} :
    trimEnd p t = t ↔ ∀ c ∈ t.getLast?, p c = false := by
  constructor
  · intro h
    rw [← h]
    exact getLast?_trimEnd
  · intro h
    rcases List.eq_nil_or_concat t with rfl | ⟨front, c, rfl⟩
    · rfl
    · rw [List.concat_eq_append] at h ⊢
      exact trimEnd_concat_of_neg front (h c (by simp))

/-- Trimming the end does not reach a first character that is not trimmed. -/
theorem trimEnd_cons_of_neg {p : Char → Bool} {c : Char} (t : Text) (h : p c = false) :
    trimEnd p (c :: t) = c :: trimEnd p t := by
  by_cases ht : trimEnd p t = []
  · obtain ⟨block, hblock, hall⟩ := eq_trimEnd_append p t
    rw [ht, List.nil_append] at hblock
    have hfirst : trimEnd p ([] ++ [c]) = [] ++ [c] := trimEnd_concat_of_neg [] h
    rw [ht, hblock]
    exact (trimEnd_append_of_all [c] hall).trans hfirst
  · exact trimEnd_append_of_ne_nil [c] ht

/-- Trimming the end keeps the first character of what is left. -/
theorem head?_trimEnd {p : Char → Bool} {t : Text} (h : trimEnd p t ≠ []) :
    (trimEnd p t).head? = t.head? := by
  obtain ⟨block, hblock, -⟩ := eq_trimEnd_append p t
  obtain ⟨c, rest, hrest⟩ := List.exists_cons_of_ne_nil h
  rw [hrest] at hblock ⊢
  rw [hblock]
  rfl

/-- What is trimmed anyway may be trimmed before. -/
theorem trimEnd_trimEnd_of_imp {p q : Char → Bool} (h : ∀ c, p c = true → q c = true)
    (t : Text) : trimEnd q (trimEnd p t) = trimEnd q t := by
  obtain ⟨block, hblock, hall⟩ := eq_trimEnd_append p t
  have hmore : trimEnd q (trimEnd p t ++ block) = trimEnd q (trimEnd p t) :=
    trimEnd_append_of_all _ fun c hc => h c (hall c hc)
  rw [← hblock] at hmore
  exact hmore.symm

/-- Trimming the front cuts off a block of trimmed characters. -/
theorem eq_append_trimStart (p : Char → Bool) (t : Text) : ∃ s, t = s ++ trimStart p t :=
  ⟨t.takeWhile p, List.takeWhile_append_dropWhile.symm⟩

/-- What is left after trimming the front does not begin with a trimmed character. -/
theorem head?_trimStart {p : Char → Bool} {t : Text} :
    ∀ c ∈ (trimStart p t).head?, p c = false := by
  intro c hc
  have hhead := List.head?_dropWhile_not p t
  rw [show (t.dropWhile p).head? = some c from hc] at hhead
  exact hhead

/-! ## Cutting -/

/-- A text is cut at a character of the class. -/
theorem head?_dropUntil {p : Char → Bool} {t : Text} :
    ∀ c ∈ (dropUntil p t).head?, p c = true := by
  intro c hc
  have hhead := List.head?_dropWhile_not (fun c => !p c) t
  rw [show (t.dropWhile fun c => !p c).head? = some c from hc] at hhead
  simpa using hhead

/-- A cut at a character of a text is not moved by what stands behind the text. -/
theorem cut_append_of_ne_nil {p : Char → Bool} {s : Text} (t : Text) (h : dropUntil p s ≠ []) :
    takeUntil p (s ++ t) = takeUntil p s ∧ dropUntil p (s ++ t) = dropUntil p s ++ t := by
  have hkept : (s.dropWhile fun c => !p c).isEmpty = false := by simpa [dropUntil] using h
  have hshort : ¬ (s.takeWhile fun c => !p c).length = s.length := by
    intro hlength
    have hcut := congrArg List.length (takeUntil_append_dropUntil p s)
    rw [List.length_append, show (takeUntil p s).length = s.length from hlength] at hcut
    exact h (List.eq_nil_of_length_eq_zero (by omega))
  constructor
  · simp [takeUntil, List.takeWhile_append, hshort]
  · simp [dropUntil, List.dropWhile_append, hkept]

/-- A text without a place to cut is cut at what stands behind it. -/
theorem cut_append_of_none {p : Char → Bool} {s t : Text} (hs : ∀ c ∈ s, p c = false)
    (ht : ∀ c ∈ t.head?, p c = true) : takeUntil p (s ++ t) = s ∧ dropUntil p (s ++ t) = t := by
  have hpass : ∀ c ∈ s, (!p c) = true := fun c hc => by simp [hs c hc]
  rw [takeUntil, dropUntil, List.takeWhile_append_of_pos hpass, List.dropWhile_append_of_pos hpass]
  cases t with
  | nil => simp
  | cons d rest =>
    have hd : p d = true := ht d rfl
    simp [hd]

/-- What stands before the first `c` is the text up to there, or all of it. -/
theorem fst_splitFirst? (c : Char) (t : Text) :
    ((splitFirst? c t).map Prod.fst).getD t = takeUntil (· == c) t := by
  have hcut := takeUntil_append_dropUntil (· == c) t
  unfold splitFirst?
  split
  · rename_i hdrop
    rw [hdrop, List.append_nil] at hcut
    exact hcut.symm
  · rfl

/-- A character that is not dropped from the front of a text stays in it. -/
theorem mem_dropWhile {p : Char → Bool} {t : Text} {c : Char} (hp : p c = false) (h : c ∈ t) :
    c ∈ t.dropWhile p := by
  rw [← List.takeWhile_append_dropWhile (p := p) (l := t)] at h
  rcases List.mem_append.1 h with h | h
  · have hall := List.all_eq_true.1 List.all_takeWhile c h
    rw [hp] at hall
    cases hall
  · exact h

/-- No piece of a text contains a character that cuts. -/
theorem not_mem_of_mem_segments {p : Char → Bool} {c : Char} {t s : Text} (hp : p c = true)
    (h : s ∈ segments p t) : c ∉ s := by
  induction t generalizing s with
  | nil =>
    obtain rfl : s = [] := by simpa [segments] using h
    simp
  | cons d rest ih =>
    rw [segments, List.splitOnP_cons_eq_if_modifyHead] at h
    split at h
    · rcases List.mem_cons.1 h with rfl | hrest
      · simp
      · exact ih hrest
    · rename_i hd
      obtain ⟨first, more, hsplit⟩ :=
        List.exists_cons_of_ne_nil (List.splitOnP_ne_nil p rest)
      rw [hsplit, List.modifyHead_cons] at h
      rcases List.mem_cons.1 h with rfl | hmore
      · have hfirst : c ∉ first := ih (by rw [segments, hsplit]; simp)
        have hcd : c ≠ d := by
          rintro rfl
          exact hd hp
        simp [hcd, hfirst]
      · exact ih (by rw [segments, hsplit]; simp [hmore])

end Text

end EdgeGateway
