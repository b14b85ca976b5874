import EdgeGateway.Text.Quoted

/-!
# Reading quoted text

A quoted text stays on one line and can be read back: every escape says which character it stands
for and where it ends, and a quote between the quotes has a backslash in front of it.  A quoted text
is therefore found again in a longer text when a blank stands in front of it and no quote behind it,
whatever the longer text says.

Main results:

- Theorem `ofDigits_hexadecimal`: a number is read back from its hexadecimal digits.
- Theorem `oneLine_encode`: a quoted text is one line.
- Theorem `unescape?_escape`: a character is read back from its escape, whatever stands behind it.
- Theorem `inside_quote_inj`: the closing quote is found, and the text in front of it.
- Theorem `append_encode_append_inj`: a quoted text is found again in a longer text.
-/

namespace EdgeGateway

namespace Text

/-! ## Hexadecimal digits -/

/-- The last digit of a number stands behind the digits of the others. -/
theorem hexadecimal_eq (n : Nat) :
    hexadecimal n =
      if n < 16 then [Nat.digitChar n] else hexadecimal (n / 16) ++ [Nat.digitChar (n % 16)] :=
  Nat.toDigits_eq_if (by decide)

/-- A number is written with the sixteen digits. -/
theorem mem_hexadecimal {c : Char} {n : Nat} (h : c ∈ hexadecimal n) :
    ∃ d < 16, c = Nat.digitChar d := by
  induction n using Nat.strongRecOn with
  | ind n ih =>
    rw [hexadecimal_eq] at h
    split at h
    · rename_i hn
      exact ⟨n, hn, List.mem_singleton.1 h⟩
    · rcases List.mem_append.1 h with h | h
      · exact ih (n / 16) (by omega) h
      · exact ⟨n % 16, by omega, List.mem_singleton.1 h⟩

/-- A digit more is the last one. -/
theorem ofDigits_concat (base : Nat) (t : Text) (c : Char) :
    ofDigits base (t ++ [c]) = base * ofDigits base t + (digitValue? c).getD 0 := by
  simp [ofDigits]

/-- A number is read back from its hexadecimal digits. -/
theorem ofDigits_hexadecimal (n : Nat) : ofDigits 16 (hexadecimal n) = n := by
  have hdigit : ∀ d < 16, (digitValue? (Nat.digitChar d)).getD 0 = d := by decide
  induction n using Nat.strongRecOn with
  | ind n ih =>
    rw [hexadecimal_eq]
    split
    · rename_i hn
      have hone : ofDigits 16 ([] ++ [Nat.digitChar n]) = n := by
        rw [ofDigits_concat, hdigit n hn]
        simp [ofDigits]
      exact hone
    · rw [ofDigits_concat, hdigit _ (by omega), ih (n / 16) (by omega)]
      omega

/-! ## Lines -/

/-- A character that stays on its line. -/
def IsInline (c : Char) : Prop :=
  0x20 ≤ c.toNat ∧ c.toNat ∉ [0x7F, 0x85, 0x2028, 0x2029]

instance (c : Char) : Decidable (IsInline c) :=
  inferInstanceAs (Decidable (0x20 ≤ c.toNat ∧ c.toNat ∉ [0x7F, 0x85, 0x2028, 0x2029]))

/-- A text of one line. -/
def OneLine (t : Text) : Prop :=
  ∀ c ∈ t, IsInline c

instance (t : Text) : Decidable (OneLine t) :=
  List.decidableBAll IsInline t

@[simp]
theorem oneLine_cons {c : Char} {t : Text} : OneLine (c :: t) ↔ IsInline c ∧ OneLine t :=
  List.forall_mem_cons

@[simp]
theorem oneLine_append {s t : Text} : OneLine (s ++ t) ↔ OneLine s ∧ OneLine t :=
  List.forall_mem_append

/-- Lines that are put together character by character. -/
theorem oneLine_flatMap {t : Text} {f : Char → Text} (h : ∀ c ∈ t, OneLine (f c)) :
    OneLine (t.flatMap f) := by
  intro d hd
  obtain ⟨c, hc, hdc⟩ := List.mem_flatMap.1 hd
  exact h c hc d hdc

/-- The digits of a number stay on their line. -/
theorem oneLine_hexadecimal (n : Nat) : OneLine (hexadecimal n) := by
  have hdigit : ∀ d < 16, IsInline (Nat.digitChar d) := by decide
  intro c hc
  obtain ⟨d, hd, rfl⟩ := mem_hexadecimal hc
  exact hdigit d hd

end Text

namespace Quoted

/-! ## Escapes -/

/-- The escapes of two characters: what stands behind the backslash, and what it stands for. -/
def shortEscapes : List (Char × Char) :=
  [('"', '"'), ('\\', '\\'), ('t', '\t'), ('r', '\r'), ('n', '\n'), ('0', '\x00')]

/-- A character is written as a short escape, by its number, or as it is. -/
theorem escape_cases (c : Char) :
    (∃ e, (e, c) ∈ shortEscapes ∧ escape c = ['\\', e]) ∨ escape c = numbered c ∨
      (isNumbered c = false ∧ c ≠ '"' ∧ c ≠ '\\' ∧ escape c = [c]) := by
  unfold escape
  split
  · exact .inl ⟨'"', by decide, rfl⟩
  · exact .inl ⟨'\\', by decide, rfl⟩
  · exact .inl ⟨'t', by decide, rfl⟩
  · exact .inl ⟨'r', by decide, rfl⟩
  · exact .inl ⟨'n', by decide, rfl⟩
  · exact .inl ⟨'0', by decide, rfl⟩
  · rename_i hquote hbackslash _ _ _ _
    right
    by_cases hnumbered : isNumbered c = true
    · exact .inl (if_pos hnumbered)
    · exact .inr ⟨by simpa using hnumbered, hquote, hbackslash, if_neg hnumbered⟩

/-- A character that is not written by its number stays on its line. -/
theorem isInline_of_not_numbered {c : Char} (h : isNumbered c = false) : Text.IsInline c := by
  simp only [isNumbered, isControl, isSeparator, Bool.or_eq_false_iff, Bool.and_eq_false_iff,
    decide_eq_false_iff_not, beq_eq_false_iff_ne] at h
  simp only [Text.IsInline, List.mem_cons, List.not_mem_nil, or_false]
  omega

/-- An escape stays on its line. -/
theorem oneLine_escape (c : Char) : Text.OneLine (escape c) := by
  rcases escape_cases c with ⟨e, he, hwritten⟩ | hwritten | ⟨hc, -, -, hwritten⟩
  · have hall : ∀ x ∈ shortEscapes, Text.OneLine ['\\', x.1] := by decide
    rw [hwritten]
    exact hall _ he
  · have hfront : Text.OneLine ['\\', 'u', '\x7b'] := by decide
    have hback : Text.OneLine ['\x7d'] := by decide
    rw [hwritten, numbered, Text.oneLine_append, Text.oneLine_append]
    exact ⟨⟨hfront, Text.oneLine_hexadecimal _⟩, hback⟩
  · rw [hwritten]
    intro d hd
    rw [List.mem_singleton.1 hd]
    exact isInline_of_not_numbered hc

/-- A quoted text is one line. -/
theorem oneLine_encode (t : Text) : Text.OneLine (encode t) := by
  have hquote : Text.OneLine ['"'] := by decide
  have hinside : Text.OneLine (inside t) := Text.oneLine_flatMap fun c _ => oneLine_escape c
  have hencode : encode t = ['"'] ++ (inside t ++ ['"']) := rfl
  rw [hencode, Text.oneLine_append, Text.oneLine_append]
  exact ⟨hquote, hinside, hquote⟩

/-! ## Reading -/

/-- The first character that is written in a text, and the text behind it; none at a quote. -/
def unescape? : Text → Option (Char × Text)
  | '\\' :: 'u' :: '\x7b' :: rest =>
    (Text.splitFirst? '\x7d' rest).map fun (digits, behind) =>
      (Char.ofNat (Text.ofDigits 16 digits), behind)
  | '\\' :: e :: rest => (shortEscapes.lookup e).map fun c => (c, rest)
  | c :: rest => if c = '"' ∨ c = '\\' then none else some (c, rest)
  | [] => none

/-- A character is read back from its escape, whatever stands behind it. -/
theorem unescape?_escape (c : Char) (rest : Text) :
    unescape? (escape c ++ rest) = some (c, rest) := by
  rcases escape_cases c with ⟨e, he, hwritten⟩ | hwritten | ⟨-, hquote, hbackslash, hwritten⟩
  · have hlookup : ∀ x ∈ shortEscapes, x.1 ≠ 'u' ∧ shortEscapes.lookup x.1 = some x.2 := by decide
    obtain ⟨hu, hc⟩ := hlookup _ he
    rw [hwritten]
    simp [unescape?, hu, hc]
  · have hbrace : '\x7d' ∉ Text.hexadecimal c.toNat := by
      have hdigit : ∀ d < 16, '\x7d' ≠ Nat.digitChar d := by decide
      intro h
      obtain ⟨d, hd, heq⟩ := Text.mem_hexadecimal h
      exact hdigit d hd heq
    have hsplit : Text.splitFirst? '\x7d' (Text.hexadecimal c.toNat ++ '\x7d' :: rest) =
        some (Text.hexadecimal c.toNat, rest) :=
      Text.splitFirst?_eq_some_iff.2 ⟨rfl, hbrace⟩
    rw [hwritten]
    simp [numbered, unescape?, hsplit, Text.ofDigits_hexadecimal]
  · rw [hwritten]
    simp [unescape?, hquote, hbackslash]

/-- The closing quote is found, and the text in front of it. -/
theorem inside_quote_inj {s t behind behind' : Text}
    (h : inside s ++ '"' :: behind = inside t ++ '"' :: behind') : s = t ∧ behind = behind' := by
  have hclosed (rest : Text) : unescape? ('"' :: rest) = none := by simp [unescape?]
  have hcons (c : Char) (u rest : Text) :
      unescape? (inside (c :: u) ++ rest) = some (c, inside u ++ rest) := by
    rw [inside, List.flatMap_cons, List.append_assoc, unescape?_escape]
    rfl
  induction s generalizing t with
  | nil =>
    cases t with
    | nil => exact ⟨rfl, (List.cons_eq_cons.1 h).2⟩
    | cons d t =>
      have hread := congrArg unescape? h
      rw [hcons] at hread
      exact absurd ((hclosed _).symm.trans hread) (by simp)
  | cons c s ih =>
    cases t with
    | nil =>
      have hread := congrArg unescape? h
      rw [hcons] at hread
      exact absurd (hread.trans (hclosed _)) (by simp)
    | cons d t =>
      have hread := congrArg unescape? h
      rw [hcons, hcons] at hread
      obtain ⟨hfirst, hrest⟩ := Prod.mk.inj (Option.some.inj hread)
      obtain ⟨rfl, rfl⟩ := ih hrest
      exact ⟨by rw [hfirst], rfl⟩

/-! ## Quotes in a longer text -/

/-- A quote in an escape has a backslash in front of it. -/
theorem getLast?_of_escape {c : Char} {front behind : Text}
    (h : escape c = front ++ '"' :: behind) : front.getLast? = some '\\' := by
  have hmem : '"' ∈ escape c := by simp [h]
  rcases escape_cases c with ⟨e, -, hwritten⟩ | hwritten | ⟨-, hquote, -, hwritten⟩
  · rw [hwritten] at h
    rcases front with _ | ⟨a, _ | ⟨b, more⟩⟩
    · simp at h
    · obtain ⟨rfl, -⟩ := List.cons_eq_cons.1 h
      rfl
    · simp at h
  · have hdigit : ∀ d < 16, '"' ≠ Nat.digitChar d := by decide
    rw [hwritten, numbered] at hmem
    have hhex : '"' ∈ Text.hexadecimal c.toNat := by simpa using hmem
    obtain ⟨d, hd, heq⟩ := Text.mem_hexadecimal hhex
    exact absurd heq (hdigit d hd)
  · rw [hwritten, List.mem_singleton] at hmem
    exact absurd hmem.symm hquote

/-- A quote between the quotes has a backslash in front of it. -/
theorem getLast?_of_inside {t front behind : Text} (h : inside t = front ++ '"' :: behind) :
    front.getLast? = some '\\' := by
  induction t generalizing front with
  | nil => simp [inside] at h
  | cons c t ih =>
    rw [inside, List.flatMap_cons] at h
    rcases List.append_eq_append_iff.1 h with ⟨k, rfl, hrest⟩ | ⟨k, hescape, hrest⟩
    · rw [List.getLast?_append, ih hrest]
      rfl
    · cases k with
      | nil =>
        have hnone : ([] : Text).getLast? = some '\\' := ih hrest.symm
        cases hnone
      | cons d k =>
        obtain ⟨rfl, -⟩ := List.cons_eq_cons.1 hrest
        exact getLast?_of_escape hescape

/-- A quoted text with a blank in front of it does not begin within another one, or behind it when
no quote stands there. -/
theorem eq_nil_of_encode_append {front s t k back back' : Text} (hback : '"' ∉ back)
    (hblank : (front ++ k).getLast? = some ' ')
    (h : encode s ++ back = k ++ (encode t ++ back')) : k = [] := by
  cases k with
  | nil => rfl
  | cons d k =>
    exfalso
    obtain ⟨-, hrest⟩ := List.cons_eq_cons.1 h
    have hsplit : inside s ++ '"' :: back = k ++ '"' :: (inside t ++ '"' :: back') := by
      simpa [encode] using hrest
    rcases List.append_eq_append_iff.1 hsplit with ⟨j, -, hj⟩ | ⟨j, hinside, hj⟩
    · have hquote : '"' ∈ back := by
        cases j with
        | nil => simp [(List.cons_eq_cons.1 hj).2]
        | cons x j => simp [(List.cons_eq_cons.1 hj).2]
      exact hback hquote
    · cases j with
      | nil =>
        have hquote : '"' ∈ back := by simp [← (List.cons_eq_cons.1 hj).2]
        exact hback hquote
      | cons x j =>
        obtain ⟨rfl, -⟩ := List.cons_eq_cons.1 hj
        rw [List.getLast?_append, List.getLast?_cons, getLast?_of_inside hinside] at hblank
        have heq : '\\' = ' ' := Option.some.inj hblank
        exact absurd heq (by decide)

/-- A quoted text is found again in a longer text when a blank stands in front of it and no quote
behind it. -/
theorem append_encode_append_inj {front front' s t back back' : Text}
    (hfront : front.getLast? = some ' ') (hfront' : front'.getLast? = some ' ')
    (hback : '"' ∉ back) (hback' : '"' ∉ back')
    (h : front ++ (encode s ++ back) = front' ++ (encode t ++ back')) :
    front = front' ∧ s = t ∧ back = back' := by
  have hsame : front = front' := by
    rcases List.append_eq_append_iff.1 h with ⟨k, rfl, hrest⟩ | ⟨k, rfl, hrest⟩
    · rw [eq_nil_of_encode_append hback hfront' hrest, List.append_nil]
    · rw [eq_nil_of_encode_append hback' hfront hrest, List.append_nil]
  subst hsame
  have hquoted := List.append_cancel_left h
  have hinside : inside s ++ '"' :: back = inside t ++ '"' :: back' := by
    simpa [encode] using hquoted
  exact ⟨rfl, inside_quote_inj hinside⟩

end Quoted

end EdgeGateway
