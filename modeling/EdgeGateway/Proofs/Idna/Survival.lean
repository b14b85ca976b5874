import EdgeGateway.Idna.ToAscii
import Mathlib.Data.List.Basic

/-!
# What reading a domain name cannot remove

The forbidden characters of a domain name are looked for only after it was mapped, normalised and
decoded.  Control characters and the space come through all of these steps, so that none of them can
hide from the check.

Main results:

- Theorem `mem_normalize`: normalisation keeps every control character and space.
- Theorem `Punycode.mem_of_decode?`: so does decoding a label.
- Theorem `toAscii?_eq_none_of_low`: a domain name with a forbidden control character or space is
  refused.
-/

namespace EdgeGateway

/-! ## Normalisation -/

namespace Unicode

/-- The controls below U+0020, and the space. -/
def IsLow (c : Char) : Prop :=
  c.toNat ≤ 0x20

instance : DecidablePred IsLow :=
  fun c => inferInstanceAs (Decidable (c.toNat ≤ 0x20))

/-- What can be checked code point by code point holds of every low character. -/
theorem IsLow.forall {P : Char → Prop} (h : ∀ n ≤ 0x20, P (Char.ofNat n)) {c : Char}
    (hc : IsLow c) : P c := by
  have hcode := h c.toNat hc
  rwa [Char.ofNat_toNat] at hcode

/-- A low character is none of the others. -/
theorem IsLow.ne {c d : Char} (hc : IsLow c) (hd : ¬ IsLow d) : c ≠ d := by
  rintro rfl
  exact hd hc

/-- A low character is no letter and has no decomposition. -/
theorem decomposeChar_of_low {c : Char} (hc : IsLow c) : decomposeChar c = [c] := by
  have hlt : c.toNat < firstDecomposed := Nat.lt_of_le_of_lt hc (by decide)
  rw [decomposeChar, if_pos hlt]

/-- A low character does not combine with what follows it. -/
theorem composeChars?_low_left {c d : Char} (hc : IsLow c) : composeChars? c d = none := by
  unfold IsLow at hc
  have hangul : hangulComposite? c.toNat d.toNat = none := by
    unfold hangulComposite?
    rw [if_neg (by omega), if_neg (by omega)]
  have hpair : composite? c.toNat d.toNat = none := by
    unfold composite?
    rw [if_pos (.inl (Nat.lt_of_le_of_lt hc (by decide)))]
  rw [composeChars?, hangul, hpair]
  rfl

/-- A low character does not combine with what stands before it. -/
theorem composeChars?_low_right {c d : Char} (hc : IsLow c) : composeChars? d c = none := by
  unfold IsLow at hc
  have hangul : hangulComposite? d.toNat c.toNat = none := by
    unfold hangulComposite?
    rw [if_neg (by omega), if_neg (by omega)]
  have hpair : composite? d.toNat c.toNat = none := by
    unfold composite?
    rw [if_pos (.inr (Nat.lt_of_le_of_lt hc (by decide)))]
  rw [composeChars?, hangul, hpair]
  rfl

/-- Reading one more character either only adds it, or joins it with the starter. -/
theorem Composing.reversed_push (s : Composing) (d : Char) :
    (∀ c, c ∈ (s.push d).reversed ↔ c = d ∨ c ∈ s.reversed) ∨
      ∃ a composed, s.starter = some a ∧ composeChars? a d = some composed ∧
        (s.push d).reversed = s.marks ++ composed :: s.finished := by
  rcases s with ⟨finished, starter, marks⟩
  unfold Composing.push
  -- Which class it is does not matter, and looking it up in the table would take long.
  generalize combiningClass d = k
  cases starter with
  | none =>
    refine .inl fun c => ?_
    dsimp only
    by_cases hk : k = 0
    · rw [if_pos hk]
      simp [Composing.reversed, or_left_comm]
    · rw [if_neg hk]
      simp [Composing.reversed, or_left_comm]
  | some a =>
    dsimp only
    generalize ho : (if Composing.blocks _ d then none else composeChars? a d) = o
    cases o with
    | none =>
      refine .inl fun c => ?_
      by_cases hk : k = 0
      · simp only [if_pos hk]
        simp [Composing.reversed]
      · simp only [if_neg hk]
        simp [Composing.reversed]
    | some composed =>
      refine .inr ⟨a, composed, rfl, ?_, rfl⟩
      split at ho
      · cases ho
      · exact ho

/-- Reading one more character keeps the low characters read so far, and the new one if it is
low. -/
theorem Composing.mem_reversed_push {s : Composing} {c d : Char} (hc : IsLow c)
    (h : c = d ∨ c ∈ s.reversed) : c ∈ (s.push d).reversed := by
  rcases s.reversed_push d with hadds | ⟨a, composed, hstarter, hcomposed, hjoins⟩
  · exact (hadds c).2 h
  · -- Neither of the two characters that were joined is the low one.
    have hna : c ≠ a := by
      rintro rfl
      rw [composeChars?_low_left hc] at hcomposed
      cases hcomposed
    have hnd : c ≠ d := by
      rintro rfl
      rw [composeChars?_low_right hc] at hcomposed
      cases hcomposed
    have hmem : c ∈ s.marks ∨ c ∈ s.finished := by
      simpa [Composing.reversed, hstarter, hna, hnd] using h
    rw [hjoins]
    rcases hmem with hmem | hmem <;> simp [hmem]

/-- Composition keeps the low characters. -/
theorem mem_compose {c : Char} {t : Text} (hc : IsLow c) (h : c ∈ t) : c ∈ compose t := by
  have hfold : ∀ (t : Text) (s : Composing), c ∈ t ∨ c ∈ s.reversed →
      c ∈ (t.foldl Composing.push s).reversed := by
    intro t
    induction t with
    | nil => intro s h; simpa using h
    | cons d rest ih =>
      intro s h
      rw [List.foldl_cons]
      refine ih (s.push d) ?_
      rcases h with h | h
      · rcases List.mem_cons.1 h with h | h
        · exact .inr (Composing.mem_reversed_push hc (.inl h))
        · exact .inl h
      · exact .inr (Composing.mem_reversed_push hc (.inr h))
  rw [compose, List.mem_reverse]
  exact hfold t _ (.inl h)

/-- Normalisation keeps the low characters. -/
theorem mem_normalize {c : Char} {t : Text} (hc : IsLow c) (h : c ∈ t) : c ∈ normalize t := by
  have hdecomposed : c ∈ decompose t :=
    List.mem_flatMap.2 ⟨c, h, by simp [decomposeChar_of_low hc]⟩
  exact mem_compose hc ((reorder_perm _).mem_iff.2 hdecomposed)

end Unicode

namespace Idna

open Unicode (IsLow)

/-! ## Mapping -/

/-- A low character has no other case. -/
theorem toLower_of_low {c : Char} (hc : IsLow c) : c.toLower = c :=
  IsLow.forall (P := fun c => c.toLower = c) (by decide) hc

/-- Mapping keeps a low character as it is. -/
theorem mapChar?_of_low {c : Char} (hc : IsLow c) : mapChar? c = some [c] := by
  have hlt : c.toNat < 0x80 := Nat.lt_of_le_of_lt hc (by decide)
  rw [mapChar?, if_pos hlt, toLower_of_low hc]

/-- Whatever is read item by item has a result for every item. -/
theorem exists_mem_of_mapM {α β : Type} {f : α → Option β} {items : List α} {results : List β}
    {a : α} (h : items.mapM f = some results) (ha : a ∈ items) : ∃ b ∈ results, f a = some b := by
  induction items generalizing results with
  | nil => cases ha
  | cons first rest ih =>
    rw [List.mapM_cons] at h
    rcases Option.bind_eq_some_iff.1 h with ⟨b, hb, h⟩
    rcases Option.bind_eq_some_iff.1 h with ⟨more, hmore, h⟩
    cases h
    rcases List.mem_cons.1 ha with rfl | hrest
    · exact ⟨b, by simp, hb⟩
    · rcases ih hmore hrest with ⟨b', hb', hf⟩
      exact ⟨b', List.mem_cons_of_mem _ hb', hf⟩

/-- A check that lets a reading go on is passed. -/
theorem of_guard {p : Prop} [Decidable p] {u : Unit} (h : (guard p : Option Unit) = some u) :
    p := by
  by_cases hp : p
  · exact hp
  · have hnone : (guard p : Option Unit) = none := if_neg hp
    rw [hnone] at h
    cases h

/-- Mapping a text keeps its low characters. -/
theorem mem_of_map? {c : Char} {t mapped : Text} (hc : IsLow c) (h : map? t = some mapped)
    (hmem : c ∈ t) : c ∈ mapped := by
  rcases Option.map_eq_some_iff.1 h with ⟨pieces, hpieces, rfl⟩
  rcases exists_mem_of_mapM hpieces hmem with ⟨piece, hpiece, heq⟩
  rw [mapChar?_of_low hc] at heq
  cases heq
  exact List.mem_flatten.2 ⟨[c], hpiece, by simp⟩

/-! ## Decoding -/

namespace Punycode

/-- A low character is no digit. -/
theorem digitValue?_of_low {c : Char} (hc : IsLow c) : digitValue? c = none :=
  IsLow.forall (P := fun c => digitValue? c = none) (by decide) hc

/-- Reading a gap stops before a low character. -/
theorem mem_of_readGap? {c : Char} {bias : Nat} {t : Text} {k weight sum n : Nat} {rest : Text}
    (hc : IsLow c) (h : readGap? bias t k weight sum = some (n, rest)) (hmem : c ∈ t) :
    c ∈ rest := by
  fun_induction readGap? bias t k weight sum with
  | case1 => cases hmem
  | case2 => cases h
  | case3 d more k weight sum value hvalue hlt =>
    cases h
    rcases List.mem_cons.1 hmem with rfl | hmore
    · rw [digitValue?_of_low hc] at hvalue
      cases hvalue
    · exact hmore
  | case4 d more k weight sum value hvalue hlt ih =>
    rcases List.mem_cons.1 hmem with rfl | hmore
    · rw [digitValue?_of_low hc] at hvalue
      cases hvalue
    · exact ih h hmore

/-- A text with a low character is no sequence of gaps. -/
theorem not_mem_of_readGaps? {c : Char} {size bias : Nat} {first : Bool} {t : Text}
    {found : List Nat} (hc : IsLow c) (h : readGaps? size bias first t = some found) : c ∉ t := by
  fun_induction readGaps? size bias first t generalizing found with
  | case1 => simp
  | case2 => cases h
  | case3 size bias first d tail gap rest hgap ih =>
    rcases Option.map_eq_some_iff.1 h with ⟨more, hmore, -⟩
    exact fun hmem => ih hmore (mem_of_readGap? hc hgap hmem)

/-- Inserting characters keeps the others. -/
theorem mem_of_insertAll? {c : Char} {n position : Nat} {t result : Text} {found : List Nat}
    (h : insertAll? n position t found = some result) (hmem : c ∈ t) : c ∈ result := by
  fun_induction insertAll? n position t found with
  | case1 =>
    cases h
    exact hmem
  | case2 n position t gap rest size m i hvalid ih =>
    have hi : i ≤ t.length := Nat.le_of_lt_succ (Nat.mod_lt _ (Nat.succ_pos _))
    exact ih h ((List.mem_insertIdx hi).2 (.inr hmem))
  | case3 => cases h

/-- Decoding a label keeps its low characters. -/
theorem mem_of_decode? {c : Char} {t result : Text} (hc : IsLow c) (h : decode? t = some result)
    (hmem : c ∈ t) : c ∈ result := by
  have hread : ∀ ascii written : Text, (c ∈ ascii ∨ c ∈ written) →
      (readGaps? ascii.length 72 true written).bind (insertAll? 128 0 ascii) = some result →
      c ∈ result := by
    intro ascii written hmem h
    rcases Option.bind_eq_some_iff.1 h with ⟨found, hfound, h⟩
    rcases hmem with hmem | hmem
    · exact mem_of_insertAll? h hmem
    · exact absurd hmem (not_mem_of_readGaps? hc hfound)
  have hhyphen : c ≠ '-' := hc.ne (by decide)
  unfold decode? at h
  split at h
  rename_i ascii written hsplit
  split at h
  · refine hread ascii written ?_ h
    split at hsplit
    · cases hsplit
      exact .inr hmem
    · cases hsplit
      exact .inr hmem
    · rename_i hlast
      cases hsplit
      rcases Text.splitLast?_eq_some_iff.1 hlast with ⟨rfl, -⟩
      simpa [hhyphen] using hmem
  · cases h

end Punycode

/-- Reading a label keeps its low characters. -/
theorem mem_of_unicodeLabel? {c : Char} {label result : Text} (hc : IsLow c)
    (h : unicodeLabel? label = some result) (hmem : c ∈ label) : c ∈ result := by
  have hfront : c ∉ acePrefix := by
    intro h
    have hall : (acePrefix.all fun d => ¬ d.toNat ≤ 0x20) = true := by decide
    exact of_decide_eq_true (List.all_eq_true.1 hall c h) hc
  unfold unicodeLabel? at h
  split at h
  · rename_i written hwritten
    have hlabel := List.append_eq_of_isPrefixOf?_eq_some hwritten
    rw [← hlabel, List.mem_append] at hmem
    split at h
    · unfold decodeLabel? at h
      split at h
      · split at h
        · rename_i read hread
          split at h
          · cases h
          · cases h
            exact Punycode.mem_of_decode? hc hread (hmem.resolve_left hfront)
        · cases h
      · cases h
    · cases h
  · cases h
    exact hmem

/-! ## Domain names -/

/-- A forbidden low character cannot be hidden in a domain name. -/
theorem toAscii?_eq_none_of_low {forbidden : Char → Bool} {domain : Text} {c : Char}
    (hc : IsLow c) (hf : forbidden c = true) (hmem : c ∈ domain) :
    toAscii? forbidden domain = none := by
  refine Option.eq_none_iff_forall_ne_some.2 fun name h => ?_
  rcases Option.bind_eq_some_iff.1 h with ⟨labels, hlabels, h⟩
  rcases Option.bind_eq_some_iff.1 h with ⟨read, hread, h⟩
  rcases Option.map_eq_some_iff.1 hlabels with ⟨mapped, hmapped, rfl⟩
  have hdot : (c == '.') = false := beq_false_of_ne (hc.ne (by decide))
  obtain ⟨label, hlabel, hcl⟩ := Text.exists_segment_mem (p := (· == '.')) hdot
    (Unicode.mem_normalize hc (mem_of_map? hc hmapped hmem))
  rcases exists_mem_of_mapM hread hlabel with ⟨result, hresult, hread'⟩
  have hcr := mem_of_unicodeLabel? hc hread' hcl
  rcases Option.bind_eq_some_iff.1 h with ⟨_, hguard, _⟩
  have hall := of_guard hguard
  have hclean := List.all_eq_true.1 hall result hresult
  have hany : result.any forbidden = true := List.any_eq_true.2 ⟨c, hcr, hf⟩
  simp [hany] at hclean

end Idna

end EdgeGateway
