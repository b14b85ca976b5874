import EdgeGateway.Http.Target

/-!
# Characters of request targets

A target is refused unless its bytes are those of paths and queries.  Controls, spaces and number
signs therefore occur nowhere in a target, and question marks only in its query.

Main results:

- Theorem `mem_of_component`: the ASCII characters of a component have bytes of its class.
- Theorem `exists_suffix_of_parse`: where in a text a target is read.
- Theorem `tidy_of_parse`: what no target contains.
- Theorem `path_of_parse`, `parse_path_iff`: which paths can be asked for.
-/

namespace EdgeGateway

namespace Http

namespace Target

/-- A target without controls, spaces, number signs, and question marks in its path. -/
structure Tidy (t : Target) : Prop where
  path : ∀ c ∈ t.path, 0x20 < c.toNat ∧ c ≠ '?' ∧ c ≠ '#'
  query : ∀ q ∈ t.query, ∀ c ∈ q, 0x20 < c.toNat ∧ c ≠ '#'

/-- The ASCII characters of a component have bytes of its class. -/
theorem mem_of_component {allowed : UInt8 → Bool} {bytes : Bytes} {t : Text} {c : Char}
    (h : component allowed bytes = .ok t) (hc : c ∈ t) (hascii : c.toNat < 128) :
    allowed (UInt8.ofNat c.toNat) = true := by
  unfold component at h
  split at h
  · rename_i hall
    split at h
    · rename_i decoded hdecode
      cases h
      have hmem : UInt8.ofNat c.toNat ∈ Utf8.encode t := by
        refine List.mem_flatMap.2 ⟨c, hc, ?_⟩
        rw [Utf8.encodeChar_of_ascii hascii]
        exact List.mem_singleton_self _
      rw [Utf8.encode_of_decode? hdecode] at hmem
      exact List.all_eq_true.1 hall _ hmem
    · cases h
  · cases h

/-- The characters of paths: all but controls, spaces and five marks. -/
def isPathChar (c : Char) : Bool :=
  0x20 < c.toNat && c ≠ '\x7f' && c ∉ "#<>?\x60".toList

/-- A character is one of paths exactly if its bytes are. -/
theorem isPathByte_iff (c : Char) :
    (∀ b ∈ String.utf8EncodeChar c, isPathByte b = true) ↔ isPathChar c = true := by
  by_cases hascii : c.toNat < 128
  · have htable : ∀ n < 128, isPathByte (UInt8.ofNat n) = isPathChar (Char.ofNat n) := by
      decide +kernel
    have hbyte := htable _ hascii
    rw [Char.ofNat_toNat] at hbyte
    rw [Utf8.encodeChar_of_ascii hascii, List.forall_mem_singleton, hbyte]
  · have hextended : 128 ≤ c.toNat := Nat.le_of_not_lt hascii
    constructor
    · intro _
      have hmark : ∀ mark ∈ '\x7f' :: "#<>?\x60".toList, c ≠ mark := by
        rintro mark hmark rfl
        have hall : ∀ mark ∈ '\x7f' :: "#<>?\x60".toList, mark.toNat < 128 := by simp
        exact hascii (hall _ hmark)
      have hcontrol : 0x20 < c.toNat := by omega
      simp only [List.forall_mem_cons] at hmark
      simp [isPathChar, hcontrol, hmark]
    · intro _ b hb
      have hbyte : 128 ≤ b.toNat := Utf8.le_byte_of_extended hextended hb
      simp [isPathByte, isExtended, UInt8.le_iff_toNat_le, hbyte]

/-- A text can be written as a path exactly if its characters are those of paths. -/
theorem component_path_iff {t : Text} :
    component isPathByte (Utf8.encode t) = .ok t ↔ ∀ c ∈ t, isPathChar c = true := by
  have hbytes : (Utf8.encode t).all isPathByte = true ↔ ∀ c ∈ t, isPathChar c = true := by
    simp only [List.all_eq_true, Utf8.encode, List.mem_flatMap]
    constructor
    · intro h c hc
      apply (isPathByte_iff c).1
      intro b hb
      exact h b ⟨c, hc, hb⟩
    · rintro h b ⟨c, hc, hb⟩
      exact (isPathByte_iff c).2 (h c hc) b hb
  rw [← hbytes, component, Utf8.decode?_encode]
  by_cases hall : (Utf8.encode t).all isPathByte = true
  · simp [hall]
  · simp [hall]

/-- A component is the text of its bytes. -/
theorem encode_of_component {allowed : UInt8 → Bool} {bytes : Bytes} {t : Text}
    (h : component allowed bytes = .ok t) : Utf8.encode t = bytes := by
  unfold component at h
  split at h
  · split at h
    · rename_i decoded hdecode
      cases h
      exact Utf8.encode_of_decode? hdecode
    · cases h
  · cases h

/-- The characters of a path. -/
theorem path_of_component {bytes : Bytes} {t : Text} (h : component isPathByte bytes = .ok t) :
    ∀ c ∈ t, isPathChar c = true := by
  rw [← encode_of_component h] at h
  exact component_path_iff.1 h

/-- The characters of a query. -/
theorem query_of_component {bytes : Bytes} {t : Text} (h : component isQueryByte bytes = .ok t) :
    ∀ c ∈ t, 0x20 < c.toNat ∧ c ≠ '#' := by
  intro c hc
  by_cases hascii : c.toNat < 128
  · have htable : ∀ n < 128, isQueryByte (UInt8.ofNat n) = true →
        0x20 < n ∧ Char.ofNat n ≠ '#' := by decide +kernel
    have hbyte := htable _ hascii (mem_of_component h hc hascii)
    rwa [Char.ofNat_toNat] at hbyte
  · refine ⟨by omega, ?_⟩
    rintro rfl
    exact hascii (by decide)

/-- A step that comes before a good result is good. -/
theorem exists_of_bind {α β : Type} {x : Except Error α} {f : α → Except Error β} {b : β}
    (h : x >>= f = .ok b) : ∃ a, x = .ok a ∧ f a = .ok b := by
  cases x with
  | error error => cases h
  | ok a => exact ⟨a, rfl, h⟩

/-- What is read as path and query is a path and a query. -/
theorem components_of_parsePath {bytes : Bytes} {t : Target} (h : parsePath bytes = .ok t) :
    (t.path = ['/'] ∨ ∃ written, written <+: bytes ∧ component isPathByte written = .ok t.path) ∧
      ∀ q ∈ t.query, ∃ written, component isQueryByte written = .ok q := by
  have hfirst : (cut '?' (cut '#' bytes).1).1 <+: bytes := by
    have hquery := cut_append '?' (cut '#' bytes).1
    have hfragment := cut_append '#' bytes
    exact (List.prefix_iff_exists_eq_append.2 ⟨_, hquery.symm⟩).trans
      (List.prefix_iff_exists_eq_append.2 ⟨_, hfragment.symm⟩)
  unfold parsePath at h
  generalize cut '?' (cut '#' bytes).1 = parts at h hfirst
  rcases parts with ⟨first, second⟩
  rcases exists_of_bind h with ⟨path, hpath, h⟩
  rcases exists_of_bind h with ⟨query, hquery, h⟩
  cases h
  refine ⟨?_, ?_⟩
  · by_cases hempty : path = []
    · left
      simp [hempty]
    · right
      refine ⟨first, hfirst, ?_⟩
      rw [hpath]
      simp [hempty]
  · intro q hq
    cases second with
    | none =>
      cases hquery
      cases hq
    | some written =>
      obtain rfl : query = some q := hq
      rw [Option.mapM_some] at hquery
      rcases hread : component isQueryByte written with error | read
      · rw [hread] at hquery
        cases hquery
      · rw [hread] at hquery
        cases hquery
        exact ⟨written, hread⟩

/-- What stands behind a scheme is the end of the text. -/
theorem suffix_of_afterScheme {bytes rest : Bytes} (h : afterScheme bytes = .ok (some rest)) :
    rest <:+ bytes := by
  unfold afterScheme at h
  split at h
  · cases h
    exact List.drop_suffix _ _
  · dsimp only at h
    split at h
    · rename_i colon a b more hdrop
      split at h
      · split at h
        · cases h
        · split at h
          · cases h
            have hbehind : rest <:+ colon :: a :: b :: rest := ⟨[colon, a, b], rfl⟩
            rw [← hdrop] at hbehind
            exact hbehind.trans (List.dropWhile_suffix _)
          · cases h
      · cases h
    · cases h

/-- A target that is one slash, an asterisk or an authority. -/
def IsBare (t : Target) : Prop :=
  t.query = none ∧ t.path ∈ [[], ['/'], ['*']]

/-- A target with an authority in front is read from the end of the text, if it is not bare. -/
theorem exists_suffix_of_parseFull {bytes : Bytes} {t : Target} (h : parseFull bytes = .ok t) :
    t.IsBare ∨ ∃ rest, rest <:+ bytes ∧ parsePath rest = .ok t := by
  unfold parseFull at h
  rcases exists_of_bind h with ⟨behind, hbehind, h⟩
  dsimp only at h
  rcases exists_of_bind h with ⟨_, -, h⟩
  cases behind with
  | none =>
    left
    simp only [Option.isNone_none, if_true] at h
    split at h
    · cases h
      simp [IsBare]
    · cases h
  | some text =>
    right
    simp only [Option.isNone_some, Bool.false_eq_true, if_false, Option.getD_some] at h
    by_cases hempty : text.takeWhile (fun b => !isDelimiter b) = []
    · rw [if_pos hempty] at h
      cases h
    · rw [if_neg hempty] at h
      exact ⟨_, (List.dropWhile_suffix _).trans (suffix_of_afterScheme hbehind), h⟩

/-- Every target is bare or read from the end of the text. -/
theorem exists_suffix_of_parse {bytes : Bytes} {t : Target} (h : parse bytes = .ok t) :
    t.IsBare ∨ ∃ rest, rest <:+ bytes ∧ parsePath rest = .ok t := by
  unfold parse at h
  split at h
  · cases h
  · split at h
    · cases h
    · split at h
      · cases h
        simp [IsBare]
      · split at h
        · cases h
          simp [IsBare]
        · split at h
          · cases h
          · cases hcheck : checkAuthority _ with
            | error error =>
              rw [hcheck] at h
              cases h
            | ok checked =>
              rw [hcheck] at h
              cases h
              simp [IsBare]
    · split at h
      · exact .inr ⟨_, List.suffix_rfl, h⟩
      · exact exists_suffix_of_parseFull h

/-- Every target that is read is tidy. -/
theorem tidy_of_parse {bytes : Bytes} {t : Target} (h : parse bytes = .ok t) : Tidy t := by
  have hpathChar (c : Char) (hc : isPathChar c = true) : 0x20 < c.toNat ∧ c ≠ '?' ∧ c ≠ '#' := by
    simp only [isPathChar, Bool.and_eq_true, decide_eq_true_eq] at hc
    refine ⟨hc.1.1, ?_, ?_⟩
    · rintro rfl
      exact absurd hc.2 (by decide)
    · rintro rfl
      exact absurd hc.2 (by decide)
  constructor
  case path =>
    intro c hc
    apply hpathChar
    rcases exists_suffix_of_parse h with ⟨-, hbare⟩ | ⟨rest, -, hrest⟩
    · have hall : ∀ path ∈ [[], ['/'], ['*']], path.all isPathChar = true := by decide
      exact List.all_eq_true.1 (hall _ hbare) c hc
    · rcases (components_of_parsePath hrest).1 with hslash | ⟨written, -, hwritten⟩
      · rw [hslash, List.mem_singleton] at hc
        rw [hc]
        decide
      · exact path_of_component hwritten c hc
  case query =>
    intro q hq
    rcases exists_suffix_of_parse h with ⟨hnone, -⟩ | ⟨rest, -, hrest⟩
    · rw [hnone] at hq
      cases hq
    · obtain ⟨written, hwritten⟩ := (components_of_parsePath hrest).2 q hq
      exact query_of_component hwritten

/-! ## Paths that can be asked for -/

/-- No text is read that is longer than a target may be. -/
theorem length_le_of_parse {bytes : Bytes} {t : Target} (h : parse bytes = .ok t) :
    bytes.length ≤ maxLength := by
  unfold parse at h
  split at h
  · cases h
  · omega

/-- A path with more than one character has been written as it is read. -/
theorem path_of_parse {bytes : Bytes} {t : Target} (h : parse bytes = .ok t)
    (hlong : 1 < t.path.length) :
    (∀ c ∈ t.path, isPathChar c = true) ∧ (Utf8.encode t.path).length ≤ maxLength := by
  have hlength := length_le_of_parse h
  rcases exists_suffix_of_parse h with ⟨-, hbare⟩ | ⟨rest, hsuffix, hrest⟩
  · have hall : ∀ path ∈ [[], ['/'], ['*']], path.length ≤ 1 := by decide
    exact absurd hlong (Nat.not_lt.2 (hall _ hbare))
  · rcases (components_of_parsePath hrest).1 with hslash | ⟨written, hprefix, hwritten⟩
    · rw [hslash] at hlong
      exact absurd hlong (by decide)
    · refine ⟨path_of_component hwritten, ?_⟩
      rw [encode_of_component hwritten]
      exact Nat.le_trans (Nat.le_trans hprefix.length_le hsuffix.length_le) hlength

/-- A cut does not find a byte that is not there. -/
theorem cut_of_not_mem {c : Char} {bytes : Bytes} (h : byte c ∉ bytes) :
    cut c bytes = (bytes, none) := by
  have hdrop : bytes.dropWhile (· != byte c) = [] := by
    have hpass : ∀ b ∈ bytes, (b != byte c) = true := by
      intro b hb
      rw [bne_iff_ne]
      rintro rfl
      exact h hb
    have hall : (bytes ++ []).dropWhile (· != byte c) = List.dropWhile (· != byte c) [] :=
      List.dropWhile_append_of_pos hpass
    simpa using hall
  rw [cut, hdrop]

/-- A path is read the same whether it is one slash or more. -/
theorem parse_of_slash {rest : Bytes} :
    parse (byte '/' :: rest) =
      if maxLength < (byte '/' :: rest).length then .error .tooLong
      else parsePath (byte '/' :: rest) := by
  unfold parse
  split
  · rfl
  · rcases rest with _ | ⟨b, rest⟩
    · rfl
    · simp

/-- A path can be asked for by itself exactly if its characters are those of paths and it is not too
long. -/
theorem parse_path_iff {path : Text} :
    parse (Utf8.encode ('/' :: path)) = .ok ⟨'/' :: path, none⟩ ↔
      (∀ c ∈ path, isPathChar c = true) ∧ (Utf8.encode ('/' :: path)).length ≤ maxLength := by
  constructor
  · intro h
    refine ⟨?_, length_le_of_parse h⟩
    cases path with
    | nil => simp
    | cons c rest =>
      intro d hd
      exact (path_of_parse h (by simp)).1 d (List.mem_cons_of_mem _ hd)
  · rintro ⟨hchars, hlength⟩
    have hall : ∀ c ∈ '/' :: path, isPathChar c = true := by
      rw [List.forall_mem_cons]
      exact ⟨by decide, hchars⟩
    have habsent (c : Char) (hascii : c.toNat < 128) (hmark : isPathChar c = false) :
        byte c ∉ Utf8.encode ('/' :: path) := by
      intro hmem
      have hbyte : (byte c).toNat = c.toNat := by
        rw [byte, UInt8.toNat_ofNat']
        omega
      obtain ⟨d, hd, hdc⟩ := Utf8.mem_of_byte_mem_encode hmem (by omega)
      rw [hbyte] at hdc
      obtain rfl : d = c := Char.toNat_inj.1 hdc
      rw [hall d hd] at hmark
      cases hmark
    have hread : parsePath (Utf8.encode ('/' :: path)) = .ok ⟨'/' :: path, none⟩ := by
      unfold parsePath
      rw [cut_of_not_mem (habsent '#' (by decide) (by decide)),
        cut_of_not_mem (habsent '?' (by decide) (by decide))]
      simp only [component_path_iff.2 hall]
      rfl
    have hcons : Utf8.encode ('/' :: path) = byte '/' :: Utf8.encode path := rfl
    rw [hcons] at hlength hread ⊢
    rw [parse_of_slash, if_neg (by omega), hread]

end Target

end Http

end EdgeGateway
