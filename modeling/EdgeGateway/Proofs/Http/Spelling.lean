import EdgeGateway.Proofs.Http.Target
import Mathlib.Data.List.TakeWhile

/-!
# Spellings of a target

The same path and query may be asked for in several ways: with a scheme and an authority in front,
and with a fragment behind.  What is read is the path and the query in all of them, so that neither
addition leaves a trace in the target.

Main results:

- Theorem `afterScheme_append`: what stands behind a scheme and its two slashes.
- Theorem `parse_of_absolute`: a scheme and an authority in front of a path leave no trace.
- Theorem `parse_of_fragment`: a fragment behind a target leaves no trace.
- Theorem `parse_of_respelled`: neither of them does.
-/

namespace EdgeGateway

namespace Http

namespace Target

/-! ## Cutting -/

/-- A cut keeps the bytes before the first one that it looks for. -/
theorem cut_fst (c : Char) (bytes : Bytes) :
    (cut c bytes).1 = bytes.takeWhile (· != byte c) := by
  unfold cut
  split
  · rename_i hnil
    have hcut := List.takeWhile_append_dropWhile (p := (· != byte c)) (l := bytes)
    rw [hnil, List.append_nil] at hcut
    exact hcut.symm
  · rfl

/-- A cut does not look behind the first byte that it looks for. -/
theorem cut_fst_append_cons (c : Char) (front behind : Bytes) :
    (cut c (front ++ byte c :: behind)).1 = (cut c front).1 := by
  rw [cut_fst, cut_fst]
  induction front with
  | nil => simp
  | cons b rest ih =>
    by_cases hb : b = byte c
    · simp [hb]
    · simp [hb, ih]

/-- What is read as path and query ends at the first number sign. -/
theorem parsePath_append_fragment (bytes fragment : Bytes) :
    parsePath (bytes ++ byte '#' :: fragment) = parsePath bytes := by
  unfold parsePath
  rw [cut_fst_append_cons]

/-! ## Schemes -/

/-- The colon and the two slashes behind a scheme. -/
def schemeMark : Bytes :=
  [byte ':', byte '/', byte '/']

/-- A text is a scheme. -/
def IsScheme (bytes : Bytes) : Prop :=
  ∀ b ∈ bytes, isSchemeByte b = true

/-- A byte in lower case. -/
def lowerByte (b : UInt8) : UInt8 :=
  if inRange 'A' 'Z' b then b + 32 else b

/-- What holds of the bytes of all numbers below 256 holds of all bytes. -/
theorem forall_byte {P : UInt8 → Prop} (h : ∀ n < 256, P (UInt8.ofNat n)) (b : UInt8) : P b := by
  have hb := h b.toNat b.toNat_lt
  rwa [UInt8.ofNat_toNat] at hb

/-- Letter case does not matter to what is a scheme. -/
theorem isSchemeByte_lowerByte (b : UInt8) : isSchemeByte (lowerByte b) = isSchemeByte b :=
  forall_byte (P := fun b => isSchemeByte (lowerByte b) = isSchemeByte b) (by decide +kernel) b

/-- The bytes of the mark have one letter case. -/
theorem eq_of_lowerByte_eq {b c : UInt8} (hc : c ∈ schemeMark) (h : lowerByte b = lowerByte c) :
    b = c := by
  have htable : ∀ n < 256, ∀ c ∈ schemeMark,
      lowerByte (UInt8.ofNat n) = lowerByte c → UInt8.ofNat n = c := by decide +kernel
  exact forall_byte (P := fun b => ∀ c ∈ schemeMark, lowerByte b = lowerByte c → b = c)
    htable b c hc h

/-- A text that is part of the mark up to letter case is that part. -/
theorem eq_of_map_lowerByte {bytes mark : Bytes} (hmark : mark ⊆ schemeMark)
    (h : bytes.map lowerByte = mark.map lowerByte) : bytes = mark := by
  induction mark generalizing bytes with
  | nil => simpa using h
  | cons c rest ih =>
    obtain ⟨b, more, rfl, hb, hmore⟩ := List.map_eq_cons_iff.1 h
    obtain ⟨hc, hrest⟩ := List.cons_subset.1 hmark
    rw [eq_of_lowerByte_eq hc hb, ih hrest hmore]

/-- A text that is a scheme and the mark up to letter case is a scheme and the mark. -/
theorem exists_scheme_of_sameBytes {bytes scheme : Bytes} (hscheme : IsScheme scheme)
    (h : sameBytes bytes (scheme ++ schemeMark) = true) :
    ∃ written, IsScheme written ∧ written.length = scheme.length ∧
      bytes = written ++ schemeMark := by
  have hmap : bytes.map lowerByte = scheme.map lowerByte ++ schemeMark.map lowerByte := by
    rw [← List.map_append]
    exact eq_of_beq h
  obtain ⟨written, mark, rfl, hwritten, hmark⟩ := List.map_eq_append_iff.1 hmap
  refine ⟨written, fun b hb => ?_, by simpa using congrArg List.length hwritten, ?_⟩
  · have hmem : lowerByte b ∈ scheme.map lowerByte := by
      rw [← hwritten]
      exact List.mem_map_of_mem hb
    obtain ⟨c, hc, hcb⟩ := List.mem_map.1 hmem
    rw [← isSchemeByte_lowerByte, ← hcb, isSchemeByte_lowerByte]
    exact hscheme c hc
  · rw [eq_of_map_lowerByte (List.Subset.refl _) hmark]

/-- The schemes of the web are short ones with the mark behind. -/
theorem exists_scheme_of_web {bytes : Bytes} (h : bytes ∈ webSchemes) :
    ∃ scheme, IsScheme scheme ∧ scheme.length ≤ maxScheme ∧ bytes = scheme ++ schemeMark := by
  simp only [webSchemes, List.mem_cons, List.not_mem_nil, or_false] at h
  rcases h with rfl | rfl
  · exact ⟨Utf8.encode "http".toList, List.all_eq_true.1 (by decide), by decide, by decide⟩
  · exact ⟨Utf8.encode "https".toList, List.all_eq_true.1 (by decide), by decide, by decide⟩

/-- A colon is no part of a scheme. -/
theorem takeWhile_scheme {scheme : Bytes} (rest : Bytes) (hscheme : IsScheme scheme) :
    (scheme ++ schemeMark ++ rest).takeWhile isSchemeByte = scheme ∧
      (scheme ++ schemeMark ++ rest).dropWhile isSchemeByte = schemeMark ++ rest := by
  have hcolon : isSchemeByte (byte ':') = false := by decide
  rw [List.append_assoc, List.takeWhile_append_of_pos hscheme,
    List.dropWhile_append_of_pos hscheme]
  constructor
  · simp [schemeMark, hcolon]
  · simp [schemeMark, hcolon]

/-- There is one way to take a scheme off a text. -/
theorem scheme_unique {scheme scheme' rest rest' : Bytes} (hscheme : IsScheme scheme)
    (hscheme' : IsScheme scheme')
    (h : scheme ++ schemeMark ++ rest = scheme' ++ schemeMark ++ rest') :
    scheme = scheme' ∧ rest = rest' := by
  obtain ⟨htake, hdrop⟩ := takeWhile_scheme rest hscheme
  obtain ⟨htake', hdrop'⟩ := takeWhile_scheme rest' hscheme'
  rw [h, htake'] at htake
  rw [h, hdrop'] at hdrop
  exact ⟨htake.symm, (List.append_cancel_left hdrop).symm⟩

/-- A scheme of the web at the front of a text is the scheme of the text. -/
theorem length_of_find? {scheme rest found : Bytes} (hscheme : IsScheme scheme)
    (h : webSchemes.find? (fun s =>
      sameBytes ((scheme ++ schemeMark ++ rest).take s.length) s) = some found) :
    scheme.length ≤ maxScheme ∧ (scheme ++ schemeMark ++ rest).drop found.length = rest := by
  obtain ⟨web, hweb, hshort, rfl⟩ := exists_scheme_of_web (List.mem_of_find?_eq_some h)
  have hsame := List.find?_some h
  obtain ⟨written, hwritten, hlength, htake⟩ := exists_scheme_of_sameBytes hweb hsame
  have hcut := List.take_append_drop (web ++ schemeMark).length (scheme ++ schemeMark ++ rest)
  rw [htake] at hcut
  obtain ⟨rfl, hrest⟩ := scheme_unique hwritten hscheme hcut
  exact ⟨by omega, hrest⟩

/-- What stands behind a scheme and its mark is found there, unless the scheme is too long. -/
theorem afterScheme_append {scheme rest : Bytes} (hscheme : IsScheme scheme) (hrest : rest ≠ []) :
    afterScheme (scheme ++ schemeMark ++ rest) =
      if maxScheme < scheme.length then .error .schemeTooLong else .ok (some rest) := by
  unfold afterScheme
  split
  · rename_i found hfound
    obtain ⟨hshort, hdrop⟩ := length_of_find? hscheme hfound
    rw [if_neg (by omega), hdrop]
  · obtain ⟨htake, hdrop⟩ := takeWhile_scheme rest hscheme
    have hlong : 3 < (scheme ++ schemeMark ++ rest).length := by
      have hpos := List.length_pos_iff.2 hrest
      simp only [List.length_append, schemeMark, List.length_cons, List.length_nil]
      omega
    have hmark : schemeMark ++ rest = byte ':' :: byte '/' :: byte '/' :: rest := rfl
    rw [hmark] at hdrop
    simp only [htake, hdrop, hlong, and_self, if_true]

/-- Whatever is found behind a scheme stands behind its mark. -/
theorem exists_scheme_of_afterScheme {bytes rest : Bytes}
    (h : afterScheme bytes = .ok (some rest)) :
    ∃ scheme, IsScheme scheme ∧ bytes = scheme ++ schemeMark ++ rest := by
  unfold afterScheme at h
  split at h
  · rename_i found hfound
    cases h
    obtain ⟨web, hweb, -, rfl⟩ := exists_scheme_of_web (List.mem_of_find?_eq_some hfound)
    have hsame := List.find?_some hfound
    obtain ⟨written, hwritten, -, htake⟩ := exists_scheme_of_sameBytes hweb hsame
    refine ⟨written, hwritten, ?_⟩
    rw [← htake, List.take_append_drop]
  · dsimp only at h
    split at h
    · rename_i colon a b more hdrop
      split at h
      · rename_i hmark
        obtain ⟨rfl, rfl, rfl⟩ := hmark
        split at h
        · cases h
        · split at h
          · cases h
            refine ⟨bytes.takeWhile isSchemeByte, List.all_eq_true.1 List.all_takeWhile, ?_⟩
            have hcut := List.takeWhile_append_dropWhile (p := isSchemeByte) (l := bytes)
            rw [hdrop] at hcut
            rw [List.append_assoc]
            exact hcut.symm
          · cases h
      · cases h
    · cases h

/-! ## Targets -/

/-- The authority at the front of a text, and what follows it. -/
def splitAuthority (bytes : Bytes) : Bytes × Bytes :=
  (bytes.takeWhile fun b => !isDelimiter b, bytes.dropWhile fun b => !isDelimiter b)

/-- A text with a scheme is read from behind its authority. -/
theorem parseFull_of_scheme {scheme rest : Bytes} {t : Target} (hscheme : IsScheme scheme)
    (hrest : rest ≠ []) :
    parseFull (scheme ++ schemeMark ++ rest) = .ok t ↔
      scheme.length ≤ maxScheme ∧ checkAuthority (splitAuthority rest).1 = .ok () ∧
        (splitAuthority rest).1 ≠ [] ∧ parsePath (splitAuthority rest).2 = .ok t := by
  unfold parseFull splitAuthority
  rw [afterScheme_append hscheme hrest]
  by_cases hlong : maxScheme < scheme.length
  · rw [if_pos hlong]
    constructor
    · intro h
      cases h
    · rintro ⟨hshort, -⟩
      omega
  · rw [if_neg hlong]
    constructor
    · intro h
      rcases exists_of_bind h with ⟨behind, hbehind, h⟩
      cases hbehind
      rcases exists_of_bind h with ⟨_, hcheck, h⟩
      refine ⟨by omega, hcheck, ?_⟩
      by_cases hempty : rest.takeWhile (fun b => !isDelimiter b) = []
      · simp only [Option.getD_some, hempty] at h
        cases h
      · simp only [Option.getD_some, if_neg hempty] at h
        exact ⟨hempty, h⟩
    · rintro ⟨-, hcheck, hne, hpath⟩
      simp only [bind, Except.bind, Option.getD_some, hcheck, Option.isNone_some,
        Bool.false_eq_true, if_false, if_neg hne, hpath]

/-- A text with a scheme is read as one, as long as it is not too long. -/
theorem parse_of_scheme {scheme rest : Bytes} {t : Target} (hscheme : IsScheme scheme) :
    parse (scheme ++ schemeMark ++ rest) = .ok t ↔
      (scheme ++ schemeMark ++ rest).length ≤ maxLength ∧
        parseFull (scheme ++ schemeMark ++ rest) = .ok t := by
  have hslash : ¬ isSchemeByte (byte '/') = true := by decide
  obtain ⟨first, second, more, htext, hfirst⟩ : ∃ first second more,
      scheme ++ schemeMark ++ rest = first :: second :: more ∧ first ≠ byte '/' := by
    rcases scheme with _ | ⟨first, _ | ⟨second, more⟩⟩
    · exact ⟨_, _, _, rfl, by decide⟩
    · refine ⟨first, _, _, rfl, ?_⟩
      rintro rfl
      exact hslash (hscheme _ (by simp))
    · refine ⟨first, second, _, rfl, ?_⟩
      rintro rfl
      exact hslash (hscheme _ (by simp))
  rw [htext]
  unfold parse
  by_cases hlong : maxLength < (first :: second :: more).length
  · rw [if_pos hlong]
    constructor
    · intro h
      cases h
    · rintro ⟨hshort, -⟩
      omega
  · rw [if_neg hlong]
    simp only [if_neg hfirst]
    exact ⟨fun h => ⟨by omega, h⟩, fun h => h.2⟩

/-- A path behind a scheme and an authority is read as if it stood by itself. -/
theorem parse_of_absolute {scheme authority rest : Bytes} {t : Target} (hscheme : IsScheme scheme)
    (hauthority : ∀ b ∈ authority, isDelimiter b = false)
    (h : parse (scheme ++ schemeMark ++ (authority ++ byte '/' :: rest)) = .ok t) :
    parse (byte '/' :: rest) = .ok t := by
  obtain ⟨hlength, hfull⟩ := (parse_of_scheme hscheme).1 h
  have hsplit : (splitAuthority (authority ++ byte '/' :: rest)).2 = byte '/' :: rest := by
    have hpass : ∀ b ∈ authority, (!isDelimiter b) = true := fun b hb => by simp [hauthority b hb]
    have hslash : isDelimiter (byte '/') = true := by decide
    rw [splitAuthority, List.dropWhile_append_of_pos hpass]
    simp [hslash]
  obtain ⟨-, -, -, hpath⟩ := (parseFull_of_scheme hscheme (by simp)).1 hfull
  rw [hsplit] at hpath
  rw [parse_of_slash, if_neg, hpath]
  simp only [List.length_append] at hlength
  omega

/-- What follows an authority ends at the first number sign, too. -/
theorem splitAuthority_append_fragment (bytes fragment : Bytes) :
    splitAuthority (bytes ++ byte '#' :: fragment) =
      ((splitAuthority bytes).1, (splitAuthority bytes).2 ++ byte '#' :: fragment) := by
  have hmark : isDelimiter (byte '#') = true := by decide
  unfold splitAuthority
  induction bytes with
  | nil => simp [hmark]
  | cons b rest ih =>
    by_cases hb : isDelimiter b = true
    · simp [hb]
    · simp only [Prod.mk.injEq] at ih
      simp [hb, ih]

/-- A number sign is no part of a scheme and its mark. -/
theorem exists_append_of_scheme {scheme bytes fragment rest : Bytes} (hscheme : IsScheme scheme)
    (h : bytes ++ byte '#' :: fragment = scheme ++ schemeMark ++ rest) :
    ∃ own, bytes = scheme ++ schemeMark ++ own ∧ rest = own ++ byte '#' :: fragment := by
  rcases List.append_eq_append_iff.1 h with ⟨gap, hfront, hgap⟩ | ⟨own, hbytes, hrest⟩
  · rcases gap with _ | ⟨b, gap⟩
    · exact ⟨[], by simpa using hfront.symm, by simpa using hgap.symm⟩
    · obtain ⟨rfl, -⟩ := List.cons_eq_cons.1 hgap
      have hmem : byte '#' ∈ scheme ++ schemeMark := by
        rw [hfront]
        simp
      rcases List.mem_append.1 hmem with hmem | hmem
      · exact absurd (hscheme _ hmem) (by decide)
      · exact absurd hmem (by decide)
  · exact ⟨own, hbytes, hrest⟩

/-- An authority alone has nothing behind it, so that every other text needs a scheme. -/
theorem exists_scheme_of_parseFull {bytes : Bytes} {t : Target}
    (hmark : ∃ b ∈ bytes, isDelimiter b = true) (h : parseFull bytes = .ok t) :
    ∃ scheme rest, IsScheme scheme ∧ bytes = scheme ++ schemeMark ++ rest := by
  unfold parseFull at h
  rcases exists_of_bind h with ⟨behind, hbehind, h⟩
  rcases behind with _ | rest
  · rcases exists_of_bind h with ⟨_, -, h⟩
    have hrest : bytes.dropWhile (fun b => !isDelimiter b) ≠ [] := by
      obtain ⟨b, hb, hdelimiter⟩ := hmark
      intro hnil
      have hpass := List.dropWhile_eq_nil_iff.1 hnil b hb
      simp [hdelimiter] at hpass
    simp only [Option.getD_none, Option.isNone_none, if_true, if_neg hrest] at h
    cases h
  · obtain ⟨scheme, hscheme, hbytes⟩ := exists_scheme_of_afterScheme hbehind
    exact ⟨scheme, rest, hscheme, hbytes⟩

/-- A text with a fragment that does not begin with a slash has a scheme. -/
theorem exists_scheme_of_parse {bytes fragment : Bytes} {t : Target}
    (hslash : bytes.head? ≠ some (byte '/'))
    (h : parse (bytes ++ byte '#' :: fragment) = .ok t) :
    ∃ scheme rest, IsScheme scheme ∧
      bytes ++ byte '#' :: fragment = scheme ++ schemeMark ++ rest := by
  have hfull : parseFull (bytes ++ byte '#' :: fragment) = .ok t := by
    unfold parse at h
    split at h
    · cases h
    · split at h
      · cases h
      · rename_i b hb
        obtain rfl : bytes = [] := by
          have hlength := congrArg List.length hb
          simp only [List.length_append, List.length_cons, List.length_nil] at hlength
          exact List.eq_nil_of_length_eq_zero (by omega)
        obtain ⟨rfl, -⟩ := List.cons_eq_cons.1 hb
        cases h
      · rename_i first rest _ hcons
        have hfirst : first ≠ byte '/' := by
          rintro rfl
          rcases bytes with _ | ⟨b, bytes⟩
          · exact absurd (List.cons_eq_cons.1 hcons).1 (by decide)
          · obtain ⟨rfl, -⟩ := List.cons_eq_cons.1 hcons
            exact hslash rfl
        rw [if_neg hfirst, ← hcons] at h
        exact h
  exact exists_scheme_of_parseFull ⟨byte '#', by simp, by decide⟩ hfull

/-- A target with a fragment behind is read as if it stood by itself. -/
theorem parse_of_fragment {bytes fragment : Bytes} {t : Target}
    (h : parse (bytes ++ byte '#' :: fragment) = .ok t) : parse bytes = .ok t := by
  by_cases hslash : bytes.head? = some (byte '/')
  · obtain ⟨rest, rfl⟩ := List.head?_eq_some_iff.1 hslash
    rw [List.cons_append, parse_of_slash] at h
    split at h
    · cases h
    · rename_i hlength
      rw [← List.cons_append, parsePath_append_fragment] at h
      rw [parse_of_slash, if_neg, h]
      simp only [List.length_cons, List.length_append] at hlength ⊢
      omega
  · obtain ⟨scheme, rest, hscheme, htext⟩ := exists_scheme_of_parse hslash h
    obtain ⟨own, rfl, rfl⟩ := exists_append_of_scheme hscheme htext
    rw [htext] at h
    obtain ⟨hlength, hfull⟩ := (parse_of_scheme hscheme).1 h
    obtain ⟨hshort, hcheck, hne, hpath⟩ := (parseFull_of_scheme hscheme (by simp)).1 hfull
    rw [splitAuthority_append_fragment] at hcheck hne hpath
    rw [parsePath_append_fragment] at hpath
    have hown : own ≠ [] := by
      rintro rfl
      exact hne rfl
    refine (parse_of_scheme hscheme).2 ⟨?_, ?_⟩
    · simp only [List.length_append, List.length_cons] at hlength ⊢
      omega
    · exact (parseFull_of_scheme hscheme hown).2 ⟨hshort, hcheck, hne, hpath⟩

/-- A target that is written with more in front or behind than is read of it, and what is left
without the addition. -/
inductive Respelled : Bytes → Bytes → Prop where
  /-- A scheme and an authority may stand in front of a path. -/
  | absolute {scheme authority : Bytes} (rest : Bytes) (hscheme : IsScheme scheme)
    (hauthority : ∀ b ∈ authority, isDelimiter b = false) :
    Respelled (scheme ++ schemeMark ++ (authority ++ byte '/' :: rest)) (byte '/' :: rest)
  /-- A fragment may stand behind a target. -/
  | fragment (bytes written : Bytes) : Respelled (bytes ++ byte '#' :: written) bytes

/-- Whatever is read of a target is read of it without the addition. -/
theorem parse_of_respelled {written bare : Bytes} {t : Target} (h : Respelled written bare)
    (hread : parse written = .ok t) : parse bare = .ok t := by
  cases h with
  | absolute rest hscheme hauthority => exact parse_of_absolute hscheme hauthority hread
  | fragment bytes written => exact parse_of_fragment hread

end Target

end Http

end EdgeGateway
