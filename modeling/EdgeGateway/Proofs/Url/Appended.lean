import EdgeGateway.Backend
import EdgeGateway.Proofs.Text.Cutting
import EdgeGateway.Proofs.Url.Host

/-!
# Paths behind an origin

A path that is put behind an accepted origin does not reach into the front of the URL: scheme, user
information, host and port are read from the origin alone.  What the reader of URLs drops on the way
cannot bring the two together either, since a text that begins with a slash keeps it.

Main results:

- Theorem `clean_append`: what is read of a path behind a text is what is read of the path.
- Theorem `takeScheme?_of_append`: the scheme ends within the origin.
- Theorem `parseSpecial?_of_append`: so does the authority, with slashes and blanks behind it.
- Theorem `Origin.parse?_origin_append`: what the URL of a path behind an origin is, and when there
  is none.
- Theorem `Origin.parse?_append`: the URLs of all paths behind an origin share its front.
-/

namespace EdgeGateway

namespace Url

open Unicode (IsLow)

/-! ## What is read of a text -/

/-- A slash is read wherever it stands. -/
theorem isEdge_slash : isEdge '/' = false := by
  decide

/-- What is read of a text when something that is not dropped follows. -/
def cleanFront (t : Text) : Text :=
  (Text.trimStart isEdge t).filter fun c => !isBreak c

/-- A text that begins with a slash is kept in front of it. -/
theorem trimStart_of_slash {p : Text} (hp : p.head? = some '/') :
    Text.trimStart isEdge p = p := by
  rcases List.head?_eq_some_iff.1 hp with ⟨rest, rfl⟩
  simp [Text.trimStart, isEdge_slash]

/-- A text that begins with a slash is not trimmed away. -/
theorem trimEnd_of_slash {p : Text} (hp : p.head? = some '/') : Text.trimEnd isEdge p ≠ [] := by
  rcases List.head?_eq_some_iff.1 hp with ⟨rest, rfl⟩
  intro h
  have hall := Text.all_of_trimStart_eq_nil (p := isEdge) (t := ('/' :: rest).reverse)
    (List.reverse_eq_nil_iff.1 h) '/' (by simp)
  rw [isEdge_slash] at hall
  cases hall

/-- What is read of a path behind a text is what is read of the path. -/
theorem clean_append {t p : Text} (ht : Text.trimStart isEdge t ≠ []) (hp : p.head? = some '/') :
    clean (t ++ p) = cleanFront t ++ clean p := by
  have hpath : clean p = (Text.trimEnd isEdge p).filter fun c => !isBreak c := by
    rw [clean, Text.trim, trimStart_of_slash hp]
  rw [hpath, clean, Text.trim, Text.trimStart_append_of_ne_nil p ht,
    Text.trimEnd_append_of_ne_nil _ (trimEnd_of_slash hp), List.filter_append, cleanFront]

/-- A text that begins with a slash is still read as one. -/
theorem head?_clean {p : Text} (hp : p.head? = some '/') : (clean p).head? = some '/' := by
  have hne := trimEnd_of_slash hp
  rcases Text.eq_trimEnd_append isEdge p with ⟨s, hs, -⟩
  rw [clean, Text.trim, trimStart_of_slash hp]
  cases htrim : Text.trimEnd isEdge p with
  | nil => exact absurd htrim hne
  | cons c rest =>
    rw [hs, htrim] at hp
    obtain rfl : c = '/' := by simpa using hp
    rfl

/-- Whatever is read of a text stands in it. -/
theorem mem_of_mem_clean {c : Char} {t : Text} (h : c ∈ clean t) : c ∈ t := by
  have hend : c ∈ Text.trimEnd isEdge (Text.trimStart isEdge t) := List.mem_of_mem_filter h
  have hstart : c ∈ Text.trimStart isEdge t :=
    List.mem_reverse.1 ((List.dropWhile_sublist _).subset (List.mem_reverse.1 hend))
  exact (List.dropWhile_sublist _).subset hstart

/-- Whatever is read of a text in front of another one stands in it. -/
theorem mem_of_mem_cleanFront {c : Char} {t : Text} (h : c ∈ cleanFront t) : c ∈ t :=
  (List.dropWhile_sublist _).subset (List.mem_of_mem_filter h)

/-- No letter is trimmed away. -/
theorem not_isAlpha_of_edge {c : Char} (h : isEdge c = true) : c.isAlpha = false := by
  have hlow : IsLow c := of_decide_eq_true h
  exact IsLow.forall (P := fun c => c.isAlpha = false) (by decide) hlow

/-- What is read of a text by itself may lack controls and spaces at its end. -/
theorem cleanFront_eq_clean_append (t : Text) :
    ∃ blanks, cleanFront t = clean t ++ blanks ∧ ∀ c ∈ blanks, IsLow c := by
  rcases Text.eq_trimEnd_append isEdge (Text.trimStart isEdge t) with ⟨blanks, hblanks, hall⟩
  refine ⟨blanks.filter fun c => !isBreak c, ?_, fun c hc => ?_⟩
  · rw [clean, Text.trim, ← List.filter_append, ← hblanks, cleanFront]
  · have hedge := hall c (List.mem_of_mem_filter hc)
    exact of_decide_eq_true hedge

/-- A text without controls and spaces is read as it is. -/
theorem clean_of_no_edges {t : Text} (h : ∀ c ∈ t, 0x20 < c.toNat) : clean t = t := by
  have hedge : ∀ c ∈ t, ¬ isEdge c = true := by
    intro c hc hlow
    have hle : c.toNat ≤ 0x20 := of_decide_eq_true hlow
    have hlt := h c hc
    omega
  have hbreak : ∀ c ∈ t, (!isBreak c) = true := by
    intro c hc
    have hlt := h c hc
    by_cases hb : isBreak c = true
    · simp only [isBreak, Bool.or_eq_true, beq_iff_eq] at hb
      rcases hb with (rfl | rfl) | rfl <;> exact absurd hlt (by decide)
    · simp [hb]
  have hstart : Text.trimStart isEdge t = t := Text.trimStart_of_none hedge
  have hend : Text.trimEnd isEdge t = t := Text.trimEnd_of_none hedge
  rw [clean, Text.trim, hstart, hend, List.filter_eq_self]
  exact hbreak

/-! ## Schemes -/

/-- A scheme is the letters before the first colon. -/
theorem takeScheme?_eq_some_iff {t scheme rest : Text} :
    takeScheme? t = some (scheme, rest) ↔
      ∃ first more, t = first :: more ++ ':' :: rest ∧ first.isAlpha = true ∧
        (∀ c ∈ first :: more, isSchemeChar c = true) ∧ scheme = Text.lower (first :: more) := by
  constructor
  · intro h
    have hcut := List.takeWhile_append_dropWhile (p := isSchemeChar) (l := t)
    have hall := List.all_takeWhile (p := isSchemeChar) (l := t)
    unfold takeScheme? at h
    split at h
    · rename_i first more rest' htake hdrop
      rw [htake] at hcut hall
      rw [hdrop] at hcut
      split at h
      · rename_i hfirst
        cases h
        exact ⟨first, more, hcut.symm, hfirst, List.all_eq_true.1 hall, rfl⟩
      · cases h
    · cases h
  · rintro ⟨first, more, rfl, hfirst, hall, rfl⟩
    exact takeScheme?_append hfirst hall

/-- The scheme of a text that ends without a colon stands before that end, whatever stands in its
place. -/
theorem takeScheme?_of_append {front back scheme rest : Text} (hback : ':' ∉ back)
    (h : takeScheme? (front ++ back) = some (scheme, rest)) :
    ∃ behind, rest = behind ++ back ∧
      ∀ t, takeScheme? (front ++ t) = some (scheme, behind ++ t) := by
  rcases takeScheme?_eq_some_iff.1 h with ⟨first, more, htext, hfirst, hall, rfl⟩
  have hcolon : front ++ back = (first :: more ++ [':']) ++ rest := by simpa using htext
  rcases List.append_eq_append_iff.1 hcolon with ⟨gap, hfront, hgap⟩ | ⟨behind, hfront, hrest⟩
  · -- The colon does not stand in the end, so that nothing lies between.
    rcases List.eq_nil_or_concat gap with rfl | ⟨more', d, rfl⟩
    · refine ⟨[], by simpa using hgap.symm, fun t => ?_⟩
      rw [List.append_nil] at hfront
      rw [← hfront]
      exact takeScheme?_eq_some_iff.2 ⟨first, more, by simp, hfirst, hall, rfl⟩
    · rw [List.concat_eq_append, ← List.append_assoc] at hfront
      rcases List.append_inj' hfront rfl with ⟨-, hd⟩
      cases hd
      exact absurd (by rw [hgap]; simp) hback
  · refine ⟨behind, hrest, fun t => ?_⟩
    rw [hfront]
    exact takeScheme?_eq_some_iff.2 ⟨first, more, by simp, hfirst, hall, rfl⟩

/-! ## Special URLs -/

/-- What stands behind the slashes of a special URL is an authority and the rest. -/
theorem parseAuthority?_of_special {scheme : Text} (t : Text)
    (hs : isSpecialScheme scheme = true) :
    parseAuthority? scheme t =
      (authority? scheme true (Text.takeUntil (endsAuthority true) t)).map fun (authority, _) =>
        assemble scheme (some authority)
          (readTail true specialPath (Text.dropUntil (endsAuthority true) t)) := by
  simp only [parseAuthority?, hs, if_true]
  rw [authority?_of_special hs, authority?_of_special hs]
  cases hostAndPort? scheme (splitUserinfo (Text.takeUntil (endsAuthority true) t)).2 <;> rfl

/-- Reading a URL with an authority keeps the scheme. -/
theorem scheme_of_parseAuthority? {scheme t : Text} {u : Url}
    (h : parseAuthority? scheme t = some u) : u.scheme = scheme := by
  rcases Option.bind_eq_some_iff.1 h with ⟨_, _, h⟩
  cases h
  rfl

/-- Reading what stands behind a scheme keeps the scheme. -/
theorem scheme_of_parseAfterScheme? {scheme t : Text} {u : Url}
    (h : parseAfterScheme? scheme t = some u) : u.scheme = scheme := by
  unfold parseAfterScheme? at h
  split at h
  · rename_i hfile
    subst hfile
    unfold parseFile? at h
    split at h
    · split at h
      · dsimp only at h
        split at h
        · cases h
          rfl
        · rcases Option.map_eq_some_iff.1 h with ⟨_, _, rfl⟩
          rfl
      · cases h
        rfl
    · cases h
      rfl
  · split at h
    · exact scheme_of_parseAuthority? h
    · unfold parseOther? at h
      split at h
      · exact scheme_of_parseAuthority? h
      · cases h
        rfl
      · cases h
        rfl

/-- A low character does not end an authority. -/
theorem endsAuthority_of_low {c : Char} (hc : IsLow c) : endsAuthority true c = false :=
  IsLow.forall (P := fun c => endsAuthority true c = false) (by decide) hc

/-- The text of a special URL from its authority on, of the text behind its colon. -/
def siteText (t : Text) : Text :=
  t.dropWhile (isSlash true)

/-- The text of a special URL behind its authority. -/
def behindAuthority (t : Text) : Text :=
  Text.dropUntil (endsAuthority true) (siteText t)

/-- Nothing stands behind the authority of a special URL, and its end is a control or a space. -/
def endsLow (t : Text) : Bool :=
  behindAuthority t == [] && (siteText t).getLast?.any isEdge

/-- Slashes that end a text with something else in it are not in front. -/
theorem siteText_append {t : Text} (rest : Text) (ht : siteText t ≠ []) :
    siteText (t ++ rest) = siteText t ++ rest :=
  Text.trimStart_append_of_ne_nil (p := isSlash true) rest ht

/-- A text that ends in a control or a space is no authority. -/
theorem authority?_of_endsLow {scheme site : Text} (hs : isSpecialScheme scheme = true)
    (h : site.getLast?.any isEdge = true) : authority? scheme true site = none := by
  obtain ⟨c, hlast, hc⟩ := (Option.any_eq_true _ _).1 h
  obtain ⟨front, rfl⟩ := List.getLast?_eq_some_iff.1 hlast
  exact authority?_concat_low hs (of_decide_eq_true hc)

/-- Blanks behind an authority belong to it and spoil it, unless there are none. -/
theorem authority?_append_blanks {scheme site blanks : Text} {authority : Authority × Text}
    (hs : isSpecialScheme scheme = true) (hblanks : ∀ c ∈ blanks, IsLow c)
    (h : authority? scheme true site = some authority) :
    authority? scheme true (site ++ blanks) =
      if (site ++ blanks).getLast?.any isEdge = true then none else some authority := by
  split
  · rename_i hlow
    exact authority?_of_endsLow hs hlow
  · rename_i hlow
    obtain rfl : blanks = [] := by
      rcases List.eq_nil_or_concat blanks with rfl | ⟨front, c, rfl⟩
      · rfl
      · have hc : isEdge c = true := decide_eq_true (hblanks c (by simp))
        simp [hc] at hlow
    rw [List.append_nil, h]

/-- Blanks at the end of a text are no part of an authority. -/
theorem eq_nil_of_authority? (site : Text) {scheme blanks : Text} {authority : Authority × Text}
    (hs : isSpecialScheme scheme = true) (hblanks : ∀ c ∈ blanks, IsLow c)
    (h : authority? scheme true (site ++ blanks) = some authority) : blanks = [] := by
  rcases List.eq_nil_or_concat blanks with rfl | ⟨front, c, rfl⟩
  · rfl
  · rw [List.concat_eq_append, ← List.append_assoc, authority?_concat_low hs (hblanks c (by simp))]
      at h
    cases h

/-- An authority in which nothing ends it takes all of the text before one that begins with its
end. -/
theorem parseAuthority?_append_of_none {scheme site t : Text} (hs : isSpecialScheme scheme = true)
    (hsite : ∀ c ∈ site, endsAuthority true c = false)
    (ht : ∀ c ∈ t.head?, endsAuthority true c = true) :
    parseAuthority? scheme (site ++ t) =
      (authority? scheme true site).map fun (authority, _) =>
        assemble scheme (some authority) (readTail true specialPath t) := by
  obtain ⟨hwritten, hrest⟩ := Text.cut_append_of_none hsite ht
  rw [parseAuthority?_of_special _ hs, hwritten, hrest]

/-- An authority that has come to its end is not changed by what stands behind it. -/
theorem parseAuthority?_append_of_ne_nil {scheme site : Text} (t : Text)
    (hs : isSpecialScheme scheme = true) (hcut : Text.dropUntil (endsAuthority true) site ≠ []) :
    parseAuthority? scheme (site ++ t) =
      (authority? scheme true (Text.takeUntil (endsAuthority true) site)).map fun (authority, _) =>
        assemble scheme (some authority)
          (readTail true specialPath (Text.dropUntil (endsAuthority true) site ++ t)) := by
  obtain ⟨hwritten, hrest⟩ := Text.cut_append_of_ne_nil t hcut
  rw [parseAuthority?_of_special _ hs, hwritten, hrest]

/-- A slash ends an authority. -/
theorem endsAuthority_of_slash {t : Text} (ht : ∀ c ∈ t.head?, c = '/') :
    ∀ c ∈ t.head?, endsAuthority true c = true := by
  intro c hc
  rw [ht c hc]
  decide

/-- What is read of slashes and blanks before the first slash are blanks. -/
theorem low_of_mem_takeUntil {t : Text} (ht : ∀ c ∈ t, c = '/' ∨ IsLow c) :
    ∀ c ∈ Text.takeUntil (endsAuthority true) t, IsLow c := by
  intro c hc
  have hends := List.all_eq_true.1
    (List.all_takeWhile (p := fun c => !endsAuthority true c) (l := t)) c hc
  rcases ht c ((List.takeWhile_sublist _).subset hc) with rfl | hlow
  · cases hends
  · exact hlow

/-- The authority of a special URL that ends in slashes and blanks is read before them. -/
theorem parseSpecial?_of_append {scheme t back : Text} {w : Url}
    (hs : isSpecialScheme scheme = true) (hback : ∀ c ∈ back, c = '/' ∨ IsLow c)
    (h : parseSpecial? scheme (t ++ back) = some w) :
    siteText t ≠ [] ∧ ∃ authority left,
      authority? scheme true (Text.takeUntil (endsAuthority true) (siteText t)) =
        some (authority, left) ∧
      w = assemble scheme (some authority)
        (readTail true specialPath (behindAuthority t ++ back)) := by
  have hread : ∀ x, parseSpecial? scheme x = parseAuthority? scheme (siteText x) := fun _ => rfl
  -- Blanks alone are no authority, so that the slashes in front of it end within the text.
  have hne : siteText t ≠ [] := by
    intro hnil
    have hsite : siteText (t ++ back) = siteText back :=
      Text.trimStart_append_of_all back (Text.all_of_trimStart_eq_nil hnil)
    have hlow := low_of_mem_takeUntil (t := siteText back)
      fun c hc => hback c ((List.dropWhile_sublist _).subset hc)
    rw [hread, hsite, parseAuthority?_of_special _ hs] at h
    rcases Option.map_eq_some_iff.1 h with ⟨authority, hauthority, -⟩
    rw [eq_nil_of_authority? [] hs hlow hauthority, authority?_nil hs] at hauthority
    cases hauthority
  rw [hread, siteText_append _ hne, parseAuthority?_of_special _ hs] at h
  rcases Option.map_eq_some_iff.1 h with ⟨⟨authority, left⟩, hauthority, rfl⟩
  refine ⟨hne, authority, left, ?_⟩
  unfold behindAuthority
  generalize siteText t = site at hauthority
  by_cases hcut : Text.dropUntil (endsAuthority true) site = []
  · -- The authority goes on to the first slash behind the text, and no blanks stand before it.
    have hpass := Text.all_of_trimStart_eq_nil (p := fun c => !endsAuthority true c) hcut
    have hwritten : ∀ x, Text.takeUntil (endsAuthority true) (site ++ x) =
        site ++ Text.takeUntil (endsAuthority true) x := fun x => List.takeWhile_append_of_pos hpass
    have hbehind : Text.dropUntil (endsAuthority true) (site ++ back) =
        Text.dropUntil (endsAuthority true) back := List.dropWhile_append_of_pos hpass
    rw [hwritten] at hauthority
    have hnil := eq_nil_of_authority? site hs (low_of_mem_takeUntil hback) hauthority
    have hsite := Text.takeUntil_append_dropUntil (endsAuthority true) site
    have hslash := Text.takeUntil_append_dropUntil (endsAuthority true) back
    rw [hcut, List.append_nil] at hsite
    rw [hnil, List.nil_append] at hslash
    rw [hnil, List.append_nil] at hauthority
    refine ⟨by rw [hsite, hauthority], ?_⟩
    rw [hbehind, hslash, hcut, List.nil_append]
  · have hrest := Text.cut_append_of_ne_nil back hcut
    rw [hrest.1] at hauthority
    exact ⟨hauthority, by rw [hrest.2]⟩

/-- The front of a special URL that ends in slashes is read before them.  With blanks and a path in
place of the slashes, every path is read behind the same authority, unless the blanks would belong
to it. -/
theorem parseSpecial?_append {scheme t slashes blanks : Text} {w : Url}
    (hs : isSpecialScheme scheme = true) (hslashes : ∀ c ∈ slashes, c = '/')
    (hblanks : ∀ c ∈ blanks, IsLow c) (h : parseSpecial? scheme (t ++ slashes) = some w) :
    ∃ authority more,
      w = assemble scheme (some authority)
        (readTail true specialPath (behindAuthority t ++ slashes)) ∧
      behindAuthority (t ++ blanks) = behindAuthority t ++ more ∧ (∀ c ∈ more, IsLow c) ∧
      ∀ p, p.head? = some '/' → parseSpecial? scheme (t ++ blanks ++ p) =
        if endsLow (t ++ blanks) then none
        else some (assemble scheme (some authority)
          (readTail true specialPath (behindAuthority (t ++ blanks) ++ p))) := by
  obtain ⟨hne, authority, left, hauthority, hw⟩ :=
    parseSpecial?_of_append hs (fun c hc => .inl (hslashes c hc)) h
  have hread : ∀ x, parseSpecial? scheme x = parseAuthority? scheme (siteText x) := fun _ => rfl
  refine ⟨authority, ?_⟩
  simp only [hw, hread, List.append_assoc, endsLow, behindAuthority, siteText_append _ hne]
  generalize siteText t = site at hauthority
  by_cases hcut : Text.dropUntil (endsAuthority true) site = []
  · have hsite : ∀ c ∈ site, endsAuthority true c = false := by
      intro c hc
      simpa using Text.all_of_trimStart_eq_nil (p := fun c => !endsAuthority true c) hcut c hc
    have hnone : ∀ c ∈ site ++ blanks, endsAuthority true c = false := by
      intro c hc
      rcases List.mem_append.1 hc with hc | hc
      · exact hsite c hc
      · exact endsAuthority_of_low (hblanks c hc)
    have hbare : Text.dropUntil (endsAuthority true) (site ++ blanks) = [] := by
      simpa using (Text.cut_append_of_none (t := []) hnone (by simp)).2
    have hwhole : Text.takeUntil (endsAuthority true) site = site := by
      simpa using (Text.cut_append_of_none (t := []) hsite (by simp)).1
    rw [hwhole] at hauthority
    refine ⟨[], trivial, by rw [hbare, hcut, List.append_nil], by simp, fun p hp => ?_⟩
    rw [← List.append_assoc, parseAuthority?_append_of_none hs hnone
      (endsAuthority_of_slash (by simp [hp])), hbare,
      authority?_append_blanks hs hblanks hauthority]
    -- The blanks would belong to the authority, which may not end in one.
    cases hlow : (site ++ blanks).getLast?.any isEdge
    · rfl
    · rfl
  · have hrest := (Text.cut_append_of_ne_nil blanks hcut).2
    refine ⟨blanks, trivial, hrest, hblanks, fun p _ => ?_⟩
    rw [parseAuthority?_append_of_ne_nil _ hs hcut, hauthority, hrest, List.append_assoc]
    simp [hcut]

end Url

/-! ## Origins -/

namespace Origin

open Url Unicode

/-- A URL of the web has a special scheme and names no file. -/
theorem special_of_isWeb {u : Url} (h : isWeb u = true) :
    isSpecialScheme u.scheme = true ∧ u.scheme ≠ fileScheme := by
  have hscheme : u.scheme = "http".toList ∨ u.scheme = "https".toList := by
    simp only [isWeb, Bool.and_eq_true, Bool.or_eq_true, beq_iff_eq] at h
    exact h.1
  rcases hscheme with hscheme | hscheme <;> rw [hscheme] <;> decide

/-- A URL of the web is read from behind its scheme. -/
theorem parse?_web {value : Text} {w : Url} (hw : Url.parse? value = some w)
    (hweb : isWeb w = true) :
    ∃ rest, takeScheme? (clean value) = some (w.scheme, rest) ∧
      Url.parseSpecial? w.scheme rest = some w := by
  rcases Option.bind_eq_some_iff.1 hw with ⟨⟨scheme, rest⟩, htake, hparse⟩
  obtain rfl := scheme_of_parseAfterScheme? hparse
  rcases special_of_isWeb hweb with ⟨hspecial, hfile⟩
  refine ⟨rest, htake, ?_⟩
  simpa [parseAfterScheme?, hspecial, hfile] using hparse

/-- What is read of an accepted value and of its origin is the same up to slashes at the end of the
one and blanks at the end of the other. -/
theorem clean_value {value scheme rest : Text}
    (h : takeScheme? (clean value) = some (scheme, rest)) :
    Text.trimStart isEdge (Text.trimEnd (· == '/') value) ≠ [] ∧
      ∃ front slashes blanks, clean value = front ++ slashes ∧
        cleanFront (Text.trimEnd (· == '/') value) = front ++ blanks ∧
        (∀ c ∈ slashes, c = '/') ∧ ∀ c ∈ blanks, IsLow c := by
  rcases Text.eq_trimEnd_append (· == '/') value with ⟨slashes, hvalue, hslashes⟩
  simp only [beq_iff_eq] at hslashes
  rcases takeScheme?_eq_some_iff.1 h with ⟨first, more, htext, hfirst, -, -⟩
  have hne : Text.trimStart isEdge (Text.trimEnd (· == '/') value) ≠ [] := by
    intro hnil
    have hmem : first ∈ value := mem_of_mem_clean (by rw [htext]; simp)
    rw [hvalue] at hmem
    rcases List.mem_append.1 hmem with hmem | hmem
    · rw [not_isAlpha_of_edge (Text.all_of_trimStart_eq_nil hnil first hmem)] at hfirst
      cases hfirst
    · rw [hslashes first hmem] at hfirst
      cases hfirst
  refine ⟨hne, ?_⟩
  rcases slashes with _ | ⟨slash, slashes⟩
  · rcases cleanFront_eq_clean_append value with ⟨blanks, hblanks, hlow⟩
    rw [List.append_nil] at hvalue
    rw [← hvalue]
    exact ⟨clean value, [], blanks, by simp, hblanks, by simp, hlow⟩
  · have hhead : (slash :: slashes).head? = some '/' := by simp [hslashes slash (by simp)]
    refine ⟨cleanFront (Text.trimEnd (· == '/') value), clean (slash :: slashes), [], ?_, by simp,
      fun c hc => hslashes c (mem_of_mem_clean hc), by simp⟩
    rw [← clean_append hne hhead, ← hvalue]

/-- What is read of an origin behind the colon of its scheme when a path follows. -/
def behindScheme (origin : Text) : Text :=
  ((takeScheme? (cleanFront origin)).map Prod.snd).getD []

/-- What is read of an origin behind its authority when a path follows. -/
def tail (origin : Text) : Text :=
  behindAuthority (behindScheme origin)

/-- A path that is put behind the origin makes a control or a space at its end part of the
authority, since nothing else stands there. -/
def isFrayed (origin : Text) : Bool :=
  endsLow (behindScheme origin)

/-- The accepted value and the texts behind its origin share scheme and authority.  The value goes
on with slashes where the origin has at most blanks, and with blanks that belong to the authority no
text can be read. -/
theorem parse?_origin_append {value origin : Text} (h : ofText? value = some origin) :
    ∃ w authority own slashes blanks,
      Url.parse? value = some w ∧
      takeScheme? (cleanFront origin) = some (w.scheme, behindScheme origin) ∧
      w = assemble w.scheme (some authority) (readTail true specialPath (own ++ slashes)) ∧
      tail origin = own ++ blanks ∧ (∀ c ∈ blanks, IsLow c) ∧
      ∀ p, p.head? = some '/' → Url.parse? (origin ++ p) =
        if isFrayed origin then none
        else some (assemble w.scheme (some authority)
          (readTail true specialPath (tail origin ++ clean p))) := by
  rcases ofText?_eq_some_iff.1 h with ⟨⟨w, hw, hweb⟩, rfl⟩
  rcases special_of_isWeb hweb with ⟨hspecial, hfile⟩
  rcases parse?_web hw hweb with ⟨rest, htake, hparse⟩
  rcases clean_value htake with ⟨hne, front, slashes, blanks, hvalue, horigin, hslashes, hblanks⟩
  rw [hvalue] at htake
  have hcolon : ':' ∉ slashes := by
    intro hmem
    cases hslashes ':' hmem
  rcases takeScheme?_of_append hcolon htake with ⟨behind, rfl, hscheme⟩
  have hbehind : behindScheme (Text.trimEnd (· == '/') value) = behind ++ blanks := by
    rw [behindScheme, horigin, hscheme]
    rfl
  have htaken : takeScheme? (cleanFront (Text.trimEnd (· == '/') value)) =
      some (w.scheme, behindScheme (Text.trimEnd (· == '/') value)) := by
    rw [hbehind, horigin, hscheme]
  obtain ⟨authority, more, hown, htail, hmore, hreads⟩ :=
    parseSpecial?_append hspecial hslashes hblanks hparse
  refine ⟨w, authority, behindAuthority behind, slashes, more, hw, htaken, hown,
    by rw [tail, hbehind, htail], hmore, fun p hp => ?_⟩
  have hread : Url.parse? (Text.trimEnd (· == '/') value ++ p) =
      Url.parseSpecial? w.scheme (behind ++ blanks ++ clean p) := by
    rw [Url.parse?, clean_append hne hp, horigin, List.append_assoc, hscheme, Option.bind_some,
      ← List.append_assoc]
    simp only [parseAfterScheme?, hspecial, hfile, if_true, if_false]
  rw [hread, hreads _ (head?_clean hp), isFrayed, tail, hbehind]

/-- What is read of an origin stands in it. -/
theorem mem_of_mem_tail {origin : Text} {c : Char} (h : c ∈ tail origin) : c ∈ origin := by
  have hbehind : c ∈ behindScheme origin :=
    (List.dropWhile_sublist _).subset ((List.dropWhile_sublist _).subset h)
  unfold behindScheme at hbehind
  cases htake : takeScheme? (cleanFront origin) with
  | none =>
    rw [htake] at hbehind
    cases hbehind
  | some cut =>
    rcases cut with ⟨scheme, rest⟩
    rw [htake] at hbehind
    rcases takeScheme?_eq_some_iff.1 htake with ⟨first, more, htext, -⟩
    refine mem_of_mem_cleanFront ?_
    rw [htext]
    exact List.mem_append_right _ (List.mem_cons_of_mem _ hbehind)

/-- The URLs of all paths behind an accepted origin share its scheme and its authority, if they can
be read at all. -/
theorem parse?_append {value origin : Text} (h : ofText? value = some origin) :
    ∃ w authority own front,
      Url.parse? value = some w ∧
      w = assemble w.scheme (some authority) (readTail true specialPath own) ∧
      (∀ c ∈ front, c ∈ origin) ∧ (∀ c ∈ front.head?, endsAuthority true c = true) ∧
      ((∀ p, p.head? = some '/' → Url.parse? (origin ++ p) =
          some (assemble w.scheme (some authority)
            (readTail true specialPath (front ++ clean p)))) ∨
        ∀ p, p.head? = some '/' → Url.parse? (origin ++ p) = none) := by
  obtain ⟨w, authority, own, slashes, _, hw, -, hown, -, -, hreads⟩ := parse?_origin_append h
  refine ⟨w, authority, own ++ slashes, tail origin, hw, hown, fun c => mem_of_mem_tail,
    Text.head?_dropUntil, ?_⟩
  cases hfrayed : isFrayed origin with
  | true => exact .inr fun p hp => by simp [hreads p hp, hfrayed]
  | false => exact .inl fun p hp => by simp [hreads p hp, hfrayed]

end Origin

end EdgeGateway
