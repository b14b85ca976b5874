import EdgeGateway.Proofs.Idna.Survival
import EdgeGateway.Url.Authority

/-!
# Hosts that are refused

A host of the web with a control character or a space in its name is refused, and so is an authority
that ends in one.  What can be read of an authority therefore does not depend on blanks behind it,
and neither does it depend on whether something follows.

Main results:

- Theorem `Percent.mem_of_decode?`: percent-decoding keeps every control character and space.
- Theorem `Host.parseDomain?_eq_none_of_low`: a text with one of them is no domain name.
- Theorem `authority?_of_special`: an authority of the web is read whatever follows it.
- Theorem `authority?_concat_low`: an authority of the web does not end in one of them.
-/

namespace EdgeGateway

namespace Url

open Unicode (IsLow)

/-! ## Percent-decoding -/

namespace Percent

/-- A byte that is neither a percent sign nor a digit is kept. -/
theorem mem_decodeBytes {b : UInt8} {bytes : Bytes} (hpercent : b ≠ 37)
    (hdigit : Text.digitValue? (Char.ofNat b.toNat) = none) (h : b ∈ bytes) :
    b ∈ decodeBytes bytes := by
  fun_induction decodeBytes bytes with
  | case1 x y rest u v hy hx ih =>
    have hbx : b ≠ x := by
      rintro rfl
      rw [hdigit] at hx
      cases hx
    have hby : b ≠ y := by
      rintro rfl
      rw [hdigit] at hy
      cases hy
    exact List.mem_cons_of_mem _ (ih (by simpa [hpercent, hbx, hby] using h))
  | case2 x y rest _ ih =>
    rcases List.mem_cons.1 h with heq | hrest
    · exact absurd heq hpercent
    · exact List.mem_cons_of_mem _ (ih hrest)
  | case3 c rest _ ih =>
    rcases List.mem_cons.1 h with heq | hrest
    · exact heq ▸ List.mem_cons_self
    · exact List.mem_cons_of_mem _ (ih hrest)
  | case4 => cases h

/-- Percent-decoding keeps the low characters. -/
theorem mem_of_decode? {c : Char} {t decoded : Text} (hc : IsLow c) (h : decode? t = some decoded)
    (hmem : c ∈ t) : c ∈ decoded := by
  have hlow : c.toNat ≤ 0x20 := hc
  have hbyte : (UInt8.ofNat c.toNat).toNat = c.toNat := by
    rw [UInt8.toNat_ofNat']
    omega
  have hwritten : UInt8.ofNat c.toNat ∈ Utf8.encode t := by
    refine List.mem_flatMap.2 ⟨c, hmem, ?_⟩
    rw [Utf8.encodeChar_of_ascii (by omega)]
    exact List.mem_singleton_self _
  have hkept : UInt8.ofNat c.toNat ∈ decodeBytes (Utf8.encode t) := by
    refine mem_decodeBytes ?_ ?_ hwritten
    · intro h37
      have := congrArg UInt8.toNat h37
      rw [hbyte] at this
      simp at this
      omega
    · rw [hbyte, Char.ofNat_toNat]
      exact IsLow.forall (P := fun c => Text.digitValue? c = none) (by decide) hc
  rw [← Utf8.encode_of_decode? h] at hkept
  rcases Utf8.mem_of_byte_mem_encode hkept (by rw [hbyte]; omega) with ⟨d, hd, hdc⟩
  rw [hbyte] at hdc
  have hcd : d = c := Char.toNat_inj.1 hdc
  exact hcd ▸ hd

end Percent

/-! ## Names of hosts -/

namespace Host

/-- Low characters may not stand in a domain name. -/
theorem isForbidden_of_low {c : Char} (hc : IsLow c) : isForbidden c = true := by
  have hlow : decide (c.toNat ≤ 0x20) = true := decide_eq_true hc
  rw [isForbidden, hlow]
  rfl

/-- A text with a low character is no domain name. -/
theorem parseDomain?_eq_none_of_low {c : Char} {t : Text} (hc : IsLow c) (hmem : c ∈ t) :
    parseDomain? t = none := by
  have hascii : (Percent.decode? t).bind (Idna.toAscii? isForbidden) = none := by
    cases hd : Percent.decode? t with
    | none => rfl
    | some decoded =>
      exact Idna.toAscii?_eq_none_of_low hc (isForbidden_of_low hc)
        (Percent.mem_of_decode? hc hd hmem)
  rw [parseDomain?, hascii]

/-- A text with a low character at its end is no host of the web. -/
theorem parseSpecial?_concat_low {c : Char} {t : Text} (hc : IsLow c) :
    parseSpecial? (t ++ [c]) = none := by
  unfold parseSpecial?
  split
  · have hclose : c ≠ ']' := hc.ne (by decide)
    simp [parseBracketed?, bracketed?, hclose]
  · rw [parseDomain?_eq_none_of_low hc (by simp)]

/-- Every host of the web is written as something. -/
theorem parseSpecial?_ne_empty {t : Text} {host : Host} (h : parseSpecial? t = some host) :
    host ≠ Host.empty := by
  rintro rfl
  unfold parseSpecial? at h
  split at h
  · rcases Option.map_eq_some_iff.1 h with ⟨_, _, h⟩
    cases h
  · split at h
    · cases h
    · split at h
      · rcases Option.map_eq_some_iff.1 h with ⟨_, _, h⟩
        cases h
      · cases h

/-- The empty text is no host of the web. -/
theorem parseSpecial?_nil : parseSpecial? [] = none := by
  have hdecode : Percent.decode? [] = some [] := Utf8.decode?_encode []
  have hascii : Idna.toAscii? isForbidden [] = some [] := rfl
  have hdomain : parseDomain? [] = none := by
    rw [parseDomain?, hdecode, Option.bind_some, hascii]
  simp [parseSpecial?, hdomain]

end Host

/-! ## Authorities -/

/-- The end of a text is the end of its last part. -/
theorem eq_concat_of_append {c : Char} {t front back : Text} (h : t ++ [c] = front ++ back)
    (hback : back ≠ []) : ∃ more, back = more ++ [c] := by
  rcases (List.eq_nil_or_concat back).resolve_left hback with ⟨more, d, rfl⟩
  rw [List.concat_eq_append, ← List.append_assoc] at h
  rcases List.append_inj' h rfl with ⟨-, hd⟩
  cases hd
  exact ⟨more, List.concat_eq_append⟩

/-- A low character at the end of an authority stands behind the user information. -/
theorem splitUserinfo_concat_low {c : Char} {t : Text} (hc : IsLow c) :
    ∃ userinfo rest, splitUserinfo (t ++ [c]) = (userinfo, rest ++ [c]) := by
  have hat : c ≠ '@' := hc.ne (by decide)
  unfold splitUserinfo
  cases hsplit : Text.splitLast? '@' (t ++ [c]) with
  | none => exact ⟨none, t, rfl⟩
  | some cut =>
    rcases cut with ⟨before, after⟩
    rcases Text.splitLast?_eq_some_iff.1 hsplit with ⟨htext, -⟩
    rcases eq_concat_of_append htext (by simp) with ⟨more, hmore⟩
    rcases more with _ | ⟨first, more⟩
    · simp [Ne.symm hat] at hmore
    · rcases List.cons_eq_cons.1 hmore with ⟨-, rfl⟩
      exact ⟨some before, more, rfl⟩

/-- A low character at the end of an authority is left over behind the digits of the port. -/
theorem splitDigits_concat_low {c : Char} {t : Text} (hc : IsLow c) :
    (splitDigits (t ++ [c])).2 ≠ [] := by
  intro h
  have hdigit := Text.all_of_trimStart_eq_nil (p := Numeral.isDigit) h c (by simp)
  rw [IsLow.forall (P := fun c => Numeral.isDigit c = false) (by decide) hc] at hdigit
  cases hdigit

/-- A text with a low character at its end is no host with a port. -/
theorem hostAndPort?_concat_low {scheme : Text} {c : Char} {t : Text}
    (hs : isSpecialScheme scheme = true) (hc : IsLow c) :
    hostAndPort? scheme (t ++ [c]) = none := by
  have hsplit := splitHost_append (t ++ [c])
  rw [hostAndPort?]
  rcases hparts : splitHost (t ++ [c]) with ⟨name, rest⟩
  rw [hparts] at hsplit
  dsimp only
  rw [if_pos hs]
  refine Option.eq_none_iff_forall_ne_some.2 fun result hresult => ?_
  rcases Option.bind_eq_some_iff.1 hresult with ⟨host, hread, h⟩
  clear hresult
  split at h
  · obtain rfl : name = t ++ [c] := by simpa using hsplit
    rw [Host.parseSpecial?_concat_low hc] at hread
    cases hread
  · rename_i written
    have hend : t ++ [c] = (name ++ [':']) ++ written := by simpa using hsplit.symm
    have hne : written ≠ [] := by
      rintro rfl
      rcases List.append_inj' hsplit rfl with ⟨-, hlast⟩
      cases hlast
      exact absurd hc (by decide)
    rcases eq_concat_of_append hend hne with ⟨more, rfl⟩
    rcases Option.bind_eq_some_iff.1 h with ⟨_, _, h⟩
    rcases Option.bind_eq_some_iff.1 h with ⟨_, hleft, _⟩
    have hnone := Idna.of_guard hleft
    simp only [hs, Bool.true_eq_false, false_and, or_false] at hnone
    exact splitDigits_concat_low hc hnone
  · cases h

/-- A host of the web is written as something, and nothing is left over behind its port. -/
theorem hostAndPort?_eq_some {scheme : Text} {t left : Text} {host : Host} {port : Option Nat}
    (hs : isSpecialScheme scheme = true)
    (h : hostAndPort? scheme t = some (host, port, left)) : host ≠ Host.empty ∧ left = [] := by
  rw [hostAndPort?] at h
  rcases splitHost t with ⟨name, rest⟩
  dsimp only at h
  rw [if_pos hs] at h
  rcases Option.bind_eq_some_iff.1 h with ⟨read, hread, h⟩
  have hne := Host.parseSpecial?_ne_empty hread
  split at h
  · cases h
    exact ⟨hne, rfl⟩
  · rcases Option.bind_eq_some_iff.1 h with ⟨_, _, h⟩
    rcases Option.bind_eq_some_iff.1 h with ⟨_, hleft, h⟩
    rcases Option.bind_eq_some_iff.1 h with ⟨_, _, h⟩
    cases h
    have hnone := Idna.of_guard hleft
    simp only [hs, Bool.true_eq_false, false_and, or_false] at hnone
    exact ⟨hne, hnone⟩
  · cases h

/-- An authority of the web is its user information and its host, whatever follows. -/
theorem authority?_of_special {scheme : Text} {more : Bool} {t : Text}
    (hs : isSpecialScheme scheme = true) :
    authority? scheme more t =
      (hostAndPort? scheme (splitUserinfo t).2).map fun (host, port, _) =>
        (⟨(readUserinfo ((splitUserinfo t).1.getD [])).1,
          (readUserinfo ((splitUserinfo t).1.getD [])).2, host, port⟩, []) := by
  rw [authority?]
  generalize splitUserinfo t = cut
  rcases cut with ⟨userinfo, rest⟩
  dsimp only
  generalize readUserinfo (userinfo.getD []) = names
  cases hhost : hostAndPort? scheme rest with
  | none => rfl
  | some read =>
    rcases read with ⟨host, port, left⟩
    rcases hostAndPort?_eq_some hs hhost with ⟨hne, rfl⟩
    have hpass : (guard (host ≠ Host.empty ∨ names.1 = [] ∧ names.2 = [] ∧
        ¬ (userinfo = some [] ∧ more = true)) : Option Unit) = some () := if_pos (.inl hne)
    dsimp only [Option.bind_eq_bind, Option.bind_some]
    rw [hpass]
    rfl

/-- An authority with a low character at its end is refused. -/
theorem authority?_concat_low {scheme : Text} {more : Bool} {c : Char} {t : Text}
    (hs : isSpecialScheme scheme = true) (hc : IsLow c) :
    authority? scheme more (t ++ [c]) = none := by
  rcases splitUserinfo_concat_low (t := t) hc with ⟨userinfo, rest, hsplit⟩
  rw [authority?_of_special hs, hsplit, hostAndPort?_concat_low hs hc]
  rfl

/-- An authority of the web is not empty. -/
theorem authority?_nil {scheme : Text} {more : Bool} (hs : isSpecialScheme scheme = true) :
    authority? scheme more [] = none := by
  have hhost : hostAndPort? scheme [] = none := by
    rw [hostAndPort?, show splitHost [] = ([], []) from rfl]
    dsimp only
    rw [if_pos hs, Host.parseSpecial?_nil]
    rfl
  rw [authority?_of_special hs, show splitUserinfo [] = (none, []) from rfl, hhost]
  rfl

end Url

end EdgeGateway
