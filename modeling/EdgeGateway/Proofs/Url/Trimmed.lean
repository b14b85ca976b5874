import EdgeGateway.Proofs.Url.Appended
import EdgeGateway.Settings.Read

/-!
# Trimming an origin

An accepted value is used without the slashes at its end.  All of them stand behind its authority:
neither the slashes between scheme and authority nor anything in the authority goes away with them,
however the value is written, so that the origin is read as the value is and can be accepted once
more.

Main results:

- Theorem `clean_append_of_slashes`: what slashes at the end of a text add to what is read of it.
- Theorem `Origin.parse?_trimmed`: the URLs of a value and of its origin share everything in front
  of the path.
- Theorem `Settings.readOrigin_trims`: what is cut off a value, and what stays.
-/

namespace EdgeGateway

namespace Url

open Unicode (IsLow)

/-- The slashes that a text has between the colon of its scheme and its authority. -/
def separator? (t : Text) : Option Text :=
  (takeScheme? (clean t)).map fun (_, rest) => rest.takeWhile (isSlash true)

/-- Slashes at the end of a text add slashes to what is read of it, and the blanks in front of
them. -/
theorem clean_append_of_slashes {t slashes : Text} (ht : Text.trimStart isEdge t ≠ [])
    (hslashes : ∀ c ∈ slashes, c = '/') :
    ∃ back, clean (t ++ slashes) = clean t ++ back ∧ ∀ c ∈ back, c = '/' ∨ IsLow c := by
  cases slashes with
  | nil => exact ⟨[], by simp, by simp⟩
  | cons slash more =>
    have hhead : (slash :: more).head? = some '/' := by simp [hslashes slash (by simp)]
    rcases cleanFront_eq_clean_append t with ⟨blanks, hblanks, hlow⟩
    refine ⟨blanks ++ clean (slash :: more), ?_, fun c hc => ?_⟩
    · rw [clean_append ht hhead, hblanks, List.append_assoc]
    · rcases List.mem_append.1 hc with hc | hc
      · exact .inr (hlow c hc)
      · exact .inl (hslashes c (mem_of_mem_clean hc))

/-- Slashes that end a text with something else in it are not added to those in front. -/
theorem takeWhile_slash_append {t : Text} (back : Text) (ht : siteText t ≠ []) :
    (t ++ back).takeWhile (isSlash true) = t.takeWhile (isSlash true) := by
  have hcut := Text.cut_append_of_ne_nil (p := fun c => !isSlash true c) back
    (by simpa [Text.dropUntil, siteText] using ht)
  simpa [Text.takeUntil] using hcut.1

end Url

namespace Origin

open Url Unicode

/-- An accepted value and its origin are read as URLs with the same separator, scheme and
authority. -/
theorem parse?_trimmed {value origin : Text} (h : ofText? value = some origin) :
    separator? origin = separator? value ∧ ∃ scheme authority own back,
      Url.parse? value =
        some (assemble scheme (some authority) (readTail true specialPath (own ++ back))) ∧
      Url.parse? origin = some (assemble scheme (some authority) (readTail true specialPath own)) ∧
      ∀ c ∈ back, c = '/' ∨ IsLow c := by
  rcases ofText?_eq_some_iff.1 h with ⟨⟨w, hw, hweb⟩, rfl⟩
  rcases special_of_isWeb hweb with ⟨hspecial, hfile⟩
  rcases parse?_web hw hweb with ⟨rest, htake, hparse⟩
  rcases Text.eq_trimEnd_append (· == '/') value with ⟨slashes, hvalue, hslashes⟩
  rcases clean_append_of_slashes (clean_value htake).1 (fun c hc => beq_iff_eq.1 (hslashes c hc))
    with ⟨back, hclean, hback⟩
  rw [← hvalue] at hclean
  have hcolon : ':' ∉ back := by
    intro hmem
    rcases hback _ hmem with hslash | hlow
    · cases hslash
    · exact absurd hlow (by decide)
  rw [hclean] at htake
  rcases takeScheme?_of_append hcolon htake with ⟨behind, rfl, hscheme⟩
  have horigin : takeScheme? (clean (Text.trimEnd (· == '/') value)) = some (w.scheme, behind) := by
    simpa using hscheme []
  rcases parseSpecial?_of_append hspecial hback hparse with ⟨hne, authority, left, hauthority, hown⟩
  refine ⟨?_, w.scheme, authority, behindAuthority behind, back, ?_, ?_, hback⟩
  · rw [separator?, separator?, horigin, hclean, htake]
    exact congrArg some (takeWhile_slash_append back hne).symm
  · rw [hw, ← hown]
  · have hread : Url.parse? (Text.trimEnd (· == '/') value) =
        parseAuthority? w.scheme (siteText behind) := by
      rw [Url.parse?, horigin, Option.bind_some]
      simp only [parseAfterScheme?, hspecial, hfile, if_true, if_false]
      rfl
    rw [hread, parseAuthority?_of_special _ hspecial, hauthority]
    rfl

/-- An origin is accepted as itself. -/
theorem ofText?_trimmed {value origin : Text} (h : ofText? value = some origin) :
    ofText? origin = some origin := by
  rcases parse?_trimmed h with ⟨-, scheme, authority, own, back, hvalue, horigin, -⟩
  rcases ofText?_eq_some_iff.1 h with ⟨⟨w, hw, hweb⟩, rfl⟩
  rw [hvalue] at hw
  cases hw
  exact ofText?_eq_some_iff.2 ⟨⟨_, horigin, hweb⟩, (Text.trimEnd_idem _ value).symm⟩

end Origin

namespace Settings

/-- A value is read as an origin if it is accepted as one. -/
theorem readOrigin_eq_ok_iff {name value origin : Text} :
    readOrigin name value = .ok origin ↔ Origin.ofText? value = some origin := by
  unfold readOrigin
  cases Origin.ofText? value <;> simp

/-- The origin that is read from a value does not end in a slash, lacks nothing but slashes at the
end of the value, is read from itself too, and has the scheme, the separator behind it, the user
information, the host and the port of the value. -/
theorem readOrigin_trims {name value origin : Text} (h : readOrigin name value = .ok origin) :
    origin.getLast? ≠ some '/' ∧
      (∃ slashes, value = origin ++ slashes ∧ ∀ c ∈ slashes, c = '/') ∧
      readOrigin name origin = .ok origin ∧
      Url.separator? origin = Url.separator? value ∧
      ∃ w u, Url.parse? value = some w ∧ Url.parse? origin = some u ∧
        u.scheme = w.scheme ∧ u.username = w.username ∧ u.password = w.password ∧
          u.host = w.host ∧ u.port = w.port := by
  have haccepted := readOrigin_eq_ok_iff.1 h
  obtain rfl := (Origin.ofText?_eq_some_iff.1 haccepted).2
  rcases Origin.parse?_trimmed haccepted with
    ⟨hseparator, scheme, authority, own, back, hvalue, horigin, -⟩
  refine ⟨fun hlast => ?_, ?_, ?_, hseparator, _, _, hvalue, horigin, rfl, rfl, rfl, rfl, rfl⟩
  · exact absurd (Text.getLast?_trimEnd _ hlast) (by decide)
  · rcases Text.eq_trimEnd_append (· == '/') value with ⟨slashes, hcut, hslashes⟩
    exact ⟨slashes, hcut, fun c hc => beq_iff_eq.1 (hslashes c hc)⟩
  · exact readOrigin_eq_ok_iff.2 (Origin.ofText?_trimmed haccepted)

/-- A value without slashes behind its scheme, with an empty segment and a tab at its end. -/
theorem readOrigin_trims_forgiving :
    readOrigin UrlVariable.billing.name "http:[::1]:8080/\t//".toList =
        .ok "http:[::1]:8080/\t".toList ∧
      Url.separator? "http:[::1]:8080/\t//".toList = some [] ∧
      ∃ w u, Url.parse? "http:[::1]:8080/\t//".toList = some w ∧
        Url.parse? "http:[::1]:8080/\t".toList = some u ∧ u.host = w.host ∧ u.port = w.port := by
  have hread : readOrigin UrlVariable.billing.name "http:[::1]:8080/\t//".toList =
      .ok "http:[::1]:8080/\t".toList := by
    decide +kernel
  rcases readOrigin_trims hread with ⟨-, -, -, -, w, u, hw, hu, -, -, -, hhost, hport⟩
  exact ⟨hread, by decide +kernel, w, u, hw, hu, hhost, hport⟩

end Settings

end EdgeGateway
