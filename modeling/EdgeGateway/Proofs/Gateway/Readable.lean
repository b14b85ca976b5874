import EdgeGateway.Proofs.Client.Exchanges
import EdgeGateway.Proofs.Gateway.Decision
import EdgeGateway.Proofs.Gateway.Site

/-!
# Origins that make URLs

A configured value is read as a URL before it is accepted, and controls and spaces at its end do not
count then.  The origin keeps them, and in front of a path they no longer stand at an end.  Where an
origin has no path of its own they become part of the authority, and no URL comes of it: every
request for that backend then ends with a fault of the client.

Main results:

- Theorem `Origin.getLast?_of_isFrayed`: only controls and spaces at the end of an origin do that.
- Theorem `readable_iff`: exactly when the URL of a draft can be read, and what the other requests
  come to.
- Theorem `not_readable_frayed`: an accepted value whose origin makes no URL.
-/

namespace EdgeGateway

open Http

/-! ## Origins with controls at their end -/

namespace Url

/-- What is read of a text ends with its last character, unless that is a control or a space. -/
theorem getLast?_cleanFront {t : Text} {c : Char} (hlast : t.getLast? = some c)
    (hc : isEdge c = false) : (cleanFront t).getLast? = some c := by
  obtain ⟨front, rfl⟩ := List.getLast?_eq_some_iff.1 hlast
  have hbreak : isBreak c = false := by
    by_contra h
    simp only [Bool.not_eq_false, isBreak, Bool.or_eq_true, beq_iff_eq] at h
    rcases h with (rfl | rfl) | rfl <;> exact absurd hc (by decide)
  rw [cleanFront, Text.trimStart, List.dropWhile_append]
  split <;> simp [hc, hbreak]

end Url

namespace Origin

open Url

/-- What is read of an origin behind its scheme is the end of what is read of it. -/
theorem behindScheme_suffix (origin : Text) : behindScheme origin <:+ cleanFront origin := by
  unfold behindScheme
  cases htake : takeScheme? (cleanFront origin) with
  | none => exact List.nil_suffix
  | some cut =>
    rcases cut with ⟨scheme, rest⟩
    rcases takeScheme?_eq_some_iff.1 htake with ⟨first, more, htext, -⟩
    exact ⟨first :: more ++ [':'], by simp [htext]⟩

/-- An origin whose authority would end in a control or a space ends in one itself. -/
theorem getLast?_of_isFrayed {origin : Text} (h : isFrayed origin = true) :
    ∃ c, origin.getLast? = some c ∧ isEdge c = true := by
  have hsite : siteText (behindScheme origin) <:+ cleanFront origin :=
    (List.dropWhile_suffix _).trans (behindScheme_suffix origin)
  simp only [isFrayed, endsLow, Bool.and_eq_true] at h
  obtain ⟨d, hd, hlow⟩ := (Option.any_eq_true _ _).1 h.2
  have hread : (cleanFront origin).getLast? = some d := by
    obtain ⟨front, hfront⟩ := hsite
    rw [← hfront, List.getLast?_append, hd, Option.some_or]
  cases hlast : origin.getLast? with
  | none =>
    rw [List.getLast?_eq_none_iff.1 hlast] at hread
    cases hread
  | some c =>
    refine ⟨c, rfl, ?_⟩
    by_contra hc
    rw [getLast?_cleanFront hlast (by simpa using hc)] at hread
    cases hread
    exact hc hlow

end Origin

namespace Gateway

/-! ## What the client makes of a draft -/

variable {g : Gateway} {r : Request} {backend : Backend} {out : Outbound}

/-- A request whose URL cannot be read is answered with status 502, and the network does not hear of
it. -/
theorem serve_of_unreadable {σ : Type} (net : Client.Network σ) (s : σ)
    (hm : r.method ≠ .options) (hdraft : (g.draft r).1 = .ok (backend, out))
    (hread : Url.parse? out.url = none) :
    (g.serve (Client.carrier net) r s).1.response =
        delivered (Fault.exchange .unreadableUrl).response ∧
      (g.serve (Client.carrier net) r s).2 = s := by
  have hurl : Client.readUrl out.url = .error .unreadableUrl := by
    rw [Client.readUrl, hread]
  obtain ⟨hresponse, hstate⟩ := serve_of_ok (s := s) hm hdraft
  rw [Client.send_of_unusable net hurl] at hresponse hstate
  exact ⟨hresponse, hstate⟩

/-- The URL of a draft can be read exactly if its origin does not make a control or a space at its
end part of the authority.  Such an origin, which ends in a control or a space, has every request
for its backend answered with status 502, and nothing is ever sent. -/
theorem readable_iff {value origin : Text} (hvalue : Origin.ofText? value = some origin)
    (horigin : g.origins.get? backend = some origin)
    (hdraft : (g.draft r).1 = .ok (backend, out)) :
    ((Url.parse? out.url).isSome = true ↔ Origin.isFrayed origin = false) ∧
      (Origin.isFrayed origin = true →
        (∃ c, origin.getLast? = some c ∧ Url.isEdge c = true) ∧
        ∀ (σ : Type) (net : Client.Network σ) (s : σ), r.method ≠ .options →
          (g.serve (Client.carrier net) r s).1.response =
              delivered (Fault.exchange .unreadableUrl).response ∧
            (g.serve (Client.carrier net) r s).1.response.status.code = 502 ∧
            (g.serve (Client.carrier net) r s).2 = s) := by
  obtain ⟨w, authority, -, -, -, -, -, -, -, -, hreads⟩ := Origin.parse?_origin_append hvalue
  rcases url_of_draft horigin hdraft with ⟨d, -, -, hslash, hurl⟩
  have hparse := hreads _ (head?_append_queryText hslash r.target.query)
  rw [← hurl] at hparse
  constructor
  · cases hfrayed : Origin.isFrayed origin <;> simp [hparse, hfrayed]
  · intro hfrayed
    refine ⟨Origin.getLast?_of_isFrayed hfrayed, fun σ net s hm => ?_⟩
    rw [hfrayed, if_pos rfl] at hparse
    obtain ⟨hresponse, hstate⟩ := serve_of_unreadable net s hm hdraft hparse
    exact ⟨hresponse, code_of_delivered hresponse, hstate⟩

/-- A gateway whose only origin has a path with a space at its end. -/
def padded : Gateway where
  origins := ⟨some "http://[::1]/base ".toList, none⟩
  routes := {}

/-- What is drafted there for the path that is written like an authority. -/
def paddedDraft : Outbound :=
  ⟨.get, "http://[::1]/base /api/v1/@evil:80".toList, Outbound.headersFor [], none⟩

/-- A gateway whose only origin is a host with a control behind it. -/
def frayed : Gateway where
  origins := ⟨some "http://[::1]\x01".toList, none⟩
  routes := {}

/-- What is drafted there for the same path. -/
def frayedDraft : Outbound :=
  ⟨.get, "http://[::1]\x01/api/v1/@evil:80".toList, Outbound.headersFor [], none⟩

/-- A network that counts what it is asked for and never answers. -/
def deaf : Client.Network Nat :=
  fun _ n => (none, n + 1)

/-- A space behind a path does no harm, and a control behind a host ends every request. -/
theorem readable_iff_padded_frayed :
    Origin.ofText? "http://[::1]/base ".toList = some "http://[::1]/base ".toList ∧
      (padded.draft luring).1 = .ok (.billing, paddedDraft) ∧
      (Url.parse? paddedDraft.url).isSome = true ∧
      Origin.ofText? "http://[::1]\x01".toList = some "http://[::1]\x01".toList ∧
      (frayed.draft luring).1 = .ok (.billing, frayedDraft) ∧
      (frayed.serve (Client.carrier deaf) luring 0).1.response.status.code = 502 ∧
      (frayed.serve (Client.carrier deaf) luring 0).2 = 0 := by
  have hpadded : Origin.ofText? "http://[::1]/base ".toList =
      some "http://[::1]/base ".toList := by
    decide +kernel
  have hfrayed : Origin.ofText? "http://[::1]\x01".toList = some "http://[::1]\x01".toList := by
    decide +kernel
  have hpaddedDraft : (padded.draft luring).1 = .ok (.billing, paddedDraft) := rfl
  have hfrayedDraft : (frayed.draft luring).1 = .ok (.billing, frayedDraft) := rfl
  have hread := (readable_iff hpadded rfl hpaddedDraft).1.2 (by decide +kernel)
  have hfails := (readable_iff hfrayed rfl hfrayedDraft).2 (by decide +kernel)
  have hserved := hfails.2 Nat deaf 0 (by decide)
  exact ⟨hpadded, hpaddedDraft, hread, hfrayed, hfrayedDraft, hserved.2.1, hserved.2.2⟩

/-- A host with a control behind it is accepted, and no URL comes of a path behind it. -/
theorem not_readable_frayed :
    Origin.ofText? "http://[::1]\x01".toList = some "http://[::1]\x01".toList ∧
      (frayed.draft luring).1 = .ok (.billing, frayedDraft) ∧
      Url.parse? frayedDraft.url = none := by
  exact ⟨by decide +kernel, rfl, by decide +kernel⟩

end Gateway

end EdgeGateway
