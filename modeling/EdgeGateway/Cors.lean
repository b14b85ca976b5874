import EdgeGateway.Http.Message

/-!
# Cross-origin requests

Browsers ask before they send requests to other origins.  The gateway allows the same methods and
header fields to every origin, says so on every response, and answers the question itself.

Main results:

- Theorem `values_permitFields_of_mem`: every response has exactly the fixed values.
- Theorem `values_permitFields_of_not_mem`: all other header fields are kept.
-/

namespace EdgeGateway

namespace Cors

open Http

/-- The header fields of every response. -/
def fields : List HeaderField :=
  [⟨.allowOrigin, valueOf ['*']⟩,
    ⟨.allowMethods, valueOf "GET, POST, PUT, DELETE, OPTIONS".toList⟩,
    ⟨.allowHeaders, valueOf "Content-Type, Authorization, X-API-Key".toList⟩]

/-- How long, in seconds, a browser may remember the answer. -/
def maxAge : HeaderField :=
  ⟨.maxAge, valueOf "86400".toList⟩

/-- Makes fields the only ones of their names. -/
def insertAll (hs : Headers) (new : List HeaderField) : Headers :=
  new.foldl (fun hs f => hs.insert f.name f.value) hs

/-- Puts the fixed fields into a header section. -/
def permitFields (hs : Headers) : Headers :=
  insertAll hs fields

/-- A response that any origin may read. -/
def permit (r : Response) : Response :=
  { r with headers := permitFields r.headers }

/-- The answer to a browser that asks. -/
def preflight : Response where
  status := .ok
  headers := (permitFields []).insert maxAge.name maxAge.value
  body := .empty

theorem values_insertAll_of_not_mem {new : List HeaderField} {name : FieldName} (hs : Headers)
    (h : ∀ f ∈ new, f.name ≠ name) : (insertAll hs new).values name = hs.values name := by
  induction new generalizing hs with
  | nil => rfl
  | cons f rest ih =>
    have hf := h f (by simp)
    rw [insertAll, List.foldl_cons]
    have := ih (hs.insert f.name f.value) fun g hg => h g (by simp [hg])
    rw [insertAll] at this
    rw [this, Headers.values_insert, if_neg hf]

theorem values_insertAll_of_mem {new : List HeaderField} {f : HeaderField} (hs : Headers)
    (hf : f ∈ new) (h : new.Pairwise fun a b => a.name ≠ b.name) :
    (insertAll hs new).values f.name = [f.value] := by
  induction new generalizing hs with
  | nil => simp at hf
  | cons g rest ih =>
    obtain ⟨hg, hrest⟩ := List.pairwise_cons.1 h
    rcases List.mem_cons.1 hf with rfl | hf
    · have := values_insertAll_of_not_mem (hs.insert f.name f.value)
        fun a ha => Ne.symm (hg a ha)
      rw [insertAll, List.foldl_cons, ← insertAll, this, Headers.values_insert, if_pos rfl]
    · rw [insertAll, List.foldl_cons, ← insertAll]
      exact ih _ hf hrest

theorem fields_pairwise : fields.Pairwise fun a b => a.name ≠ b.name := by
  decide

theorem values_permitFields_of_mem {f : HeaderField} (hs : Headers) (h : f ∈ fields) :
    (permitFields hs).values f.name = [f.value] :=
  values_insertAll_of_mem hs h fields_pairwise

theorem values_permitFields_of_not_mem {name : FieldName} (hs : Headers)
    (h : ∀ f ∈ fields, f.name ≠ name) : (permitFields hs).values name = hs.values name :=
  values_insertAll_of_not_mem hs h

end Cors

end EdgeGateway
