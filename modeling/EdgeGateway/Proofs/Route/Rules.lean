import EdgeGateway.Route

/-!
# The rules of a table

A table decides by three rules: the health check, the paths below the public interface, and the
paths below the prefix of the user interface.  This module says once what the rules do together, how
the path that was asked for is found again, and why rules with an accepted prefix cannot get into
each other's way.

Main results:

- Theorem `Table.destination?_eq_some_iff`: what a table does, rule by rule.
- Theorem `Table.source_of_routes`: a destination has only one path that leads to it.
- Theorem `Table.mem_of_mem_destination`: what the path for a backend is made of.
- Theorem `Table.head?_destination`: the path for a backend begins with a slash.
- Theorem `overlaps_iff_collides`: the prefixes that are refused are those that share a path with
  the public interface.
- Theorem `firstOf_move`: a rule may be tried later if it contradicts none of those it is moved
  behind.
- Theorem `clear_of_normalizePrefix?`: with an accepted prefix every rule has paths of its own.
-/

namespace EdgeGateway

namespace Route

/-! ## Paths below a prefix -/

/-- A path lies below a prefix if it begins with the prefix and a slash. -/
def Below (pre path : Text) : Prop :=
  pre ++ ['/'] <+: path

/-- A path below a prefix has a rest behind the slash. -/
theorem below_iff {pre path : Text} : Below pre path ↔ ∃ rest, path = pre ++ '/' :: rest := by
  constructor
  · rintro ⟨rest, rfl⟩
    exact ⟨rest, by simp⟩
  · rintro ⟨rest, rfl⟩
    exact ⟨rest, by simp⟩

/-- What is put behind a prefix and a slash lies below the prefix. -/
theorem below_append (pre rest : Text) : Below pre (pre ++ '/' :: rest) :=
  below_iff.2 ⟨rest, rfl⟩

/-- The rest of a path below a prefix is found with its slash. -/
theorem below?_append (pre rest : Text) : below? pre (pre ++ '/' :: rest) = some ('/' :: rest) :=
  below?_eq_some_iff.2 ⟨rfl, rfl⟩

/-- A path that does not lie below a prefix has no rest. -/
theorem below?_eq_none_iff {pre path : Text} : below? pre path = none ↔ ¬ Below pre path := by
  simp [below?, Below, List.isPrefixOf_iff_prefix]

/-- The health check lies below the public interface. -/
theorem below_healthCheckPath : Below publicApi healthCheckPath := by
  unfold Below
  decide

/-! ## What a table does -/

/-- Where a table sends a path, rule by rule. -/
inductive Table.Routes (table : Table) : Text → Destination → Prop where
  | health : Routes table healthCheckPath ⟨.billing, billingHealthPath⟩
  | api {rest : Text} (hhealth : publicApi ++ '/' :: rest ≠ healthCheckPath) :
    Routes table (publicApi ++ '/' :: rest) ⟨.billing, billingApi ++ '/' :: rest⟩
  | ui {rest : Text} (hapi : ¬ Below publicApi (table.uiPrefix ++ '/' :: rest)) :
    Routes table (table.uiPrefix ++ '/' :: rest) ⟨.orchestrationUi, '/' :: rest⟩

namespace Table

variable {table : Table} {path : Text} {d : Destination}

/-- Every destination comes from one of the rules. -/
theorem routes_of_destination? (h : table.destination? path = some d) : table.Routes path d := by
  unfold destination? at h
  split at h
  · rename_i hhealth
    cases h
    rw [hhealth]
    exact .health
  · rename_i hhealth
    split at h
    · rename_i behind hbehind
      obtain ⟨rfl, hhead⟩ := below?_eq_some_iff.1 hbehind
      obtain ⟨rest, rfl⟩ := List.head?_eq_some_iff.1 hhead
      cases h
      exact .api hhealth
    · rename_i hnone
      obtain ⟨behind, hbehind, rfl⟩ := Option.map_eq_some_iff.1 h
      obtain ⟨rfl, hhead⟩ := below?_eq_some_iff.1 hbehind
      obtain ⟨rest, rfl⟩ := List.head?_eq_some_iff.1 hhead
      exact .ui (below?_eq_none_iff.1 hnone)

/-- A table sends a path to a destination exactly if one of its rules does. -/
theorem destination?_eq_some_iff : table.destination? path = some d ↔ table.Routes path d := by
  constructor
  · exact routes_of_destination?
  · intro h
    cases h with
    | health => exact destination?_health table
    | api hhealth =>
      unfold destination?
      rw [if_neg hhealth, below?_append]
    | @ui rest hapi =>
      have hhealth : table.uiPrefix ++ '/' :: rest ≠ healthCheckPath := by
        intro heq
        rw [heq] at hapi
        exact hapi below_healthCheckPath
      unfold destination?
      rw [if_neg hhealth, below?_eq_none_iff.2 hapi, below?_append]
      rfl

/-- A table has a destination exactly for the paths of its rules. -/
theorem isSome_destination?_iff : (table.destination? path).isSome = true ↔
    path = healthCheckPath ∨ Below publicApi path ∨ Below table.uiPrefix path := by
  constructor
  · intro h
    obtain ⟨d, hd⟩ := Option.isSome_iff_exists.1 h
    cases destination?_eq_some_iff.1 hd with
    | health => exact .inl rfl
    | api _ => exact .inr (.inl (below_append _ _))
    | ui _ => exact .inr (.inr (below_append _ _))
  · intro h
    apply Option.isSome_iff_exists.2
    by_cases hhealth : path = healthCheckPath
    · rw [hhealth]
      exact ⟨_, destination?_eq_some_iff.2 .health⟩
    · by_cases hapi : Below publicApi path
      · obtain ⟨rest, rfl⟩ := below_iff.1 hapi
        exact ⟨_, destination?_eq_some_iff.2 (.api hhealth)⟩
      · obtain ⟨rest, rfl⟩ := below_iff.1 ((h.resolve_left hhealth).resolve_left hapi)
        exact ⟨_, destination?_eq_some_iff.2 (.ui hapi)⟩

/-! ## Finding the path again -/

/-- The path that was asked for, from the backend and the path there. -/
def source (table : Table) (backend : Backend) (path : Text) : Text :=
  match backend with
  | .billing =>
    if path = billingHealthPath then healthCheckPath
    else publicApi ++ path.drop billingApi.length
  | .orchestrationUi => table.uiPrefix ++ path

/-- The versioned interface does not reach the health check of the billing backend. -/
theorem billingApi_ne_billingHealthPath (rest : Text) :
    billingApi ++ '/' :: rest ≠ billingHealthPath := by
  intro h
  have hsecond : some 'a' = some 'h' := congrArg (fun t : Text => t[1]?) h
  exact absurd hsecond (by decide)

/-- A destination has only one path that leads to it, which can be found again. -/
theorem source_of_routes (h : table.Routes path d) : table.source d.backend d.path = path := by
  cases h with
  | health => simp [source]
  | api _ => simp [source, billingApi_ne_billingHealthPath]
  | ui _ => rfl

/-! ## Paths for backends -/

/-- The path for a backend is made of the path that was asked for and of fixed texts. -/
theorem mem_of_mem_destination {c : Char} (h : table.destination? path = some d)
    (hc : c ∈ d.path) : c ∈ path ∨ c ∈ billingHealthPath ∨ c ∈ billingApi := by
  cases routes_of_destination? h with
  | health => exact .inr (.inl hc)
  | api _ =>
    rcases List.mem_append.1 hc with hc | hc
    · exact .inr (.inr hc)
    · exact .inl (List.mem_append_right _ hc)
  | ui _ => exact .inl (List.mem_append_right _ hc)

/-- The path for a backend begins with a slash, whatever the prefix of the user interface. -/
theorem head?_destination (h : table.destination? path = some d) : d.path.head? = some '/' := by
  cases routes_of_destination? h with
  | health => rfl
  | api _ => rfl
  | ui _ => rfl

end Table

/-! ## Prefixes that share paths -/

/-- A prefix overlaps the public interface if a path lies below both. -/
def Overlaps (pre : Text) : Prop :=
  ∃ path, Below publicApi path ∧ Below pre path

/-- Of two texts in front of a path one is in front of the other.  If that is the prefix with its
slash, the slash would have to be within the public interface. -/
theorem collides_of_below {c : Char} {bare path : Text} (hapi : Below publicApi path)
    (hpre : Below (c :: bare) path) : collides (c :: bare) = true := by
  have hcollides : c :: bare = publicApi ∨ publicApi ++ ['/'] <+: c :: bare := by
    by_cases hlength : (publicApi ++ ['/']).length ≤ (c :: bare ++ ['/']).length
    · have hprefix := List.prefix_of_prefix_length_le hapi hpre hlength
      rcases List.prefix_concat_iff.1 hprefix with heq | hprefix
      · exact .inl (List.append_cancel_right heq).symm
      · exact .inr hprefix
    · have hprefix := List.prefix_of_prefix_length_le hpre hapi (by omega)
      rcases List.prefix_concat_iff.1 hprefix with heq | hprefix
      · exact .inl (List.append_cancel_right heq)
      · exfalso
        have htail : bare ++ ['/'] <+: "api".toList := (List.cons_prefix_cons.1 hprefix).2
        have hslash : '/' ∈ "api".toList := htail.subset (by simp)
        exact absurd hslash (by decide)
  rcases hcollides with heq | hprefix
  · simp [collides, heq]
  · simp [collides, List.isPrefixOf_iff_prefix.2 hprefix]

/-- The prefixes that are refused are exactly those that overlap the public interface. -/
theorem overlaps_iff_collides {c : Char} {bare : Text} :
    Overlaps (c :: bare) ↔ collides (c :: bare) = true := by
  constructor
  · rintro ⟨path, hapi, hpre⟩
    exact collides_of_below hapi hpre
  · intro h
    simp only [collides, Bool.or_eq_true, beq_iff_eq, List.isPrefixOf_iff_prefix] at h
    rcases h with heq | hprefix
    · refine ⟨publicApi ++ ['/'], List.prefix_rfl, ?_⟩
      rw [heq]
      exact List.prefix_rfl
    · refine ⟨c :: bare ++ ['/'], ?_, List.prefix_rfl⟩
      exact hprefix.trans (List.prefix_append _ _)

/-! ## Rules in any order -/

/-- What a rule says about a path. -/
abbrev Rule := Text → Option Destination

/-- The answer of the first rule that has one. -/
def firstOf (rules : List Rule) : Rule :=
  fun path => rules.findSome? (· path)

/-- A rule may be tried behind rules that it does not contradict. -/
theorem firstOf_move {before after : List Rule} {rule : Rule} {path : Text}
    (h : ∀ other ∈ after, other path = none ∨ rule path = none) :
    firstOf (before ++ rule :: after) path = firstOf (before ++ (after ++ [rule])) path := by
  unfold firstOf
  rw [List.findSome?_append, List.findSome?_append, List.findSome?_append, List.findSome?_cons]
  congr 1
  rcases hrule : rule path with _ | d
  · simp [hrule]
  · have hothers : after.findSome? (· path) = none := by
      rw [List.findSome?_eq_none_iff]
      intro other hmem
      apply (h other hmem).resolve_right
      simp [hrule]
    simp [hrule, hothers]

/-- The rule for the health check. -/
def healthRule : Rule :=
  fun path => if path = healthCheckPath then some ⟨.billing, billingHealthPath⟩ else none

/-- The rule for the public interface. -/
def apiRule : Rule :=
  fun path => (below? publicApi path).map fun rest => ⟨.billing, billingApi ++ rest⟩

/-- The rule for the user interface. -/
def Table.uiRule (table : Table) : Rule :=
  fun path => (below? table.uiPrefix path).map (Destination.mk .orchestrationUi)

/-- A table tries the rule for the user interface last. -/
theorem Table.destination?_eq_firstOf (table : Table) :
    table.destination? = firstOf [healthRule, apiRule, table.uiRule] := by
  funext path
  unfold destination? firstOf
  by_cases hhealth : path = healthCheckPath
  · simp [healthRule, hhealth]
  · cases hapi : below? publicApi path with
    | none =>
      cases hui : below? table.uiPrefix path <;> simp [healthRule, apiRule, uiRule, *]
    | some rest => simp [healthRule, apiRule, *]

/-- The rules for the billing backend say nothing about a path that is not below the public
interface. -/
theorem eq_none_of_not_below {rule : Rule} {path : Text} (hrule : rule ∈ [healthRule, apiRule])
    (hapi : ¬ Below publicApi path) : rule path = none := by
  simp only [List.mem_cons, List.not_mem_nil, or_false] at hrule
  rcases hrule with rfl | rfl
  · have hhealth : path ≠ healthCheckPath := by
      intro heq
      rw [heq] at hapi
      exact hapi below_healthCheckPath
    exact if_neg hhealth
  · simp [apiRule, below?_eq_none_iff.2 hapi]

/-- The rule for the user interface says nothing about a path that is not below its prefix. -/
theorem Table.uiRule_eq_none {table : Table} {path : Text} (hui : ¬ Below table.uiPrefix path) :
    table.uiRule path = none := by
  simp [uiRule, below?_eq_none_iff.2 hui]

/-! ## Tables with an accepted prefix -/

/-- Every rule of a table has paths of its own, and treats them in one way. -/
structure Table.Clear (table : Table) : Prop where
  /-- There is a destination for the paths of the rules, and for no others. -/
  routed (path : Text) : (table.destination? path).isSome = true ↔
    path = healthCheckPath ∨ Below publicApi path ∨ Below table.uiPrefix path
  /-- No path lies below both prefixes. -/
  apart (path : Text) : ¬ (Below publicApi path ∧ Below table.uiPrefix path)
  /-- It does not matter when the rule for the user interface is tried. -/
  order (before after : List Rule) (h : before ++ after = [healthRule, apiRule]) :
    firstOf (before ++ table.uiRule :: after) = table.destination?
  /-- The health check has a path of its own. -/
  health : table.destination? healthCheckPath = some ⟨.billing, billingHealthPath⟩
  /-- Any other path below the public interface gets a version, and its rest is kept. -/
  api (rest : Text) (h : publicApi ++ '/' :: rest ≠ healthCheckPath) :
    table.destination? (publicApi ++ '/' :: rest) = some ⟨.billing, billingApi ++ '/' :: rest⟩
  /-- A path below the user interface loses the prefix in front, whatever its rest is, and be it the
  prefix once more. -/
  ui (rest : Text) :
    table.destination? (table.uiPrefix ++ '/' :: rest) = some ⟨.orchestrationUi, '/' :: rest⟩
  /-- The path for a backend begins with a slash. -/
  slash (path : Text) (d : Destination) (h : table.destination? path = some d) :
    d.path.head? = some '/'

/-- With an accepted prefix every rule has paths of its own: the prefix shares no path with the
public interface, so that each path is treated by the one rule that it belongs to. -/
theorem clear_of_normalizePrefix? {raw pre : Text} (h : normalizePrefix? raw = some pre) :
    Table.Clear ⟨pre⟩ := by
  obtain ⟨hpre, -, hcollides⟩ := normalizePrefix?_eq_some_iff.1 h
  have hapart (path : Text) : ¬ (Below publicApi path ∧ Below pre path) := by
    rintro ⟨hapi, hui⟩
    rw [hpre] at hui hcollides
    rw [overlaps_iff_collides.1 ⟨path, hapi, hui⟩] at hcollides
    cases hcollides
  constructor
  case routed =>
    intro path
    exact Table.isSome_destination?_iff
  case apart => exact hapart
  case order =>
    intro before after hrules
    funext path
    rw [Table.destination?_eq_firstOf]
    have hlast : before ++ (after ++ [Table.uiRule ⟨pre⟩]) =
        [healthRule, apiRule, Table.uiRule ⟨pre⟩] := by
      rw [← List.append_assoc, hrules]
      rfl
    rw [← hlast]
    apply firstOf_move
    intro other hother
    by_cases hui : Below pre path
    · left
      apply eq_none_of_not_below (hrules ▸ List.mem_append_right _ hother)
      intro hapi
      exact hapart path ⟨hapi, hui⟩
    · right
      exact Table.uiRule_eq_none hui
  case health => exact Table.destination?_health _
  case api =>
    intro rest hhealth
    exact Table.destination?_eq_some_iff.2 (.api hhealth)
  case ui =>
    intro rest
    apply Table.destination?_eq_some_iff.2
    apply Table.Routes.ui
    intro hapi
    exact hapart _ ⟨hapi, below_append _ _⟩
  case slash =>
    intro path d hd
    exact Table.head?_destination hd

/-- A prefix that only looks like the public interface is accepted, and loses no path to it. -/
theorem clear_of_normalizePrefix?_apix :
    normalizePrefix? " /apix//".toList = some "/apix".toList ∧
      Table.destination? ⟨"/apix".toList⟩ "/apix/apix/".toList =
        some ⟨.orchestrationUi, "/apix/".toList⟩ ∧
      Table.destination? ⟨"/apix".toList⟩ "/api/apix/".toList =
        some ⟨.billing, "/api/v1/apix/".toList⟩ ∧
      Table.destination? ⟨"/apix".toList⟩ "/apix".toList = none := by
  have haccepted : normalizePrefix? " /apix//".toList = some "/apix".toList := by decide
  have hclear := clear_of_normalizePrefix? haccepted
  refine ⟨haccepted, hclear.ui "apix/".toList, hclear.api "apix/".toList (by decide), ?_⟩
  apply Option.not_isSome_iff_eq_none.1
  intro hsome
  have hbelow := (hclear.routed _).1 hsome
  unfold Below at hbelow
  exact absurd hbelow (by decide)

end Route

end EdgeGateway
