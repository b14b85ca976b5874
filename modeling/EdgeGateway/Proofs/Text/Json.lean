import EdgeGateway.Text.Numeral
import EdgeGateway.Text.Quoted

/-!
# Reading JSON text

What a text stands for is said by the grammar of JSON, without regard to how the gateway writes.  A
text may stand for nothing, and a reader of other texts has to expect blanks, all kinds of values and
many spellings of the same string.  The texts that the gateway writes stand for exactly one value,
which is the one that was to be written: no character of a string can end the string or change what
stands around it.

Main results:

- Theorem `quotes_escape_iff`: the written form of a character is read as that character.
- Theorem `reads_string_iff`: a written string is read as that string.
- Theorem `readsMembers_iff`: written members are read as those members.
- Theorem `denotes_object_iff`: a written object is read as that object, and as nothing else.
-/

namespace EdgeGateway

namespace Json

/-! ## Values -/

/-- A value.  Numbers are kept as they are spelled, and members in their order with all repetitions. -/
inductive Value where
  | null
  | bool (b : Bool)
  | number (spelling : Text)
  | string (t : Text)
  | array (items : List Value)
  | object (members : List (Text × Value))

/-! ## Strings -/

/-- The characters that stand for themselves in a string. -/
def isPlain (c : Char) : Bool :=
  c ≠ '"' && c ≠ '\\' && 0x20 ≤ c.toNat

/-- The escapes of two characters: what stands behind the backslash, and what it stands for. -/
def shortEscapes : List (Char × Char) :=
  [('"', '"'), ('\\', '\\'), ('/', '/'), ('b', '\x08'), ('f', '\x0c'), ('n', '\n'), ('r', '\r'),
    ('t', '\t')]

/-- The number that four hexadecimal digits spell. -/
def unit? (a b c d : Char) : Option Nat :=
  match Text.digitValue? a, Text.digitValue? b, Text.digitValue? c, Text.digitValue? d with
  | some a, some b, some c, some d => some (((a * 16 + b) * 16 + c) * 16 + d)
  | _, _, _, _ => none

/-- The numbers that begin a pair. -/
def IsLead (n : Nat) : Prop :=
  0xD800 ≤ n ∧ n < 0xDC00

/-- The numbers that end a pair. -/
def IsTrail (n : Nat) : Prop :=
  0xDC00 ≤ n ∧ n < 0xE000

/-- A text stands, up to its first closing quote, for a string; the rest stands behind the quote. -/
inductive Quotes : Text → Text → Text → Prop where
  | close (rest : Text) : Quotes ('"' :: rest) [] rest
  | plain {c : Char} {t s rest : Text} (hc : isPlain c = true) (h : Quotes t s rest) :
    Quotes (c :: t) (c :: s) rest
  | short {e c : Char} {t s rest : Text} (he : (e, c) ∈ shortEscapes) (h : Quotes t s rest) :
    Quotes ('\\' :: e :: t) (c :: s) rest
  | unit {a b c d : Char} {n : Nat} {t s rest : Text} (hn : unit? a b c d = some n)
    (hlead : ¬ IsLead n) (htrail : ¬ IsTrail n) (h : Quotes t s rest) :
    Quotes ('\\' :: 'u' :: a :: b :: c :: d :: t) (Char.ofNat n :: s) rest
  | pair {a b c d a' b' c' d' : Char} {n n' : Nat} {t s rest : Text} (hn : unit? a b c d = some n)
    (hn' : unit? a' b' c' d' = some n') (hlead : IsLead n) (htrail : IsTrail n')
    (h : Quotes t s rest) :
    Quotes ('\\' :: 'u' :: a :: b :: c :: d :: '\\' :: 'u' :: a' :: b' :: c' :: d' :: t)
      (Char.ofNat (0x10000 + (n - 0xD800) * 0x400 + (n' - 0xDC00)) :: s) rest

/-! ## Numbers -/

/-- One or more decimal digits. -/
def IsDigits (t : Text) : Prop :=
  t ≠ [] ∧ ∀ c ∈ t, Numeral.isDigit c = true

/-- A whole number without leading zeros. -/
def IsWhole (t : Text) : Prop :=
  t = ['0'] ∨ (IsDigits t ∧ t.head? ≠ some '0')

/-- The part of a number behind its point, if there is one. -/
def IsFraction (t : Text) : Prop :=
  t = [] ∨ ∃ digits, t = '.' :: digits ∧ IsDigits digits

/-- The exponent of a number, if there is one. -/
def IsExponent (t : Text) : Prop :=
  t = [] ∨ ∃ mark ∈ ['e', 'E'], ∃ sign ∈ [[], ['+'], ['-']], ∃ digits,
    t = mark :: (sign ++ digits) ∧ IsDigits digits

/-- A number. -/
def IsNumber (t : Text) : Prop :=
  ∃ sign ∈ [[], ['-']], ∃ whole fraction exponent, IsWhole whole ∧ IsFraction fraction ∧
    IsExponent exponent ∧ t = sign ++ (whole ++ (fraction ++ exponent))

/-! ## Texts -/

/-- The characters between the parts of a text. -/
def isSpace (c : Char) : Bool :=
  c == ' ' || c == '\t' || c == '\n' || c == '\r'

/-- A text may have blanks in front of the rest. -/
inductive Skips : Text → Text → Prop where
  | stop (rest : Text) : Skips rest rest
  | skip {c : Char} {t rest : Text} (hc : isSpace c = true) (h : Skips t rest) :
    Skips (c :: t) rest

mutual

/-- A text begins with a value; the rest stands behind it. -/
inductive Reads : Text → Value → Text → Prop where
  | null (rest : Text) : Reads ('n' :: 'u' :: 'l' :: 'l' :: rest) .null rest
  | yes (rest : Text) : Reads ('t' :: 'r' :: 'u' :: 'e' :: rest) (.bool true) rest
  | no (rest : Text) : Reads ('f' :: 'a' :: 'l' :: 's' :: 'e' :: rest) (.bool false) rest
  | number {t n rest : Text} (ht : t = n ++ rest) (hn : IsNumber n) : Reads t (.number n) rest
  | string {t s rest : Text} (h : Quotes t s rest) : Reads ('"' :: t) (.string s) rest
  | emptyArray {t rest : Text} (h : Skips t (']' :: rest)) : Reads ('[' :: t) (.array []) rest
  | array {t rest : Text} {items : List Value} (h : ReadsItems t items rest) :
    Reads ('[' :: t) (.array items) rest
  | emptyObject {t rest : Text} (h : Skips t ('\x7d' :: rest)) :
    Reads ('\x7b' :: t) (.object []) rest
  | object {t rest : Text} {members : List (Text × Value)} (h : ReadsMembers t members rest) :
    Reads ('\x7b' :: t) (.object members) rest

/-- A text begins with the items of an array and the bracket behind them. -/
inductive ReadsItems : Text → List Value → Text → Prop where
  | last {t t₁ t₂ rest : Text} {v : Value} (hfront : Skips t t₁) (h : Reads t₁ v t₂)
    (hback : Skips t₂ (']' :: rest)) : ReadsItems t [v] rest
  | more {t t₁ t₂ t₃ rest : Text} {v : Value} {items : List Value} (hfront : Skips t t₁)
    (h : Reads t₁ v t₂) (hback : Skips t₂ (',' :: t₃)) (hmore : ReadsItems t₃ items rest) :
    ReadsItems t (v :: items) rest

/-- A text begins with the name and the value of a member, with blanks around them. -/
inductive ReadsMember : Text → Text → Value → Text → Prop where
  | mk {t t₁ t₂ t₃ t₄ t₅ rest name : Text} {v : Value} (hfront : Skips t ('"' :: t₁))
    (hname : Quotes t₁ name t₂) (hcolon : Skips t₂ (':' :: t₃)) (hgap : Skips t₃ t₄)
    (h : Reads t₄ v t₅) (hback : Skips t₅ rest) : ReadsMember t name v rest

/-- A text begins with the members of an object and the brace behind them. -/
inductive ReadsMembers : Text → List (Text × Value) → Text → Prop where
  | last {t rest name : Text} {v : Value} (h : ReadsMember t name v ('\x7d' :: rest)) :
    ReadsMembers t [(name, v)] rest
  | more {t t₁ rest name : Text} {v : Value} {members : List (Text × Value)}
    (h : ReadsMember t name v (',' :: t₁)) (hmore : ReadsMembers t₁ members rest) :
    ReadsMembers t ((name, v) :: members) rest

end

/-- A text stands for a value. -/
def Denotes (t : Text) (v : Value) : Prop :=
  ∃ t₁ t₂, Skips t t₁ ∧ Reads t₁ v t₂ ∧ Skips t₂ []

/-! ## Blanks -/

/-- Nothing is skipped in front of something else than a blank. -/
theorem skips_iff {t rest : Text} (h : ∀ c ∈ t.head?, isSpace c = false) :
    Skips t rest ↔ rest = t := by
  constructor
  · intro hskips
    cases hskips with
    | stop _ => rfl
    | @skip c _ _ hc _ =>
      rw [h c rfl] at hc
      cases hc
  · rintro rfl
    exact .stop _

/-! ## Strings that are written -/

variable {t s rest : Text}

/-- A character is written as a short escape, by its number, or as it is. -/
theorem escape_cases (c : Char) :
    (∃ e, (e, c) ∈ shortEscapes ∧ escape c = ['\\', e]) ∨
      (c.toNat < 0x20 ∧ escape c = numbered c) ∨ (isPlain c = true ∧ escape c = [c]) := by
  unfold escape
  split
  · exact .inl ⟨'"', by decide, rfl⟩
  · exact .inl ⟨'\\', by decide, rfl⟩
  · exact .inl ⟨'b', by decide, rfl⟩
  · exact .inl ⟨'f', by decide, rfl⟩
  · exact .inl ⟨'n', by decide, rfl⟩
  · exact .inl ⟨'r', by decide, rfl⟩
  · exact .inl ⟨'t', by decide, rfl⟩
  · rename_i hquote hbackslash _ _ _ _ _
    right
    by_cases hcontrol : c.toNat < 0x20
    · exact .inl ⟨hcontrol, if_pos hcontrol⟩
    · refine .inr ⟨?_, if_neg hcontrol⟩
      have hq : c ≠ '"' := hquote
      have hb : c ≠ '\\' := hbackslash
      have hvisible : 0x20 ≤ c.toNat := Nat.le_of_not_lt hcontrol
      simp [isPlain, hq, hb, hvisible]

/-- A short escape says what it stands for, and is none by number. -/
theorem shortEscapes_unique {x y : Char × Char} (hx : x ∈ shortEscapes) (hy : y ∈ shortEscapes)
    (h : x.1 = y.1) : x.2 = y.2 ∧ x.1 ≠ 'u' := by
  have hall : ∀ x ∈ shortEscapes, ∀ y ∈ shortEscapes, x.1 = y.1 → x.2 = y.2 ∧ x.1 ≠ 'u' := by
    decide
  exact hall x hx y hy h

/-- A short escape is read in one way. -/
theorem quotes_short_iff {e c : Char} (he : (e, c) ∈ shortEscapes) :
    Quotes ('\\' :: e :: t) s rest ↔ ∃ s', s = c :: s' ∧ Quotes t s' rest := by
  have hu : e ≠ 'u' := (shortEscapes_unique he he rfl).2
  constructor
  · intro h
    cases h with
    | plain hc _ => exact absurd hc (by decide)
    | short he' h =>
      obtain rfl : c = _ := (shortEscapes_unique he he' rfl).1
      exact ⟨_, rfl, h⟩
    | unit _ _ _ _ => exact absurd rfl hu
    | pair _ _ _ _ _ => exact absurd rfl hu
  · rintro ⟨s', rfl, h⟩
    exact .short he h

/-- A plain character is read in one way. -/
theorem quotes_plain_iff {c : Char} (hc : isPlain c = true) :
    Quotes (c :: t) s rest ↔ ∃ s', s = c :: s' ∧ Quotes t s' rest := by
  constructor
  · intro h
    cases h with
    | close _ => exact absurd hc (by decide)
    | plain _ h => exact ⟨_, rfl, h⟩
    | short _ _ => exact absurd hc (by decide)
    | unit _ _ _ _ => exact absurd hc (by decide)
    | pair _ _ _ _ _ => exact absurd hc (by decide)
  · rintro ⟨s', rfl, h⟩
    exact .plain hc h

/-- An escape by number is read in one way. -/
theorem quotes_numbered_iff {c : Char} (hc : c.toNat < 0x20) :
    Quotes (numbered c ++ t) s rest ↔ ∃ s', s = c :: s' ∧ Quotes t s' rest := by
  have htable : ∀ n < 0x20, unit? '0' '0' (hexDigit (n / 16)) (hexDigit n) = some n := by decide
  have hunit := htable _ hc
  have hlead : ¬ IsLead c.toNat := fun h => by
    unfold IsLead at h
    omega
  have htrail : ¬ IsTrail c.toNat := fun h => by
    unfold IsTrail at h
    omega
  constructor
  · intro h
    cases h with
    | plain hplain _ => exact absurd hplain (by decide)
    | short he _ => exact absurd rfl (shortEscapes_unique he he rfl).2
    | unit hn _ _ h =>
      obtain rfl := Option.some.inj (hunit.symm.trans hn)
      rw [Char.ofNat_toNat]
      exact ⟨_, rfl, h⟩
    | pair hn _ hlead' _ _ =>
      obtain rfl := Option.some.inj (hunit.symm.trans hn)
      exact absurd hlead' hlead
  · rintro ⟨s', rfl, h⟩
    have hread := Quotes.unit hunit hlead htrail h
    rwa [Char.ofNat_toNat] at hread

/-- The written form of a character is read as that character, whatever stands behind it. -/
theorem quotes_escape_iff (c : Char) :
    Quotes (escape c ++ t) s rest ↔ ∃ s', s = c :: s' ∧ Quotes t s' rest := by
  rcases escape_cases c with ⟨e, he, hwritten⟩ | ⟨hc, hwritten⟩ | ⟨hc, hwritten⟩
  · rw [hwritten]
    exact quotes_short_iff he
  · rw [hwritten]
    exact quotes_numbered_iff hc
  · rw [hwritten]
    exact quotes_plain_iff hc

/-- A written string is read up to its own closing quote. -/
theorem quotes_iff (u : Text) :
    Quotes (u.flatMap escape ++ '"' :: t) s rest ↔ s = u ∧ rest = t := by
  induction u generalizing s with
  | nil =>
    constructor
    · intro h
      cases h with
      | close _ => exact ⟨rfl, rfl⟩
      | plain hc _ => exact absurd hc (by decide)
    · rintro ⟨rfl, rfl⟩
      exact .close _
  | cons c u ih =>
    rw [List.flatMap_cons, List.append_assoc, quotes_escape_iff]
    constructor
    · rintro ⟨s', rfl, h⟩
      obtain ⟨rfl, rfl⟩ := ih.1 h
      exact ⟨rfl, rfl⟩
    · rintro ⟨rfl, rfl⟩
      exact ⟨u, rfl, ih.2 ⟨rfl, rfl⟩⟩

/-! ## Objects that are written -/

/-- A number begins with a minus sign or a digit. -/
theorem head_of_isNumber (h : IsNumber t) :
    ∃ c rest, t = c :: rest ∧ (c = '-' ∨ Numeral.isDigit c = true) := by
  obtain ⟨sign, hsign, whole, fraction, exponent, hwhole, -, -, rfl⟩ := h
  simp only [List.mem_cons, List.not_mem_nil, or_false] at hsign
  rcases hsign with rfl | rfl
  · rcases hwhole with rfl | ⟨⟨hne, hdigits⟩, -⟩
    · exact ⟨'0', _, rfl, .inr (by decide)⟩
    · obtain ⟨c, more, rfl⟩ := List.exists_cons_of_ne_nil hne
      exact ⟨c, _, rfl, .inr (hdigits c List.mem_cons_self)⟩
  · exact ⟨'-', _, rfl, .inl rfl⟩

/-- What begins with a quote or a brace does not begin with a number. -/
theorem not_isNumber_append {c : Char} {n : Text} (hc : c = '"' ∨ c = '\x7b')
    (h : c :: t = n ++ rest) : ¬ IsNumber n := by
  intro hn
  obtain ⟨d, more, rfl, hd⟩ := head_of_isNumber hn
  obtain rfl : c = d := (List.cons_eq_cons.1 h).1
  rcases hc with rfl | rfl
  · exact absurd hd (by decide)
  · exact absurd hd (by decide)

/-- A written string is read as that string. -/
theorem reads_string_iff {v : Value} (u : Text) :
    Reads (string u ++ t) v rest ↔ v = .string u ∧ rest = t := by
  have hwritten : string u ++ t = '"' :: (u.flatMap escape ++ '"' :: t) := by
    simp [string]
  rw [hwritten]
  constructor
  · intro h
    cases h with
    | number ht hn => exact absurd hn (not_isNumber_append (.inl rfl) ht)
    | string h =>
      obtain ⟨rfl, rfl⟩ := (quotes_iff u).1 h
      exact ⟨rfl, rfl⟩
  · rintro ⟨rfl, rfl⟩
    exact .string ((quotes_iff u).2 ⟨rfl, rfl⟩)

/-- A written member is read as that member. -/
theorem readsMember_iff {name name' : Text} {v : Value} (u : Text)
    (ht : ∀ c ∈ t.head?, isSpace c = false) :
    ReadsMember (member name (string u) ++ t) name' v rest ↔
      name' = name ∧ v = .string u ∧ rest = t := by
  have hwritten : member name (string u) ++ t =
      '"' :: (name.flatMap escape ++ '"' :: ':' :: (string u ++ t)) := by
    simp [member, string]
  have hquote : isSpace '"' = false := by decide
  have hcolon : isSpace ':' = false := by decide
  have hvalue : ∀ c ∈ (string u ++ t).head?, isSpace c = false := by
    simp [string, hquote]
  rw [hwritten]
  constructor
  · intro h
    cases h with
    | mk hfront hname hgap hskip hread hback =>
      obtain ⟨-, rfl⟩ := List.cons_eq_cons.1 ((skips_iff (by simp [hquote])).1 hfront)
      obtain ⟨rfl, rfl⟩ := (quotes_iff name).1 hname
      obtain ⟨-, rfl⟩ := List.cons_eq_cons.1 ((skips_iff (by simp [hcolon])).1 hgap)
      obtain rfl := (skips_iff hvalue).1 hskip
      obtain ⟨rfl, rfl⟩ := (reads_string_iff u).1 hread
      obtain rfl := (skips_iff ht).1 hback
      exact ⟨rfl, rfl, rfl⟩
  · rintro ⟨rfl, rfl, rfl⟩
    exact .mk (.stop _) ((quotes_iff _).2 ⟨rfl, rfl⟩) (.stop _) (.stop _)
      ((reads_string_iff u).2 ⟨rfl, rfl⟩) (.stop _)

/-- Members whose values are strings, as they are written. -/
def written (members : List (Text × Text)) : List (Text × Text) :=
  members.map fun (name, u) => (name, string u)

/-- Members whose values are strings, as they are read. -/
def strings (members : List (Text × Text)) : List (Text × Value) :=
  members.map fun (name, u) => (name, .string u)

/-- Different members are read as different objects. -/
theorem strings_injective {members members' : List (Text × Text)}
    (h : strings members = strings members') : members = members' := by
  induction members generalizing members' with
  | nil => exact (List.map_eq_nil_iff.1 h.symm).symm
  | cons first others ih =>
    obtain ⟨first', others', rfl, hfirst, hothers⟩ := List.map_eq_cons_iff.1 h.symm
    obtain ⟨hname, hvalue⟩ := Prod.mk.inj hfirst
    rw [Prod.ext hname (Value.string.inj hvalue), ih hothers.symm]

/-- The written form of one or more members. -/
def membersText (members : List (Text × Text)) : Text :=
  [','].intercalate ((written members).map fun (name, value) => member name value)

/-- The written form of one or more members begins with a quote. -/
theorem exists_membersText (first : Text × Text) (others : List (Text × Text)) :
    ∃ more, membersText (first :: others) = '"' :: more := by
  cases others with
  | nil => simp [membersText, written, member, string]
  | cons second others =>
    simp [membersText, written, List.intercalate_cons_cons, member, string]

/-- Written members are read as those members. -/
theorem readsMembers_iff {first : Text × Text} {others : List (Text × Text)}
    {members : List (Text × Value)} :
    ReadsMembers (membersText (first :: others) ++ '\x7d' :: t) members rest ↔
      members = strings (first :: others) ∧ rest = t := by
  have hcomma : isSpace ',' = false := by decide
  have hbrace : isSpace '\x7d' = false := by decide
  induction others generalizing first members with
  | nil =>
    have hone : membersText [first] = member first.1 (string first.2) := by
      simp [membersText, written]
    rw [hone]
    constructor
    · intro h
      cases h with
      | last h =>
        obtain ⟨rfl, rfl, hrest⟩ := (readsMember_iff first.2 (by simp [hbrace])).1 h
        exact ⟨rfl, (List.cons_eq_cons.1 hrest).2⟩
      | more h _ =>
        obtain ⟨-, -, hrest⟩ := (readsMember_iff first.2 (by simp [hbrace])).1 h
        exact absurd (List.cons_eq_cons.1 hrest).1 (by decide)
    · rintro ⟨rfl, rfl⟩
      exact .last ((readsMember_iff first.2 (by simp [hbrace])).2 ⟨rfl, rfl, rfl⟩)
  | cons second others ih =>
    have hmore : membersText (first :: second :: others) ++ '\x7d' :: t =
        member first.1 (string first.2) ++ ',' :: (membersText (second :: others) ++ '\x7d' :: t) := by
      simp [membersText, written, List.intercalate_cons_cons]
    rw [hmore]
    constructor
    · intro h
      cases h with
      | last h =>
        obtain ⟨-, -, hrest⟩ := (readsMember_iff first.2 (by simp [hcomma])).1 h
        exact absurd (List.cons_eq_cons.1 hrest).1 (by decide)
      | more h hothers =>
        obtain ⟨rfl, rfl, hrest⟩ := (readsMember_iff first.2 (by simp [hcomma])).1 h
        obtain ⟨-, rfl⟩ := List.cons_eq_cons.1 hrest
        obtain ⟨rfl, rfl⟩ := ih.1 hothers
        exact ⟨rfl, rfl⟩
    · rintro ⟨rfl, rfl⟩
      exact .more ((readsMember_iff first.2 (by simp [hcomma])).2 ⟨rfl, rfl, rfl⟩)
        (ih.2 ⟨rfl, rfl⟩)

/-- A brace that closes an object is not the beginning of a member. -/
theorem not_readsMembers_brace {members : List (Text × Value)} :
    ¬ ReadsMembers ('\x7d' :: t) members rest := by
  have hbrace : isSpace '\x7d' = false := by decide
  have hnone {name : Text} {v : Value} {behind : Text} :
      ¬ ReadsMember ('\x7d' :: t) name v behind := by
    intro h
    cases h with
    | mk hfront _ _ _ _ _ =>
      have hquote := (skips_iff (by simp [hbrace])).1 hfront
      exact absurd (List.cons_eq_cons.1 hquote).1 (by decide)
  intro h
  cases h with
  | last h => exact hnone h
  | more h _ => exact hnone h

/-- What stands behind an opening brace is read as an object. -/
theorem reads_brace_iff {v : Value} :
    Reads ('\x7b' :: t) v rest ↔ ∃ members, v = .object members ∧
      (members = [] ∧ Skips t ('\x7d' :: rest) ∨ ReadsMembers t members rest) := by
  constructor
  · intro h
    cases h with
    | number ht hn => exact absurd hn (not_isNumber_append (.inr rfl) ht)
    | emptyObject h => exact ⟨[], rfl, .inl ⟨rfl, h⟩⟩
    | object h => exact ⟨_, rfl, .inr h⟩
  · rintro ⟨members, rfl, ⟨rfl, h⟩ | h⟩
    · exact .emptyObject h
    · exact .object h

/-- A written object whose members are strings is read as that object, and as nothing else. -/
theorem denotes_object_iff (members : List (Text × Text)) {v : Value} :
    Denotes (object (written members)) v ↔ v = .object (strings members) := by
  have hopening : isSpace '\x7b' = false := by decide
  have hclosing : isSpace '\x7d' = false := by decide
  have hquote : isSpace '"' = false := by decide
  have hwritten : object (written members) = '\x7b' :: (membersText members ++ ['\x7d']) := by
    simp [object, membersText]
  rw [hwritten]
  constructor
  · rintro ⟨t₁, t₂, hfront, hread, -⟩
    obtain rfl := (skips_iff (by simp [hopening])).1 hfront
    obtain ⟨read, rfl, hmembers⟩ := reads_brace_iff.1 hread
    cases members with
    | nil =>
      rcases hmembers with ⟨rfl, -⟩ | hsome
      · rfl
      · exact absurd hsome not_readsMembers_brace
    | cons first others =>
      rcases hmembers with ⟨-, hnone⟩ | hsome
      · obtain ⟨more, hmore⟩ := exists_membersText first others
        rw [hmore] at hnone
        have hbrace := (skips_iff (by simp [hquote])).1 hnone
        exact absurd (List.cons_eq_cons.1 hbrace).1 (by decide)
      · rw [(readsMembers_iff.1 hsome).1]
  · rintro rfl
    refine ⟨_, [], .stop _, reads_brace_iff.2 ⟨_, rfl, ?_⟩, .stop _⟩
    cases members with
    | nil => exact .inl ⟨rfl, .stop _⟩
    | cons first others => exact .inr (readsMembers_iff.2 ⟨rfl, rfl⟩)

end Json

end EdgeGateway
