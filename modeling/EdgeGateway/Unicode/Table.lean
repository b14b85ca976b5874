import EdgeGateway.Text

/-!
# Tables over code points

A property of characters is stored as rows, each of which gives one value to an interval of code
points.  The rows stand in increasing order, so that a lookup is a binary search.  The tables
themselves are written in hexadecimal, `first-last` or a single code point, separated by blanks;
a row that carries a value has it behind a `>`.
-/

namespace EdgeGateway

namespace Unicode

/-! ## Rows and lookup -/

/-- One value for every code point from `first` to `last`. -/
structure Row (α : Type) where
  first : Nat
  last : Nat
  value : α

/-- Rows in increasing order of disjoint intervals. -/
abbrev Table (α : Type) := Array (Row α)

/-- Binary search among the rows from index `low` up to, but without, index `high`. -/
def search {α : Type} (rows : Table α) (n : Nat) (low high : Nat) : Option (Row α) :=
  if low < high then
    let middle := (low + high) / 2
    match rows[middle]? with
    | none => none
    | some row =>
      if n < row.first then search rows n low middle
      else if row.last < n then search rows n (middle + 1) high
      else some row
  else none
termination_by high - low
decreasing_by all_goals omega

/-- The row that covers a code point. -/
def Table.row? {α : Type} (rows : Table α) (n : Nat) : Option (Row α) :=
  search rows n 0 rows.size

/-- The value that a table gives to a character. -/
def Table.find? {α : Type} (rows : Table α) (c : Char) : Option α :=
  (rows.row? c.toNat).map Row.value

/-! ## Reading a written table -/

/-- The number that a hexadecimal text spells. -/
def readHex (t : Text) : Nat :=
  t.ofDigits 16

/-- The interval written `first-last`, or as one number when both ends agree. -/
def readInterval (t : Text) : Nat × Nat :=
  match t.splitFirst? '-' with
  | some (first, last) => (readHex first, readHex last)
  | none => (readHex t, readHex t)

/-- The blank-separated entries of the lines of a written table. -/
def entries (lines : List String) : List Text :=
  lines.flatMap fun line => Text.segments (· == ' ') line.toList

/-- The sequence of code points written with dots between them. -/
def readSequence (t : Text) : List Nat :=
  (t.segments (· == '.')).map readHex

/-- The table of the entries `interval>value`. -/
def Table.read {α : Type} (value : Text → α) (lines : List String) : Table α :=
  ((entries lines).map fun entry =>
    match entry.splitFirst? '>' with
    | some (interval, text) => ⟨(readInterval interval).1, (readInterval interval).2, value text⟩
    | none => ⟨(readInterval entry).1, (readInterval entry).2, value []⟩).toArray

/-! ## Sets of characters -/

/-- A set of characters is a table that only says which code points it covers. -/
abbrev CharSet := Table Unit

/-- The set of the written intervals. -/
def CharSet.read (lines : List String) : CharSet :=
  Table.read (fun _ => ()) lines

/-- Membership of a character. -/
def CharSet.contains (s : CharSet) (c : Char) : Bool :=
  (Table.row? s c.toNat).isSome

end Unicode

end EdgeGateway
