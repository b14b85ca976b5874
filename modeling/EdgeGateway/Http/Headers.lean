import EdgeGateway.Text.Utf8

/-!
# Header fields

A header section is a list of fields.  Names are compared without regard to letter case and are
therefore kept in lower case; a name may occur several times, and the order of its values matters.
The view of a header section is `values`, the list of all values of a name.

Main results:

- Theorem `values_erase`, `values_insert`, `values_append`: what each operation does to the view.
-/

namespace EdgeGateway

namespace Http

/-! ## Names -/

/-- The characters of tokens: letters, digits and a few marks. -/
def isTokenChar (c : Char) : Bool :=
  c.isAlphanum || "!#$%&'*+-.^_\x60|~".toList.contains c

/-- The characters of names in lower case. -/
def isNameChar (c : Char) : Bool :=
  isTokenChar c && !c.isUpper

/-- A name has at least one and at most 65535 characters. -/
def isFieldName (t : Text) : Bool :=
  t ≠ [] && t.length ≤ 65535 && t.all isNameChar

/-- The name of a header field, in lower case. -/
structure FieldName where
  text : Text
  valid : isFieldName text = true := by decide
  deriving DecidableEq, Repr

namespace FieldName

/-- Reads a name in any letter case. -/
def ofBytes? (bytes : Bytes) : Option FieldName :=
  let name := Text.lower (bytes.map fun b => Char.ofNat b.toNat)
  if h : isFieldName name = true then some ⟨name, h⟩ else none

def accept : FieldName := ⟨"accept".toList, by decide⟩
def authorization : FieldName := ⟨"authorization".toList, by decide⟩
def connection : FieldName := ⟨"connection".toList, by decide⟩
def contentLength : FieldName := ⟨"content-length".toList, by decide⟩
def contentType : FieldName := ⟨"content-type".toList, by decide⟩
def cookie : FieldName := ⟨"cookie".toList, by decide⟩
def host : FieldName := ⟨"host".toList, by decide⟩
def keepAlive : FieldName := ⟨"keep-alive".toList, by decide⟩
def location : FieldName := ⟨"location".toList, by decide⟩
def proxyAuthenticate : FieldName := ⟨"proxy-authenticate".toList, by decide⟩
def proxyAuthorization : FieldName := ⟨"proxy-authorization".toList, by decide⟩
def referer : FieldName := ⟨"referer".toList, by decide⟩
def te : FieldName := ⟨"te".toList, by decide⟩
def trailer : FieldName := ⟨"trailer".toList, by decide⟩
def transferEncoding : FieldName := ⟨"transfer-encoding".toList, by decide⟩
def upgrade : FieldName := ⟨"upgrade".toList, by decide⟩
def apiKey : FieldName := ⟨"x-api-key".toList, by decide⟩
def allowOrigin : FieldName := ⟨"access-control-allow-origin".toList, by decide⟩
def allowMethods : FieldName := ⟨"access-control-allow-methods".toList, by decide⟩
def allowHeaders : FieldName := ⟨"access-control-allow-headers".toList, by decide⟩
def maxAge : FieldName := ⟨"access-control-max-age".toList, by decide⟩

end FieldName

/-! ## Values -/

/-- The value of a field is any sequence of bytes without controls other than the tab. -/
def isFieldValue (bytes : Bytes) : Bool :=
  bytes.all fun b => b == 9 || (32 ≤ b && b != 127)

/-- A header field. -/
structure HeaderField where
  name : FieldName
  value : Bytes
  deriving DecidableEq, Repr

/-! ## Header sections -/

/-- The fields of a message, in order. -/
abbrev Headers := List HeaderField

namespace Headers

/-- All values of a name, in order. -/
def values (hs : Headers) (name : FieldName) : List Bytes :=
  (hs.filter (·.name = name)).map HeaderField.value

/-- The first value of a name. -/
def get? (hs : Headers) (name : FieldName) : Option Bytes :=
  (hs.find? (·.name = name)).map HeaderField.value

/-- Leaves out every field of a name. -/
def erase (hs : Headers) (name : FieldName) : Headers :=
  hs.filter (·.name ≠ name)

/-- Adds a field behind the others. -/
def append (hs : Headers) (name : FieldName) (value : Bytes) : Headers :=
  hs ++ [⟨name, value⟩]

/-- Makes a value the only one of its name. -/
def insert (hs : Headers) (name : FieldName) (value : Bytes) : Headers :=
  (hs.erase name).append name value

@[simp]
theorem values_nil (name : FieldName) : values [] name = [] :=
  rfl

theorem values_cons (f : HeaderField) (hs : Headers) (name : FieldName) :
    values (f :: hs) name =
      if f.name = name then f.value :: values hs name else values hs name := by
  by_cases h : f.name = name <;> simp [values, h]

@[simp]
theorem values_append (hs : Headers) (name : FieldName) (value : Bytes) (other : FieldName) :
    (hs.append name value).values other =
      hs.values other ++ if name = other then [value] else [] := by
  by_cases h : name = other <;> simp [append, values, h]

@[simp]
theorem values_erase (hs : Headers) (name other : FieldName) :
    (hs.erase name).values other = if name = other then [] else hs.values other := by
  simp only [erase, values, List.filter_filter]
  split
  · rename_i h
    subst h
    rw [List.filter_eq_nil_iff.2 (by simp), List.map_nil]
  · rename_i h
    congr 1
    apply List.filter_congr
    intro f _
    by_cases hf : f.name = other
    · simp [hf, Ne.symm h]
    · simp [hf]

@[simp]
theorem values_insert (hs : Headers) (name : FieldName) (value : Bytes) (other : FieldName) :
    (hs.insert name value).values other = if name = other then [value] else hs.values other := by
  rw [insert, values_append, values_erase]
  split <;> simp

end Headers

/-- The bytes of a text that is used as a value. -/
def valueOf (t : Text) : Bytes :=
  Utf8.encode t

end Http

end EdgeGateway
