import EdgeGateway.Text.Utf8

/-!
# Percent-encoding

A character that may not stand in a component of a URL is written as the bytes of its UTF-8 form,
each a percent sign and two hexadecimal digits.  Every component has its own set of characters to
encode; characters beyond ASCII are encoded in all of them.

Main results:

- Theorem `encode_of_all_plain`: a text without characters of the set is kept.
- Theorem `encode_eq_self_iff`: no other text is.
-/

namespace EdgeGateway

namespace Url

namespace Percent

/-! ## Sets of characters to encode -/

/-- Control characters and everything beyond ASCII. -/
def controlSet (c : Char) : Bool :=
  c.toNat < 0x20 || 0x7E < c.toNat

/-- The set for fragments. -/
def fragmentSet (c : Char) : Bool :=
  controlSet c || " \"<>\x60".toList.contains c

/-- The set for queries of schemes without special treatment. -/
def querySet (c : Char) : Bool :=
  controlSet c || " \"#<>".toList.contains c

/-- The set for queries of special schemes. -/
def specialQuerySet (c : Char) : Bool :=
  querySet c || c == '\x27'

/-- The set for path segments. -/
def pathSet (c : Char) : Bool :=
  fragmentSet c || "#?\x7b\x7d".toList.contains c

/-- The set for user names and passwords. -/
def userinfoSet (c : Char) : Bool :=
  pathSet c || "/:;=@[\\]^|".toList.contains c

/-! ## Encoding -/

/-- An upper-case hexadecimal digit. -/
def hexDigit (n : Nat) : Char :=
  (Nat.digitChar (n % 16)).toUpper

/-- A byte behind a percent sign. -/
def encodeByte (b : UInt8) : Text :=
  ['%', hexDigit (b.toNat / 16), hexDigit b.toNat]

/-- A character, encoded if it is in the set. -/
def encodeChar (set : Char → Bool) (c : Char) : Text :=
  if set c then (String.utf8EncodeChar c).flatMap encodeByte else [c]

/-- A text with the characters of the set encoded. -/
def encode (set : Char → Bool) (t : Text) : Text :=
  t.flatMap (encodeChar set)

theorem encode_of_all_plain {set : Char → Bool} {t : Text} (h : ∀ c ∈ t, set c = false) :
    encode set t = t := by
  induction t with
  | nil => rfl
  | cons c r ih =>
    have hc : encodeChar set c = [c] := by simp [encodeChar, h c (by simp)]
    simpa [encode, hc] using ih fun x hx => h x (by simp [hx])

/-- Every character is written as at least one, and one that is encoded as more. -/
theorem length_encodeChar (set : Char → Bool) (c : Char) :
    1 ≤ (encodeChar set c).length ∧ (set c = true → 1 < (encodeChar set c).length) := by
  unfold encodeChar
  split
  · have hpos : 0 < (String.utf8EncodeChar c).length := by
      rw [String.length_utf8EncodeChar]
      exact Char.utf8Size_pos c
    obtain ⟨b, rest, hbytes⟩ := List.exists_cons_of_length_pos hpos
    rw [hbytes, List.flatMap_cons, List.length_append, encodeByte]
    exact ⟨by simp; omega, fun _ => by simp; omega⟩
  · rename_i hc
    exact ⟨by simp, fun h => absurd h hc⟩

/-- Encoding makes no text shorter. -/
theorem length_le_length_encode (set : Char → Bool) (t : Text) :
    t.length ≤ (encode set t).length := by
  induction t with
  | nil => simp
  | cons c r ih =>
    have hc := (length_encodeChar set c).1
    have hcons : encode set (c :: r) = encodeChar set c ++ encode set r := rfl
    rw [hcons, List.length_append, List.length_cons]
    omega

/-- Exactly the texts without characters of the set are kept. -/
theorem encode_eq_self_iff {set : Char → Bool} {t : Text} :
    encode set t = t ↔ ∀ c ∈ t, set c = false := by
  refine ⟨fun h => ?_, encode_of_all_plain⟩
  induction t with
  | nil => simp
  | cons c r ih =>
    have hcons : encode set (c :: r) = encodeChar set c ++ encode set r := rfl
    have hplain : set c = false := by
      refine Bool.eq_false_iff.2 fun hset => ?_
      have hlong := (length_encodeChar set c).2 hset
      have hrest := length_le_length_encode set r
      have hlength := congrArg List.length h
      rw [hcons, List.length_append, List.length_cons] at hlength
      omega
    have hchar : encodeChar set c = [c] := by simp [encodeChar, hplain]
    rw [hcons, hchar] at h
    exact List.forall_mem_cons.2 ⟨hplain, ih (List.cons_eq_cons.1 h).2⟩

/-! ## Decoding -/

/-- Replaces a percent sign and two hexadecimal digits by the byte they stand for, and keeps
everything else. -/
def decodeBytes : Bytes → Bytes
  | 37 :: a :: b :: rest =>
    match Text.digitValue? (Char.ofNat a.toNat), Text.digitValue? (Char.ofNat b.toNat) with
    | some x, some y => UInt8.ofNat (16 * x + y) :: decodeBytes rest
    | _, _ => 37 :: decodeBytes (a :: b :: rest)
  | c :: rest => c :: decodeBytes rest
  | [] => []

/-- The text that an encoded text stands for; `none` when the bytes are those of no text. -/
def decode? (t : Text) : Option Text :=
  Utf8.decode? (decodeBytes (Utf8.encode t))

end Percent

end Url

end EdgeGateway
