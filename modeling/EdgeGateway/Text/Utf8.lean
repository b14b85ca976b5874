import EdgeGateway.Text

/-!
# Text in bytes

UTF-8 ties the two kinds of strings together.

Main results:

- Theorem `decode?_encode`: what is written is read back.
- Theorem `encode_append`: writing goes character by character.
- Theorem `encode_injective`: different texts have different bytes.
- Theorem `encode_of_decode?`: what is read is written back.
- Theorem `mem_of_byte_mem_encode`: a byte below 128 is that of an ASCII character.
-/

namespace EdgeGateway

namespace Utf8

/-- The bytes of a text. -/
def encode (t : Text) : Bytes :=
  t.flatMap String.utf8EncodeChar

/-- The text that bytes stand for; `none` when they are not the form of any text. -/
def decode? (bytes : Bytes) : Option Text :=
  (ByteArray.utf8Decode? ⟨bytes.toArray⟩).map Array.toList

@[simp]
theorem encode_append (s t : Text) : encode (s ++ t) = encode s ++ encode t := by
  simp [encode]

theorem utf8Encode_eq (t : Text) : t.utf8Encode = ⟨(encode t).toArray⟩ := by
  rw [List.utf8Encode, encode]
  ext1
  exact List.data_toByteArray

theorem decode?_encode (t : Text) : decode? (encode t) = some t := by
  rw [decode?, ← utf8Encode_eq, List.utf8Decode?_utf8Encode]
  simp

theorem encode_injective {s t : Text} (h : encode s = encode t) : s = t := by
  have := congrArg decode? h
  simpa [decode?_encode] using this

theorem encode_of_decode? {bytes : Bytes} {t : Text} (h : decode? bytes = some t) :
    encode t = bytes := by
  unfold decode? at h
  obtain ⟨chars, hchars, rfl⟩ := Option.map_eq_some_iff.1 h
  have hround := ByteArray.utf8Encode_get_utf8Decode? (b := ⟨bytes.toArray⟩) (h := by simp [hchars])
  simp only [hchars, Option.get_some, utf8Encode_eq] at hround
  simpa using congrArg ByteArray.data hround

/-! ## ASCII -/

theorem encodeChar_of_ascii {c : Char} (h : c.toNat < 128) :
    String.utf8EncodeChar c = [UInt8.ofNat c.toNat] := by
  have hle : c.val.toNat ≤ 127 := Nat.le_of_lt_succ h
  rw [String.utf8EncodeChar]
  simp only [hle, if_true]
  rfl

/-- Characters beyond ASCII are written without bytes below 128. -/
theorem le_byte_of_extended {b : UInt8} {c : Char} (hc : 128 ≤ c.toNat)
    (h : b ∈ String.utf8EncodeChar c) : 128 ≤ b.toNat := by
  have hgt : ¬ c.val.toNat ≤ 127 := fun hle => absurd hc (Nat.not_le.2 (Nat.lt_succ_of_le hle))
  rw [String.utf8EncodeChar] at h
  simp only [hgt, if_false] at h
  split at h
  · simp only [List.mem_cons, List.not_mem_nil, or_false] at h
    rcases h with rfl | rfl <;> simp only [UInt8.toNat_ofNat'] <;> omega
  · split at h
    · simp only [List.mem_cons, List.not_mem_nil, or_false] at h
      rcases h with rfl | rfl | rfl <;> simp only [UInt8.toNat_ofNat'] <;> omega
    · simp only [List.mem_cons, List.not_mem_nil, or_false] at h
      rcases h with rfl | rfl | rfl | rfl <;> simp only [UInt8.toNat_ofNat'] <;> omega

/-- A byte below 128 is that of an ASCII character of the text. -/
theorem mem_of_byte_mem_encode {b : UInt8} {t : Text} (h : b ∈ encode t) (hb : b.toNat < 128) :
    ∃ c ∈ t, c.toNat = b.toNat := by
  obtain ⟨c, hc, hbc⟩ := List.mem_flatMap.1 h
  by_cases hascii : c.toNat < 128
  · rw [encodeChar_of_ascii hascii, List.mem_singleton] at hbc
    refine ⟨c, hc, ?_⟩
    rw [hbc, UInt8.toNat_ofNat']
    omega
  · have := le_byte_of_extended (Nat.le_of_not_lt hascii) hbc
    omega

end Utf8

end EdgeGateway
