import HostHome.Text.Utf8

/-!
# What encodings hold

Different texts have different encodings, and a byte below 128 in an encoding is a
character of its own.  So the slashes and dots of an encoding are those of the text.
-/

namespace HostHome.Text

theorem encode_injective {text other : String} (same : encode text = encode other) :
    text = other := by
  have bytes : text.toList.utf8Encode = other.toList.utf8Encode :=
    congrArg List.toByteArray same
  rw [String.utf8Encode_toList, String.utf8Encode_toList] at bytes
  exact String.toByteArray_inj.1 bytes

theorem encode_append (text other : String) :
    encode (text ++ other) = encode text ++ encode other := by
  simp [encode, encodeChars]

/-- The encodings of longer characters have no small bytes. -/
theorem toNat_eq_of_mem_utf8EncodeChar {c : Char} {byte : UInt8}
    (member : byte ∈ String.utf8EncodeChar c) (small : byte.toNat < 128) :
    c.toNat = byte.toNat := by
  have value : c.toNat = c.val.toNat := rfl
  dsimp only [String.utf8EncodeChar] at member
  split at member
  · rw [List.mem_singleton] at member
    subst member
    rw [UInt8.toNat_ofNat', value]
    omega
  · exfalso
    split at member
    · simp only [List.mem_cons, List.not_mem_nil, or_false] at member
      rcases member with rfl | rfl <;> simp only [UInt8.toNat_ofNat'] at small <;> omega
    · split at member <;> simp only [List.mem_cons, List.not_mem_nil, or_false] at member
      · rcases member with rfl | rfl | rfl <;> simp only [UInt8.toNat_ofNat'] at small <;> omega
      · rcases member with rfl | rfl | rfl | rfl <;>
          simp only [UInt8.toNat_ofNat'] at small <;> omega

theorem mem_toList_of_mem_encode {text : String} {byte : UInt8} (member : byte ∈ encode text)
    (small : byte.toNat < 128) : Char.ofNat byte.toNat ∈ text.toList := by
  obtain ⟨c, within, member⟩ := List.mem_flatMap.1 member
  rw [← toNat_eq_of_mem_utf8EncodeChar member small, Char.ofNat_toNat]
  exact within

/-- An encoding begins with a small byte if the text begins with its character. -/
theorem head?_encodeChars_eq_some {chars : List Char} {byte : UInt8}
    (begins : (encodeChars chars).head? = some byte) (small : byte.toNat < 128) :
    chars.head? = some (Char.ofNat byte.toNat) := by
  cases chars with
  | nil => cases begins
  | cons c chars =>
      obtain ⟨first, others, spelled⟩ :=
        List.exists_cons_of_ne_nil (String.utf8EncodeChar_ne_nil (c := c))
      have same : first = byte := by
        simpa [encodeChars, spelled] using begins
      have member : byte ∈ String.utf8EncodeChar c := by
        simp [spelled, same]
      rw [List.head?_cons, ← toNat_eq_of_mem_utf8EncodeChar member small, Char.ofNat_toNat]

end HostHome.Text
