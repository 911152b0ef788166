import HostHome.Proofs.Text.Decoding

/-!
# Bytes read as text

Bytes that are the encoding of a text are read as this text, and can be had back from
it.  Where bytes encode no character, reading them leniently puts U+FFFD in their
place, and then the bytes are lost: the text that was read has another encoding.
-/

namespace HostHome.Text

variable {first : UInt8} {rest bytes : Bytes} {c : Char} {length : Nat} {chars : List Char}

/-- The encoding of the character with a number, byte by byte. -/
theorem utf8EncodeChar_ofNat {number : Nat} (valid : number.isValidChar) :
    String.utf8EncodeChar (Char.ofNat number) =
      if number ≤ 127 then [UInt8.ofNat number]
      else if number ≤ 2047 then
        [UInt8.ofNat (number / 64 % 32 + 192), UInt8.ofNat (number % 64 + 128)]
      else if number ≤ 65535 then
        [UInt8.ofNat (number / 4096 % 16 + 224), UInt8.ofNat (number / 64 % 64 + 128),
          UInt8.ofNat (number % 64 + 128)]
      else
        [UInt8.ofNat (number / 262144 % 8 + 240), UInt8.ofNat (number / 4096 % 64 + 128),
          UInt8.ofNat (number / 64 % 64 + 128), UInt8.ofNat (number % 64 + 128)] := by
  have value : (Char.ofNat number).val.toNat = number := by
    have numbered := Char.toNat_ofNat number
    rw [if_pos valid] at numbered
    exact numbered
  unfold String.utf8EncodeChar
  simp only [value]

theorem encode_small (small : first < 0x80) :
    String.utf8EncodeChar (Char.ofNat first.toNat) = [first] := by
  have bound : first.toNat < 128 := UInt8.lt_iff_toNat_lt.1 small
  have valid : first.toNat.isValidChar := .inl (by omega)
  rw [utf8EncodeChar_ofNat valid, if_pos (by omega), UInt8.ofNat_toNat]

section Longer

variable {second third fourth low high : UInt8}

/-- What the table of second bytes says about the first two bytes of a longer encoding. -/
theorem bounds_of_secondByteRange? (range : secondByteRange? first = some (low, high, length))
    (above : low ≤ second) (below : second ≤ high) :
    (128 ≤ second.toNat ∧ second.toNat ≤ 191) ∧
      (length = 2 → 194 ≤ first.toNat ∧ first.toNat ≤ 223) ∧
      (length = 3 → 224 ≤ first.toNat ∧ first.toNat ≤ 239 ∧
        (first.toNat = 224 → 160 ≤ second.toNat) ∧ (first.toNat = 237 → second.toNat ≤ 159)) ∧
      (length = 4 → 240 ≤ first.toNat ∧ first.toNat ≤ 244 ∧
        (first.toNat = 240 → 144 ≤ second.toNat) ∧ (first.toNat = 244 → second.toNat ≤ 143)) := by
  rw [UInt8.le_iff_toNat_le] at above below
  unfold secondByteRange? at range
  simp only [UInt8.le_iff_toNat_le, ← UInt8.toNat_inj] at range
  repeat' split at range
  all_goals simp only [Option.some.injEq, Prod.mk.injEq, reduceCtorEq] at range
  all_goals
    obtain ⟨rfl, rfl, rfl⟩ := range
    simp only [UInt8.toNat_ofNat] at *
    omega

theorem bounds_of_tail {byte : UInt8} (within : byteWithin 0x80 0xBF (some byte)) :
    128 ≤ byte.toNat ∧ byte.toNat ≤ 191 := by
  simp only [byteWithin, Bool.and_eq_true, decide_eq_true_eq, UInt8.le_iff_toNat_le] at within
  exact within

theorem exists_payload {byte : UInt8} (tail : 128 ≤ byte.toNat ∧ byte.toNat ≤ 191) :
    payload byte < 64 ∧ payload byte + 128 = byte.toNat := by
  unfold payload
  omega

theorem encode_two (range : secondByteRange? first = some (low, high, 2)) (above : low ≤ second)
    (below : second ≤ high) :
    String.utf8EncodeChar (Char.ofNat (first.toNat % 32 * 64 + payload second)) =
      [first, second] := by
  obtain ⟨tail, two, _⟩ := bounds_of_secondByteRange? range above below
  obtain ⟨lower, upper⟩ := two rfl
  obtain ⟨small, spelled⟩ := exists_payload tail
  have lead : first.toNat % 32 + 192 = first.toNat := by omega
  have valid : (first.toNat % 32 * 64 + payload second).isValidChar := .inl (by omega)
  have firstByte : (first.toNat % 32 * 64 + payload second) / 64 % 32 + 192 = first.toNat := by
    omega
  have secondByte : (first.toNat % 32 * 64 + payload second) % 64 + 128 = second.toNat := by omega
  rw [utf8EncodeChar_ofNat valid, if_neg (by omega), if_pos (by omega), firstByte, secondByte]
  simp only [UInt8.ofNat_toNat]

theorem encode_three (range : secondByteRange? first = some (low, high, 3)) (above : low ≤ second)
    (below : second ≤ high) (within : byteWithin 0x80 0xBF (some third)) :
    String.utf8EncodeChar
        (Char.ofNat (first.toNat % 16 * 4096 + payload second * 64 + payload third)) =
      [first, second, third] := by
  obtain ⟨tail, _, three, _⟩ := bounds_of_secondByteRange? range above below
  obtain ⟨lower, upper, early, surrogate⟩ := three rfl
  obtain ⟨small, spelled⟩ := exists_payload tail
  obtain ⟨smallThird, spelledThird⟩ := exists_payload (bounds_of_tail within)
  have lead : first.toNat % 16 + 224 = first.toNat := by omega
  generalize number : first.toNat % 16 * 4096 + payload second * 64 + payload third = value
  -- The numbers of surrogates are left out: they would begin with ED and a second byte from A0 on.
  have valid : value.isValidChar := by
    unfold Nat.isValidChar
    omega
  have firstByte : value / 4096 % 16 + 224 = first.toNat := by omega
  have secondByte : value / 64 % 64 + 128 = second.toNat := by omega
  have thirdByte : value % 64 + 128 = third.toNat := by omega
  rw [utf8EncodeChar_ofNat valid, if_neg (by omega), if_neg (by omega), if_pos (by omega),
    firstByte, secondByte, thirdByte]
  simp only [UInt8.ofNat_toNat]

theorem encode_four (range : secondByteRange? first = some (low, high, 4)) (above : low ≤ second)
    (below : second ≤ high) (within : byteWithin 0x80 0xBF (some third))
    (last : byteWithin 0x80 0xBF (some fourth)) :
    String.utf8EncodeChar
        (Char.ofNat (first.toNat % 8 * 262144 + payload second * 4096 + payload third * 64 +
          payload fourth)) =
      [first, second, third, fourth] := by
  obtain ⟨tail, _, _, four⟩ := bounds_of_secondByteRange? range above below
  obtain ⟨lower, upper, early, late⟩ := four rfl
  obtain ⟨small, spelled⟩ := exists_payload tail
  obtain ⟨smallThird, spelledThird⟩ := exists_payload (bounds_of_tail within)
  obtain ⟨smallFourth, spelledFourth⟩ := exists_payload (bounds_of_tail last)
  have lead : first.toNat % 8 + 240 = first.toNat := by omega
  generalize number :
    first.toNat % 8 * 262144 + payload second * 4096 + payload third * 64 + payload fourth = value
  have valid : value.isValidChar := by
    unfold Nat.isValidChar
    omega
  have firstByte : value / 262144 % 8 + 240 = first.toNat := by omega
  have secondByte : value / 4096 % 64 + 128 = second.toNat := by omega
  have thirdByte : value / 64 % 64 + 128 = third.toNat := by omega
  have fourthByte : value % 64 + 128 = fourth.toNat := by omega
  rw [utf8EncodeChar_ofNat valid, if_neg (by omega), if_neg (by omega), if_neg (by omega),
    firstByte, secondByte, thirdByte, fourthByte]
  simp only [UInt8.ofNat_toNat]

end Longer

/-- Where the next byte is as it must be, there is one. -/
theorem exists_cons_of_byteWithin {low high : UInt8} {bytes : Bytes}
    (within : ¬ (!byteWithin low high bytes[0]?) = true) :
    ∃ byte more, bytes = byte :: more ∧ byteWithin low high (some byte) ∧
      low ≤ byte ∧ byte ≤ high := by
  cases bytes with
  | nil => simp [byteWithin_none] at within
  | cons byte more =>
      have lies : byteWithin low high (some byte) := by simpa using within
      exact ⟨byte, more, rfl, lies, by simpa [byteWithin] using lies⟩

/-- The character that some bytes begin with is encoded by these bytes. -/
theorem utf8EncodeChar_append_of_headOf (head : headOf first rest = .char c length) :
    String.utf8EncodeChar c ++ rest.drop (length - 1) = first :: rest := by
  unfold headOf at head
  split at head
  · next small =>
      cases head
      rw [encode_small small]
      rfl
  split at head
  · cases head
  next low high total range =>
    split at head
    · cases head
    next lies =>
      obtain ⟨second, rest, rfl, _, above, below⟩ := exists_cons_of_byteWithin lies
      dsimp only [List.headD_cons] at head
      split at head
      · next two =>
          subst two
          cases head
          rw [encode_two range above below]
          rfl
      next notTwo =>
        simp only [List.getElem?_cons_succ, List.getD_cons_succ] at head
        split at head
        · cases head
        next liesThird =>
          obtain ⟨third, rest, rfl, tail, _⟩ := exists_cons_of_byteWithin liesThird
          simp only [List.getD_cons_zero, List.getD_cons_succ, List.getElem?_cons_succ] at head
          split at head
          · next three =>
              subst three
              cases head
              rw [encode_three range above below tail]
              rfl
          next notThree =>
            split at head
            · cases head
            next liesFourth =>
              obtain ⟨fourth, rest, rfl, last, _⟩ := exists_cons_of_byteWithin liesFourth
              have four : total = 4 := by
                have lengths := (le_of_secondByteRange? range).2
                omega
              subst four
              cases head
              rw [List.getD_cons_zero, encode_four range above below tail last]
              rfl

theorem encodeChars_cons (c : Char) (chars : List Char) :
    encodeChars (c :: chars) = String.utf8EncodeChar c ++ encodeChars chars := rfl

theorem encodeChars_of_decodeChars? (decoded : decodeChars? bytes = some chars) :
    encodeChars chars = bytes := by
  fun_induction decodeChars? bytes generalizing chars with
  | case1 =>
      cases decoded
      rfl
  | case2 first rest c length head ih =>
      obtain ⟨more, decodedRest, rfl⟩ := Option.map_eq_some_iff.1 decoded
      rw [encodeChars_cons, ih decodedRest]
      exact utf8EncodeChar_append_of_headOf head
  | case3 => cases decoded

theorem decodeCharsLossy_of_decodeChars? (decoded : decodeChars? bytes = some chars) :
    decodeCharsLossy bytes = chars := by
  fun_induction decodeChars? bytes generalizing chars with
  | case1 =>
      cases decoded
      simp [decodeCharsLossy]
  | case2 first rest c length head ih =>
      obtain ⟨more, decodedRest, rfl⟩ := Option.map_eq_some_iff.1 decoded
      rw [decodeCharsLossy, head]
      simp only [ih decodedRest]
  | case3 => cases decoded

/-- Bytes that encode no character are not those that encode U+FFFD. -/
theorem encode_replacement_ne (head : headOf first rest = .invalid length) (more : Bytes) :
    String.utf8EncodeChar replacementChar ++ more ≠ first :: rest := by
  intro same
  have spelled : String.utf8EncodeChar replacementChar = [0xEF, 0xBF, 0xBD] := by decide
  simp only [spelled, List.cons_append, List.nil_append, List.cons.injEq] at same
  obtain ⟨rfl, rfl⟩ := same
  have read : headOf 0xEF (0xBF :: 0xBD :: more) = .char replacementChar 3 := by
    cbv
  rw [read] at head
  cases head

/-- Text that was read leniently has the encoding from which it was read exactly if that is the
encoding of a text. -/
theorem encodeChars_decodeCharsLossy_iff (bytes : Bytes) :
    encodeChars (decodeCharsLossy bytes) = bytes ↔ decodeChars? bytes ≠ none := by
  constructor
  · intro same
    fun_induction decodeChars? bytes with
    | case1 => simp
    | case2 first rest c length head ih =>
        rw [decodeCharsLossy, head] at same
        have joined := utf8EncodeChar_append_of_headOf head
        have later : encodeChars (decodeCharsLossy (rest.drop (length - 1))) =
            rest.drop (length - 1) := by
          rw [← joined, encodeChars_cons] at same
          exact List.append_cancel_left same
        simpa using ih later
    | case3 first rest length head =>
        rw [decodeCharsLossy, head] at same
        exact absurd same (encode_replacement_ne head _)
  · intro decoded
    obtain ⟨chars, found⟩ := Option.ne_none_iff_exists'.1 decoded
    rw [decodeCharsLossy_of_decodeChars? found, encodeChars_of_decodeChars? found]

theorem encode_decodeLossy_iff (bytes : Bytes) :
    encode (decodeLossy bytes) = bytes ↔ decode? bytes ≠ none := by
  rw [encode, decodeLossy, String.toList_ofList, encodeChars_decodeCharsLossy_iff, decode?,
    ne_eq, ne_eq, Option.map_eq_none_iff]

end HostHome.Text
