import Mathlib
import HostHome.Text.Utf8
import HostHome.Proofs.Text.Pieces

/-!
# Decoding line by line

A byte below 128 is a character of its own and no part of a longer one.  So bytes
are a text exactly if all their lines are, and the lines of the text are then those
of the bytes.
-/

namespace HostHome.Text

variable {separator first : UInt8} {rest front back bytes : Bytes} {chars : List Char}

theorem byteWithin_none (low high : UInt8) : byteWithin low high none = false := rfl

theorem byteWithin_of_small {low high : UInt8} (small : separator < 0x80) (bound : 0x80 ≤ low) :
    byteWithin low high (some separator) = false := by
  have below : separator < low := UInt8.lt_of_lt_of_le small bound
  simp [byteWithin, UInt8.not_le.2 below]

theorem le_of_secondByteRange? {low high : UInt8} {length : Nat}
    (range : secondByteRange? first = some (low, high, length)) :
    0x80 ≤ low ∧ (length = 2 ∨ length = 3 ∨ length = 4) := by
  unfold secondByteRange? at range
  repeat' split at range
  all_goals cases range <;> decide

/-- Whether a small byte follows or nothing does makes no difference. -/
theorem headOf_append_separator (small : separator < 0x80) (first : UInt8) (rest back : Bytes) :
    headOf first (rest ++ separator :: back) = headOf first rest := by
  unfold headOf
  split
  · rfl
  · split
    · rfl
    · next low high length range =>
        have second : byteWithin low high (some separator) = false :=
          byteWithin_of_small small (le_of_secondByteRange? range).1
        have later : byteWithin 0x80 0xBF (some separator) = false :=
          byteWithin_of_small small (UInt8.le_refl 0x80)
        match rest with
        | [] => simp [second, byteWithin_none]
        | [_] => simp [later, byteWithin_none]
        | [_, _] => simp [later, byteWithin_none]
        | _ :: _ :: _ :: _ => simp

theorem length_le_of_headOf {c : Char} {length : Nat} (head : headOf first rest = .char c length) :
    length ≤ rest.length + 1 := by
  unfold headOf at head
  split at head
  · cases head
    simp
  · split at head
    · cases head
    · match rest with
      | [] => simp [byteWithin_none] at head
      | [_] => simp [byteWithin_none] at head; grind
      | [_, _] => simp [byteWithin_none] at head; grind
      | _ :: _ :: _ :: _ => grind

theorem eq_of_ofNat_eq_lineFeed {number : Nat} (same : Char.ofNat number = '\n') : number = 10 := by
  have value := congrArg Char.toNat same
  rw [Char.toNat_ofNat] at value
  split at value
  · exact value
  · cases value

/-- The first two bytes of a longer character make its number at least 128. -/
theorem le_of_firstBytes {low high second : UInt8} {length : Nat}
    (range : secondByteRange? first = some (low, high, length)) (above : low ≤ second)
    (below : second ≤ high) :
    (length = 2 → 128 ≤ first.toNat % 32 * 64 + payload second) ∧
      (length = 3 → 128 ≤ first.toNat % 16 * 4096 + payload second * 64) ∧
      (length = 4 → 128 ≤ first.toNat % 8 * 262144 + payload second * 4096) := by
  rw [UInt8.le_iff_toNat_le] at above below
  unfold secondByteRange? at range
  unfold payload
  simp only [UInt8.le_iff_toNat_le, ← UInt8.toNat_inj] at range
  repeat' split at range
  all_goals simp only [Option.some.injEq, Prod.mk.injEq, reduceCtorEq] at range
  all_goals
    obtain ⟨rfl, rfl, rfl⟩ := range
    simp only [UInt8.toNat_ofNat] at *
    omega

theorem headOf_ne_lineFeed {length : Nat} (large : ¬ first < 0x80) :
    headOf first rest ≠ .char '\n' length := by
  intro head
  unfold headOf at head
  rw [if_neg large] at head
  split at head
  · cases head
  · next low high total range =>
      cases rest with
      | nil => simp [byteWithin_none] at head
      | cons second more =>
          by_cases within : low ≤ second ∧ second ≤ high
          · obtain ⟨two, three, four⟩ := le_of_firstBytes range within.1 within.2
            have lengths := (le_of_secondByteRange? range).2
            have spelled {number : Nat} (same : Char.ofNat number = '\n') : number = 10 :=
              eq_of_ofNat_eq_lineFeed same
            simp only [List.getElem?_cons_zero, byteWithin, within, List.headD_cons] at head
            grind
          · simp only [List.getElem?_cons_zero, byteWithin] at head
            grind

theorem decodeChars?_append_separator (small : separator < 0x80) (front back : Bytes) :
    decodeChars? (front ++ separator :: back) =
      (decodeChars? front).bind fun before =>
        (decodeChars? back).map fun behind =>
          before ++ Char.ofNat separator.toNat :: behind := by
  fun_induction decodeChars? front with
  | case1 =>
      have head : headOf separator back = .char (Char.ofNat separator.toNat) 1 := by
        simp [headOf, small]
      rw [List.nil_append, decodeChars?, head]
      simp
  | case2 first rest c length head ih =>
      have within : length - 1 ≤ rest.length := by
        have := length_le_of_headOf head
        omega
      have same := headOf_append_separator small first rest back
      rw [List.cons_append, decodeChars?, same, head]
      dsimp only
      rw [List.drop_append_of_le_length within, ih]
      cases decodeChars? (rest.drop (length - 1)) <;> cases decodeChars? back <;> rfl
  | case3 first rest length head =>
      have same := headOf_append_separator small first rest back
      rw [List.cons_append, decodeChars?, same, head]
      rfl

theorem lineFeed_mem_of_decodeChars? (decoded : decodeChars? bytes = some chars)
    (member : '\n' ∈ chars) : 10 ∈ bytes := by
  fun_induction decodeChars? bytes generalizing chars with
  | case1 => cases decoded; cases member
  | case2 first rest c length head ih =>
      obtain ⟨more, decodedRest, rfl⟩ := Option.map_eq_some_iff.1 decoded
      rcases List.mem_cons.1 member with rfl | later
      · by_cases small : first < 0x80
        · have spelled : Char.ofNat first.toNat = '\n' := by
            simp only [headOf, small, if_true, Head.char.injEq] at head
            exact head.1
          have number : first = 10 :=
            UInt8.toNat_inj.1 (eq_of_ofNat_eq_lineFeed spelled)
          simp [number]
        · exact absurd head (headOf_ne_lineFeed small)
      · exact List.mem_cons_of_mem first (List.mem_of_mem_drop (ih decodedRest later))
  | case3 => cases decoded

/-- What holds of one line, and of one line more, holds of all bytes. -/
theorem lines_induction {motive : Bytes → Prop} (last : ∀ line, 10 ∉ line → motive line)
    (more : ∀ line rest, 10 ∉ line → motive rest → motive (line ++ 10 :: rest))
    (bytes : Bytes) : motive bytes := by
  by_cases ends : 10 ∈ bytes
  · obtain ⟨line, rest, joined, free⟩ := List.eq_append_cons_of_mem ends
    have shorter : rest.length < bytes.length := by
      rw [joined]
      simp
      omega
    rw [joined]
    exact more line rest free (lines_induction last more rest)
  · exact last bytes ends
termination_by bytes.length

theorem piecesOf_decodeChars? (decoded : decodeChars? bytes = some chars) :
    (piecesOf 10 bytes).map decodeChars? = (piecesOf '\n' chars).map some := by
  induction bytes using lines_induction generalizing chars with
  | last line free =>
      have absent : '\n' ∉ chars := fun member => free (lineFeed_mem_of_decodeChars? decoded member)
      simp [piecesOf_of_notMem free, piecesOf_of_notMem absent, decoded]
  | more line rest free ih =>
      rw [decodeChars?_append_separator (by decide)] at decoded
      obtain ⟨before, decodedLine, decoded⟩ := Option.bind_eq_some_iff.1 decoded
      obtain ⟨behind, decodedRest, rfl⟩ := Option.map_eq_some_iff.1 decoded
      have absent : '\n' ∉ before :=
        fun member => free (lineFeed_mem_of_decodeChars? decodedLine member)
      have lineFeed : Char.ofNat (10 : UInt8).toNat = '\n' := rfl
      rw [lineFeed, piecesOf_append_separator, piecesOf_append_separator, List.map_append,
        List.map_append, ih decodedRest]
      simp [piecesOf_of_notMem free, piecesOf_of_notMem absent, decodedLine]

theorem decodeChars?_piece_ne_none (decoded : decodeChars? bytes = some chars) :
    ∀ line ∈ piecesOf 10 bytes, decodeChars? line ≠ none := by
  intro line member none
  have found : decodeChars? line ∈ (piecesOf '\n' chars).map some := by
    rw [← piecesOf_decodeChars? decoded]
    exact List.mem_map_of_mem member
  simp [none] at found

/-- Bytes that are no text have a line that is none. -/
theorem exists_undecodable_piece (undecodable : decodeChars? bytes = none) :
    ∃ line ∈ piecesOf 10 bytes, decodeChars? line = none := by
  induction bytes using lines_induction with
  | last line free => exact ⟨line, by simp [piecesOf_of_notMem free], undecodable⟩
  | more line rest free ih =>
      rw [piecesOf_append_separator, piecesOf_of_notMem free]
      cases decodedLine : decodeChars? line with
      | none => exact ⟨line, by simp, decodedLine⟩
      | some before =>
          rw [decodeChars?_append_separator (by decide), decodedLine] at undecodable
          obtain ⟨found, member, none⟩ := ih (by simpa using undecodable)
          exact ⟨found, by simp [member], none⟩

end HostHome.Text
