import HostHome.Proofs.Text.Encoding
import HostHome.Proofs.Text.Occurrences

/-!
# Places among the bytes of a text

No byte inside a character begins another one.  So a text stands among the bytes of a text
exactly where it stands among its characters, and a search by bytes finds nothing else.
-/

namespace HostHome.Text

variable {needle text chars : List Char} {front back rest more : Bytes} {c other : Char}
  {place : ℕ} {places : Set ℕ}

theorem encodeChars_append (chars others : List Char) :
    encodeChars (chars ++ others) = encodeChars chars ++ encodeChars others :=
  List.flatMap_append

/-- Of the bytes of a character only the first one can be the first one of a character. -/
theorem isUTF8FirstByte_iff {byte : UInt8} (front : Bytes)
    (spelled : String.utf8EncodeChar c = front ++ byte :: rest) :
    byte.IsUTF8FirstByte ↔ front = [] := by
  have long : front.length < (String.utf8EncodeChar c).length := by
    simp [spelled]
  have own : (String.utf8EncodeChar c)[front.length] = byte := by
    simp [spelled]
  rw [← own, UInt8.isUTF8FirstByte_getElem_utf8EncodeChar, List.length_eq_zero_iff]

theorem exists_cons_of_encodeChars (nonempty : chars ≠ []) :
    ∃ first rest, encodeChars chars = first :: rest ∧ first.IsUTF8FirstByte := by
  obtain ⟨c, others, rfl⟩ := List.exists_cons_of_ne_nil nonempty
  obtain ⟨first, inner, spelled⟩ :=
    List.exists_cons_of_ne_nil (String.utf8EncodeChar_ne_nil (c := c))
  have begins : first.IsUTF8FirstByte := (isUTF8FirstByte_iff [] spelled).2 rfl
  exact ⟨first, inner ++ encodeChars others, by simp [encodeChars, spelled], begins⟩

theorem utf8EncodeChar_append_inj
    (same : String.utf8EncodeChar c ++ rest = String.utf8EncodeChar other ++ more) :
    c = other ∧ rest = more := by
  have decoded (char : Char) (bytes : Bytes) :
      (String.utf8EncodeChar char ++ bytes).toByteArray.utf8DecodeChar? 0 = some char := by
    rw [List.toByteArray_append, ByteArray.utf8DecodeChar?_utf8EncodeChar_append]
  obtain rfl : c = other := by
    rw [← Option.some.injEq, ← decoded c rest, same, decoded other more]
  exact ⟨rfl, List.append_cancel_left same⟩

theorem exists_of_encodeChars_eq_append (same : encodeChars text = encodeChars needle ++ rest) :
    ∃ behind, text = needle ++ behind ∧ rest = encodeChars behind := by
  induction needle generalizing text with
  | nil => exact ⟨text, rfl, same.symm⟩
  | cons c needle ih =>
      cases text with
      | nil => simp [encodeChars] at same
      | cons other text =>
          simp only [encodeChars, List.flatMap_cons, List.append_assoc] at same
          obtain ⟨rfl, later⟩ := utf8EncodeChar_append_inj same
          obtain ⟨behind, rfl, spelled⟩ := ih later
          exact ⟨behind, rfl, spelled⟩

/-- What stands before and behind the bytes of a text is the encoding of a text too. -/
theorem exists_of_encodeChars_eq (nonempty : needle ≠ [])
    (same : encodeChars text = front ++ (encodeChars needle ++ back)) :
    ∃ before behind, text = before ++ needle ++ behind ∧ front = encodeChars before ∧
      back = encodeChars behind := by
  induction text generalizing front with
  | nil =>
      obtain ⟨first, rest, spelled, _⟩ := exists_cons_of_encodeChars nonempty
      rw [spelled] at same
      simp [encodeChars] at same
  | cons c text ih =>
      have joined : String.utf8EncodeChar c ++ encodeChars text =
          front ++ (encodeChars needle ++ back) := same
      rcases List.append_eq_append_iff.1 joined with
        ⟨later, rfl, spelled⟩ | ⟨inner, character, spelled⟩
      · obtain ⟨before, behind, rfl, rfl, rfl⟩ := ih spelled
        exact ⟨c :: before, behind, rfl, rfl, rfl⟩
      · obtain ⟨first, rest, begins, isFirst⟩ := exists_cons_of_encodeChars nonempty
        cases inner with
        | nil =>
            rw [List.append_nil] at character
            obtain ⟨behind, rfl, rfl⟩ := exists_of_encodeChars_eq_append
              (by simpa using spelled.symm : encodeChars text = encodeChars needle ++ back)
            exact ⟨[c], behind, rfl, by simp [encodeChars, character], rfl⟩
        | cons byte inner =>
            obtain rfl : first = byte := by
              rw [begins] at spelled
              exact (List.cons.inj spelled).1
            obtain rfl := (isUTF8FirstByte_iff front character).1 isFirst
            have whole : encodeChars (c :: text) = encodeChars needle ++ back := joined
            obtain ⟨behind, starts, rfl⟩ := exists_of_encodeChars_eq_append whole
            exact ⟨[], behind, starts, rfl, rfl⟩

/-- A text stands among the bytes behind the bytes of what it stands behind. -/
theorem standsAt_encodeChars_iff (nonempty : needle ≠ []) :
    StandsAt (encodeChars needle) (encodeChars text) place ↔
      ∃ inner, StandsAt needle text inner ∧ (encodeChars (text.take inner)).length = place := by
  constructor
  · rintro ⟨front, back, spelled, rfl⟩
    rw [List.append_assoc] at spelled
    obtain ⟨before, behind, rfl, rfl, rfl⟩ := exists_of_encodeChars_eq nonempty spelled
    exact ⟨before.length, standsAt_length before needle behind, by simp⟩
  · rintro ⟨_, ⟨before, behind, rfl, rfl⟩, rfl⟩
    have stands := standsAt_length (encodeChars before) (encodeChars needle) (encodeChars behind)
    simpa [encodeChars_append] using stands

theorem length_encodeChars_take_lt {inner next : ℕ} (before : inner < next)
    (fits : next ≤ text.length) :
    (encodeChars (text.take inner)).length < (encodeChars (text.take next)).length := by
  have joined : text.take next = text.take inner ++ (text.drop inner).take (next - inner) := by
    rw [← List.take_add, Nat.add_sub_cancel' before.le]
  have between : (text.drop inner).take (next - inner) ≠ [] := by
    rw [← List.length_pos_iff, List.length_take, List.length_drop]
    omega
  obtain ⟨first, rest, spelled, _⟩ := exists_cons_of_encodeChars between
  rw [joined, encodeChars_append, List.length_append, spelled, List.length_cons]
  omega

/-- Places among the bytes that do not overlap are places of characters that do not. -/
theorem SeparatePlaces.of_encodeChars (nonempty : needle ≠ [])
    (separate : SeparatePlaces (encodeChars needle) (encodeChars text) places) :
    SeparatePlaces needle text
      {inner | StandsAt needle text inner ∧ (encodeChars (text.take inner)).length ∈ places} := by
  have bytes : encodeChars needle ≠ [] := by
    obtain ⟨first, rest, spelled, _⟩ := exists_cons_of_encodeChars nonempty
    simp [spelled]
  refine .of_lt (fun inner member => member.1) ?_
  rintro inner ⟨stands, member⟩ next ⟨standsNext, within⟩ before
  have fits := standsNext.add_length_le
  have apart := separate.add_length_le bytes member within
    (length_encodeChars_take_lt before (by omega))
  by_contra overlap
  have sooner : (encodeChars (text.take next)).length <
      (encodeChars (text.take (inner + needle.length))).length :=
    length_encodeChars_take_lt (by omega) stands.add_length_le
  obtain ⟨front, back, rfl, rfl⟩ := stands
  have whole : (front ++ needle ++ back).take (front.length + needle.length) = front ++ needle := by
    rw [← List.length_append, List.take_left]
  have start : (front ++ needle ++ back).take front.length = front := by
    rw [List.append_assoc, List.take_left]
  rw [whole, encodeChars_append, List.length_append] at sooner
  rw [start] at apart
  omega

theorem SeparatePlaces.encard_le_of_encodeChars (nonempty : needle ≠ [])
    (separate : SeparatePlaces (encodeChars needle) (encodeChars text) places) :
    places.encard ≤ {inner | StandsAt needle text inner ∧
      (encodeChars (text.take inner)).length ∈ places}.encard := by
  have covered : places ⊆ (fun inner => (encodeChars (text.take inner)).length) ''
      {inner | StandsAt needle text inner ∧ (encodeChars (text.take inner)).length ∈ places} := by
    intro place member
    obtain ⟨inner, stands, rfl⟩ :=
      (standsAt_encodeChars_iff nonempty).1 (separate.stands place member)
    exact ⟨inner, ⟨stands, member⟩, rfl⟩
  exact (Set.encard_le_encard covered).trans (Set.encard_image_le _ _)

end HostHome.Text
