import HostHome.Proofs.Text.EncodedPlaces

/-!
# Fields between delimiters

A text is cut at the first place of its delimiter, and what is behind the place is cut
again.  No other fields that end at first places make up the same text.  The delimiter is cut
out as often as it can stand in the text side by side with itself.
-/

namespace HostHome.Text

variable {delimiter text before rest field : List Char} {fields : List (List Char)}

theorem fieldsOf_of_none (nonempty : delimiter ≠ [])
    (absent : splitFirst? delimiter text = none) : fieldsOf delimiter text = [text] := by
  rw [fieldsOf, dif_neg nonempty]
  split <;> simp_all

theorem fieldsOf_of_some (nonempty : delimiter ≠ [])
    (found : splitFirst? delimiter text = some (before, rest)) :
    fieldsOf delimiter text = before :: fieldsOf delimiter rest := by
  rw [fieldsOf, dif_neg nonempty]
  split <;> simp_all

theorem countIn_of_none (nonempty : delimiter ≠ [])
    (absent : splitFirst? delimiter text = none) : countIn delimiter text = 0 := by
  rw [countIn, dif_neg nonempty]
  split <;> simp_all

theorem countIn_of_some (nonempty : delimiter ≠ [])
    (found : splitFirst? delimiter text = some (before, rest)) :
    countIn delimiter text = countIn delimiter rest + 1 := by
  rw [countIn, dif_neg nonempty]
  split <;> simp_all

/-- What holds of a text without the delimiter, and of a text that goes on behind the first
place of the delimiter, holds of every text. -/
theorem cuts_induction {motive : List Char → Prop} (nonempty : delimiter ≠ [])
    (last : ∀ text, splitFirst? delimiter text = none → motive text)
    (more : ∀ text before rest, splitFirst? delimiter text = some (before, rest) →
      motive rest → motive text)
    (text : List Char) : motive text := by
  cases split : splitFirst? delimiter text with
  | none => exact last text split
  | some cut =>
      have shorter : cut.2.length < text.length := length_splitFirst?_lt nonempty split
      exact more text cut.1 cut.2 split (cuts_induction nonempty last more cut.2)
termination_by text.length

theorem fieldsOf_ne_nil (nonempty : delimiter ≠ []) (text : List Char) :
    fieldsOf delimiter text ≠ [] := by
  cases split : splitFirst? delimiter text with
  | none => simp [fieldsOf_of_none nonempty split]
  | some cut => simp [fieldsOf_of_some nonempty split]

theorem intercalate_fieldsOf (nonempty : delimiter ≠ []) (text : List Char) :
    delimiter.intercalate (fieldsOf delimiter text) = text := by
  induction text using cuts_induction nonempty with
  | last text absent => rw [fieldsOf_of_none nonempty absent, List.intercalate_singleton]
  | more text before rest found ih =>
      rw [fieldsOf_of_some nonempty found,
        List.intercalate_cons_of_ne_nil (fieldsOf_ne_nil nonempty rest), ih,
        ← ((splitFirst?_eq_some_iff nonempty).1 found).1]

theorem length_fieldsOf (nonempty : delimiter ≠ []) (text : List Char) :
    (fieldsOf delimiter text).length = countIn delimiter text + 1 := by
  induction text using cuts_induction nonempty with
  | last text absent =>
      rw [fieldsOf_of_none nonempty absent, countIn_of_none nonempty absent]
      rfl
  | more text before rest found ih =>
      rw [fieldsOf_of_some nonempty found, countIn_of_some nonempty found, List.length_cons, ih]

/-- Each field but the last ends at the first place of the delimiter that follows it, and the
delimiter stands nowhere in the last field. -/
structure CutAtFirst (delimiter : List Char) (fields : List (List Char)) : Prop where
  nonempty : fields ≠ []
  first : ∀ field ∈ fields.dropLast,
    IsLeast {place | StandsAt delimiter (field ++ delimiter) place} field.length
  last : ∀ field ∈ fields.getLast?, ∀ place, ¬ StandsAt delimiter field place

theorem cutAtFirst_singleton_iff :
    CutAtFirst delimiter [field] ↔ ∀ place, ¬ StandsAt delimiter field place := by
  constructor
  · intro cut
    exact cut.last field rfl
  · intro absent
    exact ⟨by simp, by simp, by simpa using absent⟩

theorem cutAtFirst_cons_iff (more : fields ≠ []) :
    CutAtFirst delimiter (field :: fields) ↔
      IsLeast {place | StandsAt delimiter (field ++ delimiter) place} field.length ∧
        CutAtFirst delimiter fields := by
  have front : (field :: fields).dropLast = field :: fields.dropLast :=
    List.dropLast_cons_of_ne_nil more
  have final : (field :: fields).getLast? = fields.getLast? := by
    obtain ⟨next, rest, rfl⟩ := List.exists_cons_of_ne_nil more
    exact List.getLast?_cons_cons
  constructor
  · rintro ⟨_, first, last⟩
    rw [front, List.forall_mem_cons] at first
    rw [final] at last
    exact ⟨first.1, more, first.2, last⟩
  · rintro ⟨own, cut⟩
    refine ⟨by simp, ?_, ?_⟩
    · rw [front, List.forall_mem_cons]
      exact ⟨own, cut.first⟩
    · rw [final]
      exact cut.last

theorem cutAtFirst_fieldsOf (nonempty : delimiter ≠ []) (text : List Char) :
    CutAtFirst delimiter (fieldsOf delimiter text) := by
  induction text using cuts_induction nonempty with
  | last text absent =>
      rw [fieldsOf_of_none nonempty absent, cutAtFirst_singleton_iff]
      exact (splitFirst?_eq_none_iff nonempty).1 absent
  | more text before rest found ih =>
      rw [fieldsOf_of_some nonempty found,
        cutAtFirst_cons_iff (fieldsOf_ne_nil nonempty rest)]
      exact ⟨((splitFirst?_eq_some_iff nonempty).1 found).2, ih⟩

/-- Fields that are cut at first places are found again in the text that they make up. -/
theorem CutAtFirst.fieldsOf_intercalate (nonempty : delimiter ≠ [])
    (cut : CutAtFirst delimiter fields) :
    fieldsOf delimiter (delimiter.intercalate fields) = fields := by
  induction fields with
  | nil => exact absurd rfl cut.nonempty
  | cons field fields ih =>
      by_cases more : fields = []
      · subst more
        have absent : splitFirst? delimiter field = none :=
          (splitFirst?_eq_none_iff nonempty).2 (cutAtFirst_singleton_iff.1 cut)
        rw [List.intercalate_singleton, fieldsOf_of_none nonempty absent]
      · obtain ⟨first, later⟩ := (cutAtFirst_cons_iff more).1 cut
        have found : splitFirst? delimiter
            (field ++ delimiter ++ delimiter.intercalate fields) =
              some (field, delimiter.intercalate fields) :=
          (splitFirst?_eq_some_iff nonempty).2 ⟨rfl, first⟩
        rw [List.intercalate_cons_of_ne_nil more,
          fieldsOf_of_some nonempty found, ih later]

/-- There are no more places that do not overlap than the search finds. -/
theorem SeparatePlaces.encard_le_countIn {places : Set ℕ} (nonempty : delimiter ≠ [])
    (separate : SeparatePlaces delimiter text places) :
    places.encard ≤ countIn delimiter text := by
  induction text using cuts_induction nonempty generalizing places with
  | last text absent =>
      have empty : places = ∅ := by
        rw [Set.eq_empty_iff_forall_notMem]
        intro place member
        exact (splitFirst?_eq_none_iff nonempty).1 absent place (separate.stands place member)
      simp [empty]
  | more text before rest found ih =>
      obtain ⟨rfl, least⟩ := isLeast_of_splitFirst? found
      have first : ∀ place ∈ places, before.length ≤ place := by
        intro place member
        exact least.2 (separate.stands place member)
      have later := ih (separate.behind nonempty)
      rw [countIn_of_some nonempty found]
      calc places.encard
          ≤ {place | (before ++ delimiter).length + place ∈ places}.encard + 1 :=
            separate.encard_le_add_one nonempty first
        _ ≤ countIn delimiter rest + 1 := by gcongr
        _ = ↑(countIn delimiter rest + 1) := by norm_cast

/-- The places that the search finds do not overlap. -/
theorem exists_separatePlaces (nonempty : delimiter ≠ []) (text : List Char) :
    ∃ places, SeparatePlaces delimiter text places ∧
      places.encard = countIn delimiter text := by
  induction text using cuts_induction nonempty with
  | last text absent =>
      exact ⟨∅, ⟨by simp, by simp⟩, by simp [countIn_of_none nonempty absent]⟩
  | more text before rest found ih =>
      obtain ⟨places, separate, size⟩ := ih
      obtain ⟨rfl, _⟩ := isLeast_of_splitFirst? found
      have fresh : before.length ∉ ((before ++ delimiter).length + ·) '' places := by
        rintro ⟨place, _, same⟩
        have long : 0 < delimiter.length := List.length_pos_iff.2 nonempty
        simp only [List.length_append] at same
        omega
      refine ⟨_, separate.insert nonempty before, ?_⟩
      rw [Set.encard_insert_of_notMem fresh, (add_right_injective _).encard_image, size,
        countIn_of_some nonempty found]
      norm_cast

theorem toList_splitOn (haystack delimiter : String) :
    (splitOn haystack delimiter).map String.toList =
      fieldsOf delimiter.toList haystack.toList := by
  simp [splitOn, Function.comp_def]

/-- Splitting cuts a text at first places and is the only way to do so.  No more places stand
side by side than are cut at, be they places of characters or of bytes. -/
theorem splitOn_cuts_leftmost {delimiter : String} (nonempty : delimiter ≠ "")
    (haystack : String) :
    delimiter.intercalate (splitOn haystack delimiter) = haystack ∧
      (splitOn haystack delimiter).length = countOccurrences haystack delimiter + 1 ∧
      CutAtFirst delimiter.toList ((splitOn haystack delimiter).map String.toList) ∧
      (∀ fields : List String, delimiter.intercalate fields = haystack →
        CutAtFirst delimiter.toList (fields.map String.toList) →
          fields = splitOn haystack delimiter) ∧
      (∀ places, SeparatePlaces delimiter.toList haystack.toList places →
        places.encard ≤ countOccurrences haystack delimiter) ∧
      (∀ places, SeparatePlaces (encode delimiter) (encode haystack) places →
        places.encard ≤ countOccurrences haystack delimiter) ∧
      ∃ places, SeparatePlaces delimiter.toList haystack.toList places ∧
        places.encard = countOccurrences haystack delimiter := by
  have chars : delimiter.toList ≠ [] := by
    simpa using nonempty
  refine ⟨?_, ?_, ?_, ?_, ?_, ?_, exists_separatePlaces chars haystack.toList⟩
  · rw [← String.toList_inj, String.toList_intercalate, toList_splitOn,
      intercalate_fieldsOf chars]
  · rw [splitOn, List.length_map, length_fieldsOf chars, countOccurrences]
  · rw [toList_splitOn]
    exact cutAtFirst_fieldsOf chars haystack.toList
  · intro fields joined cut
    have same := cut.fieldsOf_intercalate chars
    rw [← String.toList_intercalate, joined, ← toList_splitOn] at same
    exact (List.map_injective_iff.2 (fun _ _ => String.toList_injective) same).symm
  · intro places separate
    exact separate.encard_le_countIn chars
  · intro places separate
    exact (separate.encard_le_of_encodeChars chars).trans
      ((separate.of_encodeChars chars).encard_le_countIn chars)

theorem overlapping_delimiter_cuts_once :
    "éé" ≠ "" ∧ countOccurrences "ééé" "éé" = 1 ∧ splitOn "ééé" "éé" = ["", "é"] ∧
      "éé".intercalate ["", "é"] = "ééé" ∧
      ∀ places, SeparatePlaces "éé".toList "ééé".toList places → places.encard ≤ 1 := by
  have count : countOccurrences "ééé" "éé" = 1 := by cbv
  have fields : splitOn "ééé" "éé" = ["", "é"] := by cbv
  obtain ⟨joined, _, _, _, most, _⟩ := splitOn_cuts_leftmost (by decide : "éé" ≠ "") "ééé"
  rw [fields] at joined
  rw [count] at most
  exact ⟨by decide, count, fields, joined, by exact_mod_cast most⟩

end HostHome.Text
