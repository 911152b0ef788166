import HostHome.Text.Lines

/-!
# Pieces between separators

The pieces of a list hold no separators, and with the separators between them they
are the list again.  A separator divides the pieces into those before it and those
behind it.
-/

namespace HostHome.Text

variable {α : Type} [DecidableEq α] {separator : α}

theorem piecesOf_eq_splitOn (items : List α) :
    piecesOf separator items = items.splitOn separator := by
  induction items with
  | nil => rfl
  | cons item items ih =>
      obtain ⟨piece, pieces, found⟩ := List.exists_cons_of_ne_nil
        (List.splitOn_ne_nil separator items)
      rw [List.splitOn_eq_splitOnP, List.splitOnP_cons_eq_if_modifyHead,
        ← List.splitOn_eq_splitOnP, found]
      by_cases same : item = separator <;> simp [piecesOf, ih, same, found]

theorem piecesOf_ne_nil (items : List α) : piecesOf separator items ≠ [] := by
  rw [piecesOf_eq_splitOn]
  exact List.splitOn_ne_nil separator items

theorem piecesOf_append_separator (front back : List α) :
    piecesOf separator (front ++ separator :: back) =
      piecesOf separator front ++ piecesOf separator back := by
  simp only [piecesOf_eq_splitOn, List.splitOn_append_cons_self]

theorem piecesOf_of_notMem {items : List α} (absent : separator ∉ items) :
    piecesOf separator items = [items] := by
  rw [piecesOf_eq_splitOn, List.splitOn_eq_singleton absent]

theorem notMem_of_mem_piecesOf {items piece : List α} (member : piece ∈ piecesOf separator items) :
    separator ∉ piece := by
  induction items generalizing piece with
  | nil => simp_all [piecesOf]
  | cons item items ih =>
      unfold piecesOf at member
      split at member
      · rcases List.mem_cons.1 member with rfl | member
        · simp
        · exact ih member
      · next different =>
          obtain ⟨first, pieces, found⟩ := List.exists_cons_of_ne_nil
            (piecesOf_ne_nil items : piecesOf separator items ≠ [])
          simp only [found, List.mem_cons] at member ih
          rcases member with rfl | member
          · have := ih (Or.inl rfl)
            simp [Ne.symm different, this]
          · exact ih (Or.inr member)

theorem mem_of_mem_piecesOf {items piece : List α} {item : α}
    (within : piece ∈ piecesOf separator items) (member : item ∈ piece) : item ∈ items := by
  induction items generalizing piece with
  | nil => simp_all [piecesOf]
  | cons first items ih =>
      by_cases same : first = separator
      · simp only [piecesOf, if_pos same, List.mem_cons] at within
        rcases within with rfl | within
        · cases member
        · exact List.mem_cons_of_mem _ (ih within member)
      · obtain ⟨head, pieces, found⟩ := List.exists_cons_of_ne_nil
          (piecesOf_ne_nil items : piecesOf separator items ≠ [])
        simp only [piecesOf, if_neg same, found, List.mem_cons] at within ih
        rcases within with rfl | within
        · rcases List.mem_cons.1 member with rfl | member
          · simp
          · exact List.mem_cons_of_mem _ (ih (Or.inl rfl) member)
        · exact List.mem_cons_of_mem _ (ih (Or.inr within) member)

theorem piecesOf_append_of_notMem {tail : List α} (absent : separator ∉ tail) (items : List α) :
    ∃ front last, piecesOf separator items = front ++ [last] ∧
      piecesOf separator (items ++ tail) = front ++ [last ++ tail] := by
  induction items with
  | nil => exact ⟨[], [], rfl, piecesOf_of_notMem absent⟩
  | cons item items ih =>
      obtain ⟨front, last, found, longer⟩ := ih
      by_cases same : item = separator
      · exact ⟨[] :: front, last, by simp [piecesOf, same, found],
          by simp [piecesOf, same, longer]⟩
      · cases front with
        | nil =>
            exact ⟨[], item :: last, by simp [piecesOf, same, found],
              by simp [piecesOf, same, longer]⟩
        | cons piece front =>
            exact ⟨(item :: piece) :: front, last, by simp [piecesOf, same, found],
              by simp [piecesOf, same, longer]⟩

theorem intercalate_piecesOf (items : List α) :
    [separator].intercalate (piecesOf separator items) = items := by
  rw [piecesOf_eq_splitOn, List.intercalate_splitOn]

theorem piecesOf_intercalate {pieces : List (List α)} (some : pieces ≠ [])
    (free : ∀ piece ∈ pieces, separator ∉ piece) :
    piecesOf separator ([separator].intercalate pieces) = pieces := by
  rw [piecesOf_eq_splitOn, List.splitOn_intercalate separator free some]

theorem length_piecesOf (items : List α) :
    (piecesOf separator items).length = items.count separator + 1 := by
  induction items with
  | nil => rfl
  | cons item items ih =>
      unfold piecesOf
      split
      · next same => simp [same, ih]
      · next different =>
          obtain ⟨piece, pieces, found⟩ := List.exists_cons_of_ne_nil
            (piecesOf_ne_nil items : piecesOf separator items ≠ [])
          rw [found] at ih ⊢
          simpa [List.count_cons, different] using ih

end HostHome.Text
