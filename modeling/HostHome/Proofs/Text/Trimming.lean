import Mathlib
import HostHome.Text.Lines
import HostHome.Text.Substring

/-!
# Blanks around a text

Blanks before and behind a text are dropped when it is trimmed, and a text that has
none at its ends stays as it is.  A text is split at the first separator, so what
stands before it is free of separators.
-/

namespace HostHome.Text

open HostHome.Unicode (isBlank)

variable {chars front back : List Char}

/-- There is no blank at the beginning and none at the end. -/
structure IsTrimmed (chars : List Char) : Prop where
  head : ∀ c ∈ chars.head?, isBlank c = false
  last : ∀ c ∈ chars.getLast?, isBlank c = false

theorem dropWhile_of_head (head : ∀ c ∈ chars.head?, isBlank c = false) :
    chars.dropWhile isBlank = chars := by
  cases chars with
  | nil => rfl
  | cons first rest =>
      have unblank : isBlank first = false := head first rfl
      simp [unblank]

theorem trimEndChars_concat_of_blank {c : Char} (blank : isBlank c) (chars : List Char) :
    trimEndChars (chars ++ [c]) = trimEndChars chars := by
  simp [trimEndChars, blank]

theorem trimEndChars_append_of_blank (blank : ∀ c ∈ back, isBlank c) :
    trimEndChars (chars ++ back) = trimEndChars chars := by
  induction back using List.reverseRecOn with
  | nil => rw [List.append_nil]
  | append_singleton back c ih =>
      have before : ∀ c ∈ back, isBlank c := by
        intro other member
        exact blank other (List.mem_append_left _ member)
      rw [← List.append_assoc, trimEndChars_concat_of_blank (blank c (by simp)), ih before]

theorem trimEndChars_of_last (last : ∀ c ∈ chars.getLast?, isBlank c = false) :
    trimEndChars chars = chars := by
  induction chars with
  | nil => rfl
  | cons first rest ih =>
      cases rest with
      | nil =>
          have unblank : isBlank first = false := last first rfl
          simp [trimEndChars, unblank]
      | cons second more =>
          have same : trimEndChars (second :: more) = second :: more := ih last
          have step : trimEndChars (first :: second :: more) =
              if (trimEndChars (second :: more)).isEmpty && isBlank first then []
              else first :: trimEndChars (second :: more) := rfl
          rw [step, same]
          rfl

/-- A text between blanks is trimmed to the text. -/
theorem trim_between (before : ∀ c ∈ front, isBlank c) (behind : ∀ c ∈ back, isBlank c)
    (trimmed : IsTrimmed chars) :
    trim (String.ofList (front ++ chars ++ back)) = String.ofList chars := by
  unfold trim
  rw [String.toList_ofList, List.append_assoc, List.dropWhile_append_of_pos before]
  congr 1
  cases chars with
  | nil =>
      have none : back.dropWhile isBlank = [] := List.dropWhile_eq_nil_iff.2 behind
      rw [List.nil_append, none]
      rfl
  | cons first rest =>
      have head : ∀ c ∈ (first :: rest ++ back).head?, isBlank c = false := trimmed.head
      rw [dropWhile_of_head head, trimEndChars_append_of_blank behind,
        trimEndChars_of_last trimmed.last]

theorem splitFirst?_of_notMem {separator : Char} (absent : separator ∉ chars) :
    splitFirst? [separator] chars = none := by
  induction chars with
  | nil => rfl
  | cons first rest ih =>
      obtain ⟨other, later⟩ := not_or.1 (mt List.mem_cons.2 absent)
      simp [splitFirst?, stripStart?, other, ih later]

theorem splitFirst?_append_separator {separator : Char} (absent : separator ∉ front)
    (back : List Char) :
    splitFirst? [separator] (front ++ separator :: back) = some (front, back) := by
  induction front with
  | nil => simp [splitFirst?, stripStart?]
  | cons first rest ih =>
      obtain ⟨other, later⟩ := not_or.1 (mt List.mem_cons.2 absent)
      simp [splitFirst?, stripStart?, other, ih later]

end HostHome.Text
