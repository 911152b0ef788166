import Mathlib
import HostHome.Text.Ansi

/-!
# Texts between escape sequences

A text that is written to a terminal is made of texts without the escape character and of
complete sequences, and a sequence may be left unfinished at its end.  Stripping keeps
exactly the texts.
-/

namespace HostHome.Text

/-- A complete sequence: one character behind the escape character, or a bracket and what
follows up to the first character that ends the sequence. -/
inductive EscapeSequence where
  | single (c : Char) (other : c ≠ '[')
  | bracketed (inner : List Char) (last : Char) (inside : ∀ c ∈ inner, ¬ endsSequence c)
      (ends : endsSequence last)

def EscapeSequence.chars : EscapeSequence → List Char
  | .single c _ => [escapeChar, c]
  | .bracketed inner last _ _ => escapeChar :: '[' :: (inner ++ [last])

/-- A text without the escape character, or a complete sequence. -/
inductive Segment where
  | plain (text : List Char) (free : escapeChar ∉ text)
  | escape (sequence : EscapeSequence)

def Segment.written : Segment → List Char
  | .plain text _ => text
  | .escape sequence => sequence.chars

def Segment.shown : Segment → List Char
  | .plain text _ => text
  | .escape _ => []

/-- Nothing, or a sequence that lacks its last character. -/
inductive Unfinished : List Char → Prop where
  | nothing : Unfinished []
  | escape : Unfinished [escapeChar]
  | bracketed (inner : List Char) (inside : ∀ c ∈ inner, ¬ endsSequence c) :
      Unfinished (escapeChar :: '[' :: inner)

theorem Segment.escapeChar_notMem_shown (segment : Segment) : escapeChar ∉ segment.shown := by
  cases segment with
  | plain text free => exact free
  | escape sequence => exact List.not_mem_nil

theorem Segment.shown_sublist_written (segment : Segment) :
    segment.shown.Sublist segment.written := by
  cases segment with
  | plain text free => exact List.Sublist.refl text
  | escape sequence => exact List.nil_sublist _

theorem flatMap_shown_sublist (segments : List Segment) :
    (segments.flatMap Segment.shown).Sublist (segments.flatMap Segment.written) := by
  induction segments with
  | nil => exact List.Sublist.refl []
  | cons segment segments ih =>
      simp only [List.flatMap_cons]
      exact segment.shown_sublist_written.append ih

section Stripping

variable {text inner rest : List Char}

theorem stripAnsiFrom_plain_append (free : escapeChar ∉ text) (rest : List Char) :
    stripAnsiFrom .text (text ++ rest) = text ++ stripAnsiFrom .text rest := by
  induction text with
  | nil => rfl
  | cons c text ih =>
      obtain ⟨other, later⟩ := not_or.1 (mt List.mem_cons.2 free)
      simp only [List.cons_append, stripAnsiFrom, if_neg (Ne.symm other), ih later]

theorem stripAnsiFrom_inner_append (inside : ∀ c ∈ inner, ¬ endsSequence c) (rest : List Char) :
    stripAnsiFrom .sequence (inner ++ rest) = stripAnsiFrom .sequence rest := by
  induction inner with
  | nil => rfl
  | cons c inner ih =>
      obtain ⟨first, later⟩ := List.forall_mem_cons.1 inside
      simp only [List.cons_append, stripAnsiFrom, if_neg first, ih later]

theorem EscapeSequence.stripAnsiFrom_append (sequence : EscapeSequence) (rest : List Char) :
    stripAnsiFrom .text (sequence.chars ++ rest) = stripAnsiFrom .text rest := by
  cases sequence with
  | single c other => simp [EscapeSequence.chars, stripAnsiFrom, other]
  | bracketed inner last inside ends =>
      have behind : stripAnsiFrom .sequence (inner ++ last :: rest) =
          stripAnsiFrom .text rest := by
        rw [stripAnsiFrom_inner_append inside, stripAnsiFrom, if_pos ends]
      simp [EscapeSequence.chars, stripAnsiFrom, behind]

theorem Segment.stripAnsiFrom_append (segment : Segment) (rest : List Char) :
    stripAnsiFrom .text (segment.written ++ rest) =
      segment.shown ++ stripAnsiFrom .text rest := by
  cases segment with
  | plain text free => exact stripAnsiFrom_plain_append free rest
  | escape sequence => exact sequence.stripAnsiFrom_append rest

theorem stripAnsiFrom_flatMap_append (segments : List Segment) (rest : List Char) :
    stripAnsiFrom .text (segments.flatMap Segment.written ++ rest) =
      segments.flatMap Segment.shown ++ stripAnsiFrom .text rest := by
  induction segments with
  | nil => rfl
  | cons segment segments ih =>
      simp only [List.flatMap_cons, List.append_assoc, segment.stripAnsiFrom_append, ih]

theorem Unfinished.stripAnsiFrom_eq_nil (unfinished : Unfinished text) :
    stripAnsiFrom .text text = [] := by
  cases unfinished with
  | nothing => rfl
  | escape => rfl
  | bracketed inner inside =>
      have behind : stripAnsiFrom .sequence inner = [] := by
        simpa [stripAnsiFrom] using stripAnsiFrom_inner_append inside []
      simp [stripAnsiFrom, behind]

end Stripping

/-- A text begins with a segment, unless it is an unfinished sequence. -/
theorem unfinished_or_exists_segment (text : List Char) :
    Unfinished text ∨ ∃ (segment : Segment) (rest : List Char),
      segment.written ≠ [] ∧ text = segment.written ++ rest := by
  match text with
  | [] => exact Or.inl .nothing
  | c :: text =>
      by_cases plain : c = escapeChar
      · subst plain
        match text with
        | [] => exact Or.inl .escape
        | next :: text =>
            by_cases bracket : next = '['
            · subst bracket
              cases found : text.find? endsSequence with
              | none =>
                  exact Or.inl (.bracketed text (List.find?_eq_none.1 found))
              | some last =>
                  obtain ⟨ends, inner, rest, rfl, inside⟩ := List.find?_eq_some_iff_append.1 found
                  refine Or.inr ⟨.escape (.bracketed inner last (by simpa using inside) ends),
                    rest, ?_, ?_⟩ <;> simp [Segment.written, EscapeSequence.chars]
            · exact Or.inr ⟨.escape (.single next bracket), text, by
                simp [Segment.written, EscapeSequence.chars], rfl⟩
      · exact Or.inr ⟨.plain [c] (by simpa using Ne.symm plain), text, by
          simp [Segment.written], rfl⟩

/-- Every text is made of segments, and of an unfinished sequence at the end. -/
theorem exists_segments (text : List Char) : ∃ (segments : List Segment) (tail : List Char),
    text = segments.flatMap Segment.written ++ tail ∧ Unfinished tail := by
  rcases unfinished_or_exists_segment text with unfinished | ⟨segment, rest, long, joined⟩
  · exact ⟨[], text, rfl, unfinished⟩
  · have shorter : rest.length < text.length := by
      have := List.length_pos_iff.2 long
      rw [joined, List.length_append]
      omega
    obtain ⟨segments, tail, spelled, unfinished⟩ := exists_segments rest
    exact ⟨segment :: segments, tail, by simp [joined, spelled], unfinished⟩
termination_by text.length

/-- What is left of a text is what its segments show. -/
theorem exists_segments_of_stripAnsi (text : String) :
    ∃ (segments : List Segment) (tail : List Char),
      text.toList = segments.flatMap Segment.written ++ tail ∧ Unfinished tail ∧
        (stripAnsi text).toList = segments.flatMap Segment.shown := by
  obtain ⟨segments, tail, spelled, unfinished⟩ := exists_segments text.toList
  refine ⟨segments, tail, spelled, unfinished, ?_⟩
  rw [stripAnsi, String.toList_ofList, spelled, stripAnsiFrom_flatMap_append,
    unfinished.stripAnsiFrom_eq_nil, List.append_nil]

theorem escapeChar_notMem_stripAnsi (text : String) : escapeChar ∉ (stripAnsi text).toList := by
  obtain ⟨segments, _, _, _, left⟩ := exists_segments_of_stripAnsi text
  rw [left, List.mem_flatMap]
  rintro ⟨segment, _, member⟩
  exact segment.escapeChar_notMem_shown member

theorem stripAnsi_sublist (text : String) : (stripAnsi text).toList.Sublist text.toList := by
  obtain ⟨segments, tail, spelled, _, left⟩ := exists_segments_of_stripAnsi text
  rw [left, spelled]
  exact (flatMap_shown_sublist segments).trans (List.sublist_append_left _ tail)

theorem stripAnsi_of_notMem {text : String} (free : escapeChar ∉ text.toList) :
    stripAnsi text = text := by
  have kept := stripAnsiFrom_plain_append free []
  rw [List.append_nil] at kept
  simp [stripAnsi, kept, stripAnsiFrom]

/-- Stripping removes complete sequences, and an unfinished one at the end, and nothing else. -/
theorem stripAnsi_keeps_texts (text : String) :
    escapeChar ∉ (stripAnsi text).toList ∧
      (stripAnsi text).toList.Sublist text.toList ∧
      (escapeChar ∉ text.toList → stripAnsi text = text) ∧
      stripAnsi (stripAnsi text) = stripAnsi text ∧
      (∀ segments : List Segment,
        stripAnsi (String.ofList (segments.flatMap Segment.written)) =
          String.ofList (segments.flatMap Segment.shown)) ∧
      ∃ (segments : List Segment) (tail : List Char),
        text.toList = segments.flatMap Segment.written ++ tail ∧ Unfinished tail ∧
          (stripAnsi text).toList = segments.flatMap Segment.shown := by
  refine ⟨escapeChar_notMem_stripAnsi text, stripAnsi_sublist text, stripAnsi_of_notMem,
    stripAnsi_of_notMem (escapeChar_notMem_stripAnsi text), ?_, exists_segments_of_stripAnsi text⟩
  intro segments
  have left := stripAnsiFrom_flatMap_append segments []
  rw [List.append_nil] at left
  simp [stripAnsi, left, stripAnsiFrom]

theorem coloured_words_keep_their_letters :
    escapeChar ∉ "ERROR hello".toList ∧ stripAnsi "ERROR hello" = "ERROR hello" ∧
      stripAnsi "\x1b[31mERROR\x1b[0m hello" = "ERROR hello" := by
  have free : escapeChar ∉ "ERROR hello".toList := by simp [escapeChar]
  obtain ⟨_, _, same, _, _⟩ := stripAnsi_keeps_texts "ERROR hello"
  obtain ⟨_, _, _, _, segments, _⟩ := stripAnsi_keeps_texts ""
  have coloured := segments [
    .escape (.bracketed ['3', '1'] 'm' (by simp [endsSequence]) (by decide)),
    .plain "ERROR".toList (by simp [escapeChar]),
    .escape (.bracketed ['0'] 'm' (by simp [endsSequence]) (by decide)),
    .plain " hello".toList (by simp [escapeChar])]
  exact ⟨free, same free, coloured⟩

end HostHome.Text
