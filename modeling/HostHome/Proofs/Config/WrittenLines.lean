import HostHome.Proofs.Config.FileText

/-!
# Files as they are written

A file is written line by line.  Some lines hold an entry, with blanks and perhaps a
comment behind it, and between them there are blank lines and lines that are comments
as a whole.  Whatever the blanks and comments, such a file says its entries and
nothing else, each on the line on which it was written.
-/

namespace HostHome.Config

open HostHome.Text (piecesOf)
open HostHome.Unicode (isBlank)

structure Blanks where
  chars : List Char
  blank : ∀ c ∈ chars, isBlank c
  inLine : '\n' ∉ chars

def Blanks.none : Blanks := ⟨[], by simp, by simp⟩

def Blanks.space : Blanks := ⟨[' '], by simp; decide, by decide⟩

/-- A comment, by what stands behind its `#`. -/
structure Comment where
  text : List Char
  inLine : '\n' ∉ text

def Comment.chars (comment : Comment) : List Char := '#' :: comment.text

inductive LineEnd where
  | feed
  | returnAndFeed

def LineEnd.front : LineEnd → List Char
  | feed => []
  | returnAndFeed => ['\r']

/-- What can stand on a line for an entry: it can be told from a comment behind it and from the
blanks at the end of the line. -/
structure IsEntryText (chars : List Char) : Prop where
  inLine : '\n' ∉ chars
  uncommented : '#' ∉ chars
  last : ∃ c, chars.getLast? = some c ∧ isBlank c = false

structure EntryForm (Entry : Type) where
  chars : Entry → List Char
  isEntryText : ∀ entry, IsEntryText (chars entry)

/-- A line as it is written.  A comment is indented only where it can be. -/
inductive WrittenLine (style : CommentStyle) (Entry : Type) where
  | blank (blanks : Blanks)
  | comment (indentation : Blanks) (comment : Comment)
      (allowed : style = .firstColumn → indentation.chars = [])
  | entry (entry : Entry) (trailing : Blanks) (comment? : Option Comment)

variable {style : CommentStyle} {Entry : Type}

def WrittenLine.chars (form : EntryForm Entry) : WrittenLine style Entry → List Char
  | .blank blanks => blanks.chars
  | .comment indentation said _ => indentation.chars ++ said.chars
  | .entry held trailing said? =>
      form.chars held ++ trailing.chars ++ (said?.map Comment.chars).getD []

def WrittenLine.entry? : WrittenLine style Entry → Option Entry
  | .blank _ | .comment _ _ _ => none
  | .entry held _ _ => some held

abbrev WrittenLines (style : CommentStyle) (Entry : Type) :=
  List (WrittenLine style Entry × LineEnd)

namespace WrittenLines

def chars (form : EntryForm Entry) (lines : WrittenLines style Entry) : List Char :=
  lines.flatMap fun (line, ending) => line.chars form ++ ending.front ++ ['\n']

def content (form : EntryForm Entry) (lines : WrittenLines style Entry) : String :=
  String.ofList (chars form lines)

def numberedEntries (lines : WrittenLines style Entry) : List (Entry × Nat) :=
  (lines.zipIdx 1).filterMap fun ((line, _), number) => line.entry?.map (·, number)

end WrittenLines

section Lines

variable {chars more : List Char} {number : Nat}

theorem isBlankText_ofList_of_blank (blank : ∀ c ∈ chars, isBlank c) :
    isBlankText (String.ofList chars) := by
  have none : chars.dropWhile isBlank = [] := List.dropWhile_eq_nil_iff.2 blank
  simp [isBlankText, Text.trim, none, Text.trimEndChars]

theorem trimEndChars_ne_nil {c : Char} (member : c ∈ chars) (unblank : isBlank c = false) :
    Text.trimEndChars chars ≠ [] := by
  induction chars with
  | nil => cases member
  | cons first rest ih =>
      have step : Text.trimEndChars (first :: rest) =
          if (Text.trimEndChars rest).isEmpty && isBlank first then []
          else first :: Text.trimEndChars rest := rfl
      rw [step]
      rcases List.mem_cons.1 member with rfl | later
      · simp [unblank]
      · have some := ih later
        simp [some]

theorem mem_dropWhile_of_mem {c : Char} (member : c ∈ chars) (unblank : isBlank c = false) :
    c ∈ chars.dropWhile isBlank := by
  have whole : chars.takeWhile isBlank ++ chars.dropWhile isBlank = chars :=
    List.takeWhile_append_dropWhile
  rw [← whole] at member
  rcases List.mem_append.1 member with skipped | kept
  · have blank := List.mem_takeWhile_imp skipped
    simp [unblank] at blank
  · exact kept

theorem isBlankText_ofList_of_mem {c : Char} (member : c ∈ chars) (unblank : isBlank c = false) :
    isBlankText (String.ofList chars) = false := by
  have some := trimEndChars_ne_nil (mem_dropWhile_of_mem member unblank) unblank
  simpa [isBlankText, Text.trim] using some

theorem exists_getLast?_append (front : List Char) (some : chars ≠ [])
    (last : ∀ c ∈ chars.getLast?, isBlank c = false) :
    ∃ c, (front ++ chars).getLast? = .some c ∧ isBlank c = false := by
  have found := List.getLast?_eq_some_getLast some
  refine ⟨chars.getLast some, ?_, last _ found⟩
  rw [List.getLast?_append, found]
  rfl

theorem IsEntryText.exists_mem (text : IsEntryText chars) :
    ∃ c ∈ chars, isBlank c = false := by
  obtain ⟨c, last, unblank⟩ := text.last
  exact ⟨c, List.mem_of_getLast? last, unblank⟩

theorem hash_notMem_of_blank (blank : ∀ c ∈ chars, isBlank c) : '#' ∉ chars := by
  have unblank : isBlank '#' = false := by decide
  intro member
  have contrary := blank '#' member
  simp [unblank] at contrary

theorem trimEnd_append_blanks (text : IsEntryText chars) (trailing : Blanks) :
    Text.trimEnd (String.ofList (chars ++ trailing.chars)) = String.ofList chars := by
  have last : ∀ c ∈ chars.getLast?, isBlank c = false := by
    obtain ⟨c, last, unblank⟩ := text.last
    simp [last, unblank]
  unfold Text.trimEnd
  rw [String.toList_ofList, Text.trimEndChars_append_of_blank trailing.blank,
    Text.trimEndChars_of_last last]

/-- The blanks behind an entry are cut off, together with a comment behind them. -/
theorem stripComment_entry (text : IsEntryText chars) (trailing : Blanks)
    (said? : Option Comment) :
    stripComment (String.ofList (chars ++ trailing.chars ++ (said?.map Comment.chars).getD [])) =
      String.ofList chars := by
  have apart : '#' ∉ chars ++ trailing.chars := by
    simp [text.uncommented, hash_notMem_of_blank trailing.blank]
  have trimmed := trimEnd_append_blanks text trailing
  unfold stripComment Text.splitAtChar?
  rw [String.toList_ofList]
  cases said? with
  | none =>
      simp only [Option.map_none, Option.getD_none, List.append_nil,
        Text.splitFirst?_of_notMem apart, trimmed]
  | some said =>
      simp only [Option.map_some, Option.getD_some, Comment.chars,
        Text.splitFirst?_append_separator apart, trimmed]

theorem isComment_entry (text : IsEntryText chars) (more : List Char) :
    isComment style (String.ofList (chars ++ more)) = false := by
  obtain ⟨c, member, unblank⟩ := text.exists_mem
  have begins (first : Char) (rest : List Char) (within : first ∈ chars) :
      (first :: rest ++ more).head? ≠ some '#' := by
    rintro ⟨⟩
    exact text.uncommented within
  cases style with
  | firstColumn =>
      obtain ⟨first, rest, rfl⟩ := List.exists_cons_of_ne_nil (List.ne_nil_of_mem member)
      have other := begins first rest (by simp)
      simpa [isComment] using other
  | indented =>
      have kept := mem_dropWhile_of_mem member unblank
      obtain ⟨first, rest, found⟩ := List.exists_cons_of_ne_nil (List.ne_nil_of_mem kept)
      have within : first ∈ chars :=
        (List.dropWhile_sublist isBlank).subset (by simp [found])
      have other := begins first rest within
      have skipped : (chars ++ more).dropWhile isBlank = first :: rest ++ more := by
        simp [List.dropWhile_append, found]
      simp only [isComment, Text.trimStart, String.toList_ofList, skipped]
      simpa using other

theorem ofRaw?_entry (text : IsEntryText chars) (trailing : Blanks) (said? : Option Comment)
    (number : Nat) :
    Line.ofRaw? style number
        (String.ofList (chars ++ trailing.chars ++ (said?.map Comment.chars).getD [])) =
      some ⟨number, String.ofList chars⟩ := by
  obtain ⟨c, member, unblank⟩ := text.exists_mem
  have filled (more : List Char) : isBlankText (String.ofList (chars ++ more)) = false :=
    isBlankText_ofList_of_mem (List.mem_append_left more member) unblank
  have alone : isBlankText (String.ofList chars) = false :=
    isBlankText_ofList_of_mem member unblank
  unfold Line.ofRaw?
  rw [stripComment_entry text trailing said?, List.append_assoc, filled, isComment_entry text]
  simp [alone]

theorem ofRaw?_of_blank (blank : ∀ c ∈ chars, isBlank c) (number : Nat) :
    Line.ofRaw? style number (String.ofList chars) = none := by
  unfold Line.ofRaw?
  rw [isBlankText_ofList_of_blank blank]
  rfl

theorem isComment_comment (indentation : Blanks) (said : Comment)
    (allowed : style = .firstColumn → indentation.chars = []) :
    isComment style (String.ofList (indentation.chars ++ said.chars)) := by
  cases style with
  | firstColumn => simp [isComment, allowed rfl, Comment.chars]
  | indented =>
      have unblank : isBlank '#' = false := by decide
      simp only [isComment, Text.trimStart, String.toList_ofList,
        List.dropWhile_append_of_pos indentation.blank, Comment.chars]
      simp [unblank]

theorem ofRaw?_chars (form : EntryForm Entry) (line : WrittenLine style Entry) (number : Nat) :
    Line.ofRaw? style number (String.ofList (line.chars form)) =
      line.entry?.map fun entry => ⟨number, String.ofList (form.chars entry)⟩ := by
  cases line with
  | blank blanks => exact ofRaw?_of_blank blanks.blank number
  | comment indentation said allowed =>
      have comment := isComment_comment indentation said allowed
      simp only [Line.ofRaw?, WrittenLine.chars, comment, Bool.or_true, if_true]
      rfl
  | entry held trailing said? => exact ofRaw?_entry (form.isEntryText held) trailing said? number

theorem lineFeed_notMem_chars (form : EntryForm Entry) (line : WrittenLine style Entry) :
    '\n' ∉ line.chars form := by
  have inComment (said : Comment) : '\n' ∉ said.chars := by
    simp [Comment.chars, said.inLine]
  cases line with
  | blank blanks => exact blanks.inLine
  | comment indentation said allowed =>
      simp [WrittenLine.chars, indentation.inLine, inComment]
  | entry held trailing said? =>
      have inEntry := (form.isEntryText held).inLine
      cases said? <;> simp [WrittenLine.chars, inEntry, trailing.inLine, inComment]

end Lines

theorem ofRaw?_front (form : EntryForm Entry) (line : WrittenLine style Entry)
    (ending : LineEnd) (number : Nat) :
    Line.ofRaw? style number (String.ofList (line.chars form ++ ending.front)) =
      line.entry?.map fun entry => ⟨number, String.ofList (form.chars entry)⟩ := by
  rw [← ofRaw?_chars]
  cases ending with
  | feed => rw [LineEnd.front, List.append_nil]
  | returnAndFeed => exact ofRaw?_append (by decide) (by decide) _

theorem linesFrom_chars (form : EntryForm Entry) (lines : WrittenLines style Entry)
    (number : Nat) :
    linesFrom style number
        ((piecesOf '\n' (WrittenLines.chars form lines)).map String.ofList) =
      (lines.zipIdx number).filterMap fun ((line, _), number) =>
        line.entry?.map fun entry => ⟨number, String.ofList (form.chars entry)⟩ := by
  induction lines generalizing number with
  | nil => rfl
  | cons first rest ih =>
      obtain ⟨line, ending⟩ := first
      have apart : '\n' ∉ line.chars form ++ ending.front := by
        have outside := lineFeed_notMem_chars form line
        cases ending <;> simp [LineEnd.front, outside]
      have spelled : WrittenLines.chars form ((line, ending) :: rest) =
          (line.chars form ++ ending.front) ++ '\n' :: WrittenLines.chars form rest := by
        simp [WrittenLines.chars]
      rw [spelled, Text.piecesOf_append_separator, Text.piecesOf_of_notMem apart, List.map_append,
        List.map_singleton, List.singleton_append, linesFrom, ofRaw?_front, ih, List.zipIdx_cons,
        List.filterMap_cons]
      dsimp only
      cases line.entry? <;> rfl

/-- A file that is written line by line says its entries, each with the number of its line. -/
theorem meaningfulLines_content (form : EntryForm Entry) (lines : WrittenLines style Entry) :
    meaningfulLines style (WrittenLines.content form lines) =
      (WrittenLines.numberedEntries lines).map fun (entry, number) =>
        ⟨number, String.ofList (form.chars entry)⟩ := by
  rw [meaningfulLines_eq, WrittenLines.content, String.toList_ofList, linesFrom_chars,
    WrittenLines.numberedEntries, List.map_filterMap]
  congr 1
  funext ⟨⟨line, _⟩, number⟩
  dsimp only
  cases line.entry? <;> rfl

end HostHome.Config
