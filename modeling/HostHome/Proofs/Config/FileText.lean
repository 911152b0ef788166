import HostHome.Proofs.Config.HostGroup
import HostHome.Proofs.Text.Decoding
import HostHome.Proofs.Text.Trimming

/-!
# Lines of files

The bytes of a file are read line by line: whether they are taken at once or not,
each line is decoded, reported and numbered on its own.  So a line feed divides what
is read into what stands before it and what stands behind it.
-/

namespace HostHome.Config

open HostHome.Text (Bytes piecesOf)

variable {file : Path} {style : CommentStyle} {number : Nat} {bytes head rest : Bytes}
  {raws others : List Bytes}

/-- The text of a line. A line that is no text is left empty. -/
def lineText (raw : Bytes) : List Char := (Text.decodeChars? raw).getD []

/-- The reports on the lines that are no text, with the number of the first line given. -/
def undecodable (file : Path) (number : Nat) (raws : List Bytes) : List Diagnostic :=
  (decodeLinesFrom file number raws).filterMap Prod.snd

theorem decodeLinesFrom_append :
    decodeLinesFrom file number (raws ++ others) =
      decodeLinesFrom file number raws ++ decodeLinesFrom file (number + raws.length) others := by
  induction raws generalizing number with
  | nil => rfl
  | cons raw raws ih =>
      have next : number + 1 + raws.length = number + (raw :: raws).length := by
        simp only [List.length_cons]
        omega
      simp only [List.cons_append, decodeLinesFrom, ih, next]

theorem undecodable_append :
    undecodable file number (raws ++ others) =
      undecodable file number raws ++ undecodable file (number + raws.length) others := by
  simp only [undecodable, decodeLinesFrom_append, List.filterMap_append]

theorem undecodable_cons_of_some {raw : Bytes} {line : List Char}
    (decoded : Text.decodeChars? raw = some line) :
    undecodable file number (raw :: raws) = undecodable file (number + 1) raws := by
  simp [undecodable, decodeLinesFrom, decodeLine, decoded]

theorem undecodable_cons_of_none {raw : Bytes} (decoded : Text.decodeChars? raw = none)
    (file : Path) (number : Nat) (raws : List Bytes) :
    ∃ diagnostic, diagnostic.line = number ∧
      undecodable file number (raw :: raws) =
        diagnostic :: undecodable file (number + 1) raws := by
  refine ⟨⟨file, number, "Invalid UTF-8: " ++ Text.trimEnd (Text.decodeLossy raw)⟩, rfl, ?_⟩
  simp [undecodable, decodeLinesFrom, decodeLine, decoded]

theorem map_fst_decodeLinesFrom :
    (decodeLinesFrom file number raws).map Prod.fst = raws.map lineText := by
  induction raws generalizing number with
  | nil => rfl
  | cons raw raws ih =>
      have first : (decodeLine file number raw).1 = lineText raw := by
        unfold decodeLine lineText
        cases Text.decodeChars? raw <;> rfl
      simp only [decodeLinesFrom, List.map_cons, first, ih]

theorem length_undecodable (file : Path) (number : Nat) (raws : List Bytes) :
    (undecodable file number raws).length =
      raws.countP fun raw => (Text.decodeChars? raw).isNone := by
  induction raws generalizing number with
  | nil => rfl
  | cons raw raws ih =>
      cases decoded : Text.decodeChars? raw with
      | some line => rw [undecodable_cons_of_some decoded, ih]; simp [decoded]
      | none =>
          obtain ⟨diagnostic, _, reported⟩ :=
            undecodable_cons_of_none decoded file _ raws
          rw [reported, List.length_cons, ih]
          simp [decoded]

theorem line_of_mem_undecodable {diagnostic : Diagnostic}
    (member : diagnostic ∈ undecodable file number raws) :
    number ≤ diagnostic.line ∧ diagnostic.line < number + raws.length := by
  induction raws generalizing number with
  | nil => cases member
  | cons raw raws ih =>
      have later (within : diagnostic ∈ undecodable file (number + 1) raws) :
          number ≤ diagnostic.line ∧ diagnostic.line < number + (raw :: raws).length := by
        have bounds := ih within
        simp only [List.length_cons]
        omega
      cases decoded : Text.decodeChars? raw with
      | some line =>
          rw [undecodable_cons_of_some decoded] at member
          exact later member
      | none =>
          obtain ⟨first, numbered, reported⟩ :=
            undecodable_cons_of_none decoded file _ raws
          rw [reported] at member
          rcases List.mem_cons.1 member with rfl | within
          · simp [numbered]
          · exact later within

theorem undecodable_eq_nil_iff :
    undecodable file number raws = [] ↔ ∀ raw ∈ raws, Text.decodeChars? raw ≠ none := by
  rw [← List.length_eq_zero_iff, length_undecodable, List.countP_eq_zero]
  simp

/-- Bytes that are a text as a whole are the same text line by line. -/
theorem FileText.ofBytes_eq_ofLines (file : Path) (bytes : Bytes) :
    FileText.ofBytes file bytes = .ofLines file bytes := by
  unfold FileText.ofBytes Text.decode?
  cases decoded : Text.decodeChars? bytes with
  | none => rfl
  | some chars =>
      have lines := Text.piecesOf_decodeChars? decoded
      have texts : (piecesOf lineFeed bytes).map lineText = piecesOf '\n' chars := by
        have all : ((piecesOf lineFeed bytes).map Text.decodeChars?).map (·.getD []) =
            ((piecesOf '\n' chars).map some).map (·.getD []) := congrArg _ lines
        unfold lineText
        simpa [Function.comp_def] using all
      have reports : undecodable file 1 (piecesOf lineFeed bytes) = [] :=
        undecodable_eq_nil_iff.2 (Text.decodeChars?_piece_ne_none decoded)
      have content : ['\n'].intercalate ((piecesOf lineFeed bytes).map lineText) = chars := by
        rw [texts, Text.intercalate_piecesOf]
      simp only [FileText.ofLines, map_fst_decodeLinesFrom, content, Option.map_some]
      exact congrArg (FileText.mk _) reports.symm

theorem FileText.ofBytes_nil (file : Path) : FileText.ofBytes file [] = {} := by
  have nothing : Text.decode? [] = some "" := by
    simp [Text.decode?, Text.decodeChars?]
  simp only [FileText.ofBytes, nothing]

theorem diagnostics_ofBytes (file : Path) (bytes : Bytes) :
    (FileText.ofBytes file bytes).diagnostics =
      undecodable file 1 (piecesOf lineFeed bytes) := by
  rw [FileText.ofBytes_eq_ofLines]
  rfl

theorem lineFeed_notMem_lineText {raw : Bytes} (free : lineFeed ∉ raw) : '\n' ∉ lineText raw := by
  unfold lineText
  cases decoded : Text.decodeChars? raw with
  | none => simp
  | some line => exact fun member => free (Text.lineFeed_mem_of_decodeChars? decoded member)

/-- The lines of a file that was read are the texts of the lines of its bytes. -/
theorem piecesOf_content_ofBytes (file : Path) (bytes : Bytes) :
    piecesOf '\n' (FileText.ofBytes file bytes).content.toList =
      (piecesOf lineFeed bytes).map lineText := by
  rw [FileText.ofBytes_eq_ofLines]
  simp only [FileText.ofLines, map_fst_decodeLinesFrom, String.toList_ofList]
  apply Text.piecesOf_intercalate
  · simpa using Text.piecesOf_ne_nil bytes
  · intro line member
    obtain ⟨raw, within, rfl⟩ := List.mem_map.1 member
    exact lineFeed_notMem_lineText (Text.notMem_of_mem_piecesOf within)

theorem splitFirst?_append {separator c : Char} (other : separator ≠ c) (chars : List Char) :
    Text.splitFirst? [separator] (chars ++ [c]) =
      (Text.splitFirst? [separator] chars).map fun (before, after) => (before, after ++ [c]) := by
  induction chars with
  | nil => simp [Text.splitFirst?, Text.stripStart?, other]
  | cons first chars ih =>
      by_cases same : separator = first
      · simp [Text.splitFirst?, Text.stripStart?, same]
      · simp only [List.cons_append, Text.splitFirst?, Text.stripStart?, same, if_false, ih]
        cases Text.splitFirst? [separator] chars <;> rfl

theorem stripComment_append {c : Char} (blank : Unicode.isBlank c) (other : '#' ≠ c)
    (chars : List Char) :
    stripComment (String.ofList (chars ++ [c])) = stripComment (String.ofList chars) := by
  unfold stripComment Text.splitAtChar?
  simp only [String.toList_ofList, splitFirst?_append other]
  cases Text.splitFirst? ['#'] chars with
  | none => simp [Text.trimEnd, Text.trimEndChars_concat_of_blank blank]
  | some parts => rfl

theorem dropWhile_append_blank {c : Char} (blank : Unicode.isBlank c) (chars : List Char) :
    (chars ++ [c]).dropWhile Unicode.isBlank = chars.dropWhile Unicode.isBlank ∨
      (chars ++ [c]).dropWhile Unicode.isBlank = chars.dropWhile Unicode.isBlank ++ [c] := by
  induction chars with
  | nil => simp [blank]
  | cons first chars ih =>
      by_cases blankFirst : Unicode.isBlank first
      · simpa [blankFirst] using ih
      · simp [blankFirst]

theorem isBlankText_append {c : Char} (blank : Unicode.isBlank c) (chars : List Char) :
    isBlankText (String.ofList (chars ++ [c])) = isBlankText (String.ofList chars) := by
  unfold isBlankText Text.trim
  simp only [String.toList_ofList]
  rcases dropWhile_append_blank blank chars with same | longer
  · rw [same]
  · rw [longer, Text.trimEndChars_concat_of_blank blank]

theorem isComment_append {c : Char} (blank : Unicode.isBlank c) (other : '#' ≠ c)
    (chars : List Char) :
    isComment style (String.ofList (chars ++ [c])) = isComment style (String.ofList chars) := by
  have begins (front : List Char) :
      ((front ++ [c]).head? = some '#') ↔ (front.head? = some '#') := by
    cases front <;> simp [Ne.symm other]
  cases style with
  | firstColumn => simp only [isComment, String.toList_ofList, begins]
  | indented =>
      simp only [isComment, Text.trimStart, String.toList_ofList]
      rcases dropWhile_append_blank blank chars with same | longer
      · rw [same]
      · simp only [longer, begins]

theorem ofRaw?_append {c : Char} (blank : Unicode.isBlank c) (other : '#' ≠ c)
    (chars : List Char) :
    Line.ofRaw? style number (String.ofList (chars ++ [c])) =
      Line.ofRaw? style number (String.ofList chars) := by
  unfold Line.ofRaw?
  rw [isBlankText_append blank, isComment_append blank other, stripComment_append blank other]

theorem ofRaw?_dropReturn (line : List Char) :
    Line.ofRaw? style number (String.ofList (Text.dropReturn line)) =
      Line.ofRaw? style number (String.ofList line) := by
  unfold Text.dropReturn
  split
  · next last =>
      obtain ⟨front, rfl⟩ := List.getLast?_eq_some_iff.1 last
      rw [List.dropLast_concat, ofRaw?_append (by decide) (by decide)]
  · rfl

theorem linesFrom_append {texts more : List String} :
    linesFrom style number (texts ++ more) =
      linesFrom style number texts ++ linesFrom style (number + texts.length) more := by
  induction texts generalizing number with
  | nil => simp [linesFrom]
  | cons text texts ih =>
      have next : number + 1 + texts.length = number + (text :: texts).length := by
        simp only [List.length_cons]
        omega
      simp only [List.cons_append, linesFrom, ih, next, List.append_assoc]

theorem linesFrom_dropReturn (lines : List (List Char)) :
    linesFrom style number ((lines.map Text.dropReturn).map String.ofList) =
      linesFrom style number (lines.map String.ofList) := by
  induction lines generalizing number with
  | nil => rfl
  | cons line lines ih => simp only [List.map_cons, linesFrom, ofRaw?_dropReturn, ih]

/-- Where a line feed ends the last line, and whether a carriage return stands before it, makes no
difference to what the lines say. -/
theorem meaningfulLines_eq (style : CommentStyle) (content : String) :
    meaningfulLines style content =
      linesFrom style 1 ((piecesOf '\n' content.toList).map String.ofList) := by
  obtain ⟨front, last, pieces⟩ : ∃ front last, piecesOf '\n' content.toList = front ++ [last] :=
    ⟨_, _, (List.dropLast_append_getLast (Text.piecesOf_ne_nil content.toList)).symm⟩
  unfold meaningfulLines Text.lines Text.lineChars
  rw [pieces]
  simp only [List.dropLast_concat, List.getLast?_concat, List.map_append, linesFrom_append]
  cases last with
  | nil =>
      have blank : isBlankText (String.ofList []) = true := by decide
      have nothing (number : Nat) : Line.ofRaw? style number (String.ofList []) = none := by
        simp [Line.ofRaw?, blank]
      simp only [linesFrom_dropReturn, List.map_cons, List.map_nil, linesFrom, nothing,
        Option.toList_none, List.append_nil]
  | cons first more =>
      simp only [List.map_append, linesFrom_append, linesFrom_dropReturn, List.length_map,
        List.map_cons, List.map_nil]

/-- The lines of some bytes that say something, with the number of the first line given. -/
def linesOfBytes (style : CommentStyle) (number : Nat) (bytes : Bytes) : List Line :=
  linesFrom style number ((piecesOf lineFeed bytes).map fun raw => String.ofList (lineText raw))

theorem meaningfulLines_ofBytes (style : CommentStyle) (file : Path) (bytes : Bytes) :
    meaningfulLines style (FileText.ofBytes file bytes).content = linesOfBytes style 1 bytes := by
  rw [meaningfulLines_eq, piecesOf_content_ofBytes, List.map_map]
  rfl

theorem linesOfBytes_append_lineFeed (head rest : Bytes) :
    linesOfBytes style number (head ++ lineFeed :: rest) =
      linesOfBytes style number head ++
        linesOfBytes style (number + (head.count lineFeed + 1)) rest := by
  unfold linesOfBytes
  rw [Text.piecesOf_append_separator, List.map_append, linesFrom_append, List.length_map,
    Text.length_piecesOf]

/-- A line feed divides the reports into those on lines before it and those on lines behind it. -/
theorem diagnostics_append_lineFeed (file : Path) (head rest : Bytes) :
    (FileText.ofBytes file (head ++ lineFeed :: rest)).diagnostics =
      (FileText.ofBytes file head).diagnostics ++
        undecodable file (head.count lineFeed + 2) (piecesOf lineFeed rest) := by
  have next : 1 + (head.count lineFeed + 1) = head.count lineFeed + 2 := by omega
  simp only [diagnostics_ofBytes, Text.piecesOf_append_separator, undecodable_append,
    Text.length_piecesOf, next]

end HostHome.Config
