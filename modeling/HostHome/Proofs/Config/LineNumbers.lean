import HostHome.Config.Transfer
import HostHome.Proofs.Config.FileText

/-!
# Numbers of lines

The lines of a file are the segments of its bytes between line feeds, numbered from
one on.  Bytes are cut into segments, a text is cut into lines, blank lines and
comments are left out, and bad lines are left empty, but through all of this each
line keeps the number of its segment: whatever is read from a line, or reported
about it, can be found in the bytes again by that number.
-/

namespace HostHome.Config

open HostHome.Text (Bytes piecesOf)

variable {language : PatternLanguage} {file : Path} {style : CommentStyle} {number : Nat}
  {bytes : Bytes} {line : Line}

/-- The segments of some bytes between line feeds, numbered from one on. -/
def numberedSegments (bytes : Bytes) : List (Bytes × Nat) := (piecesOf lineFeed bytes).zipIdx 1

def lineOfSegment? (style : CommentStyle) (segment : Bytes × Nat) : Option Line :=
  Line.ofRaw? style segment.2 (String.ofList (lineText segment.1))

def reportOfSegment? (file : Path) (segment : Bytes × Nat) : Option Diagnostic :=
  if Text.decodeChars? segment.1 = none then
    some ⟨file, segment.2, "Invalid UTF-8: " ++ Text.trimEnd (Text.decodeLossy segment.1)⟩
  else none

theorem decodeLine_snd (file : Path) (number : Nat) (raw : Bytes) :
    (decodeLine file number raw).2 = reportOfSegment? file (raw, number) := by
  unfold decodeLine reportOfSegment?
  cases decoded : Text.decodeChars? raw <;> rfl

theorem undecodable_eq_filterMap (file : Path) (number : Nat) (raws : List Bytes) :
    undecodable file number raws = (raws.zipIdx number).filterMap (reportOfSegment? file) := by
  induction raws generalizing number with
  | nil => rfl
  | cons raw raws ih =>
      have later : (decodeLinesFrom file (number + 1) raws).filterMap Prod.snd =
          (raws.zipIdx (number + 1)).filterMap (reportOfSegment? file) := ih (number + 1)
      simp only [undecodable, decodeLinesFrom, List.zipIdx_cons, List.filterMap_cons,
        decodeLine_snd, later]

theorem diagnostics_eq_filterMap (file : Path) (bytes : Bytes) :
    (FileText.ofBytes file bytes).diagnostics =
      (numberedSegments bytes).filterMap (reportOfSegment? file) := by
  rw [diagnostics_ofBytes, undecodable_eq_filterMap, numberedSegments]

theorem pairwise_zipIdx (raws : List Bytes) (number : Nat) :
    (raws.zipIdx number).Pairwise fun segment later => segment.2 < later.2 := by
  induction raws generalizing number with
  | nil => exact .nil
  | cons raw raws ih =>
      rw [List.zipIdx_cons]
      refine List.pairwise_cons.2 ⟨?_, ih (number + 1)⟩
      intro later member
      have first := (List.mem_zipIdx_iff_le_and_getElem?_sub.1 member).1
      omega

/-- The reports on segments that are no text are in the order of the segments. -/
theorem pairwise_diagnostics (file : Path) (bytes : Bytes) :
    (FileText.ofBytes file bytes).diagnostics.Pairwise
      fun diagnostic later => diagnostic.line < later.line := by
  have numbered {segment : Bytes × Nat} {diagnostic : Diagnostic}
      (reported : reportOfSegment? file segment = some diagnostic) :
      diagnostic.line = segment.2 := by
    unfold reportOfSegment? at reported
    split at reported
    · cases reported
      rfl
    · cases reported
  rw [diagnostics_eq_filterMap, List.pairwise_filterMap]
  refine (pairwise_zipIdx _ 1).imp ?_
  intro segment later before diagnostic reported other reportedLater
  rw [numbered reported, numbered reportedLater]
  exact before

theorem linesFrom_eq_filterMap (style : CommentStyle) (number : Nat) (raws : List Bytes) :
    linesFrom style number (raws.map fun raw => String.ofList (lineText raw)) =
      (raws.zipIdx number).filterMap (lineOfSegment? style) := by
  induction raws generalizing number with
  | nil => rfl
  | cons raw raws ih =>
      rw [List.map_cons, linesFrom, ih, List.zipIdx_cons, List.filterMap_cons]
      cases read : Line.ofRaw? style number (String.ofList (lineText raw)) <;>
        simp [lineOfSegment?, read]

theorem meaningfulLines_eq_filterMap (style : CommentStyle) (file : Path) (bytes : Bytes) :
    meaningfulLines style (FileText.ofBytes file bytes).content =
      (numberedSegments bytes).filterMap (lineOfSegment? style) := by
  rw [meaningfulLines_ofBytes, linesOfBytes, linesFrom_eq_filterMap, numberedSegments]

theorem mem_meaningfulLines_iff :
    line ∈ meaningfulLines style (FileText.ofBytes file bytes).content ↔
      ∃ raw, (raw, line.number) ∈ numberedSegments bytes ∧
        lineOfSegment? style (raw, line.number) = some line := by
  rw [meaningfulLines_eq_filterMap, List.mem_filterMap]
  constructor
  · rintro ⟨⟨raw, number⟩, member, read⟩
    have same : line.number = number := number_ofRaw? read
    exact ⟨raw, same ▸ member, same ▸ read⟩
  · rintro ⟨raw, member, read⟩
    exact ⟨(raw, line.number), member, read⟩

theorem line_of_directive {directive : Directive}
    (read : (Directive.ofLine file line).1 = some directive) : directive.line = line.number := by
  obtain ⟨found, _, rfl⟩ := Option.map_eq_some_iff.1 read
  rfl

theorem line_of_mem_remarks {diagnostic : Diagnostic}
    (reported : diagnostic ∈ (Directive.ofLine file line).2) :
    diagnostic.line = line.number := by
  obtain ⟨remark, _, rfl⟩ := List.mem_map.1 reported
  rfl

/-- What some lines give, where each gives things with its own number, are the things that the
segment with their number gives. -/
theorem exists_line_iff_exists_segment {number : Nat} {gives : Line → Prop}
    (numbered : ∀ line, gives line → number = line.number) :
    (∃ line ∈ meaningfulLines style (FileText.ofBytes file bytes).content, gives line) ↔
      ∃ raw line, (raw, number) ∈ numberedSegments bytes ∧
        lineOfSegment? style (raw, number) = some line ∧ gives line := by
  constructor
  · rintro ⟨line, member, given⟩
    obtain ⟨raw, segment, read⟩ := mem_meaningfulLines_iff.1 member
    rw [numbered line given]
    exact ⟨raw, line, segment, read, given⟩
  · rintro ⟨raw, line, segment, read, given⟩
    have same := numbered line given
    subst same
    exact ⟨line, mem_meaningfulLines_iff.2 ⟨raw, segment, read⟩, given⟩

theorem mem_parsedRules_iff {rule : HostRule language} :
    rule ∈ (parseRules language file (FileText.ofBytes file bytes).content).1 ↔
      ∃ raw line, (raw, rule.line) ∈ numberedSegments bytes ∧
        lineOfSegment? .indented (raw, rule.line) = some line ∧
        HostRule.ofLine language file line = .ok rule :=
  mem_rules_iff.trans (exists_line_iff_exists_segment fun _ => line_of_ofLine_eq_ok)

theorem mem_parsedRuleReports_iff {diagnostic : Diagnostic} :
    diagnostic ∈ (parseRules language file (FileText.ofBytes file bytes).content).2 ↔
      ∃ raw line, (raw, diagnostic.line) ∈ numberedSegments bytes ∧
        lineOfSegment? .indented (raw, diagnostic.line) = some line ∧
        HostRule.ofLine language file line = .error diagnostic :=
  mem_reports_iff.trans (exists_line_iff_exists_segment fun _ => line_of_ofLine_eq_error)

theorem mem_parsedDirectives_iff {directive : Directive} :
    directive ∈ (parseDirectives file (FileText.ofBytes file bytes).content).1 ↔
      ∃ raw line, (raw, directive.line) ∈ numberedSegments bytes ∧
        lineOfSegment? .firstColumn (raw, directive.line) = some line ∧
        (Directive.ofLine file line).1 = some directive :=
  List.mem_filterMap.trans (exists_line_iff_exists_segment fun _ => line_of_directive)

theorem mem_parsedDirectiveReports_iff {diagnostic : Diagnostic} :
    diagnostic ∈ (parseDirectives file (FileText.ofBytes file bytes).content).2 ↔
      ∃ raw line, (raw, diagnostic.line) ∈ numberedSegments bytes ∧
        lineOfSegment? .firstColumn (raw, diagnostic.line) = some line ∧
        diagnostic ∈ (Directive.ofLine file line).2 :=
  List.mem_flatMap.trans (exists_line_iff_exists_segment fun _ => line_of_mem_remarks)

/-- Resolution reports nothing but what decoding and reading all rules report. -/
theorem diagnostics_resolveIdentity_sublist (language : PatternLanguage) (shortName : String)
    (file : Path) (text : FileText) :
    (text.resolveIdentity language shortName file).diagnostics.Sublist
      (text.diagnostics ++ (parseRules language file text.content).2) := by
  have whole : resolveLines language shortName file (meaningfulLines .indented text.content) = _ :=
    resolveLines_eq_ofRules (pairwise_meaningfulLines .indented text.content)
  simp only [FileText.resolveIdentity, Config.resolveIdentity, whole, parseRules]
  apply List.Sublist.append_left
  unfold Resolution.ofRules
  split
  · exact List.filter_sublist
  · exact List.Sublist.refl _

/-- Line numbers name the segments of the bytes.  A file is decoded segment by segment, also where
it is taken at once, with one report for each segment that is no text.  The rules, the directives
and the reports with a number are those that the segment with this number gives, and resolution
reports no others. -/
theorem line_numbers_name_segments (language : PatternLanguage) (shortName : String) (file : Path)
    (bytes : Bytes) :
    let text := FileText.ofBytes file bytes
    text = .ofLines file bytes ∧
      piecesOf '\n' text.content.toList = (piecesOf lineFeed bytes).map lineText ∧
      text.diagnostics = (numberedSegments bytes).filterMap (reportOfSegment? file) ∧
      (text.diagnostics.Pairwise fun diagnostic later => diagnostic.line < later.line) ∧
      (∀ rule, rule ∈ (parseRules language file text.content).1 ↔
        ∃ raw line, (raw, rule.line) ∈ numberedSegments bytes ∧
          lineOfSegment? .indented (raw, rule.line) = some line ∧
          HostRule.ofLine language file line = .ok rule) ∧
      (∀ diagnostic, diagnostic ∈ (parseRules language file text.content).2 ↔
        ∃ raw line, (raw, diagnostic.line) ∈ numberedSegments bytes ∧
          lineOfSegment? .indented (raw, diagnostic.line) = some line ∧
          HostRule.ofLine language file line = .error diagnostic) ∧
      (∀ directive, directive ∈ (parseDirectives file text.content).1 ↔
        ∃ raw line, (raw, directive.line) ∈ numberedSegments bytes ∧
          lineOfSegment? .firstColumn (raw, directive.line) = some line ∧
          (Directive.ofLine file line).1 = some directive) ∧
      (∀ diagnostic, diagnostic ∈ (parseDirectives file text.content).2 ↔
        ∃ raw line, (raw, diagnostic.line) ∈ numberedSegments bytes ∧
          lineOfSegment? .firstColumn (raw, diagnostic.line) = some line ∧
          diagnostic ∈ (Directive.ofLine file line).2) ∧
      (text.resolveIdentity language shortName file).diagnostics.Sublist
        (text.diagnostics ++ (parseRules language file text.content).2) := by
  intro text
  have decoded : text = .ofLines file bytes := FileText.ofBytes_eq_ofLines file bytes
  have segments := piecesOf_content_ofBytes file bytes
  have reports := diagnostics_eq_filterMap file bytes
  have ordered := pairwise_diagnostics file bytes
  have resolved := diagnostics_resolveIdentity_sublist language shortName file text
  refine ⟨decoded, segments, reports, ordered, ?_, ?_, ?_, ?_, resolved⟩
  · intro rule
    exact mem_parsedRules_iff
  · intro diagnostic
    exact mem_parsedRuleReports_iff
  · intro directive
    exact mem_parsedDirectives_iff
  · intro diagnostic
    exact mem_parsedDirectiveReports_iff

end HostHome.Config
