import Mathlib
import HostHome.Config.HostGroup

/-!
# Reading up to the first rule that applies

Resolution reads a host-group file up to the first rule that applies to the host,
and validation reads all of it.  Both come to the same rule, and to the same reports
as far as both have read: lines are numbered in their order, so the reports from
before a rule are those with smaller numbers.
-/

namespace HostHome.Config

theorem number_ofRaw? {style : CommentStyle} {number : Nat} {raw : String} {line : Line}
    (read : Line.ofRaw? style number raw = some line) : line.number = number := by
  unfold Line.ofRaw? at read
  split at read
  · cases read
  · dsimp only at read
    split at read
    · cases read
    · cases read
      rfl

theorem le_number_of_mem_linesFrom {style : CommentStyle} {number : Nat} {raws : List String}
    {line : Line} (member : line ∈ linesFrom style number raws) : number ≤ line.number := by
  induction raws generalizing number with
  | nil => cases member
  | cons raw rest ih =>
      rcases List.mem_append.1 member with first | later
      · exact Nat.le_of_eq (number_ofRaw? (Option.mem_toList.1 first)).symm
      · exact Nat.le_of_succ_le (ih later)

theorem pairwise_linesFrom (style : CommentStyle) (number : Nat) (raws : List String) :
    (linesFrom style number raws).Pairwise fun line later => line.number < later.number := by
  induction raws generalizing number with
  | nil => exact .nil
  | cons raw rest ih =>
      refine List.pairwise_append.2 ⟨?_, ih (number + 1), ?_⟩
      · cases Line.ofRaw? style number raw <;> simp
      · intro line first later member
        rw [number_ofRaw? (Option.mem_toList.1 first)]
        exact le_number_of_mem_linesFrom member

theorem pairwise_meaningfulLines (style : CommentStyle) (content : String) :
    (meaningfulLines style content).Pairwise fun line later => line.number < later.number :=
  pairwise_linesFrom style 1 (Text.lines content)

variable {language : PatternLanguage} {shortName : String} {file : Path} {line : Line}
  {lines : List Line}

theorem line_of_ofLine_eq_ok {rule : HostRule language}
    (read : HostRule.ofLine language file line = .ok rule) : rule.line = line.number := by
  unfold HostRule.ofLine HostRule.ofText at read
  cases fields : ruleFields line.text with
  | error fault => simp [fields, bind, Except.bind, Except.mapError] at read
  | ok found =>
      obtain ⟨patternText, replacement⟩ := found
      cases compiled : language.compile patternText with
      | error reason => simp [fields, compiled, bind, Except.bind, Except.mapError] at read
      | ok pattern =>
          simp only [fields, compiled, bind, Except.bind, Except.mapError, Except.ok.injEq] at read
          rw [← read]

theorem line_of_ofLine_eq_error {diagnostic : Diagnostic}
    (read : HostRule.ofLine language file line = .error diagnostic) :
    diagnostic.line = line.number := by
  unfold HostRule.ofLine at read
  cases found : HostRule.ofText language line with
  | ok rule => simp [found, Except.mapError] at read
  | error fault =>
      simp only [found, Except.mapError, Except.error.injEq] at read
      rw [← read]

theorem readRules_of_ok {rule : HostRule language}
    (read : HostRule.ofLine language file line = .ok rule) :
    readRules language file (line :: lines) =
      (rule :: (readRules language file lines).1, (readRules language file lines).2) := by
  simp [readRules, read]

theorem readRules_of_error {diagnostic : Diagnostic}
    (read : HostRule.ofLine language file line = .error diagnostic) :
    readRules language file (line :: lines) =
      ((readRules language file lines).1, diagnostic :: (readRules language file lines).2) := by
  simp [readRules, read]

theorem mem_rules_iff {rule : HostRule language} :
    rule ∈ (readRules language file lines).1 ↔
      ∃ line ∈ lines, HostRule.ofLine language file line = .ok rule := by
  induction lines with
  | nil => simp [readRules]
  | cons line rest ih =>
      cases read : HostRule.ofLine language file line with
      | ok first => simp [readRules_of_ok read, read, ih, eq_comm]
      | error diagnostic => simp [readRules_of_error read, read, ih]

theorem mem_reports_iff {diagnostic : Diagnostic} :
    diagnostic ∈ (readRules language file lines).2 ↔
      ∃ line ∈ lines, HostRule.ofLine language file line = .error diagnostic := by
  induction lines with
  | nil => simp [readRules]
  | cons line rest ih =>
      cases read : HostRule.ofLine language file line with
      | ok rule => simp [readRules_of_ok read, read, ih]
      | error first => simp [readRules_of_error read, read, ih, eq_comm]

theorem homeNameFault?_eq_none_iff {name : String} :
    homeNameFault? name = none ↔
      name ≠ "" ∧ name ≠ "." ∧ name ≠ ".." ∧ '/' ∉ name.toList := by
  unfold homeNameFault?
  by_cases empty : name = ""
  · simp [empty]
  · by_cases dots : name = "." ∨ name = ".."
    · rcases dots with rfl | rfl <;> simp
    · by_cases slashed : '/' ∈ name.toList <;> simp_all

theorem homeNameFault?_of_ruleFields {text pattern replacement : String}
    (read : ruleFields text = .ok (pattern, replacement)) : homeNameFault? replacement = none := by
  unfold ruleFields at read
  split at read
  · cases read
  · dsimp only at read
    split at read
    · cases read
    · split at read
      · cases read
      · split at read
        · cases read
        · next fine =>
            cases read
            exact fine

theorem homeNameFault?_replacement {line : Line} {rule : HostRule language}
    (read : HostRule.ofLine language file line = .ok rule) :
    homeNameFault? rule.replacement = none := by
  unfold HostRule.ofLine HostRule.ofText at read
  cases fields : ruleFields line.text with
  | error fault => simp [fields, bind, Except.bind, Except.mapError] at read
  | ok found =>
      obtain ⟨patternText, replacement⟩ := found
      simp only [fields, bind, Except.bind] at read
      cases compiled : language.compile patternText with
      | error reason => simp [compiled, Except.mapError] at read
      | ok pattern =>
          simp only [compiled, Except.mapError, Except.ok.injEq] at read
          rw [← read]
          exact homeNameFault?_of_ruleFields fields

/-- What all rules of a file, and the reports on its other lines, say about a host: the first rule
that applies decides, and only the reports on lines before it are made. -/
def Resolution.ofRules (shortName : String) (rules : List (HostRule language))
    (diagnostics : List Diagnostic) : Resolution :=
  match rules.find? fun rule => rule.appliesTo shortName with
  | some rule =>
      ⟨⟨shortName, rule.replacement, true⟩,
        diagnostics.filter fun diagnostic => diagnostic.line < rule.line⟩
  | none => ⟨⟨shortName, shortName, false⟩, diagnostics⟩

/-- A report on a line before all rules is made in any case. -/
theorem ofRules_cons_report {rules : List (HostRule language)} {diagnostic : Diagnostic}
    {diagnostics : List Diagnostic} (before : ∀ rule ∈ rules, diagnostic.line < rule.line) :
    Resolution.ofRules shortName rules (diagnostic :: diagnostics) =
      (Resolution.ofRules shortName rules diagnostics).report diagnostic := by
  unfold Resolution.ofRules
  cases found : rules.find? fun rule => rule.appliesTo shortName with
  | none => rfl
  | some rule =>
      have earlier := before rule (List.mem_of_find?_eq_some found)
      simp [Resolution.report, earlier]

theorem ofRules_cons_rule_of_applies {rule : HostRule language}
    {rules : List (HostRule language)} {diagnostics : List Diagnostic}
    (applies : rule.appliesTo shortName)
    (behind : ∀ diagnostic ∈ diagnostics, rule.line < diagnostic.line) :
    Resolution.ofRules shortName (rule :: rules) diagnostics =
      ⟨⟨shortName, rule.replacement, true⟩, []⟩ := by
  have none : diagnostics.filter (fun diagnostic => diagnostic.line < rule.line) = [] := by
    rw [List.filter_eq_nil_iff]
    intro diagnostic member
    simpa using Nat.le_of_lt (behind diagnostic member)
  simp [Resolution.ofRules, applies, none]

theorem ofRules_cons_rule_of_not_applies {rule : HostRule language}
    {rules : List (HostRule language)} {diagnostics : List Diagnostic}
    (other : rule.appliesTo shortName = false) :
    Resolution.ofRules shortName (rule :: rules) diagnostics =
      Resolution.ofRules shortName rules diagnostics := by
  simp [Resolution.ofRules, other]

/-- Reading some lines up to the first rule that applies comes to what all of them say. -/
theorem resolveLines_eq_ofRules
    (ordered : lines.Pairwise fun line later => line.number < later.number) :
    resolveLines language shortName file lines =
      .ofRules shortName (readRules language file lines).1 (readRules language file lines).2 := by
  induction lines with
  | nil => rfl
  | cons line rest ih =>
      obtain ⟨first, ordered⟩ := List.pairwise_cons.1 ordered
      have agrees := ih ordered
      cases read : HostRule.ofLine language file line with
      | error diagnostic =>
          rw [readRules_of_error read, ofRules_cons_report, ← agrees]
          · simp [resolveLines, read]
          · intro rule member
            obtain ⟨other, within, readOther⟩ := mem_rules_iff.1 member
            rw [line_of_ofLine_eq_error read, line_of_ofLine_eq_ok readOther]
            exact first other within
      | ok rule =>
          rw [readRules_of_ok read]
          by_cases applies : rule.appliesTo shortName
          · rw [ofRules_cons_rule_of_applies applies]
            · simp [resolveLines, read, applies]
            · intro diagnostic member
              obtain ⟨other, within, readOther⟩ := mem_reports_iff.1 member
              rw [line_of_ofLine_eq_ok read, line_of_ofLine_eq_error readOther]
              exact first other within
          · rw [ofRules_cons_rule_of_not_applies (by simpa using applies), ← agrees]
            simp [resolveLines, read, applies]

/-- Resolution agrees with the whole file: the identity is the one that the first applying rule of
all its rules gives, or else the name of the host itself, and the reports are those on the lines
before this rule, or else all of them. -/
theorem resolveIdentity_eq_ofRules (language : PatternLanguage) (shortName : String) (file : Path)
    (content : String) :
    resolveIdentity language shortName file content =
      .ofRules shortName (parseRules language file content).1
        (parseRules language file content).2 :=
  resolveLines_eq_ofRules (pairwise_meaningfulLines .indented content)

end HostHome.Config
