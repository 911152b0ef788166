import HostHome.Proofs.Config.HostGroup
import HostHome.Proofs.Config.WrittenLines

/-!
# Host-group files that are written and read

A rule is written as its pattern and its replacement on both sides of an equals sign,
with any blanks around them.  The pattern holds no equals sign of its own, so the
first one on the line divides the two, and blanks at the ends of a field are none of
its own: what is read is the rule that was written.
-/

namespace HostHome.Config

variable {language : PatternLanguage}

/-- A field of a rule: it can be told from the blanks around it and from a comment. -/
structure IsField (text : String) : Prop where
  inLine : '\n' ∉ text.toList
  uncommented : '#' ∉ text.toList
  trimmed : Text.IsTrimmed text.toList

structure WrittenRule (language : PatternLanguage) where
  indentation : Blanks
  patternText : String
  behindPattern : Blanks
  beforeReplacement : Blanks
  replacement : String
  pattern : language.Pattern
  compiled : language.compile patternText = .ok pattern
  nonempty : patternText ≠ ""
  undivided : '=' ∉ patternText.toList
  isField_pattern : IsField patternText
  accepted : homeNameFault? replacement = none
  isField_replacement : IsField replacement

theorem equals_notMem_of_blank {chars : List Char} (blank : ∀ c ∈ chars, Unicode.isBlank c) :
    '=' ∉ chars := by
  have unblank : Unicode.isBlank '=' = false := by decide
  intro member
  have contrary := blank '=' member
  simp [unblank] at contrary

namespace WrittenRule

variable (written : WrittenRule language) (number : Nat)

def before : List Char :=
  written.indentation.chars ++ written.patternText.toList ++ written.behindPattern.chars

def behind : List Char := written.beforeReplacement.chars ++ written.replacement.toList

def chars : List Char := written.before ++ '=' :: written.behind

def rule : HostRule language :=
  ⟨written.pattern, written.patternText, written.replacement, number⟩

theorem isEntryText_chars : IsEntryText written.chars := by
  have pattern := written.isField_pattern
  have replacement := written.isField_replacement
  constructor
  · simp [chars, before, behind, written.indentation.inLine, written.behindPattern.inLine,
      written.beforeReplacement.inLine, pattern.inLine, replacement.inLine]
  · simp [chars, before, behind, hash_notMem_of_blank written.indentation.blank,
      hash_notMem_of_blank written.behindPattern.blank,
      hash_notMem_of_blank written.beforeReplacement.blank, pattern.uncommented,
      replacement.uncommented]
  · have some := mt String.toList_eq_nil_iff.1 (homeNameFault?_eq_none_iff.1 written.accepted).1
    have last := exists_getLast?_append (written.before ++ '=' :: written.beforeReplacement.chars)
      some replacement.trimmed.last
    simpa [chars, behind] using last

theorem splitAtChar?_chars :
    Text.splitAtChar? '=' (String.ofList written.chars) =
      some (String.ofList written.before, String.ofList written.behind) := by
  have undivided : '=' ∉ written.before := by
    simp [before, equals_notMem_of_blank written.indentation.blank,
      equals_notMem_of_blank written.behindPattern.blank, written.undivided]
  simp [Text.splitAtChar?, chars, Text.splitFirst?_append_separator undivided]

theorem ruleFields_chars :
    ruleFields (String.ofList written.chars) = .ok (written.patternText, written.replacement) := by
  have pattern : Text.trim (String.ofList written.before) = written.patternText := by
    rw [before, Text.trim_between written.indentation.blank written.behindPattern.blank
      written.isField_pattern.trimmed, String.ofList_toList]
  have replacement : Text.trim (String.ofList written.behind) = written.replacement := by
    have nothing : ∀ c ∈ ([] : List Char), Unicode.isBlank c := by simp
    have between := Text.trim_between written.beforeReplacement.blank nothing
      written.isField_replacement.trimmed
    rwa [List.append_nil, String.ofList_toList] at between
  have some := (homeNameFault?_eq_none_iff.1 written.accepted).1
  simp only [ruleFields, written.splitAtChar?_chars, pattern, replacement, written.nonempty, some,
    written.accepted, if_false]

theorem ofLine_chars (file : Path) :
    HostRule.ofLine language file ⟨number, String.ofList written.chars⟩ =
      .ok (written.rule number) := by
  simp only [HostRule.ofLine, HostRule.ofText, written.ruleFields_chars, bind, Except.bind,
    written.compiled]
  rfl

end WrittenRule

def ruleForm (language : PatternLanguage) : EntryForm (WrittenRule language) where
  chars := WrittenRule.chars
  isEntryText := WrittenRule.isEntryText_chars

theorem readRules_of_forall {file : Path} {Entry : Type} {line : Entry → Line}
    {rule : Entry → HostRule language}
    (each : ∀ entry, HostRule.ofLine language file (line entry) = .ok (rule entry))
    (entries : List Entry) :
    readRules language file (entries.map line) = (entries.map rule, []) := by
  induction entries with
  | nil => rfl
  | cons entry rest ih => rw [List.map_cons, readRules_of_ok (each entry), ih, List.map_cons]

/-- A file of rules is read as they were written: each with its pattern and its replacement, in
their order, with the number of its line, and nothing is reported. -/
theorem parseRules_content (language : PatternLanguage) (file : Path)
    (lines : WrittenLines .indented (WrittenRule language)) :
    parseRules language file (WrittenLines.content (ruleForm language) lines) =
      ((WrittenLines.numberedEntries lines).map fun (written, number) =>
        ⟨written.pattern, written.patternText, written.replacement, number⟩, []) := by
  rw [parseRules, meaningfulLines_content]
  exact readRules_of_forall (fun entry => entry.1.ofLine_chars entry.2 file) _

/-- An indented comment, a blank line, and a rule whose replacement holds an equals sign, with a
comment behind it. -/
def sampleRules {pattern : regularExpressions.Pattern}
    (compiled : regularExpressions.compile "^web[0-9]" = .ok pattern) :
    WrittenLines .indented (WrittenRule regularExpressions) :=
  let tabs : Blanks := ⟨['\t', '\t'], by simp; decide, by decide⟩
  let rule : WrittenRule regularExpressions := ⟨tabs, "^web[0-9]", tabs, .space, "a=b", pattern,
    compiled, by decide, by decide, ⟨by decide, by decide, by simp; decide, by simp; decide⟩,
    by decide, ⟨by decide, by decide, by simp; decide, by simp; decide⟩⟩
  [(.comment .space ⟨" groups".toList, by decide⟩ (by decide), .feed),
    (.blank .none, .returnAndFeed),
    (.entry rule tabs (some ⟨" all".toList, by decide⟩), .returnAndFeed)]

theorem content_sampleRules {pattern : regularExpressions.Pattern}
    (compiled : regularExpressions.compile "^web[0-9]" = .ok pattern) :
    WrittenLines.content (ruleForm regularExpressions) (sampleRules compiled) =
      " # groups\n\r\n\t\t^web[0-9]\t\t= a=b\t\t# all\r\n" := by
  cbv

theorem parseRules_sampleRules :
    ∃ pattern, regularExpressions.compile "^web[0-9]" = .ok pattern ∧
      parseRules regularExpressions (.ofText "/groups")
          " # groups\n\r\n\t\t^web[0-9]\t\t= a=b\t\t# all\r\n" =
        ([⟨pattern, "^web[0-9]", "a=b", 3⟩], []) := by
  cases compiled : regularExpressions.compile "^web[0-9]" with
  | error reason =>
      have usable : (regularExpressions.compile "^web[0-9]").isOk := by decide +kernel
      rw [compiled] at usable
      cases usable
  | ok pattern =>
      have parsed := parseRules_content regularExpressions (.ofText "/groups")
        (sampleRules compiled)
      rw [content_sampleRules] at parsed
      exact ⟨pattern, rfl, parsed⟩

end HostHome.Config
