import HostHome.Proofs.Config.FileText
import HostHome.Provision.Context

/-!
# What stands behind the rule that applies

Rules are tried line by line, up to the first one that applies to the host, but a
file is read as a whole before.  So the lines behind that rule have no say in the
identity of the host, and still those of them that are no text are reported.
-/

namespace HostHome.Config

open HostHome.Text (Bytes piecesOf)

variable {language : PatternLanguage} {shortName : String} {file : Path}
  {front back : List Line} {rule : HostRule language} {head rest otherRest : Bytes}

theorem readRules_append :
    readRules language file (front ++ back) =
      ((readRules language file front).1 ++ (readRules language file back).1,
        (readRules language file front).2 ++ (readRules language file back).2) := by
  induction front with
  | nil => rfl
  | cons line rest ih =>
      cases read : HostRule.ofLine language file line with
      | ok first => simp only [List.cons_append, readRules_of_ok read, ih]
      | error diagnostic => simp only [List.cons_append, readRules_of_error read, ih]

/-- The first of the rules of some lines that applies to a host. -/
def firstRule? (language : PatternLanguage) (shortName : String) (file : Path)
    (lines : List Line) : Option (HostRule language) :=
  (readRules language file lines).1.find? fun rule => rule.appliesTo shortName

theorem firstRule?_append :
    firstRule? language shortName file (front ++ back) =
      (firstRule? language shortName file front).or
        (firstRule? language shortName file back) := by
  simp only [firstRule?, readRules_append, List.find?_append]

theorem exists_line_of_firstRule? (found : firstRule? language shortName file front = some rule) :
    ∃ line ∈ front, line.number = rule.line := by
  obtain ⟨line, member, read⟩ := mem_rules_iff.1 (List.mem_of_find?_eq_some found)
  exact ⟨line, member, (line_of_ofLine_eq_ok read).symm⟩

theorem resolveLines_append (found : firstRule? language shortName file front = some rule) :
    resolveLines language shortName file (front ++ back) =
      resolveLines language shortName file front := by
  induction front with
  | nil => cases found
  | cons line rest ih =>
      cases read : HostRule.ofLine language file line with
      | error diagnostic =>
          have later : firstRule? language shortName file rest = some rule := by
            simpa only [firstRule?, readRules_of_error read] using found
          simp only [List.cons_append, resolveLines, read, ih later]
      | ok first =>
          simp only [List.cons_append, resolveLines, read]
          by_cases applies : first.appliesTo shortName
          · simp only [applies, if_true]
          · have later : firstRule? language shortName file rest = some rule := by
              simpa [firstRule?, readRules_of_ok read, applies] using found
            simp only [applies, ih later]

/-- Lines up to a rule that applies give its replacement, and are reported before it only. -/
theorem resolveLines_of_firstRule?
    (ordered : front.Pairwise fun line later => line.number < later.number)
    (found : firstRule? language shortName file front = some rule) :
    (resolveLines language shortName file front).identity = ⟨shortName, rule.replacement, true⟩ ∧
      ∀ diagnostic ∈ (resolveLines language shortName file front).diagnostics,
        diagnostic.line < rule.line := by
  unfold firstRule? at found
  rw [resolveLines_eq_ofRules ordered]
  simp only [Resolution.ofRules, found, List.mem_filter, decide_eq_true_eq, true_and]
  exact fun diagnostic member => member.2

def ruleLines (bytes : Bytes) : List Line := linesOfBytes .indented 1 bytes

theorem pairwise_ruleLines (bytes : Bytes) :
    (ruleLines bytes).Pairwise fun line later => line.number < later.number :=
  pairwise_linesFrom .indented 1 _

theorem meaningfulLines_eq_ruleLines (file : Path) (bytes : Bytes) :
    meaningfulLines .indented (FileText.ofBytes file bytes).content = ruleLines bytes :=
  meaningfulLines_ofBytes .indented file bytes

/-- The reports on lines behind a line feed that are no text. -/
def reportsBehind (file : Path) (head rest : Bytes) : List Diagnostic :=
  undecodable file (head.count lineFeed + 2) (piecesOf lineFeed rest)

theorem line_of_mem_reportsBehind {diagnostic : Diagnostic}
    (member : diagnostic ∈ reportsBehind file head rest) :
    head.count lineFeed + 1 < diagnostic.line := by
  have first := (line_of_mem_undecodable member).1
  omega

theorem line_of_mem_diagnostics {diagnostic : Diagnostic}
    (member : diagnostic ∈ (FileText.ofBytes file head).diagnostics) :
    diagnostic.line ≤ head.count lineFeed + 1 := by
  rw [diagnostics_ofBytes] at member
  have bound := (line_of_mem_undecodable member).2
  rw [Text.length_piecesOf] at bound
  omega

theorem reportsBehind_eq_nil_iff (file : Path) (head rest : Bytes) :
    reportsBehind file head rest = [] ↔ Text.decodeChars? rest ≠ none := by
  rw [reportsBehind, undecodable_eq_nil_iff]
  constructor
  · intro decoded none
    obtain ⟨raw, member, undecoded⟩ := Text.exists_undecodable_piece none
    exact decoded raw member undecoded
  · intro decoded
    obtain ⟨chars, whole⟩ := Option.ne_none_iff_exists'.1 decoded
    exact Text.decodeChars?_piece_ne_none whole

/-- A rule on the line that a line feed ends is a rule of the lines before it. -/
theorem firstRule?_of_line
    (found : firstRule? language shortName file (ruleLines (head ++ lineFeed :: rest)) = some rule)
    (last : rule.line = head.count lineFeed + 1) :
    firstRule? language shortName file (ruleLines head) = some rule := by
  rw [ruleLines, linesOfBytes_append_lineFeed, firstRule?_append] at found
  rcases Option.or_eq_some_iff.1 found with before | ⟨_, behind⟩
  · exact before
  · obtain ⟨line, member, numbered⟩ := exists_line_of_firstRule? behind
    have later := le_number_of_mem_linesFrom member
    omega

/-- What a file says that goes on behind the rule that applies: of the lines behind it only the
reports are told. -/
theorem resolveIdentity_append_lineFeed
    (found : firstRule? language shortName file (ruleLines head) = some rule) :
    FileText.resolveIdentity language shortName file
        (FileText.ofBytes file (head ++ lineFeed :: rest)) =
      ⟨⟨shortName, rule.replacement, true⟩,
        (FileText.ofBytes file head).diagnostics ++ reportsBehind file head rest ++
          (resolveLines language shortName file (ruleLines head)).diagnostics⟩ := by
  have identity := (resolveLines_of_firstRule? (pairwise_ruleLines head) found).1
  have stops : Config.resolveIdentity language shortName file
      (FileText.ofBytes file (head ++ lineFeed :: rest)).content =
        resolveLines language shortName file (ruleLines head) := by
    unfold Config.resolveIdentity
    rw [meaningfulLines_eq_ruleLines, ruleLines, linesOfBytes_append_lineFeed]
    exact resolveLines_append found
  simp only [FileText.resolveIdentity, stops, diagnostics_append_lineFeed, identity, reportsBehind]

theorem resolveIdentity_of_readFile {files : FileSystem} {bytes : Bytes}
    (read : files.readFile file = .ok bytes) :
    files.resolveIdentity language shortName file =
      .ok ((FileText.ofBytes file bytes).resolveIdentity language shortName file) := by
  simp only [FileSystem.resolveIdentity, FileSystem.readConfig, read]
  rfl

/-- Of what a file says that goes on behind the rule that applies, the reports on lines up to this
rule are the same for all bytes behind it, and the others are those on lines behind it. -/
theorem filter_diagnostics_append_lineFeed
    (found : firstRule? language shortName file (ruleLines head) = some rule)
    (last : rule.line = head.count lineFeed + 1) (rest : Bytes) :
    let told := (FileText.ofBytes file (head ++ lineFeed :: rest)).resolveIdentity language
      shortName file
    (told.diagnostics.filter fun diagnostic => diagnostic.line ≤ rule.line) =
        (FileText.ofBytes file head).diagnostics ++
          (resolveLines language shortName file (ruleLines head)).diagnostics ∧
      (told.diagnostics.filter fun diagnostic => rule.line < diagnostic.line) =
        reportsBehind file head rest := by
  have upTo : ∀ diagnostic ∈ (FileText.ofBytes file head).diagnostics,
      diagnostic.line ≤ rule.line := by
    intro diagnostic member
    exact last ▸ line_of_mem_diagnostics member
  have behind : ∀ diagnostic ∈ reportsBehind file head rest, rule.line < diagnostic.line := by
    intro diagnostic member
    exact last ▸ line_of_mem_reportsBehind member
  have skipped :
      ∀ diagnostic ∈ (resolveLines language shortName file (ruleLines head)).diagnostics,
        diagnostic.line ≤ rule.line := by
    intro diagnostic member
    have earlier := (resolveLines_of_firstRule? (pairwise_ruleLines head) found).2
    exact Nat.le_of_lt (earlier diagnostic member)
  rw [resolveIdentity_append_lineFeed found]
  simp only [List.filter_append]
  constructor
  · have none : (reportsBehind file head rest).filter (·.line ≤ rule.line) = [] :=
      List.filter_eq_nil_iff.2 (by simpa using behind)
    rw [none, List.append_nil, List.filter_eq_self.2 (by simpa using upTo),
      List.filter_eq_self.2 (by simpa using skipped)]
  · have all : (reportsBehind file head rest).filter (rule.line < ·.line) =
        reportsBehind file head rest :=
      List.filter_eq_self.2 (by simpa using behind)
    rw [all, List.filter_eq_nil_iff.2 (by simpa using upTo),
      List.filter_eq_nil_iff.2 (by simpa using skipped), List.nil_append, List.append_nil]

/-- Two files that agree up to the end of the first line whose rule applies give a host the same
identity, and the same reports on lines up to this one.  Behind it, every line that is no text is
reported, and so what they say of the host is the same exactly if these reports are. -/
theorem resolutions_agree_iff {files others : FileSystem}
    (read : files.readFile file = .ok (head ++ lineFeed :: rest))
    (readOther : others.readFile file = .ok (head ++ lineFeed :: otherRest))
    (found : firstRule? language shortName file
      (meaningfulLines .indented (FileText.ofBytes file (head ++ lineFeed :: rest)).content) =
        some rule)
    (last : rule.line = head.count lineFeed + 1) :
    ∃ resolution other,
      files.resolveIdentity language shortName file = .ok resolution ∧
      others.resolveIdentity language shortName file = .ok other ∧
      resolution.identity = ⟨shortName, rule.replacement, true⟩ ∧
      other.identity = resolution.identity ∧
      (other.diagnostics.filter fun diagnostic => diagnostic.line ≤ rule.line) =
        (resolution.diagnostics.filter fun diagnostic => diagnostic.line ≤ rule.line) ∧
      (resolution.diagnostics.filter fun diagnostic => rule.line < diagnostic.line) =
        reportsBehind file head rest ∧
      (resolution = other ↔
        reportsBehind file head rest = reportsBehind file head otherRest) ∧
      ((∃ diagnostic ∈ resolution.diagnostics, rule.line < diagnostic.line) ↔
        Text.decodeChars? rest = none) := by
  rw [meaningfulLines_eq_ruleLines] at found
  have before := firstRule?_of_line found last
  obtain ⟨early, late⟩ := filter_diagnostics_append_lineFeed before last rest
  obtain ⟨earlyOther, _⟩ := filter_diagnostics_append_lineFeed before last otherRest
  refine ⟨_, _, resolveIdentity_of_readFile read, resolveIdentity_of_readFile readOther,
    ?_, ?_, earlyOther.trans early.symm, late, ?_, ?_⟩
  · rw [resolveIdentity_append_lineFeed before]
  · rw [resolveIdentity_append_lineFeed before, resolveIdentity_append_lineFeed before]
  · rw [resolveIdentity_append_lineFeed before, resolveIdentity_append_lineFeed before]
    simp
  · have silent := reportsBehind_eq_nil_iff file head rest
    rw [← late, List.filter_eq_nil_iff] at silent
    simpa using not_congr silent

/-- A file system with nothing but a host-group file of the given bytes. -/
def filesWithGroups (bytes : Bytes) : FileSystem :=
  .add .empty [] (Text.encode "groups") (.file 0 0o644 bytes)

theorem readFile_filesWithGroups (bytes : Bytes) :
    (filesWithGroups bytes).readFile (.ofText "/groups") = .ok bytes := by
  cbv

theorem exists_firstRule?_web :
    ∃ rule, firstRule? regularExpressions "web01" (.ofText "/groups")
      (meaningfulLines .indented (FileText.ofBytes (.ofText "/groups")
        (Text.encode "web = www" ++ lineFeed :: [])).content) = some rule ∧
      rule.line = 1 := by
  apply Option.map_eq_some_iff.1
  decide +kernel

theorem resolutions_agree_on_texts_behind_rule :
    ∃ rule resolution,
      firstRule? regularExpressions "web01" (.ofText "/groups")
        (meaningfulLines .indented (FileText.ofBytes (.ofText "/groups")
          (Text.encode "web = www" ++ lineFeed :: [])).content) = some rule ∧
      rule.line = 1 ∧
      (filesWithGroups (Text.encode "web = www\n")).resolveIdentity regularExpressions "web01"
        (.ofText "/groups") = .ok resolution ∧
      (filesWithGroups (Text.encode "web = www\nweb01\n")).resolveIdentity regularExpressions
        "web01" (.ofText "/groups") = .ok resolution := by
  obtain ⟨rule, found, first⟩ := exists_firstRule?_web
  have read := readFile_filesWithGroups (Text.encode "web = www" ++ lineFeed :: [])
  have readOther :=
    readFile_filesWithGroups (Text.encode "web = www" ++ lineFeed :: Text.encode "web01\n")
  obtain ⟨resolution, other, told, toldOther, _, _, _, _, same, _⟩ :=
    resolutions_agree_iff read readOther found (first.trans (by decide))
  have silent : reportsBehind (.ofText "/groups") (Text.encode "web = www") [] =
      reportsBehind (.ofText "/groups") (Text.encode "web = www") (Text.encode "web01\n") := by
    decide +kernel
  rw [← same.2 silent] at toldOther
  exact ⟨rule, resolution, found, first, told, toldOther⟩

/-- A byte that is no text changes the reports, though it stands behind the rule that applies. -/
theorem not_resolutions_agree :
    ¬ ∀ (shortName : String) (file : Path) (files others : FileSystem)
        (head rest otherRest : Bytes) (rule : HostRule regularExpressions),
      files.readFile file = .ok (head ++ lineFeed :: rest) →
      others.readFile file = .ok (head ++ lineFeed :: otherRest) →
      firstRule? regularExpressions shortName file
        (meaningfulLines .indented (FileText.ofBytes file (head ++ lineFeed :: rest)).content) =
          some rule →
      rule.line = head.count lineFeed + 1 →
      files.resolveIdentity regularExpressions shortName file =
        others.resolveIdentity regularExpressions shortName file := by
  intro agree
  obtain ⟨rule, found, first⟩ := exists_firstRule?_web
  have read := readFile_filesWithGroups (Text.encode "web = www" ++ lineFeed :: [])
  have readOther := readFile_filesWithGroups (Text.encode "web = www" ++ lineFeed :: [0xff])
  have same := agree _ _ _ _ _ _ _ rule read readOther found (first.trans (by decide))
  rw [resolveIdentity_of_readFile read, resolveIdentity_of_readFile readOther,
    Except.ok.injEq] at same
  revert same
  decide +kernel

end HostHome.Config
