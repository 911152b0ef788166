import HostHome.Proofs.Config.FileText
import HostHome.Proofs.Provision.Commands

/-!
# What becomes of the lines of a transfer file

A transfer file is applied line by line, and each directive is performed after those
before it, whatever became of them.  In between there are only reports.  The counts
at the end are those of the outcomes, and of the lines that are no directives.
-/

namespace HostHome.Provision

open HostHome.Config
open HostHome.Text (Bytes piecesOf)
open Run (Made Makes)

variable {roots : TransferRoots} {sync : SyncTool} {mode : CopyMode} {file : Path}
  {world ready middle after : World} {directive : Directive}

/-- The one world is the other with some more events. -/
def OnlyReports (world after : World) : Prop :=
  ∃ events, after = { world with events := world.events ++ events }

theorem OnlyReports.refl (world : World) : OnlyReports world world := ⟨[], by simp⟩

theorem OnlyReports.trans (first : OnlyReports world middle) (second : OnlyReports middle after) :
    OnlyReports world after := by
  obtain ⟨events, rfl⟩ := first
  obtain ⟨more, rfl⟩ := second
  exact ⟨events ++ more, by simp⟩

theorem OnlyReports.files (reported : OnlyReports world after) : after.files = world.files := by
  obtain ⟨events, rfl⟩ := reported
  rfl

theorem reports_warnAll (diagnostics : List Diagnostic) (world : World) :
    (warnAll diagnostics).Ends world fun result after =>
      result = .ok () ∧ OnlyReports world after := by
  induction diagnostics generalizing world with
  | nil => exact ⟨rfl, .refl world⟩
  | cons diagnostic rest ih =>
      simp only [warnAll, Run.warn, Run.ends_bind, Run.ends_report]
      refine (ih _).imp ?_
      rintro result after ⟨told, reported⟩
      exact ⟨told, .trans ⟨_, rfl⟩ reported⟩

/-- The directives are performed in their order, with the given outcomes: each begins where the one
before it ended, and in between there are only reports. -/
inductive Performs (roots : TransferRoots) (sync : SyncTool) (mode : CopyMode) :
    List Directive → List DirectiveOutcome → World → World → Prop
  | done {world after : World} (reported : OnlyReports world after) :
      Performs roots sync mode [] [] world after
  | next {world ready middle after : World} {directive : Directive} {outcome : DirectiveOutcome}
      {directives : List Directive} {outcomes : List DirectiveOutcome}
      (reported : OnlyReports world ready)
      (applied : applyDirective roots sync mode directive ready = .ok outcome middle)
      (others : Performs roots sync mode directives outcomes middle after) :
      Performs roots sync mode (directive :: directives) (outcome :: outcomes) world after

variable {directives others : List Directive} {outcomes more : List DirectiveOutcome}

theorem Performs.length_eq (performed : Performs roots sync mode directives outcomes world after) :
    outcomes.length = directives.length := by
  induction performed with
  | done => rfl
  | next _ _ _ ih => simp [ih]

theorem Performs.report_before (reported : OnlyReports world ready)
    (performed : Performs roots sync mode directives outcomes ready after) :
    Performs roots sync mode directives outcomes world after := by
  cases performed with
  | done later => exact .done (reported.trans later)
  | next later applied rest => exact .next (reported.trans later) applied rest

theorem Performs.append (first : Performs roots sync mode directives outcomes world middle)
    (second : Performs roots sync mode others more middle after) :
    Performs roots sync mode (directives ++ others) (outcomes ++ more) world after := by
  induction first with
  | done reported => exact second.report_before reported
  | next reported applied _ ih => exact .next reported applied (ih second)

theorem Performs.report_behind
    (performed : Performs roots sync mode directives outcomes world middle)
    (reported : OnlyReports middle after) :
    Performs roots sync mode directives outcomes world after := by
  have appended := performed.append (.done reported)
  simpa using appended

theorem applyDirective_ends {name : Bytes}
    (named : (Path.ofText directive.path).fileName? = some name) (world : World) :
    (applyDirective roots sync mode directive).Ends world fun result after =>
      ∃ outcome, result = .ok outcome ∧
        applyDirective roots sync mode directive world = .ok outcome after := by
  have made : (applyDirective roots sync mode directive).Makes (fun _ => False) _ :=
    makes_applyDirective named
  refine ((made world).and (Run.ends_self _ world)).imp ?_
  rintro (stop | outcome) after ⟨made, ended⟩
  · exact (made.stops stop rfl).elim
  · exact ⟨outcome, rfl, ended⟩

def DirectiveOutcome.isFailed : DirectiveOutcome → Bool
  | failed _ => true
  | _ => false

def TransferReport.ofOutcomes (outcomes : List DirectiveOutcome) (invalid : Nat) :
    TransferReport where
  applied := outcomes.count .applied
  alreadyPresent := outcomes.count .alreadyPresent
  failed := outcomes.countP DirectiveOutcome.isFailed
  invalid := invalid

theorem TransferReport.add_ofOutcomes (invalid others : Nat) :
    (ofOutcomes outcomes invalid).add (ofOutcomes more others) =
      ofOutcomes (outcomes ++ more) (invalid + others) := by
  simp [add, ofOutcomes]

theorem TransferReport.sum_ofOutcomes (outcomes : List DirectiveOutcome) (invalid : Nat) :
    (ofOutcomes outcomes invalid).applied + (ofOutcomes outcomes invalid).alreadyPresent +
      (ofOutcomes outcomes invalid).failed = outcomes.length := by
  unfold ofOutcomes
  induction outcomes with
  | nil => rfl
  | cons outcome rest ih =>
      cases outcome <;> simp [DirectiveOutcome.isFailed, List.countP_cons] at ih ⊢ <;> omega

theorem reports_countOutcome (outcome : DirectiveOutcome) (world : World) :
    (countOutcome file directive outcome).Ends world fun result after =>
      result = .ok (.ofOutcomes [outcome] 0) ∧ OnlyReports world after := by
  cases outcome with
  | applied => exact ⟨rfl, .refl world⟩
  | alreadyPresent => exact ⟨rfl, .refl world⟩
  | failed message =>
      simp only [countOutcome, Run.warn, Run.ends_bind, Run.ends_report, Run.ends_pure]
      exact ⟨rfl, _, rfl⟩

def countNoDirective (file : Path) (lines : List Line) : Nat :=
  lines.countP fun line => (Directive.ofLine file line).1.isNone

theorem applyLine_performs (line : Line) (world : World) :
    (applyLine file roots sync mode line).Ends world fun result after =>
      ∃ outcomes, result = .ok (.ofOutcomes outcomes (countNoDirective file [line])) ∧
        Performs roots sync mode (readDirectives file [line]).1 outcomes world after := by
  simp only [applyLine, Run.ends_bind]
  refine (reports_warnAll _ world).imp ?_
  rintro _ warned ⟨rfl, reported⟩
  cases found : (Directive.ofLine file line).1 with
  | none =>
      simp only [Run.ends_pure]
      refine ⟨[], ?_, ?_⟩
      · simp [TransferReport.ofOutcomes, countNoDirective, found]
      · simpa [readDirectives, found] using .done reported
  | some directive =>
      obtain ⟨name, named⟩ := exists_fileName_of_ofLine found
      simp only [Run.ends_bind]
      refine (applyDirective_ends named warned).imp ?_
      rintro _ applied ⟨outcome, rfl, ended⟩
      refine (reports_countOutcome outcome applied).imp ?_
      rintro _ counted ⟨rfl, later⟩
      refine ⟨[outcome], ?_, ?_⟩
      · simp [countNoDirective, found]
      · have listed : (readDirectives file [line]).1 = [directive] := by
          simp [readDirectives, found]
        rw [listed]
        exact .next reported ended (.done later)

/-- Lines that are applied one after the other perform their directives, all of them and in their
order. -/
theorem applyLines_performs (lines : List Line) (world : World) :
    (applyLines file roots sync mode lines).Ends world fun result after =>
      ∃ outcomes, result = .ok (.ofOutcomes outcomes (countNoDirective file lines)) ∧
        Performs roots sync mode (readDirectives file lines).1 outcomes world after := by
  induction lines generalizing world with
  | nil => exact ⟨[], rfl, .done (.refl world)⟩
  | cons line rest ih =>
      simp only [applyLines, Run.ends_bind]
      refine (applyLine_performs line world).imp ?_
      rintro _ middle ⟨outcomes, rfl, first⟩
      refine (ih middle).imp ?_
      rintro _ after ⟨more, rfl, second⟩
      refine ⟨outcomes ++ more, ?_, ?_⟩
      · have counts : countNoDirective file (line :: rest) =
            countNoDirective file [line] + countNoDirective file rest := by
          simp only [countNoDirective, ← List.countP_append, List.singleton_append]
        rw [counts, ← TransferReport.add_ofOutcomes]
      · have listed : (readDirectives file (line :: rest)).1 =
            (readDirectives file [line]).1 ++ (readDirectives file rest).1 := by
          simp only [readDirectives, ← List.filterMap_append, List.singleton_append]
        rw [listed]
        exact first.append second

/-- The bytes of a configuration file. A file that is missing has none. -/
def configBytes (files : FileSystem) (file : Path) : Except SystemError Bytes :=
  match files.readFile file with
  | .ok bytes => .ok bytes
  | .error error => if error = .absent then .ok [] else .error error

theorem readConfig_eq (files : FileSystem) (file : Path) :
    files.readConfig file =
      ((configBytes files file).map (FileText.ofBytes file)).mapError
        (Cause.unreadableConfig file) := by
  unfold FileSystem.readConfig configBytes
  cases files.readFile file with
  | ok bytes => rfl
  | error error =>
      by_cases absent : error = .absent
      · simp only [absent, if_true, Except.map, Except.mapError, FileText.ofBytes_nil]
      · simp only [absent, if_false, Except.map, Except.mapError]

theorem applyText_performs (text : FileText) (world : World) :
    (applyText file roots sync mode text).Ends world fun result after =>
      ∃ outcomes, result = .ok (.ofOutcomes outcomes (text.diagnostics.length +
          countNoDirective file (directiveLines text.content))) ∧
        Performs roots sync mode (parseDirectives file text.content).1 outcomes world after := by
  simp only [applyText, Run.ends_bind]
  refine (reports_warnAll _ world).imp ?_
  rintro _ warned ⟨rfl, reported⟩
  refine (applyLines_performs _ warned).imp ?_
  rintro _ applied ⟨outcomes, rfl, performed⟩
  simp only [Run.debug, Run.ends_report, Run.ends_pure]
  refine ⟨outcomes, ?_, (performed.report_before reported).report_behind ⟨_, rfl⟩⟩
  have none : ({ invalid := text.diagnostics.length } : TransferReport) =
      .ofOutcomes [] text.diagnostics.length := rfl
  rw [none, TransferReport.add_ofOutcomes, List.nil_append]

theorem performs_of_readConfig {text : FileText}
    (read : world.files.readConfig file = .ok text) :
    (applyTransferFile file roots sync mode).Ends world fun result after =>
      ∃ outcomes, result = .ok (.ok (.ofOutcomes outcomes (text.diagnostics.length +
          countNoDirective file (directiveLines text.content)))) ∧
        Performs roots sync mode (directivesOf world.files file) outcomes world after := by
  simp only [applyTransferFile, Run.ends_bind, Run.ends_files, read]
  refine (applyText_performs text world).imp ?_
  rintro _ after ⟨outcomes, rfl, performed⟩
  rw [← directivesOf_eq read] at performed
  exact ⟨outcomes, rfl, performed⟩

/-- A transfer file that can be read is applied to its end, whatever became of single directives,
and whatever the sync tool answers.  The directives that are performed are those of its text, in
their order, each with one outcome.  The report counts the outcomes, and the lines that are no
text or no directives.  One call is made for each copy. -/
theorem applyTransferFile_performs (file : Path) (roots : TransferRoots) (sync : SyncTool)
    (mode : CopyMode) (world : World) :
    match configBytes world.files file with
    | .error error =>
        applyTransferFile file roots sync mode world =
          .ok (.error (.unreadableConfig file error)) world
    | .ok bytes =>
        let text := FileText.ofBytes file bytes
        let directives := (parseDirectives file text.content).1
        ∃ report outcomes after,
          applyTransferFile file roots sync mode world = .ok (.ok report) after ∧
          Performs roots sync mode directives outcomes world after ∧
          report.applied = outcomes.count .applied ∧
          report.alreadyPresent = outcomes.count .alreadyPresent ∧
          report.failed = outcomes.countP DirectiveOutcome.isFailed ∧
          report.applied + report.alreadyPresent + report.failed = directives.length ∧
          report.invalid =
            ((piecesOf lineFeed bytes).countP fun line => (Text.decodeChars? line).isNone) +
              ((directiveLines text.content).countP fun line =>
                (Directive.ofLine file line).1.isNone) ∧
          after.calls = world.calls ++ copyCalls roots sync mode directives := by
  cases read : configBytes world.files file with
  | error error =>
      have unread : world.files.readConfig file = .error (.unreadableConfig file error) := by
        rw [readConfig_eq, read]
        rfl
      simp only [applyTransferFile, Run.files_bind, unread]
      rfl
  | ok bytes =>
      have config : world.files.readConfig file = .ok (.ofBytes file bytes) := by
        rw [readConfig_eq, read]
        rfl
      have made : (applyTransferFile file roots sync mode).Ends world
          (Made (fun _ => False) _ world) := made_applyTransferFile world
      have both := (performs_of_readConfig config).and made
      rw [directivesOf_eq config] at both
      unfold Run.Ends at both
      split at both
      · next answer after ended =>
          obtain ⟨⟨outcomes, told, performed⟩, made⟩ := both
          cases told
          have counted := TransferReport.sum_ofOutcomes outcomes 0
          refine ⟨_, outcomes, after, ended, performed, rfl, rfl, rfl,
            counted.trans performed.length_eq, ?_, made.calls rfl⟩
          rw [← length_undecodable file 1, ← diagnostics_ofBytes]
          rfl
      · obtain ⟨⟨outcomes, told, _⟩, _⟩ := both
        cases told

end HostHome.Provision
