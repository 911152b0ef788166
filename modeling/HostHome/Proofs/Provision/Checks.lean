import HostHome.Provision.SelfTest
import HostHome.Proofs.FileSystem.Scratch
import HostHome.Proofs.Provision.Tasks

/-!
# What single checks leave

A check looks at files, runs commands and reports.  Only one of them changes files,
and it removes what it has put up.  So the files are as they were behind each check,
be it a success or a failure.
-/

namespace HostHome.Provision

open HostHome.Config
open HostHome.Execution (Command Executor)
open HostHome.FileSystem (Alike GrowsAt)
open HostHome.Log (Event)
open Run (IsFailure)

variable {α β : Type} {world after : World} {holds : FileSystem → Prop} {scratch : Path}
  {context : Context} {language : PatternLanguage}

/-- The condition holds of the files, and the directory for checks is the given one. -/
structure Stands (holds : FileSystem → Prop) (scratch : Path) (world : World) : Prop where
  files : holds world.files
  scratch : scratchDirectory world = scratch

/-- The condition holds of the files later, nothing was recorded, and no report was taken back. -/
structure Continues (holds : FileSystem → Prop) (scratch : Path) (world after : World) :
    Prop where
  stands : Stands holds scratch after
  record : after.record = world.record
  events : ∃ events, after.events = world.events ++ events

theorem Continues.refl (stands : Stands holds scratch world) :
    Continues holds scratch world world := ⟨stands, rfl, [], by simp⟩

theorem Continues.trans {before : FileSystem → Prop} {middle : World}
    (first : Continues before scratch world middle)
    (second : Continues holds scratch middle after) : Continues holds scratch world after := by
  obtain ⟨_, record, events, told⟩ := first
  obtain ⟨stands, recordAfter, more, toldAfter⟩ := second
  refine ⟨stands, recordAfter.trans record, events ++ more, ?_⟩
  rw [toldAfter, told, List.append_assoc]

/-- From files of which the one condition holds, the run goes on to files of which the other holds,
however it ends, and it stops only by a failure. -/
def Leads (before holds : FileSystem → Prop) (scratch : Path) (run : Run α) : Prop :=
  ∀ world, Stands before scratch world → run.Ends world fun result after =>
    Continues holds scratch world after ∧ ∀ stop, result = .error stop → IsFailure stop

theorem Leads.of {before other : FileSystem → Prop} {run : Run α}
    (leads : Leads before holds scratch run) (implies : ∀ {files}, other files → before files) :
    Leads other holds scratch run :=
  fun world stands => leads world ⟨implies stands.files, stands.scratch⟩

def Preserves (holds : FileSystem → Prop) (scratch : Path) (run : Run α) : Prop :=
  Leads holds holds scratch run

theorem Preserves.bind {run : Run β} {next : β → Run α} (first : Preserves holds scratch run)
    (second : ∀ value, Preserves holds scratch (next value)) :
    Preserves holds scratch (run >>= next) := by
  intro world stands
  rw [Run.ends_bind]
  refine (first world stands).imp ?_
  rintro (stop | value) middle ⟨continues, stops⟩
  · refine ⟨continues, ?_⟩
    rintro _ ⟨⟩
    exact stops stop rfl
  · refine (second value middle continues.stands).imp ?_
    rintro result after ⟨further, stopsAfter⟩
    exact ⟨continues.trans further, stopsAfter⟩

theorem preserves_pure (value : α) : Preserves holds scratch (pure value : Run α) :=
  fun _ stands => ⟨.refl stands, by simp⟩

theorem preserves_get : Preserves holds scratch (get : Run World) :=
  fun _ stands => ⟨.refl stands, by simp⟩

theorem preserves_files_bind {next : FileSystem → Run α}
    (second : ∀ files, holds files → Preserves holds scratch (next files)) :
    Preserves holds scratch (Run.files >>= next) := by
  intro world stands
  rw [Run.ends_bind, Run.ends_files]
  exact second world.files stands.files world stands

theorem preserves_report (level : Log.Level) (message : String) :
    Preserves holds scratch (Run.report level message) :=
  fun _ stands => ⟨⟨⟨stands.files, stands.scratch⟩, rfl, _, rfl⟩, by simp⟩

theorem preserves_fail (cause : Cause) : Preserves holds scratch (Run.fail cause : Run α) := by
  refine fun world stands => ⟨.refl stands, ?_⟩
  rintro _ ⟨⟩
  trivial

theorem preserves_ofExcept (result : Except Cause α) :
    Preserves holds scratch (Run.ofExcept result) := by
  cases result with
  | ok value => exact preserves_pure value
  | error cause => exact preserves_fail cause

theorem preserves_setFiles {later : FileSystem} (holdsLater : holds later) :
    Preserves holds scratch (Run.setFiles later) :=
  fun _ stands => ⟨⟨⟨holdsLater, stands.scratch⟩, rfl, [], by simp⟩, by simp⟩

theorem preserves_change {request : FileSystem → Except SystemError FileSystem}
    (cause : SystemError → Cause)
    (each : ∀ {files later}, holds files → request files = .ok later → holds later) :
    Preserves holds scratch (Run.change request cause) := by
  refine preserves_files_bind fun files start => ?_
  split
  · next later changed => exact preserves_setFiles (each start changed)
  · exact preserves_fail _

theorem preserves_changeStepwise
    {request : FileSystem → FileSystem × Except SystemError Unit} (cause : SystemError → Cause)
    (each : ∀ {files}, holds files → holds (request files).1) :
    Preserves holds scratch (Run.changeStepwise request cause) := by
  refine preserves_files_bind fun files start =>
    (preserves_setFiles (each start)).bind fun _ => ?_
  split
  · exact preserves_pure ()
  · exact preserves_fail _

theorem preserves_command {executor : Executor} (keeps : executor.KeepsFiles)
    (command : Command) : Preserves holds scratch (Run.command executor command) := by
  intro world stands
  exact Run.ends_command keeps fun answer =>
    ⟨⟨⟨stands.files, stands.scratch⟩, rfl, [], by simp⟩, by simp⟩

theorem preserves_output {executor : Executor} (keeps : executor.KeepsFiles)
    (command : Command) : Preserves holds scratch (Run.output executor command) := by
  refine (preserves_command keeps command).bind fun answer => ?_
  split
  · exact preserves_pure _
  · exact preserves_fail _

theorem preserves_findProgram? (name : Path) :
    Preserves holds scratch (Run.findProgram? name) :=
  preserves_get.bind fun _ => preserves_get.bind fun _ => preserves_pure _

theorem preserves_guard {claim : Prop} [Decidable claim] (message : String) {next : Run α}
    (others : Preserves holds scratch next) :
    Preserves holds scratch
      (if claim then failCheck message >>= fun _ : Unit => next else next) := by
  split
  · exact (preserves_fail _).bind fun _ => others
  · exact others

theorem checkSyncTool_preserves (keeps : context.sync.executor.KeepsFiles) :
    Preserves holds scratch (checkSyncTool.run context) := by
  refine (preserves_output keeps _).bind fun output => preserves_guard _ ?_
  exact (preserves_report _ _).bind fun _ => preserves_pure _

theorem checkExecution_preserves (keeps : context.sync.executor.KeepsFiles) :
    Preserves holds scratch (checkExecution.run context) := by
  refine (preserves_findProgram? _).bind fun found => ?_
  cases found with
  | none => exact preserves_fail _
  | some echo =>
      refine (preserves_output keeps _).bind fun output => preserves_guard _ ?_
      refine (preserves_report _ _).bind fun _ => (preserves_command keeps _).bind fun answer => ?_
      split
      · exact preserves_pure _
      · exact preserves_fail _
      · exact preserves_fail _

theorem checkText_preserves : Preserves holds scratch (checkText.run context) :=
  preserves_guard _ (preserves_guard _ (preserves_guard _ (preserves_pure _)))

theorem exerciseFiles_preserves
    (tree : ∀ {files : FileSystem}, holds files →
      holds (files.ensureTree (scratch.joinText "this/is/a/test")).1)
    (file : ∀ {files later : FileSystem}, holds files →
      files.touch ((scratch.joinText "this/is/a/test").joinText "file") = .ok later →
        holds later) :
    Preserves holds scratch (exerciseFiles scratch) := by
  have treeMade : Preserves holds scratch (Run.changeStepwise
      (fun files => files.ensureTree (scratch.joinText "this/is/a/test")) .system) :=
    preserves_changeStepwise _ tree
  have fileMade : Preserves holds scratch (Run.change
      (fun files => files.touch ((scratch.joinText "this/is/a/test").joinText "file")) .system) :=
    preserves_change _ file
  refine treeMade.bind fun _ => treeMade.bind fun _ =>
    preserves_files_bind fun _ _ => preserves_guard _ ?_
  refine fileMade.bind fun _ => fileMade.bind fun _ => preserves_files_bind fun _ _ => ?_
  split
  · exact preserves_fail _
  · exact preserves_pure _

/-- Where a tree cannot be removed, the files stay as they are. -/
theorem removeScratch_leads {between : FileSystem → Prop}
    (stays : ∀ {files : FileSystem} {error : SystemError}, between files →
      files.removeTree scratch = .error error → holds files)
    (goes : ∀ {files later : FileSystem}, between files →
      files.removeTree scratch = .ok later → holds later) :
    Leads between holds scratch (removeScratch scratch) := by
  intro world stands
  simp only [removeScratch, Run.ends_bind, Run.ends_files]
  cases removed : world.files.removeTree scratch with
  | error error =>
      exact ⟨⟨⟨stays stands.files removed, stands.scratch⟩, rfl, _, rfl⟩, by simp⟩
  | ok later =>
      exact ⟨⟨⟨goes stands.files removed, stands.scratch⟩, rfl, [], by simp⟩, by simp⟩

/-- The check leads wherever what it creates and the removal behind it lead. -/
theorem checkFiles_leads {before between : FileSystem → Prop}
    (exercise : Leads before between scratch (exerciseFiles scratch))
    (removal : Leads between holds scratch (removeScratch scratch)) :
    Leads before holds scratch (checkFiles.run context) := by
  intro world stands
  simp only [checkFiles, Run.ends_bind, Run.ends_get, Run.ends_tryCatch, stands.scratch]
  refine (exercise world stands).imp ?_
  rintro (stop | _) middle ⟨exercised, stops⟩
  · refine (removal middle exercised.stands).imp ?_
    rintro (other | _) after ⟨removed, stopsAfter⟩
    · exact ⟨exercised.trans removed, by simpa [Except.map] using stopsAfter⟩
    · refine ⟨exercised.trans removed, ?_⟩
      rintro _ ⟨⟩
      exact stops stop rfl
  · refine (removal middle exercised.stands).imp ?_
    rintro (other | _) after ⟨removed, stopsAfter⟩
    · exact ⟨exercised.trans removed, by simpa [Except.map] using stopsAfter⟩
    · exact ⟨exercised.trans removed, by simp⟩

/-- A directory for checks can be put up: it is a free name in a directory that is there. -/
structure Free (files : FileSystem) (scratch : Path) (directory : Location)
    (name : Text.Bytes) : Prop where
  vacant : files.entryAt? (name :: directory) = none
  placed : files.PlacedAt scratch directory name
  spelled : ∃ base : Path, OrdinaryName name ∧ scratch = base.join ⟨name⟩

variable {files : FileSystem} {directory : Location} {name : Text.Bytes}

/-- The tree that is put up in order to check files goes on from the directory for checks. -/
theorem goesOn_tree (ordinary : OrdinaryName name) (base : Path) :
    ∃ names, base.GoesOn (name :: names) ((base.join ⟨name⟩).joinText "this/is/a/test") := by
  have relative : (Path.ofText "this/is/a/test").isAbsolute = false := by decide
  have pieces : ∀ piece ∈ (Path.ofText "this/is/a/test").pieces,
      piece ≠ [] → OrdinaryName piece := by decide
  exact ⟨_, (Path.goesOn_joinName ordinary base).join
    (Path.bytes_joinName_ne_nil ordinary base) relative pieces⟩

theorem Free.exerciseFiles_preserves (free : Free files scratch directory name) :
    Preserves (GrowsAt (name :: directory) files) scratch (exerciseFiles scratch) := by
  obtain ⟨vacant, placed, base, ordinary, rfl⟩ := free
  obtain ⟨_, _, _, leads⟩ := (FileSystem.placedAt_joinName_iff ordinary).1 placed
  obtain ⟨names, goes⟩ := goesOn_tree ordinary base
  have enters := FileSystem.enters_of_goesOn leads goes
  have ordinaryFile : OrdinaryName (Text.encode "file") := by decide
  exact Provision.exerciseFiles_preserves (fun grows => grows.ensureTree vacant leads goes)
    fun grows touched => grows.writeFile vacant enters ordinaryFile touched

theorem Free.removeScratch_leads (free : Free files scratch directory name) :
    Leads (GrowsAt (name :: directory) files) (Alike files) scratch (removeScratch scratch) := by
  have open_ : scratch.endsWithSlash = false := by
    obtain ⟨base, ordinary, rfl⟩ := free.spelled
    exact Path.endsWithSlash_joinName ordinary base
  apply Provision.removeScratch_leads
  all_goals
    intro grown _ grows removed
    rcases grows.removeTree free.vacant free.placed open_ with
      ⟨missing, alike⟩ | ⟨later, cleared, alike⟩
  · exact alike
  · rw [cleared] at removed
    cases removed
  · rw [missing] at removed
    cases removed
  · rw [cleared] at removed
    cases removed
    exact alike

/-- What is put up in order to check files is taken away. -/
theorem checkFiles_preserves (free : Free files scratch directory name) :
    Preserves (Alike files) scratch (checkFiles.run context) :=
  checkFiles_leads (free.exerciseFiles_preserves.of (FileSystem.growsAt_of_alike free.vacant))
    free.removeScratch_leads

theorem reportErrors_preserves (diagnostics : List Diagnostic) :
    Preserves holds scratch (reportErrors diagnostics) := by
  induction diagnostics with
  | nil => exact preserves_pure ()
  | cons diagnostic rest ih => exact (preserves_report _ _).bind fun _ => ih

theorem warnMissingSources_preserves (file sharedHome : Path) (directives : List Directive) :
    Preserves holds scratch (warnMissingSources file sharedHome directives) := by
  induction directives with
  | nil => exact preserves_pure ()
  | cons directive rest ih =>
      refine preserves_files_bind fun files _ => ?_
      dsimp only
      split
      · exact (preserves_report _ _).bind fun _ => ih
      · exact ih

theorem validateHostGroups_preserves :
    Preserves holds scratch ((validateHostGroups language).run context) := by
  refine preserves_files_bind fun files _ => (preserves_ofExcept _).bind fun text => ?_
  refine (reportErrors_preserves _).bind fun _ => preserves_guard _ ?_
  exact (preserves_report _ _).bind fun _ => preserves_pure _

theorem validateTransfers_preserves :
    Preserves holds scratch (validateTransfers.run context) := by
  refine preserves_files_bind fun files _ => (preserves_ofExcept _).bind fun text => ?_
  refine (reportErrors_preserves _).bind fun _ => preserves_guard _ ?_
  refine (warnMissingSources_preserves _ _ _).bind fun _ => ?_
  split
  · exact preserves_pure _
  · exact (preserves_report _ _).bind fun _ => preserves_pure _

theorem surroundings_preserve (keeps : context.sync.executor.KeepsFiles) :
    ∀ check ∈ [checkSyncTool, checkExecution, checkText],
      Preserves holds scratch (check.run context) := by
  intro check member
  simp only [List.mem_cons, List.not_mem_nil, or_false] at member
  rcases member with rfl | rfl | rfl
  · exact checkSyncTool_preserves keeps
  · exact checkExecution_preserves keeps
  · exact checkText_preserves

theorem configuration_preserves :
    ∀ check ∈ [validateHostGroups language, validateTransfers],
      Preserves holds scratch (check.run context) := by
  intro check member
  simp only [List.mem_cons, List.not_mem_nil, or_false] at member
  rcases member with rfl | rfl
  · exact validateHostGroups_preserves
  · exact validateTransfers_preserves

theorem checks_eq : checks language = [checkSyncTool, checkExecution, checkText] ++
    checkFiles :: [validateHostGroups language, validateTransfers] := rfl

/-- The checks preserve what the check of files preserves. -/
theorem checks_preserve (keeps : context.sync.executor.KeepsFiles)
    (files : Preserves holds scratch (checkFiles.run context)) :
    ∀ check ∈ checks language, Preserves holds scratch (check.run context) := by
  intro check member
  rw [checks_eq, List.mem_append] at member
  rcases member with before | member
  · exact surroundings_preserve keeps check before
  · rcases List.mem_cons.1 member with rfl | behind
    · exact files
    · exact configuration_preserves check behind

end HostHome.Provision
