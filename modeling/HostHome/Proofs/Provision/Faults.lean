import HostHome.Proofs.Failure.Status
import HostHome.Proofs.FileSystem.TreeCreation
import HostHome.Proofs.Provision.Executions

/-!
# What makes a run fail

A run that fails has found something that it cannot go on with, or a request of its own
was refused.  What was refused is refused in the files that the run leaves, with the
same error of the system, and this error is behind the cause of the failure.
-/

namespace HostHome

namespace FileSystem

variable {files later : FileSystem} {path : Path} {paths : List Path} {error : SystemError}

/-- A directory on the way to the path, or at its end, cannot be created. -/
def RefusesTree (files : FileSystem) (path : Path) (error : SystemError) : Prop :=
  ∃ upper, (upper ∈ treeSteps path ∨ upper ∈ pathsUpward path) ∧
    files.makeDirectory upper = .error error

theorem exists_refused_of_ensureSteps
    (failed : files.ensureSteps paths = (later, .error error)) :
    ∃ upper ∈ paths, later.makeDirectory upper = .error error := by
  rw [← ensureStepsUnder_usualMask] at failed
  obtain ⟨before, failing, behind, rfl, _, refused, _⟩ := exists_failing_of_ensureStepsUnder failed
  rw [makeDirectoryUnder_usualMask] at refused
  exact ⟨failing, by simp, refused⟩

theorem eq_of_acceptDirectory {failed : SystemError}
    (kept : files.acceptDirectory path failed = (later, .error error)) :
    later = files ∧ error = failed := by
  unfold acceptDirectory at kept
  split at kept <;> cases kept
  exact ⟨rfl, rfl⟩

theorem exists_refused_of_createUpward
    (failed : files.createUpward paths = (later, .error error)) :
    ∃ upper ∈ paths, later.makeDirectory upper = .error error := by
  induction paths generalizing files later error with
  | nil => cases failed
  | cons path above ih =>
      rw [createUpward] at failed
      split at failed
      · cases failed
      · next first refused =>
          split at failed
          · obtain ⟨rfl, rfl⟩ := eq_of_acceptDirectory failed
            exact ⟨path, by simp, refused⟩
          · split at failed
            · next middle error stopped =>
                cases failed
                obtain ⟨upper, member, refused⟩ := ih stopped
                exact ⟨upper, by simp [member], refused⟩
            · split at failed
              · cases failed
              · next refused =>
                  obtain ⟨rfl, rfl⟩ := eq_of_acceptDirectory failed
                  exact ⟨path, by simp, refused⟩

theorem refusesTree_of_ensureTree (failed : files.ensureTree path = (later, .error error)) :
    later.RefusesTree path error := by
  unfold ensureTree at failed
  split at failed
  · obtain ⟨upper, member, refused⟩ := exists_refused_of_ensureSteps failed
    exact ⟨upper, .inl member, refused⟩
  · split at failed
    · next middle first created =>
        split at failed <;> cases failed
        unfold createAll at created
        split at created
        · cases created
        · obtain ⟨upper, member, refused⟩ := exists_refused_of_createUpward created
          exact ⟨upper, .inr member, refused⟩
    · cases failed

end FileSystem

namespace Run

variable {α β : Type} {run : Run α} {next : α → Run β} {world : World}
  {reason : World → Failure → Prop}

/-- If the run fails, the reason holds of the world that it leaves and of the failure. -/
def FailsBy (run : Run α) (world : World) (reason : World → Failure → Prop) : Prop :=
  run.Ends world fun result after => ∀ failure, result = .error (.failure failure) →
    reason after failure

theorem failsBy_pure (value : α) : (pure value : Run α).FailsBy world reason := by
  rintro _ ⟨⟩

theorem failsBy_report (level : Log.Level) (message : String) :
    (report level message).FailsBy world reason := by
  rintro _ ⟨⟩

theorem failsBy_setFiles (files : FileSystem) : (setFiles files).FailsBy world reason := by
  rintro _ ⟨⟩

theorem failsBy_fail {cause : Cause} (holds : reason world ⟨cause, []⟩) :
    (fail cause : Run α).FailsBy world reason := by
  rintro _ ⟨⟩
  exact holds

theorem FailsBy.bind (first : run.FailsBy world reason)
    (second : ∀ value middle, (next value).FailsBy middle reason) :
    (run >>= next).FailsBy world reason := by
  unfold FailsBy
  rw [ends_bind]
  refine Ends.imp first ?_
  rintro (stop | value) middle failed
  · rintro failure ⟨⟩
    exact failed failure rfl
  · exact second value middle

theorem failsBy_files {next : FileSystem → Run β}
    (holds : (next world.files).FailsBy world reason) : (files >>= next).FailsBy world reason := holds

theorem failsBy_get {next : World → Run β} (holds : (next world).FailsBy world reason) :
    (get >>= next).FailsBy world reason := holds

theorem failsBy_findProgram? {name : Path} {next : Option Path → Run β}
    (holds : (next (world.environment.findProgram? world.files name)).FailsBy world reason) :
    (findProgram? name >>= next).FailsBy world reason := holds

theorem failsBy_change {request : FileSystem → Except SystemError FileSystem}
    {cause : SystemError → Cause}
    (refused : ∀ error, request world.files = .error error → reason world ⟨cause error, []⟩) :
    (change request cause).FailsBy world reason := by
  unfold FailsBy
  rw [ends_change]
  split
  · rintro _ ⟨⟩
  · next error failed =>
      rintro _ ⟨⟩
      exact refused error failed

theorem failsBy_changeStepwise {request : FileSystem → FileSystem × Except SystemError Unit}
    {cause : SystemError → Cause}
    (refused : ∀ files error, request world.files = (files, .error error) →
      reason { world with files } ⟨cause error, []⟩) :
    (changeStepwise request cause).FailsBy world reason := by
  unfold FailsBy
  rw [ends_changeStepwise]
  split
  · rintro _ ⟨⟩
  · next files error failed =>
      rintro _ ⟨⟩
      exact refused files error failed

theorem failsBy_copy {tool : SyncTool} {source destination : Path} {mode : CopyMode}
    {next : Execution.Answer → Run β}
    (answered : ∀ files calls command answer (left : World),
      tool.executor.run files calls command = (left.files, answer) →
      left.calls = calls ++ [command] → (next answer).FailsBy left reason) :
    (copy tool source destination mode >>= next).FailsBy world reason := by
  unfold copy
  split
  · rintro _ ⟨⟩
  · exact answered _ _ _ _ _ rfl rfl

end Run

namespace Provision

open HostHome.Execution (Command)

variable {context : Context} {world : World} {task : Task}

/-- Why a step fails, in the world that it leaves: the cause, and the error of the system, if there
is one, with which a request was refused. -/
inductive StepFault (context : Context) (left : World) :
    Task → Cause → Option SystemError → Prop
  | homeTree {error : SystemError} :
      left.files.RefusesTree context.layout.hostHome error →
      StepFault context left ensureHomeTree (.createDirectory context.layout.hostHome error) error
  | topLink {error : SystemError} :
      left.files.makeSymbolicLink context.layout.sharedHome context.layout.topLink =
        .error error →
      StepFault context left ensureTopLink
        (.symbolicLink context.layout.topLink context.layout.sharedHome error) error
  | skeleton {error : SystemError} :
      left.files.RefusesTree context.layout.skeleton error →
      StepFault context left ensureSkeleton (.createDirectory context.layout.skeleton error) error
  | transferFile {error : SystemError} :
      left.files.touch context.layout.transferFile = .error error →
      StepFault context left ensureTransferFile (.createFile context.layout.transferFile error)
        error
  | lostTool {files : FileSystem} {calls : List Command} {command : Command} {name : String} :
      context.sync.executor.run files calls command = (left.files, .error (.notFound name)) →
      left.calls = calls ++ [command] →
      StepFault context left injectSkeletons (.commandNotFound name) none
  | tool {files : FileSystem} {calls : List Command} {command : Command} {program : String}
      {error : SystemError} :
      context.sync.executor.run files calls command =
        (left.files, .error (.cannotStart program error)) →
      left.calls = calls ++ [command] →
      StepFault context left injectSkeletons (.cannotStart program error) error
  | marker {error : SystemError} :
      left.files.touch context.layout.marker = .error error →
      StepFault context left ensureMarker (.createFile context.layout.marker error) error
  | lostProgram :
      left.environment.findProgram? left.files context.entryPoint = none →
      StepFault context left writeScripts (.selfLookup context.entryPoint.display) none
  | script {path : Path} {content : Text.Bytes} {error : SystemError} :
      path = context.layout.shellScript ∨ path = context.layout.cShellScript →
      left.files.writeFile path content = .error error →
      StepFault context left writeScripts (.writeScript path error) error

theorem StepFault.source?_eq {cause : Cause} {error? : Option SystemError}
    (fault : StepFault context world task cause error?) : cause.source? = error? := by
  cases fault <;> rfl

/-- Wherever the step is run, it fails only for such a reason. -/
def Task.Faults (task : Task) (context : Context) : Prop :=
  ∀ world : World, (task.run context).FailsBy world fun left failure =>
    ∃ error?, StepFault context left task failure.cause error?

section Parts

variable {reason : World → Failure → Prop} {path : Path}

theorem failsBy_tree {next : Run TaskResult}
    (refused : ∀ (left : World) error, left.files.RefusesTree path error →
      reason left ⟨.createDirectory path error, []⟩)
    (fine : ∀ middle, next.FailsBy middle reason) :
    (do
      if (← Run.files).isDirectory path then return alreadyExists
      Run.changeStepwise (fun files => files.ensureTree path) (.createDirectory path)
      next : Run TaskResult).FailsBy world reason := by
  refine Run.failsBy_files ?_
  split
  · exact Run.failsBy_pure _
  · refine (Run.failsBy_changeStepwise fun files error failed => ?_).bind fun _ => fine
    exact refused _ error (FileSystem.refusesTree_of_ensureTree failed)

theorem failsBy_writeScript {text : String}
    (refused : ∀ (left : World) error, left.files.writeFile path (Text.encode text) = .error error →
      reason left ⟨.writeScript path error, []⟩) :
    (writeScript path text).FailsBy world reason :=
  (Run.failsBy_change fun error => refused world error).bind fun _ _ => Run.failsBy_report _ _

theorem failsBy_injectSkeleton (skeleton : Path)
    (answered : ∀ files calls command fault (left : World),
      context.sync.executor.run files calls command = (left.files, .error fault) →
      left.calls = calls ++ [command] → reason left ⟨fault.cause, []⟩) :
    (injectSkeleton context skeleton).FailsBy world reason := by
  refine Run.failsBy_files ?_
  split
  · exact (Run.failsBy_report _ _).bind fun _ _ => Run.failsBy_pure _
  · refine (Run.failsBy_report _ _).bind fun _ _ => Run.failsBy_copy fun _ _ _ answer left => ?_
    intro asked called
    cases answer with
    | error fault => exact Run.failsBy_fail (answered _ _ _ fault left asked called)
    | ok output =>
        dsimp only
        split
        · exact Run.failsBy_pure _
        · exact (Run.failsBy_report _ _).bind fun _ _ => Run.failsBy_pure _

end Parts

theorem exists_error_of_ensure_topLink {files : FileSystem} {cause : Cause}
    (failed : (topLink context.layout).ensure files = .error cause) :
    ∃ error, cause = .symbolicLink context.layout.topLink context.layout.sharedHome error ∧
      files.makeSymbolicLink context.layout.sharedHome context.layout.topLink = .error error := by
  unfold Link.ensure at failed
  split at failed
  · cases refused : files.makeSymbolicLink context.layout.sharedHome context.layout.topLink with
    | ok later =>
        simp [Link.apply, topLink, refused, Except.mapError, bind, Except.bind, pure,
          Except.pure] at failed
    | error error =>
        simp only [Link.apply, topLink, refused, Except.mapError, bind, Except.bind,
          Except.error.injEq] at failed
        exact ⟨error, failed.symm, rfl⟩
  · cases failed
  · cases failed

theorem faults_ensureTopLink (context : Context) : ensureTopLink.Faults context := by
  intro world
  refine Run.failsBy_files ?_
  cases ensured : (topLink context.layout).ensure world.files with
  | error cause =>
      obtain ⟨error, rfl, refused⟩ := exists_error_of_ensure_topLink ensured
      exact Run.failsBy_fail ⟨_, .topLink refused⟩
  | ok found =>
      obtain ⟨change, later⟩ := found
      cases change with
      | applied =>
          exact (Run.failsBy_setFiles _).bind fun _ _ => (Run.failsBy_report _ _).bind fun _ _ =>
            Run.failsBy_pure _
      | alreadyCorrect => exact Run.failsBy_pure _
      | skipped occupant => exact (Run.failsBy_report _ _).bind fun _ _ => Run.failsBy_pure _

theorem faults_writeScripts (context : Context) : writeScripts.Faults context := by
  intro world
  have script {path : Path} (text : String) (middle : World)
      (spelled : path = context.layout.shellScript ∨ path = context.layout.cShellScript) :
      (writeScript path text).FailsBy middle fun left failure =>
        ∃ error?, StepFault context left writeScripts failure.cause error? :=
    failsBy_writeScript fun _ _ refused => ⟨_, .script spelled refused⟩
  refine Run.failsBy_findProgram? ?_
  cases found : world.environment.findProgram? world.files context.entryPoint with
  | none => exact Run.failsBy_fail ⟨_, .lostProgram found⟩
  | some program =>
      refine Run.failsBy_get ?_
      exact (Run.failsBy_report _ _).bind fun _ _ => (script _ _ (.inl rfl)).bind
        fun _ _ => (script _ _ (.inr rfl)).bind fun _ _ => Run.failsBy_pure _

theorem faults_injectSkeletons (context : Context) : injectSkeletons.Faults context := by
  intro world
  have skeleton (path : Path) (middle : World) :
      (injectSkeleton context path).FailsBy middle fun left failure =>
        ∃ error?, StepFault context left injectSkeletons failure.cause error? := by
    refine failsBy_injectSkeleton path fun _ _ _ fault left asked called => ?_
    cases fault with
    | notFound name => exact ⟨_, .lostTool asked called⟩
    | cannotStart program error => exact ⟨_, .tool asked called⟩
  refine (skeleton _ _).bind fun _ _ => (skeleton _ _).bind fun _ _ => ?_
  split <;> exact Run.failsBy_pure _

/-- Every step fails only for a reason of its own. -/
theorem faults_of_mem_steps (context : Context) {task : Task} (member : task ∈ steps) :
    task.Faults context := by
  simp only [steps, List.mem_cons, List.not_mem_nil, or_false] at member
  rcases member with rfl | rfl | rfl | rfl | rfl | rfl | rfl | rfl
  · exact fun world => failsBy_tree (fun _ _ refused => ⟨_, .homeTree refused⟩)
      fun _ => (Run.failsBy_report _ _).bind fun _ _ => Run.failsBy_pure _
  · exact faults_ensureTopLink context
  · exact fun world => failsBy_tree (fun _ _ refused => ⟨_, .skeleton refused⟩)
      fun _ => Run.failsBy_pure _
  · refine fun world => Run.failsBy_files ?_
    split
    · exact Run.failsBy_pure _
    · exact (Run.failsBy_change fun _ refused => ⟨_, .transferFile refused⟩).bind
        fun _ _ => Run.failsBy_pure _
  · exact faults_injectSkeletons context
  · intro world
    have never : (applyTransfers.run context).Ends world (Run.Made (fun _ => False) _ world) :=
      made_applyTransfers world
    exact never.imp fun _ _ made failure failed => (made.stops _ failed).elim
  · refine fun world => Run.failsBy_files ?_
    split
    · exact Run.failsBy_pure _
    · exact (Run.failsBy_change fun _ refused => ⟨_, .marker refused⟩).bind
        fun _ _ => Run.failsBy_pure _
  · exact faults_writeScripts context

end Provision

end HostHome
