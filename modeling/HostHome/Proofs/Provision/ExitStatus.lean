import HostHome.Proofs.Provision.Copies
import HostHome.Proofs.Provision.Faults
import HostHome.Proofs.Provision.HomeNames

/-!
# Exit statuses of runs

The exit status of a run that fails is the number of the error with which a request of
the run itself was refused, or with which the sync tool could not be started.  It is one
if this number is no status, and where no error of the system is behind the failure.
-/

namespace HostHome.Provision

open HostHome.Config

variable {language : PatternLanguage} {invocation : Invocation} {context : Context}
  {world after : World} {cause : Cause} {error? : Option SystemError}

/-- Why a setup fails. -/
inductive SetupFault (language : PatternLanguage) (invocation : Invocation) (files : FileSystem) :
    Cause → Option SystemError → Prop
  | unreadable {error : SystemError} :
      files.readFile (hostGroupFileOf invocation.home) = .error error → error ≠ .absent →
      SetupFault language invocation files
        (.unreadableConfig (hostGroupFileOf invocation.home) error) error
  | unusable {resolution : Resolution} {fault : HomeNameFault} :
      files.resolveIdentity language (shortHostName invocation.hostName)
        (hostGroupFileOf invocation.home) = .ok resolution →
      homeNameFault? resolution.identity.homeName = some fault →
      SetupFault language invocation files
        (.invalidHomeName resolution.identity.homeName invocation.hostName fault.message) none

/-- Why a run fails: it is refused before it does anything, or one of its steps fails. -/
inductive ProvisionFault (context : Context) (world left : World) :
    Cause → Option SystemError → Prop
  | nested : isNested context world.files → left = world →
      ProvisionFault context world left (.nested context.layout.nestedMarker) none
  | step {done : List Task} {task : Task} {moment : World} {cause : Cause}
      {error? : Option SystemError} :
      Reaches context world done task moment → StepFault context left task cause error? →
      ProvisionFault context world left cause error?

theorem SetupFault.source?_eq {files : FileSystem}
    (fault : SetupFault language invocation files cause error?) : cause.source? = error? := by
  cases fault <;> rfl

theorem ProvisionFault.source?_eq (fault : ProvisionFault context world after cause error?) :
    cause.source? = error? := by
  cases fault with
  | nested => rfl
  | step _ fault => exact fault.source?_eq

theorem setupFault_of_setupResult {files : FileSystem} {stop : Stop}
    (failed : setupResult language invocation files = .error stop) :
    ∃ failure error?, stop = .failure failure ∧
      SetupFault language invocation files failure.cause error? := by
  unfold setupResult at failed
  cases resolved : files.resolveIdentity language (shortHostName invocation.hostName)
    (hostGroupFileOf invocation.home) with
  | error cause =>
      simp only [resolved] at failed
      cases failed
      cases read : files.readConfig (hostGroupFileOf invocation.home) with
      | ok text =>
          rw [FileSystem.resolveIdentity, read] at resolved
          cases resolved
      | error found =>
          rw [FileSystem.resolveIdentity, read] at resolved
          cases resolved
          obtain ⟨error, rfl, unread, present⟩ := readConfig_eq_error read
          exact ⟨_, _, rfl, .unreadable unread present⟩
  | ok resolution =>
      simp only [resolved] at failed
      split at failed
      · next fault named =>
          cases failed
          exact ⟨_, _, rfl, .unusable resolved named⟩
      · cases failed

/-- The record does not matter to why a step fails. -/
theorem StepFault.recording {task : Task} (fault : StepFault context world task cause error?)
    (entry : Log.TaskEntry) : StepFault context (world.recording entry) task cause error? := by
  cases fault <;> constructor <;> assumption

/-- Where steps stop at a failure, the step that fails has a reason. -/
theorem exists_stepFault_of_executeAll {tasks : List Task} {failure : Failure}
    (each : ∀ task ∈ tasks, task.Faults context)
    (failed : executeAll context tasks world = .error (.failure failure) after) :
    ∃ done task rest moment error?, tasks = done ++ task :: rest ∧
      executeAll context done world = .ok () moment ∧
      StepFault context after task failure.cause error? := by
  have ends := executeAll_executions context tasks world
  unfold Run.Ends at ends
  rw [failed] at ends
  obtain ⟨_, executions⟩ := ends
  obtain ⟨_, task, left, ⟨done, rest, moment, rfl, executed, _, ran⟩, _, _, rfl⟩ :=
    executions.exists_failsAt
  have reason := each task (by simp) (task.begun moment)
  unfold Run.FailsBy Run.Ends at reason
  rw [ran] at reason
  obtain ⟨error?, fault⟩ := reason failure rfl
  exact ⟨done, task, rest, moment, error?, rfl, executed, fault.recording _⟩

theorem provisionFault_of_error {failure : Failure}
    (failed : provision context world = .error (.failure failure) after) :
    ∃ error?, ProvisionFault context world after failure.cause error? := by
  cases nested : isNested context world.files with
  | true =>
      rw [provision_of_isNested nested] at failed
      cases failed
      exact ⟨_, .nested nested rfl⟩
  | false =>
      cases passes : isPassThrough world.files context.layout with
      | true =>
          obtain ⟨events, passed⟩ := provision_eq_of_isPassThrough nested passes
          rw [passed] at failed
          cases failed
      | false =>
          rw [provision_of_executeAll nested passes] at failed
          simp only [bind, EStateM.bind] at failed
          cases executed : executeAll context steps world with
          | ok _ left =>
              rw [executed] at failed
              cases failed
          | error stop left =>
              rw [executed] at failed
              cases failed
              obtain ⟨done, task, rest, moment, error?, ahead, reached, fault⟩ :=
                exists_stepFault_of_executeAll (fun _ => faults_of_mem_steps context) executed
              exact ⟨error?, .step ⟨nested, passes, ⟨rest, ahead⟩, reached⟩ fault⟩

/-- A setup that stops, and a run that fails, do so for a reason of their own, and the exit status
tells of it.  If a request was refused with an error of the system, or the sync tool could not be
started for one, then the status is the number of this error, as far as it can be a status.  In all
other cases it is one.  No context makes a difference to it.  The run of a context that the setup
gives stops in no other way than by a failure. -/
theorem exit_status_tells_cause :
    (∀ (language : PatternLanguage) invocation world stop after,
      setup language invocation world = .error stop after →
        ∃ failure error?, stop = .failure failure ∧
          SetupFault language invocation world.files failure.cause error? ∧
          failure.Tells error?) ∧
    ∀ context world stop after, provision context world = .error stop after →
      (context.Prepared → ∃ failure, stop = .failure failure) ∧
      ∀ failure, stop = .failure failure →
        ∃ error?, ProvisionFault context world after failure.cause error? ∧
          failure.Tells error? := by
  constructor
  · intro language invocation world stop after stopped
    obtain ⟨failure, error?, rfl, fault⟩ :=
      setupFault_of_setupResult (exists_setup_eq_error_iff.1 ⟨after, stopped⟩)
    exact ⟨failure, error?, rfl, fault, fault.source?_eq ▸ failure.tells_source?⟩
  · intro context world stop after stopped
    constructor
    · intro prepared
      cases stop with
      | failure failure => exact ⟨failure, rfl⟩
      | violation violation =>
          exact (provision_ne_violation prepared.proper violation stopped).elim
    · rintro failure rfl
      obtain ⟨error?, fault⟩ := provisionFault_of_error stopped
      exact ⟨error?, fault, fault.source?_eq ▸ failure.tells_source?⟩

/-- A run fails where the tree of the per-host home cannot be created. -/
theorem exists_provision_of_ensureTree {error : SystemError}
    (single : isNested context world.files = false)
    (apart : isPassThrough world.files context.layout = false)
    (absent : world.files.isDirectory context.layout.hostHome = false)
    (refused : (world.files.ensureTree context.layout.hostHome).2 = .error error) :
    ∃ after, provision context world =
      .error (.failure ⟨.createDirectory context.layout.hostHome error, []⟩) after := by
  have ends : (ensureHomeTree.execute context).Ends world fun result _ =>
      result = .error (.failure ⟨.createDirectory context.layout.hostHome error, []⟩) := by
    rw [Task.ends_execute_of_applies rfl]
    simp only [ensureHomeTree, Run.ends_bind, Run.ends_files, absent, Bool.false_eq_true, if_false,
      Run.ends_changeStepwise]
    split
    · next later made => simp [made] at refused
    · next later found made =>
        rw [made] at refused
        cases refused
        rfl
  have steps_eq : steps = ensureHomeTree :: steps.tail := rfl
  rw [provision_of_executeAll single apart, steps_eq]
  unfold Run.Ends at ends
  split at ends
  · cases ends
  · next stop after stopped =>
      cases ends
      exact ⟨after, by simp only [executeAll, bind, EStateM.bind, stopped]⟩

/-- A home with a directory in the place of its host-group file, and with a file in the place of
the directory of all per-host homes. -/
def obstructedFiles : FileSystem :=
  let config := homeFiles.add [Text.encode "home"] (Text.encode configDirectoryName)
    (.directory directoryPermissions)
  (config.add configLocation (Text.encode hostGroupFileName) (.directory directoryPermissions)).add
    [Text.encode "home"] (Text.encode perHostDirectoryName) (.file 1 filePermissions [])

/-- In this home the setup meets a directory that it wants to read, and a run meets a file in which
it wants to create a directory. -/
theorem obstructed_home_told :
    (∃ failure after, setup regularExpressions
        { home := .ofText "/home", hostName := "web01", entryPoint := .ofText "multihome",
          sync := homeContext.sync } { files := obstructedFiles } =
          .error (.failure failure) after ∧ (failure.exitCode : Int) = 21) ∧
      ∃ failure after, provision homeContext { files := obstructedFiles } =
        .error (.failure failure) after ∧ (failure.exitCode : Int) = 20 := by
  obtain ⟨setups, runs⟩ := exit_status_tells_cause
  constructor
  · have checked : (match setup regularExpressions
        { home := .ofText "/home", hostName := "web01", entryPoint := .ofText "multihome",
          sync := homeContext.sync } { files := obstructedFiles } with
        | .error (.failure failure) _ => decide (failure.cause.source? = some .isDirectory)
        | _ => false) = true := by cbv
    split at checked
    · next failure after stopped =>
        obtain ⟨_, error?, ⟨⟩, fault, tells⟩ := setups _ _ _ _ _ stopped
        have refused := fault.source?_eq.symm.trans (of_decide_eq_true checked)
        exact ⟨failure, after, stopped, tells.number 21 refused (by decide) (by decide)⟩
    · cases checked
  · have single : isNested homeContext obstructedFiles = false := by cbv
    have apart : isPassThrough obstructedFiles homeContext.layout = false := by cbv
    have absent : obstructedFiles.isDirectory homeContext.layout.hostHome = false := by cbv
    have refused : (obstructedFiles.ensureTree homeContext.layout.hostHome).2 =
        .error .notDirectory := by cbv
    have stops : ∃ after, provision homeContext { files := obstructedFiles } = .error (.failure
        ⟨.createDirectory homeContext.layout.hostHome .notDirectory, []⟩) after :=
      exists_provision_of_ensureTree single apart absent refused
    obtain ⟨after, stopped⟩ := stops
    obtain ⟨error?, fault, tells⟩ := (runs _ _ _ _ stopped).2 _ rfl
    exact ⟨_, after, stopped, tells.number 20 fault.source?_eq.symm (by decide) (by decide)⟩

end HostHome.Provision
