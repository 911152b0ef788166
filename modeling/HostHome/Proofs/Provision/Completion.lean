import HostHome.Proofs.Provision.Checks
import HostHome.Proofs.Provision.Executions

/-!
# Tasks that are run to completion

Every task is executed under a heading of its own, in the world that the task before it
has left, whatever became of that one.  The record gains one entry for each task, and a
failure is reported at once.  In the end the summary shows all entries, also those that
were there before, and the number of failures among them decides on the result.
-/

namespace HostHome

open Log (Event TaskEntry TaskStatus)

@[simp]
theorem World.reporting_nil (world : World) : world.reporting [] = world := by
  simp [World.reporting]

namespace Log

def entriesWith (status : TaskStatus) (record : List TaskEntry) : Nat :=
  (record.filter fun entry => entry.status = status).length

theorem countStatus_eq (status : TaskStatus) (record : List TaskEntry) :
    countStatus status record = entriesWith status record :=
  List.countP_eq_length_filter

theorem sum_entriesWith (record : List TaskEntry) :
    entriesWith .ok record + entriesWith .notApplicable record + entriesWith .skipped record +
      entriesWith .failed record = record.length := by
  induction record with
  | nil => rfl
  | cons entry rest ih =>
      simp only [entriesWith, List.filter_cons, List.length_cons] at ih ⊢
      cases entry.status <;> simp <;> omega

theorem entriesWith_pos_iff {status : TaskStatus} {record : List TaskEntry} :
    0 < entriesWith status record ↔ ∃ entry ∈ record, entry.status = status := by
  simp [entriesWith, List.length_pos_iff_exists_mem]

def numberText (status : TaskStatus) (number : Nat) : String :=
  status.colour ++ toString number ++ " " ++ status.name ++ plain

def totalsText (total ok notApplicable skipped failed : Nat) : String :=
  toString total ++ " tasks: " ++ (numberText .ok ok ++ ", "
    ++ (numberText .notApplicable notApplicable ++ ", "
    ++ (numberText .skipped skipped ++ ", " ++ numberText .failed failed)))

theorem totalText_eq (record : List TaskEntry) :
    totalText record = totalsText record.length (entriesWith .ok record)
      (entriesWith .notApplicable record) (entriesWith .skipped record)
      (entriesWith .failed record) := by
  have spelled (status : TaskStatus) :
      statusTotal record status = numberText status (entriesWith status record) := by
    rw [statusTotal, countStatus_eq, numberText]
  simp [totalText, countStatus_eq, sum_entriesWith, totalsText, spelled, String.append_assoc]

/-- The events show a record: nothing, if it is empty, and otherwise each entry in its place, and
then the numbers of those of each status, which add up to the number of all. -/
structure Summarizes (record : List TaskEntry) (logFile : Option Path) (events : List Event) :
    Prop where
  nothing : record = [] → events = []
  lines : record ≠ [] → ∃ total ok notApplicable skipped failed,
    events = ⟨.stage, "Summary"⟩ :: record.map (fun entry => ⟨.info, entry.summaryText⟩) ++
      ⟨.info, totalsText total ok notApplicable skipped failed⟩ ::
        logFile.toList.map (fun file => ⟨.info, logFileText file⟩) ∧
    ok = entriesWith .ok record ∧ notApplicable = entriesWith .notApplicable record ∧
    skipped = entriesWith .skipped record ∧ failed = entriesWith .failed record ∧
    ok + notApplicable + skipped + failed = total ∧ total = record.length

theorem summarizes_summary (record : List TaskEntry) (logFile : Option Path) :
    Summarizes record logFile (summary record logFile) := by
  constructor
  · rintro rfl
    rfl
  · intro some
    refine ⟨record.length, _, _, _, _, ?_, rfl, rfl, rfl, rfl, sum_entriesWith record, rfl⟩
    simp [summary, some, totalText_eq]

end Log

namespace Provision

variable {context : Context} {task : Task} {tasks : List Task} {world left after : World}
  {entries : List TaskEntry}

/-- What is reported of an entry behind the execution of its task: an error, if it failed. -/
def failureReport : TaskEntry → List Event
  | ⟨name, .failed, some message⟩ => [⟨.error, name ++ ": " ++ message⟩]
  | _ => []

/-- Each task is executed once, under a heading of its own, in the world that the one before it has
left, whatever became of that one.  Behind a task that failed its failure is reported. -/
inductive Attempts (context : Context) : List Task → World → List TaskEntry → World → Prop
  | none (world : World) : Attempts context [] world [] world
  | next {task : Task} {rest : List Task} {world middle after : World}
      {result : Except Stop Unit} {entry : TaskEntry} {entries : List TaskEntry}
      (first : task.Executed context (world.reporting [⟨.stage, task.name⟩]) result [entry] middle)
      (others : Attempts context rest (middle.reporting (failureReport entry)) entries after) :
      Attempts context (task :: rest) world (entry :: entries) after

theorem Task.attempt_executed (orderly : task.Orderly context) (world : World) :
    (task.attempt context).Ends world fun result after => result = .ok () ∧
      ∃ ended entry left,
        task.Executed context (world.reporting [⟨.stage, task.name⟩]) ended [entry] left ∧
          after = left.reporting (failureReport entry) := by
  simp only [Task.attempt, Run.stage, Run.ends_bind, Run.ends_report, Run.ends_tryCatch]
  refine (orderly.execute_executed (world.reporting [⟨.stage, task.name⟩])).imp ?_
  rintro result left ⟨entry, executed⟩
  cases executed with
  | spared spared => exact ⟨trivial, _, _, _, .spared spared, (World.reporting_nil _).symm⟩
  | done applies ran => exact ⟨trivial, _, _, _, .done applies ran, (World.reporting_nil _).symm⟩
  | skipped applies reason ran =>
      exact ⟨trivial, _, _, _, .skipped applies reason ran, (World.reporting_nil _).symm⟩
  | failed applies failure ran => exact ⟨rfl, _, _, _, .failed applies failure ran, rfl⟩

/-- All tasks are attempted, and that never stops a run. -/
theorem attemptAll_attempts (orderly : ∀ task ∈ tasks, task.Orderly context) (world : World) :
    (attemptAll context tasks).Ends world fun result after =>
      result = .ok () ∧ ∃ entries, Attempts context tasks world entries after := by
  induction tasks generalizing world with
  | nil => exact ⟨rfl, [], .none world⟩
  | cons task rest ih =>
      simp only [attemptAll, Run.ends_bind]
      refine (Task.attempt_executed (orderly task (by simp)) world).imp ?_
      rintro _ middle ⟨rfl, ended, entry, left, executed, rfl⟩
      refine (ih (fun other member => orderly other (by simp [member])) _).imp ?_
      rintro _ after ⟨rfl, entries, others⟩
      exact ⟨rfl, entry :: entries, .next executed others⟩

theorem Task.Executed.name_eq {result : Except Stop Unit} {entry : TaskEntry}
    (executed : task.Executed context world result [entry] after) : entry.name = task.name := by
  cases executed <;> rfl

theorem Attempts.names_eq (attempts : Attempts context tasks world entries after) :
    entries.map TaskEntry.name = tasks.map Task.name := by
  induction attempts with
  | none => rfl
  | next first others ih => rw [List.map_cons, List.map_cons, first.name_eq, ih]

theorem Attempts.record_eq (attempts : Attempts context tasks world entries after)
    (leave : ∀ task ∈ tasks, task.LeavesRecord context) :
    after.record = world.record ++ entries := by
  induction attempts with
  | none => simp
  | @next task rest world middle after result entry entries first others ih =>
      rw [ih fun other member => leave other (by simp [member])]
      have recorded : middle.record = world.record ++ [entry] :=
        first.record_eq (leave task (by simp))
      exact (congrArg (· ++ entries) recorded).trans (by simp)

/-- A run that goes on from all files records nothing and stops only by a failure. -/
theorem Task.discreet_of_preserves
    (preserves : ∀ scratch, Preserves (fun _ => True) scratch (task.run context)) :
    task.Discreet context :=
  fun world => (preserves _ world ⟨trivial, rfl⟩).imp
    fun _ _ ⟨continues, stops⟩ => ⟨continues.record, stops⟩

theorem discreet_of_mem_checks {language : Config.PatternLanguage}
    (keeps : context.sync.executor.KeepsFiles) (member : task ∈ checks language) :
    task.Discreet context := by
  apply Task.discreet_of_preserves
  intro scratch
  refine checks_preserve keeps ?_ task member
  exact checkFiles_leads (exerciseFiles_preserves (fun _ => trivial) fun _ _ => trivial)
    (removeScratch_leads (fun _ _ => trivial) fun _ _ => trivial)

/-- All tasks were attempted, then the summary was reported, and the number of failures in the
record decided on the result. -/
structure Completed (context : Context) (tasks : List Task) (world : World)
    (result : Except Stop Unit) (after : World) (entries : List TaskEntry) (left : World)
    (summary : List Event) : Prop where
  attempts : Attempts context tasks world entries left
  names : entries.map TaskEntry.name = tasks.map Task.name
  /-- These entries alone are added, unless a task writes into the record itself. -/
  record : (∀ task ∈ tasks, task.LeavesRecord context) → after.record = world.record ++ entries
  reports : after = left.reporting summary
  summarizes : Log.Summarizes after.record after.logFile summary
  succeeds : (∀ entry ∈ after.record, entry.status ≠ .failed) → result = .ok ()
  fails : (∃ entry ∈ after.record, entry.status = .failed) →
    result = .error (.failure
      ⟨.other (toString (Log.entriesWith .failed after.record) ++ " task(s) failed"), []⟩)

/-- Tasks that are run to completion lose no result, neither their own nor one from before. -/
theorem runToCompletion_completes (orderly : ∀ task ∈ tasks, task.Orderly context)
    (world : World) :
    (runToCompletion context tasks).Ends world fun result after =>
      ∃ entries left summary, Completed context tasks world result after entries left summary := by
  simp only [runToCompletion, Run.ends_bind, Run.ends_summarize, Run.ends_get]
  refine (attemptAll_attempts orderly world).imp ?_
  rintro _ left ⟨rfl, entries, attempts⟩
  have completed {result : Except Stop Unit}
      (succeeds : (∀ entry ∈ left.record, entry.status ≠ .failed) → result = .ok ())
      (fails : (∃ entry ∈ left.record, entry.status = .failed) → result = .error (.failure
        ⟨.other (toString (Log.entriesWith .failed left.record) ++ " task(s) failed"), []⟩)) :
      Completed context tasks world result
        (left.reporting (Log.summary left.record left.logFile)) entries left
        (Log.summary left.record left.logFile) :=
    ⟨attempts, attempts.names_eq, attempts.record_eq, rfl, Log.summarizes_summary _ _, succeeds,
      fails⟩
  dsimp only
  rw [Log.failureCount, Log.countStatus_eq]
  split
  · next some =>
      obtain ⟨entry, member, failed⟩ := Log.entriesWith_pos_iff.1 some
      exact ⟨_, _, _, completed (fun none => absurd failed (none entry member)) fun _ => rfl⟩
  · next none =>
      refine ⟨_, _, _, completed (fun _ => rfl) fun some => ?_⟩
      exact absurd (Log.entriesWith_pos_iff.2 some) none

def failedBefore : World where
  files := homeFiles
  record := [⟨"Create home", .failed, some "no space"⟩]

/-- A failure from before makes the result of the checks a failure, whatever they find. -/
theorem earlier_failure_counts :
    (∀ task ∈ checks Config.regularExpressions, task.Orderly homeContext) ∧
      ∃ stop after entries left summary,
        selfTest Config.regularExpressions homeContext failedBefore = .error stop after ∧
        after.record = failedBefore.record ++ entries ∧
        Completed homeContext (checks Config.regularExpressions) failedBefore (.error stop) after
          entries left summary := by
  have discreet : ∀ task ∈ checks Config.regularExpressions, task.Discreet homeContext :=
    fun task => discreet_of_mem_checks keepsFiles_homeContext
  have orderly : ∀ task ∈ checks Config.regularExpressions, task.Orderly homeContext :=
    fun task member => (discreet task member).orderly
  have fails : (selfTest Config.regularExpressions homeContext).Ends failedBefore
      fun result after => (∃ stop, result = .error stop) ∧ ∃ entries left summary,
        after.record = failedBefore.record ++ entries ∧
        Completed homeContext (checks Config.regularExpressions) failedBefore result after
          entries left summary := by
    refine (runToCompletion_completes orderly failedBefore).imp ?_
    rintro result after ⟨entries, left, summary, completed⟩
    have record := completed.record fun task member => (discreet task member).leavesRecord
    have failed : ∃ entry ∈ after.record, entry.status = .failed := by
      rw [record]
      exact ⟨_, List.mem_append_left _ (.head _), rfl⟩
    exact ⟨⟨_, completed.fails failed⟩, entries, left, summary, record, completed⟩
  obtain ⟨stop, after, ended, entries, left, summary, record, completed⟩ := fails.exists_error
  exact ⟨orderly, stop, after, entries, left, summary, ended, record, completed⟩

end Provision

end HostHome
