import HostHome.Provision.Task
import HostHome.Proofs.Run

/-!
# What tasks leave

The execution of a task adds reports and an entry of the record to what the task
itself does.  So its end is judged by the files alone, and a task that has nothing
to do is seen to leave everything else as it was.
-/

namespace HostHome.Provision

variable {context : Context} {task : Task} {files : FileSystem} {world after : World}

theorem Task.ends_execute_of_applies (applies : task.applies context world.files)
    {condition : Except Stop Unit → World → Prop} :
    (task.execute context).Ends world condition ↔
      (task.run context).Ends
        { world with events := world.events ++ [⟨.debug, "running task: " ++ task.name⟩] }
        fun result after =>
          match result with
          | .ok .done =>
              condition (.ok ()) { after with record := after.record ++ [⟨task.name, .ok, none⟩] }
          | .ok (.skipped reason) =>
              condition (.ok ()) { after with
                events := after.events ++ [⟨.debug, task.name ++ ": skipped: " ++ reason⟩]
                record := after.record ++ [⟨task.name, .skipped, some reason⟩] }
          | .error (.failure failure) =>
              condition (.error (.failure failure)) { after with
                record := after.record ++ [⟨task.name, .failed, some failure.fullMessage⟩] }
          | .error (.violation violation) => condition (.error (.violation violation)) after := by
  unfold execute
  simp only [Run.ends_bind, Run.ends_files, applies, if_true, Run.debug, Run.ends_report,
    Run.ends_tryCatch]
  unfold Run.Ends
  generalize task.run context _ = ended
  cases ended with
  | ok value after => cases value <;> rfl
  | error stop after => cases stop <;> rfl

theorem Task.ends_execute_of_spared (spared : task.applies context world.files = false)
    {condition : Except Stop Unit → World → Prop} :
    (task.execute context).Ends world condition ↔
      condition (.ok ()) { world with
        events := world.events ++ [⟨.debug, "skipping task: " ++ task.name ++ " (not applicable)"⟩]
        record := world.record ++ [⟨task.name, .notApplicable, none⟩] } := by
  unfold execute
  simp only [Run.ends_bind, Run.ends_files, spared, Bool.false_eq_true, if_false, Run.debug,
    Run.ends_report, Run.ends_record]

/-- From the given files, the execution of the task leaves files of which the condition holds. The
condition is told whether the task succeeded. -/
def Task.Leaves (task : Task) (context : Context) (files : FileSystem)
    (condition : Bool → FileSystem → Prop) : Prop :=
  ∀ world : World, world.files = files → (task.execute context).Ends world fun result after =>
    condition result.isOk after.files

theorem Task.Leaves.imp {condition weaker : Bool → FileSystem → Prop}
    (leaves : task.Leaves context files condition)
    (implies : ∀ done later, condition done later → weaker done later) :
    task.Leaves context files weaker :=
  fun world same => (leaves world same).imp fun _ _ => implies _ _

theorem Task.Leaves.of_ok {condition : Bool → FileSystem → Prop}
    (leaves : task.Leaves context world.files condition)
    (executed : task.execute context world = .ok () after) : condition true after.files :=
  (leaves world rfl).of_ok executed

/-- A task succeeds if it cannot leave what is left by a failure. -/
theorem Task.Leaves.exists_ok {condition : Bool → FileSystem → Prop}
    (leaves : task.Leaves context world.files condition)
    (succeeds : ∀ later, ¬ condition false later) :
    ∃ after, task.execute context world = .ok () after ∧ condition true after.files := by
  have ends := leaves world rfl
  unfold Run.Ends at ends
  split at ends
  · next after executed => exact ⟨after, executed, ends⟩
  · next after _ => exact absurd ends (succeeds after.files)

theorem Task.leaves_of_run {condition : Bool → FileSystem → Prop}
    (applied : task.applies context files → ∀ world : World, world.files = files →
      (task.run context).Ends world fun result after => condition result.isOk after.files)
    (spared : task.applies context files = false → condition true files) :
    task.Leaves context files condition := by
  rintro world rfl
  cases applies : task.applies context world.files with
  | true =>
      rw [Task.ends_execute_of_applies applies]
      refine Run.Ends.imp (applied applies _ ?_) ?_
      · rfl
      · rintro (stop | value) after holds
        · cases stop <;> exact holds
        · cases value <;> exact holds
  | false =>
      rw [Task.ends_execute_of_spared applies]
      exact spared applies

theorem Task.leaves_of_applies {condition : Bool → FileSystem → Prop}
    (applies : task.applies context files)
    (run : ∀ world : World, world.files = files →
      (task.run context).Ends world fun result after => condition result.isOk after.files) :
    task.Leaves context files condition := by
  refine Task.leaves_of_run (fun _ => run) ?_
  intro spared
  rw [applies] at spared
  cases spared

/-- Nothing but the reports and the record is different, and no task of the record failed. -/
structure Quiet (world after : World) : Prop where
  files : after.files = world.files
  calls : after.calls = world.calls
  record : ∃ entries, after.record = world.record ++ entries ∧
    ∀ entry ∈ entries, entry.status ≠ .failed

theorem Quiet.refl (world : World) : Quiet world world := ⟨rfl, rfl, [], by simp, by simp⟩

theorem Quiet.trans {middle : World} (first : Quiet world middle) (second : Quiet middle after) :
    Quiet world after := by
  obtain ⟨entries, record, fine⟩ := first.record
  obtain ⟨more, moreRecord, moreFine⟩ := second.record
  refine ⟨second.files.trans first.files, second.calls.trans first.calls, entries ++ more, ?_, ?_⟩
  · rw [moreRecord, record, List.append_assoc]
  · intro entry member
    rcases List.mem_append.1 member with member | member
    · exact fine entry member
    · exact moreFine entry member

def Task.Idle (task : Task) (context : Context) (files : FileSystem) : Prop :=
  ∀ world : World, world.files = files → (task.execute context).Ends world fun result after =>
    result = .ok () ∧ Quiet world after

theorem Task.idle_of_not_applies (spared : task.applies context files = false) :
    task.Idle context files := by
  rintro world rfl
  rw [Task.ends_execute_of_spared spared]
  exact ⟨rfl, rfl, rfl, _, rfl, by simp⟩

theorem Task.idle_of_run (applies : task.applies context files)
    (run : ∀ world : World, world.files = files →
      (task.run context).Ends world fun result after =>
        result.isOk ∧ after.files = world.files ∧ after.calls = world.calls ∧
          after.record = world.record) :
    task.Idle context files := by
  rintro world rfl
  rw [Task.ends_execute_of_applies applies]
  refine Run.Ends.imp (run _ ?_) ?_
  · rfl
  rintro (stop | value) after ⟨ok, sameFiles, sameCalls, sameRecord⟩
  · cases ok
  · cases value with
    | done => exact ⟨rfl, sameFiles, sameCalls, _, by rw [← sameRecord], by simp⟩
    | skipped reason => exact ⟨rfl, sameFiles, sameCalls, _, by rw [← sameRecord], by simp⟩

theorem executeAll_append (context : Context) (first second : List Task) :
    executeAll context (first ++ second) = (do
      executeAll context first
      executeAll context second) := by
  induction first with
  | nil => rfl
  | cons task rest ih =>
      simp only [List.cons_append, executeAll, ih]
      funext world
      simp only [bind, EStateM.bind]
      cases task.execute context world <;> rfl

theorem executeAll_cons (context : Context) (task : Task) (rest : List Task) :
    executeAll context (task :: rest) = (do
      task.execute context
      executeAll context rest) := rfl

theorem bind_eq_ok {α β : Type} {run : Run α} {next : α → Run β} {value : β}
    (ended : (run >>= next) world = .ok value after) :
    ∃ first middle, run world = .ok first middle ∧ next first middle = .ok value after := by
  simp only [bind, EStateM.bind] at ended
  split at ended
  · next first middle found => exact ⟨first, middle, found, ended⟩
  · cases ended

theorem executeAll_cons_eq_ok {rest : List Task}
    (executed : executeAll context (task :: rest) world = .ok () after) :
    ∃ middle, task.execute context world = .ok () middle ∧
      executeAll context rest middle = .ok () after := by
  obtain ⟨_, middle, first, second⟩ := bind_eq_ok executed
  exact ⟨middle, first, second⟩

theorem executeAll_cons_of_ok {rest : List Task} {middle : World}
    (executed : task.execute context world = .ok () middle) :
    executeAll context (task :: rest) world = executeAll context rest middle := by
  simp only [executeAll, bind, EStateM.bind, executed]

theorem executeAll_append_of_ok {first second : List Task} {middle : World}
    (executed : executeAll context first world = .ok () middle) :
    executeAll context (first ++ second) world = executeAll context second middle := by
  simp only [executeAll_append, bind, EStateM.bind, executed]

/-- Behind tasks that do not all succeed nothing is executed. -/
theorem worldAfter_executeAll_append {first : List Task}
    (stopped : ¬ ∃ middle, executeAll context first world = .ok () middle) (second : List Task) :
    (executeAll context (first ++ second)).worldAfter world =
      (executeAll context first).worldAfter world := by
  simp only [executeAll_append, Run.worldAfter, bind, EStateM.bind]
  cases executed : executeAll context first world with
  | ok _ middle => exact absurd ⟨middle, executed⟩ stopped
  | error stop middle => rfl

/-- What every task leaves all tasks leave, however far they come. -/
theorem executeAll_ends {related : FileSystem → FileSystem → Prop}
    (refl : ∀ files, related files files)
    (trans : ∀ {files middle later}, related files middle → related middle later →
      related files later)
    {tasks : List Task} (each : ∀ task ∈ tasks, ∀ files,
      task.Leaves context files fun _ later => related files later) (world : World) :
    (executeAll context tasks).Ends world fun _ after => related world.files after.files := by
  induction tasks generalizing world with
  | nil => exact refl world.files
  | cons task rest ih =>
      simp only [executeAll, Run.ends_bind]
      refine (each task (by simp) world.files world rfl).imp ?_
      intro result after first
      cases result with
      | error stop => exact first
      | ok _ =>
          have others := ih (fun other member => each other (by simp [member])) after
          exact others.imp fun _ _ second => trans first second

theorem executeAll_idle {tasks : List Task} (world : World)
    (each : ∀ task ∈ tasks, task.Idle context world.files) :
    (executeAll context tasks).Ends world fun result after =>
      result = .ok () ∧ Quiet world after := by
  induction tasks generalizing world with
  | nil => exact ⟨rfl, .refl world⟩
  | cons task rest ih =>
      simp only [executeAll, Run.ends_bind]
      refine (each task (by simp) world rfl).imp ?_
      rintro _ after ⟨rfl, quiet⟩
      have others := ih after fun other member => by
        rw [quiet.files]
        exact each other (by simp [member])
      exact others.imp fun _ _ second => ⟨second.1, quiet.trans second.2⟩

end HostHome.Provision
