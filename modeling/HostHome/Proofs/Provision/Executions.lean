import HostHome.Proofs.Provision.Commands
import HostHome.Proofs.Provision.Provisioning

/-!
# Tasks that are executed one after the other

The execution of a task ends in one of five ways.  In four of them it adds one entry to
the record, and the last way is that of a copy that should never have been asked for.
Tasks that are executed one after the other stop at the first that does not succeed.  So
the entries of a run are those of its first steps, and a run that fails ends with the
entry of the step that failed.
-/

namespace HostHome

def World.reporting (world : World) (events : List Log.Event) : World :=
  { world with events := world.events ++ events }

def World.recording (world : World) (entry : Log.TaskEntry) : World :=
  { world with record := world.record ++ [entry] }

namespace Provision

open HostHome.Log (TaskEntry TaskStatus)

variable {context : Context} {task : Task} {tasks : List Task} {world left after : World}
  {result : Except Stop Unit} {entries : List TaskEntry}

/-- The world in which a task that applies is run. -/
def Task.begun (task : Task) (world : World) : World :=
  world.reporting [⟨.debug, "running task: " ++ task.name⟩]

/-- The execution of the task from the given world: its result, the entries that it adds to the
record, and the world that it leaves. -/
inductive Task.Executed (task : Task) (context : Context) (world : World) :
    Except Stop Unit → List TaskEntry → World → Prop
  | spared (spared : task.applies context world.files = false) :
      Executed task context world (.ok ()) [⟨task.name, .notApplicable, none⟩]
        ((world.reporting [⟨.debug, "skipping task: " ++ task.name ++ " (not applicable)"⟩]).recording
          ⟨task.name, .notApplicable, none⟩)
  | done {left : World} (applies : task.applies context world.files)
      (ran : task.run context (task.begun world) = .ok .done left) :
      Executed task context world (.ok ()) [⟨task.name, .ok, none⟩]
        (left.recording ⟨task.name, .ok, none⟩)
  | skipped {left : World} (applies : task.applies context world.files) (reason : String)
      (ran : task.run context (task.begun world) = .ok (.skipped reason) left) :
      Executed task context world (.ok ()) [⟨task.name, .skipped, some reason⟩]
        ((left.reporting [⟨.debug, task.name ++ ": skipped: " ++ reason⟩]).recording
          ⟨task.name, .skipped, some reason⟩)
  | failed {left : World} (applies : task.applies context world.files) (failure : Failure)
      (ran : task.run context (task.begun world) = .error (.failure failure) left) :
      Executed task context world (.error (.failure failure))
        [⟨task.name, .failed, some failure.fullMessage⟩]
        (left.recording ⟨task.name, .failed, some failure.fullMessage⟩)
  | broken {left : World} (applies : task.applies context world.files) (violation : CopyViolation)
      (ran : task.run context (task.begun world) = .error (.violation violation) left) :
      Executed task context world (.error (.violation violation)) [] left

theorem Task.execute_executed (task : Task) (context : Context) (world : World) :
    (task.execute context).Ends world fun result after =>
      ∃ entries, task.Executed context world result entries after := by
  cases applies : task.applies context world.files with
  | false =>
      rw [Task.ends_execute_of_spared applies]
      exact ⟨_, .spared applies⟩
  | true =>
      rw [Task.ends_execute_of_applies applies]
      refine (Run.ends_self _ _).imp ?_
      rintro (stop | value) left ran
      · cases stop with
        | failure failure => exact ⟨_, .failed applies failure ran⟩
        | violation violation => exact ⟨_, .broken applies violation ran⟩
      · cases value with
        | done => exact ⟨_, .done applies ran⟩
        | skipped reason => exact ⟨_, .skipped applies reason ran⟩

theorem Task.Executed.execute_eq
    (executed : task.Executed context world (.ok ()) entries after) :
    task.execute context world = .ok () after := by
  have ends : (task.execute context).Ends world fun result later =>
      result = .ok () ∧ later = after := by
    cases executed with
    | spared spared =>
        rw [Task.ends_execute_of_spared spared]
        exact ⟨rfl, rfl⟩
    | done applies ran | skipped applies _ ran =>
        rw [Task.ends_execute_of_applies applies]
        exact (Run.ends_iff_of_eq_ok ran).2 ⟨rfl, rfl⟩
  obtain ⟨_, ended, rfl⟩ := ends.exists_ok
  exact ended

/-- Wherever the task is run, it leaves the record to whoever executes it. -/
def Task.LeavesRecord (task : Task) (context : Context) : Prop :=
  ∀ world : World, (task.run context).Ends world fun _ after => after.record = world.record

/-- Wherever the task is run, it stops only by a failure. -/
def Task.Orderly (task : Task) (context : Context) : Prop :=
  ∀ world : World, (task.run context).Ends world fun result _ =>
    ∀ stop, result = .error stop → Run.IsFailure stop

theorem Task.Discreet.orderly (discreet : task.Discreet context) : task.Orderly context :=
  fun world => (discreet world).imp fun _ _ quiet => quiet.2

theorem Task.Orderly.execute_executed (orderly : task.Orderly context) (world : World) :
    (task.execute context).Ends world fun result after =>
      ∃ entry, task.Executed context world result [entry] after := by
  refine (task.execute_executed context world).imp ?_
  rintro result after ⟨entries, executed⟩
  cases executed with
  | spared spared => exact ⟨_, .spared spared⟩
  | done applies ran => exact ⟨_, .done applies ran⟩
  | skipped applies reason ran => exact ⟨_, .skipped applies reason ran⟩
  | failed applies failure ran => exact ⟨_, .failed applies failure ran⟩
  | broken applies violation ran =>
      have stops := orderly (task.begun world)
      unfold Run.Ends at stops
      rw [ran] at stops
      exact (stops _ rfl).elim

theorem Task.Discreet.leavesRecord (discreet : task.Discreet context) :
    task.LeavesRecord context :=
  fun world => (discreet world).imp fun _ _ quiet => quiet.1

theorem Task.Executed.record_eq (executed : task.Executed context world result entries after)
    (leaves : task.LeavesRecord context) : after.record = world.record ++ entries := by
  have kept := leaves (task.begun world)
  unfold Run.Ends at kept
  cases executed with
  | spared => rfl
  | done _ ran | skipped _ _ ran | failed _ _ ran =>
      rw [ran] at kept
      exact congrArg (· ++ _) kept
  | broken _ _ ran =>
      rw [ran] at kept
      exact kept.trans (List.append_nil _).symm

theorem Task.Executed.exists_entry
    (executed : task.Executed context world (.ok ()) entries after) :
    ∃ entry, entries = [entry] ∧ entry.name = task.name ∧ entry.status ≠ .failed := by
  cases executed with
  | spared | done | skipped => exact ⟨_, rfl, rfl, by simp⟩

/-- Tasks are executed one after the other, up to the first that does not succeed. -/
inductive Executions (context : Context) :
    List Task → World → Except Stop Unit → List TaskEntry → World → Prop
  | none (world : World) : Executions context [] world (.ok ()) [] world
  | next {task : Task} {rest : List Task} {world middle after : World} {entry : TaskEntry}
      {entries : List TaskEntry} {result : Except Stop Unit}
      (first : task.Executed context world (.ok ()) [entry] middle)
      (others : Executions context rest middle result entries after) :
      Executions context (task :: rest) world result (entry :: entries) after
  | stop {task : Task} {rest : List Task} {world after : World} {entries : List TaskEntry}
      {stop : Stop} (last : task.Executed context world (.error stop) entries after) :
      Executions context (task :: rest) world (.error stop) entries after

theorem executeAll_executions (context : Context) (tasks : List Task) (world : World) :
    (executeAll context tasks).Ends world fun result after =>
      ∃ entries, Executions context tasks world result entries after := by
  induction tasks generalizing world with
  | nil => exact ⟨[], .none world⟩
  | cons task rest ih =>
      simp only [executeAll, Run.ends_bind]
      refine (task.execute_executed context world).imp ?_
      rintro (stop | _) middle ⟨entries, executed⟩
      · exact ⟨entries, .stop executed⟩
      · obtain ⟨entry, rfl, _⟩ := executed.exists_entry
        refine (ih middle).imp ?_
        rintro result after ⟨more, others⟩
        exact ⟨entry :: more, .next executed others⟩

theorem Executions.record_eq (executions : Executions context tasks world result entries after)
    (leave : ∀ task ∈ tasks, task.LeavesRecord context) :
    after.record = world.record ++ entries := by
  induction executions with
  | none => simp
  | @next task rest world middle after entry entries result first others ih =>
      rw [ih fun other member => leave other (by simp [member]),
        first.record_eq (leave task (by simp)), List.append_assoc]
      rfl
  | stop last => exact last.record_eq (leave _ (by simp))

theorem Executions.names_prefix (executions : Executions context tasks world result entries after) :
    entries.map TaskEntry.name <+: tasks.map Task.name := by
  induction executions with
  | none => exact List.prefix_refl _
  | @next task rest _ _ _ entry _ _ first others ih =>
      obtain ⟨_, ⟨⟩, named, _⟩ := first.exists_entry
      rw [List.map_cons, List.map_cons, named]
      exact List.prefix_cons_inj _ |>.2 ih
  | stop last => cases last <;> simp

/-- All tasks succeed exactly if each has an entry and none of these tells of a failure. -/
theorem Executions.eq_ok_iff (executions : Executions context tasks world result entries after) :
    result = .ok () ↔ entries.map TaskEntry.name = tasks.map Task.name ∧
      ∀ entry ∈ entries, entry.status ≠ .failed := by
  induction executions with
  | none => simp
  | next first others ih =>
      obtain ⟨_, ⟨⟩, named, fine⟩ := first.exists_entry
      simp [ih, named, fine]
  | stop last => cases last <;> simp

/-- Where a failure stops the tasks: one task was next, it failed, and it left the rest of the world
as it is in the end. -/
structure FailsAt (context : Context) (tasks : List Task) (world : World) (failure : Failure)
    (task : Task) (left : World) : Prop where
  exists_moment : ∃ done rest moment, tasks = done ++ task :: rest ∧
    executeAll context done world = .ok () moment ∧ task.applies context moment.files ∧
      task.run context (task.begun moment) = .error (.failure failure) left

/-- The entry of the task that fails is the last one, and the only one that tells of a failure. -/
theorem Executions.exists_failsAt {failure : Failure}
    (executions : Executions context tasks world (.error (.failure failure)) entries after) :
    ∃ before task left, FailsAt context tasks world failure task left ∧
      entries = before ++ [⟨task.name, .failed, some failure.fullMessage⟩] ∧
      (∀ entry ∈ before, entry.status ≠ .failed) ∧
      after = left.recording ⟨task.name, .failed, some failure.fullMessage⟩ := by
  generalize ended : (Except.error (Stop.failure failure) : Except Stop Unit) = result
    at executions
  induction executions with
  | none => cases ended
  | @next task rest world middle after entry entries result first others ih =>
      obtain ⟨_, ⟨⟩, _, fine⟩ := first.exists_entry
      obtain ⟨before, failing, left, ⟨done, more, moment, rfl, executed, applies, ran⟩, rfl,
        fineBefore, same⟩ := ih ended
      refine ⟨entry :: before, failing, left, ⟨task :: done, more, moment, rfl, ?_, applies, ran⟩,
        rfl, ?_, same⟩
      · exact (executeAll_cons_of_ok first.execute_eq).trans executed
      · simpa [fine] using fineBefore
  | @stop task rest world after entries stop last =>
      cases ended
      cases last with
      | @failed left applies _ ran =>
          exact ⟨[], task, left, ⟨[], rest, world, rfl, rfl, applies, ran⟩, rfl, by simp, rfl⟩

theorem record_copy (tool : SyncTool) (source destination : Path) (mode : CopyMode)
    (world : World) :
    (Run.copy tool source destination mode).Ends world fun _ after =>
      after.record = world.record := by
  unfold Run.copy
  split <;> exact rfl

theorem record_injectSkeleton (context : Context) (skeleton : Path) (world : World) :
    (injectSkeleton context skeleton).Ends world fun _ after => after.record = world.record := by
  simp only [injectSkeleton, Run.ends_bind, Run.ends_files]
  split
  · exact rfl
  · simp only [Run.debug, Run.ends_bind, Run.ends_report]
    refine (record_copy _ _ _ _ _).imp ?_
    rintro (stop | fault | output) after kept
    · exact kept
    · exact kept
    · dsimp only
      split <;> simpa [Run.warn, Run.ends_map, Except.map] using kept

/-- No step writes into the record, not even one that asks for a copy to nowhere. -/
theorem leavesRecord_of_mem_steps (context : Context) {task : Task} (member : task ∈ steps) :
    task.LeavesRecord context := by
  rw [steps_eq_injectSkeletons] at member
  simp only [List.mem_append, List.mem_cons] at member
  rcases member with before | rfl | rfl | behind
  · exact (asks_nothing_before before).discreet.leavesRecord
  · intro world
    simp only [injectSkeletons, Run.ends_bind]
    refine (record_injectSkeleton _ _ world).imp ?_
    rintro (stop | copied) middle first
    · exact first
    · refine (record_injectSkeleton _ _ middle).imp ?_
      rintro (stop | alsoCopied) after second
      · exact second.trans first
      · dsimp only
        split <;> exact second.trans first
  · intro world
    have made : (applyTransfers.run context).Ends world (Run.Made Run.IsFailure _ world) :=
      made_applyTransfers world
    exact made.imp fun _ _ made => made.record
  · exact (asks_nothing_behind behind).discreet.leavesRecord

/-- Where the homes are apart, a run ends as its steps do. -/
theorem ends_provision_of_executeAll (single : isNested context world.files = false)
    (apart : isPassThrough world.files context.layout = false)
    {condition : Except Stop Outcome → World → Prop} :
    (provision context).Ends world condition ↔
      (executeAll context steps).Ends world fun result after =>
        condition (result.map fun _ => ⟨context.layout.hostHome, context.script⟩) after := by
  unfold Run.Ends
  rw [provision_of_executeAll single apart]
  simp only [bind, EStateM.bind]
  cases executeAll context steps world <;> rfl

/-- The entries tell what became of a run of all steps.  They are those of the first steps.  The run
succeeds exactly if there is an entry for each step and none tells of a failure.  If it fails, the
last entry alone is that of a failure, with all words of it, and nothing happens behind the step
that failed. -/
structure Recounts (context : Context) (world : World) (result : Except Stop Outcome)
    (entries : List TaskEntry) (after : World) : Prop where
  names : entries.map TaskEntry.name <+: steps.map Task.name
  succeeds : (∃ outcome, result = .ok outcome) ↔
    entries.map TaskEntry.name = steps.map Task.name ∧ ∀ entry ∈ entries, entry.status ≠ .failed
  fails : ∀ failure, result = .error (.failure failure) → ∃ before task left,
    FailsAt context steps world failure task left ∧
      entries = before ++ [⟨task.name, .failed, some failure.fullMessage⟩] ∧
      (∀ entry ∈ before, entry.status ≠ .failed) ∧
      after.files = left.files ∧ after.calls = left.calls

/-- A run that is refused, or passes through, records nothing, calls nobody and changes no file.
Every other run adds entries to the record that tell what became of it. -/
theorem provision_recounts (context : Context) (world : World) :
    (provision context).Ends world fun result after =>
      ((isNested context world.files ∨ isPassThrough world.files context.layout) ∧
        after.record = world.record ∧ after.calls = world.calls ∧ after.files = world.files) ∨
      (isNested context world.files = false ∧
        isPassThrough world.files context.layout = false ∧
        ∃ entries, after.record = world.record ++ entries ∧
          Recounts context world result entries after) := by
  cases nested : isNested context world.files with
  | true =>
      unfold Run.Ends
      rw [provision_of_isNested nested]
      exact .inl ⟨.inl rfl, rfl, rfl, rfl⟩
  | false =>
      cases passes : isPassThrough world.files context.layout with
      | true =>
          obtain ⟨events, passed⟩ := provision_eq_of_isPassThrough nested passes
          unfold Run.Ends
          rw [passed]
          exact .inl ⟨.inr rfl, rfl, rfl, rfl⟩
      | false =>
          rw [ends_provision_of_executeAll nested passes]
          refine (executeAll_executions context steps world).imp ?_
          rintro result after ⟨entries, executions⟩
          have record := executions.record_eq fun task => leavesRecord_of_mem_steps context
          refine .inr ⟨rfl, rfl, entries, record, executions.names_prefix, ?_, ?_⟩
          · rw [← executions.eq_ok_iff]
            cases result <;> simp [Except.map]
          · intro failure failed
            cases result with
            | ok => cases failed
            | error stop =>
                cases failed
                obtain ⟨before, task, left, failsAt, spelled, fine, rfl⟩ := executions.exists_failsAt
                exact ⟨before, task, left, failsAt, spelled, fine, rfl, rfl⟩

/-- The context of a run that writes scripts for a program that cannot be found. -/
def lostProgramContext : Context := { homeContext with script := true }

/-- The program is missed by the last step alone. -/
theorem exists_ready_lostProgramContext :
    ∃ ready, executeAll lostProgramContext steps.dropLast { files := homeFiles } = .ok () ready ∧
      ready.environment.findProgram? ready.files lostProgramContext.entryPoint = none := by
  have checked : (match executeAll lostProgramContext steps.dropLast { files := homeFiles } with
      | .ok _ ready =>
          (ready.environment.findProgram? ready.files lostProgramContext.entryPoint).isNone
      | .error _ _ => false) = true := by cbv
  split at checked
  · next ready executed => exact ⟨ready, executed, by simpa using checked⟩
  · cases checked

/-- Scripts are not written for a program that cannot be found. -/
theorem writeScripts_of_lost (scripts : context.script)
    (lost : world.environment.findProgram? world.files context.entryPoint = none) :
    (executeAll context [writeScripts]).Ends world fun result after =>
      (∃ stop, result = .error stop) ∧
        ∃ entry, entry.name = writeScripts.name ∧ after.record = world.record ++ [entry] := by
  simp only [executeAll, Run.ends_bind]
  rw [Task.ends_execute_of_applies scripts]
  simp [writeScripts, Run.findProgram?, Run.ends_fail, lost]

/-- The last step may fail, and then a run that fails has an entry for each step. -/
theorem not_all_recorded_iff_ok :
    ¬ ∀ (context : Context) (world : World), isNested context world.files = false →
      isPassThrough world.files context.layout = false →
      ∀ entries, ((provision context).worldAfter world).record = world.record ++ entries →
        (entries.map TaskEntry.name = steps.map Task.name ↔
          ∃ outcome after, provision context world = .ok outcome after) := by
  intro claimed
  have single : isNested lostProgramContext homeFiles = false := by cbv
  have apart : isPassThrough homeFiles lostProgramContext.layout = false := by cbv
  obtain ⟨ready, reached, lost⟩ := exists_ready_lostProgramContext
  obtain ⟨stop, after, failed, last, named, recorded⟩ :=
    (writeScripts_of_lost rfl lost).exists_error
  obtain ⟨entries, executions⟩ := (executeAll_executions _ _ _).of_ok reached
  have recordedBefore : ready.record = [] ++ entries := executions.record_eq fun task member =>
    leavesRecord_of_mem_steps _ (List.mem_of_mem_dropLast member)
  have allNamed : (entries ++ [last]).map TaskEntry.name = steps.map Task.name := by
    rw [List.map_append, (executions.eq_ok_iff.1 rfl).1, List.map_singleton, named]
    rfl
  have executed : executeAll lostProgramContext steps { files := homeFiles } = .error stop after :=
    (executeAll_append_of_ok reached).trans failed
  have recordedAfter : ((provision lostProgramContext).worldAfter { files := homeFiles }).record =
      [] ++ (entries ++ [last]) := by
    rw [worldAfter_provision_of_executeAll single apart, Run.worldAfter, executed]
    exact recorded.trans (congrArg (· ++ [last]) recordedBefore)
  obtain ⟨outcome, later, succeeded⟩ :=
    (claimed lostProgramContext _ single apart _ recordedAfter).1 allNamed
  have alsoExecuted := (provision_eq_ok succeeded).2.resolve_left (by simp [apart])
  rw [executed] at alsoExecuted
  cases alsoExecuted.2.2

end Provision

end HostHome
