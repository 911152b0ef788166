import HostHome.Proofs.Provision.Executions

/-!
# What a run records

Each step that a run comes to adds one entry to the record, and nothing else does.
The names of the steps are different.  So what the record tells of a step is what
became of it at the moment at which the run came to it.
-/

namespace HostHome.Provision

open HostHome.Log (TaskEntry TaskStatus)

variable {context : Context} {task : Task} {files : FileSystem} {world moment : World}
  {entry : TaskEntry} {status : TaskStatus} {done : List Task}

/-- The entry tells what became of a task that was executed on the files, with this result. -/
inductive Task.Tells (task : Task) (context : Context) (files : FileSystem) :
    Except Stop Unit → TaskEntry → Prop
  | spared (spared : task.applies context files = false) :
      Tells task context files (.ok ()) ⟨task.name, .notApplicable, none⟩
  | done (applies : task.applies context files) :
      Tells task context files (.ok ()) ⟨task.name, .ok, none⟩
  | skipped (applies : task.applies context files) (reason : String) :
      Tells task context files (.ok ()) ⟨task.name, .skipped, some reason⟩
  | failed (applies : task.applies context files) (failure : Failure) :
      Tells task context files (.error (.failure failure))
        ⟨task.name, .failed, some failure.fullMessage⟩

/-- Executed at the moment, the task adds the entry to the record, and it tells what became of
it. -/
def Task.Enters (task : Task) (context : Context) (moment : World) (entry : TaskEntry) : Prop :=
  (task.execute context).Ends moment fun result after =>
    after.record = moment.record ++ [entry] ∧ task.Tells context moment.files result entry

theorem Task.Tells.name_eq {result : Except Stop Unit}
    (tells : task.Tells context files result entry) : entry.name = task.name := by
  cases tells <;> rfl

theorem Task.Tells.status_eq_notApplicable_iff {result : Except Stop Unit}
    (tells : task.Tells context files result entry) :
    entry.status = .notApplicable ↔ task.applies context files = false := by
  cases tells <;> simp_all

theorem Task.Tells.status_eq_failed_iff {result : Except Stop Unit}
    (tells : task.Tells context files result entry) :
    entry.status = .failed ↔ result ≠ .ok () := by
  cases tells <;> simp

theorem Task.Executed.tells {result : Except Stop Unit} {after : World}
    (executed : task.Executed context world result [entry] after) :
    task.Tells context world.files result entry := by
  cases executed with
  | spared spared => exact .spared spared
  | done applies => exact .done applies
  | skipped applies reason => exact .skipped applies reason
  | failed applies failure => exact .failed applies failure

theorem Task.Discreet.exists_enters (discreet : task.Discreet context) (moment : World) :
    ∃ entry, task.Enters context moment entry := by
  have ends := discreet.orderly.execute_executed moment
  unfold Run.Ends at ends
  unfold Enters Run.Ends
  split at ends <;>
    · obtain ⟨entry, executed⟩ := ends
      exact ⟨entry, executed.record_eq discreet.leavesRecord, executed.tells⟩

theorem Task.Enters.exists_tells (enters : task.Enters context moment entry) :
    ∃ result, task.Tells context moment.files result entry ∧
      (result = .ok () ↔ ∃ after, task.execute context moment = .ok () after) := by
  unfold Enters Run.Ends at enters
  split at enters <;> next ended => exact ⟨_, enters.2, by simp [ended]⟩

theorem Task.Enters.unique {other : TaskEntry} (enters : task.Enters context moment entry)
    (also : task.Enters context moment other) : entry = other := by
  unfold Enters Run.Ends at enters also
  split at enters <;> next ended =>
    rw [ended] at also
    exact List.singleton_inj.1 (List.append_cancel_left (enters.1.symm.trans also.1))

theorem executeAll_enters {tasks : List Task} (discreet : ∀ task ∈ tasks, task.Discreet context)
    (world : World) :
    (executeAll context tasks).Ends world fun _ after =>
      ∃ entries, after.record = world.record ++ entries ∧ ∀ entry ∈ entries,
        ∃ done task rest moment, tasks = done ++ task :: rest ∧
          executeAll context done world = .ok () moment ∧ task.Enters context moment entry := by
  induction tasks generalizing world with
  | nil => exact ⟨[], by simp, by simp⟩
  | cons task rest ih =>
      obtain ⟨entry, enters⟩ := (discreet task (by simp)).exists_enters world
      have first : ∃ done next more moment, task :: rest = done ++ next :: more ∧
          executeAll context done world = .ok () moment ∧ next.Enters context moment entry :=
        ⟨[], task, rest, world, rfl, rfl, enters⟩
      simp only [executeAll, Run.ends_bind]
      refine (enters.and (Run.ends_self _ world)).imp ?_
      rintro (stop | _) middle ⟨⟨record, _⟩, executed⟩
      · exact ⟨[entry], record, by simpa using first⟩
      · refine (ih (fun other member => discreet other (by simp [member])) middle).imp ?_
        rintro result after ⟨entries, others, behind⟩
        refine ⟨entry :: entries, by rw [others, record, List.append_assoc]; rfl, ?_⟩
        intro other member
        rcases List.mem_cons.1 member with rfl | member
        · exact first
        · obtain ⟨done, next, more, moment, rfl, before, entersNext⟩ := behind other member
          exact ⟨task :: done, next, more, moment, rfl,
            (executeAll_cons_of_ok executed).trans before, entersNext⟩

def Records (context : Context) (world : World) (task : Task) (status : TaskStatus) : Prop :=
  ∃ entries message, ((provision context).worldAfter world).record = world.record ++ entries ∧
    ⟨task.name, status, message⟩ ∈ entries

theorem records_iff_of_record {entries : List TaskEntry}
    (recorded : ((provision context).worldAfter world).record = world.record ++ entries) :
    Records context world task status ↔ ∃ message, ⟨task.name, status, message⟩ ∈ entries := by
  constructor
  · rintro ⟨found, message, also, listed⟩
    obtain rfl := List.append_cancel_left (also.symm.trans recorded)
    exact ⟨message, listed⟩
  · rintro ⟨message, listed⟩
    exact ⟨entries, message, recorded, listed⟩

/-- The run records that it executed a task: whatever became of it, it was applicable. -/
def Executes (context : Context) (world : World) (task : Task) : Prop :=
  ∃ status, status ≠ .notApplicable ∧ Records context world task status

def Completes (context : Context) (world : World) (task : Task) : Prop :=
  Records context world task .ok ∨ Records context world task .skipped

theorem nodup_names_steps : (steps.map Task.name).Nodup := by decide

theorem before_eq_of_steps {before other behind more : List Task}
    (ahead : steps = before ++ task :: behind) (also : steps = other ++ task :: more) :
    before = other := by
  have nodup := List.Nodup.of_map Task.name nodup_names_steps
  rw [ahead, List.nodup_middle, List.nodup_cons, List.mem_append, not_or] at nodup
  exact ((List.append_cons_inj_of_notMem nodup.1.1 nodup.1.2).1 (ahead.symm.trans also)).1

theorem Reaches.mem_steps (reaches : Reaches context world done task moment) : task ∈ steps := by
  obtain ⟨rest, ahead⟩ := reaches.ahead
  simp [ahead]

/-- What a run records of a step is what became of it at the moment at which the run came to it. -/
theorem Records.exists_reaches (proper : Proper context.layout) {rest : List Task}
    (ahead : steps = done ++ task :: rest) (records : Records context world task status) :
    ∃ moment message, Reaches context world done task moment ∧
      task.Enters context moment ⟨task.name, status, message⟩ := by
  have each : ∀ step ∈ steps, step.Discreet context := fun _ => discreet_of_mem_steps proper
  obtain ⟨entries, message, record, listed⟩ := records
  rcases worldAfter_provision context world with ⟨single, apart⟩ | ⟨events, left⟩
  · obtain ⟨found, recordFound, behind⟩ := (executeAll_enters each world).worldAfter
    rw [worldAfter_provision_of_executeAll single apart] at record
    obtain rfl := List.append_cancel_left (record.symm.trans recordFound)
    obtain ⟨before, next, more, moment, aheadNext, executed, enters⟩ := behind _ listed
    obtain ⟨_, tells, _⟩ := enters.exists_tells
    obtain rfl : next = task := List.inj_on_of_nodup_map nodup_names_steps
      (by simp [aheadNext]) (by simp [ahead]) tells.name_eq.symm
    obtain rfl := before_eq_of_steps aheadNext ahead
    exact ⟨moment, message, ⟨single, apart, ⟨rest, ahead⟩, executed⟩, enters⟩
  · rw [left] at record
    obtain rfl := List.self_eq_append_right.1 record
    cases listed

theorem Reaches.records (proper : Proper context.layout)
    (reaches : Reaches context world done task moment) {message : Option String}
    (enters : task.Enters context moment ⟨task.name, status, message⟩) :
    Records context world task status := by
  obtain ⟨rest, ahead⟩ := reaches.ahead
  have each : ∀ step ∈ steps, step.Discreet context := fun _ => discreet_of_mem_steps proper
  obtain ⟨entries, before, _⟩ := (executeAll_enters
    (fun step member => each step (by simp [ahead, member])) world).of_ok reaches.executed
  have behind : (executeAll context (task :: rest)).Ends moment fun _ after =>
      ∃ more, after.record = moment.record ++ ⟨task.name, status, message⟩ :: more := by
    simp only [executeAll, Run.ends_bind]
    refine enters.imp ?_
    rintro (stop | _) after ⟨record, _⟩
    · exact ⟨[], record⟩
    · refine (executeAll_enters
        (fun step member => each step (by simp [ahead, member])) after).imp ?_
      rintro _ later ⟨more, others, _⟩
      exact ⟨more, by rw [others, record, List.append_assoc]; rfl⟩
  obtain ⟨more, record⟩ := behind.worldAfter
  refine ⟨entries ++ ⟨task.name, status, message⟩ :: more, message, ?_, by simp⟩
  rw [reaches.worldAfter_eq ahead, record, before, List.append_assoc]

theorem Reaches.records_iff (proper : Proper context.layout)
    (reaches : Reaches context world done task moment)
    (enters : task.Enters context moment entry) :
    Records context world task status ↔ entry.status = status := by
  constructor
  · intro records
    obtain ⟨rest, ahead⟩ := reaches.ahead
    obtain ⟨later, message, also, other⟩ := records.exists_reaches proper ahead
    cases also.executed.symm.trans reaches.executed
    rw [enters.unique other]
  · rintro rfl
    obtain ⟨_, tells, _⟩ := enters.exists_tells
    have named : task.Enters context moment ⟨task.name, entry.status, entry.message⟩ := by
      rw [← tells.name_eq]
      exact enters
    exact reaches.records proper named

theorem Reaches.exists_tells (proper : Proper context.layout)
    (reaches : Reaches context world done task moment) :
    ∃ entry result, (∀ status, Records context world task status ↔ entry.status = status) ∧
      task.Tells context moment.files result entry ∧
        (result = .ok () ↔ ∃ after, task.execute context moment = .ok () after) := by
  obtain ⟨entry, enters⟩ := (discreet_of_mem_steps proper reaches.mem_steps).exists_enters moment
  obtain ⟨result, tells, ended⟩ := enters.exists_tells
  exact ⟨entry, result, fun _ => reaches.records_iff proper enters, tells, ended⟩

theorem Reaches.records_notApplicable_iff (proper : Proper context.layout)
    (reaches : Reaches context world done task moment) :
    Records context world task .notApplicable ↔ task.applies context moment.files = false := by
  obtain ⟨entry, result, records, tells, _⟩ := reaches.exists_tells proper
  rw [records, tells.status_eq_notApplicable_iff]

theorem Reaches.executes_iff (proper : Proper context.layout)
    (reaches : Reaches context world done task moment) :
    Executes context world task ↔ task.applies context moment.files := by
  obtain ⟨entry, result, records, tells, _⟩ := reaches.exists_tells proper
  have spared := tells.status_eq_notApplicable_iff
  simp only [Executes, records]
  constructor
  · rintro ⟨_, applicable, rfl⟩
    simpa [spared] using applicable
  · intro applies
    exact ⟨entry.status, by simp [spared, applies], rfl⟩

theorem Reaches.records_failed_iff (proper : Proper context.layout)
    (reaches : Reaches context world done task moment) :
    Records context world task .failed ↔
      ¬ ∃ after, task.execute context moment = .ok () after := by
  obtain ⟨entry, result, records, tells, ended⟩ := reaches.exists_tells proper
  rw [records, tells.status_eq_failed_iff, ← ended]

theorem Reaches.completes_iff (proper : Proper context.layout)
    (reaches : Reaches context world done task moment) :
    Completes context world task ↔ task.applies context moment.files ∧
      ∃ after, task.execute context moment = .ok () after := by
  obtain ⟨entry, result, records, tells, ended⟩ := reaches.exists_tells proper
  simp only [Completes, records, ← ended]
  cases tells <;> simp_all

end HostHome.Provision
