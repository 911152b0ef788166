import HostHome.Proofs.Provision.Checks

/-!
# Tasks that are attempted one after the other

Each task is attempted, whatever became of those before it.  So the record has one
entry for each of them, and it tells what became of the task on the files that were
left to it.
-/

namespace HostHome.Provision

open HostHome.Log (Event TaskEntry TaskStatus)
open Run (IsFailure)

variable {world after : World} {before holds : FileSystem → Prop} {scratch : Path} {task : Task}
  {tasks : List Task} {context : Context} {entry : TaskEntry} {entries : List TaskEntry}
  {events more : List Event}

def TaskResult.status : TaskResult → TaskStatus
  | done => .ok
  | skipped _ => .skipped

/-- What is recorded of the task, if it comes to it in the given world. -/
def Task.statusAt (task : Task) (context : Context) (moment : World) : TaskStatus :=
  if task.applies context moment.files then
    match task.run context moment with
    | .ok value _ => value.status
    | .error _ _ => .failed
  else .notApplicable

theorem Task.statusAt_eq {moment : World} {value : TaskResult}
    (applies : task.applies context moment.files)
    (ends : (task.run context).Ends moment fun result _ => result = .ok value) :
    task.statusAt context moment = value.status := by
  unfold Run.Ends at ends
  unfold Task.statusAt
  rw [if_pos applies]
  split at ends
  · next other after ran =>
      cases ends
      rw [ran]
  · cases ends

/-- The entry tells what became of the task in some world, of whose files the condition holds.  If
the task succeeded there, its reports are among the events. -/
structure Task.Attests (task : Task) (context : Context) (holds : FileSystem → Prop)
    (events : List Event) (entry : TaskEntry) : Prop where
  name_eq : entry.name = task.name
  exists_moment : ∃ moment, holds moment.files ∧ entry.status = task.statusAt context moment ∧
    ∀ value after, task.applies context moment.files → task.run context moment = .ok value after →
      ∃ told, after.events = moment.events ++ told ∧ told ⊆ events

theorem Task.Attests.mono (attests : task.Attests context holds events entry)
    (within : events ⊆ more) : task.Attests context holds more entry := by
  obtain ⟨moment, start, status, reports⟩ := attests.exists_moment
  refine ⟨attests.name_eq, moment, start, status, fun value after applies ran => ?_⟩
  obtain ⟨told, reported, among⟩ := reports value after applies ran
  exact ⟨told, reported, fun _ member => within (among member)⟩

theorem Task.Attests.exists_run (attests : task.Attests context holds events entry)
    (ended : entry.status = .ok ∨ entry.status = .skipped) :
    ∃ moment value after told, holds moment.files ∧ task.applies context moment.files ∧
      task.run context moment = .ok value after ∧ entry.status = value.status ∧
      after.events = moment.events ++ told ∧ told ⊆ events := by
  obtain ⟨moment, start, status, reports⟩ := attests.exists_moment
  unfold Task.statusAt at status
  split at status
  · next applies =>
      split at status
      · next value after ran =>
          obtain ⟨told, reported, among⟩ := reports value after applies ran
          exact ⟨moment, value, after, told, start, applies, ran, status, reported, among⟩
      · simp [status] at ended
  · simp [status] at ended

def AttestEach (context : Context) (holds : FileSystem → Prop) (events : List Event)
    (tasks : List Task) (entries : List TaskEntry) : Prop :=
  List.Forall₂ (fun task entry => task.Attests context holds events entry) tasks entries

theorem AttestEach.mono (attest : AttestEach context holds events tasks entries)
    (within : events ⊆ more) : AttestEach context holds more tasks entries :=
  List.Forall₂.imp (fun _ _ attests => attests.mono within) attest

theorem AttestEach.map_name_eq (attest : AttestEach context holds events tasks entries) :
    entries.map TaskEntry.name = tasks.map Task.name := by
  unfold AttestEach at attest
  induction attest with
  | nil => rfl
  | cons attests _ ih => rw [List.map_cons, List.map_cons, attests.name_eq, ih]

theorem AttestEach.exists_entry (attest : AttestEach context holds events tasks entries)
    (listed : task ∈ tasks) : ∃ entry ∈ entries, task.Attests context holds events entry := by
  unfold AttestEach at attest
  induction attest with
  | nil => cases listed
  | @cons first entry tasks entries attests rest ih =>
      rcases List.mem_cons.1 listed with rfl | listed
      · exact ⟨entry, by simp, attests⟩
      · obtain ⟨found, member, attestsFound⟩ := ih listed
        exact ⟨found, by simp [member], attestsFound⟩

theorem AttestEach.mem_of_statusAt {status : TaskStatus}
    (attest : AttestEach context holds events tasks entries) (listed : task ∈ tasks)
    (each : ∀ moment : World, holds moment.files → task.statusAt context moment = status) :
    ∃ message, ⟨task.name, status, message⟩ ∈ entries := by
  obtain ⟨⟨name, found, message⟩, member, attests⟩ := attest.exists_entry listed
  obtain ⟨moment, start, same, _⟩ := attests.exists_moment
  obtain rfl : name = task.name := attests.name_eq
  obtain rfl : found = status := same.trans (each moment start)
  exact ⟨message, member⟩

/-- If the tasks have different names, an entry under the name of a task tells of it. -/
theorem AttestEach.attests (attest : AttestEach context holds events tasks entries)
    (nodup : (tasks.map Task.name).Nodup) (listed : task ∈ tasks) (member : entry ∈ entries)
    (named : entry.name = task.name) : task.Attests context holds events entry := by
  unfold AttestEach at attest
  induction attest with
  | nil => cases member
  | @cons other first tasks entries attests rest ih =>
      rw [List.map_cons, List.nodup_cons] at nodup
      obtain ⟨fresh, nodup⟩ := nodup
      have names := AttestEach.map_name_eq rest
      rcases List.mem_cons.1 member with rfl | member
      · rcases List.mem_cons.1 listed with rfl | listed
        · exact attests
        · rw [← attests.name_eq, named] at fresh
          exact absurd (List.mem_map_of_mem listed) fresh
      · rcases List.mem_cons.1 listed with rfl | listed
        · rw [← named, ← names] at fresh
          exact absurd (List.mem_map_of_mem member) fresh
        · exact ih nodup listed member

/-- Later the condition holds of the files, and the record and the events are longer. -/
structure Lengthens (holds : FileSystem → Prop) (scratch : Path) (entries : List TaskEntry)
    (events : List Event) (world after : World) : Prop where
  stands : Stands holds scratch after
  record : after.record = world.record ++ entries
  events : after.events = world.events ++ events

theorem Lengthens.trans {entries others : List TaskEntry} {middle : World}
    (first : Lengthens before scratch entries events world middle)
    (second : Lengthens holds scratch others more middle after) :
    Lengthens holds scratch (entries ++ others) (events ++ more) world after := by
  refine ⟨second.stands, ?_, ?_⟩
  · rw [second.record, first.record, List.append_assoc]
  · rw [second.events, first.events, List.append_assoc]

theorem lengthens_report (stands : Stands holds scratch world) (event : Event) :
    Lengthens holds scratch [] [event] world { world with events := world.events ++ [event] } :=
  ⟨⟨stands.files, stands.scratch⟩, by simp, rfl⟩

theorem lengthens_record (stands : Stands holds scratch world) (entry : TaskEntry) :
    Lengthens holds scratch [entry] [] world { world with record := world.record ++ [entry] } :=
  ⟨⟨stands.files, stands.scratch⟩, rfl, by simp⟩

theorem Task.execute_lengthens (leads : Leads before holds scratch (task.run context))
    (spared : ∀ {files}, before files → task.applies context files = false → holds files)
    (stands : Stands before scratch world) :
    (task.execute context).Ends world fun result after =>
      (∀ stop, result = .error stop → IsFailure stop) ∧ ∃ entry events,
        Lengthens holds scratch [entry] events world after ∧
          task.Attests context before events entry := by
  cases applies : task.applies context world.files with
  | false =>
      rw [Task.ends_execute_of_spared applies]
      refine ⟨by simp, _, _, ⟨⟨spared stands.files applies, stands.scratch⟩, rfl, rfl⟩, rfl,
        world, stands.files, ?_, ?_⟩
      · simp [Task.statusAt, applies]
      · simp [applies]
  | true =>
      rw [Task.ends_execute_of_applies applies]
      have begun := lengthens_report stands ⟨.debug, "running task: " ++ task.name⟩
      refine ((leads _ begun.stands).and (Run.ends_self _ _)).imp ?_
      rintro (stop | value) after ⟨⟨⟨standsAfter, record, told, reported⟩, stops⟩, ran⟩
      all_goals
        have longer := begun.trans
          ⟨standsAfter, record.trans (List.append_nil _).symm, reported⟩
      · cases stop with
        | violation => exact (stops _ rfl).elim
        | failure failure =>
            refine ⟨?_, _, _, longer.trans (lengthens_record standsAfter
              ⟨task.name, .failed, some failure.fullMessage⟩), rfl, _, begun.stands.files, ?_, ?_⟩
            · rintro _ ⟨⟩
              trivial
            · simp only [Task.statusAt, applies, if_true, ran]
            · intro value other _ ranOther
              rw [ran] at ranOther
              cases ranOther
      · have attested {entry : TaskEntry} {events : List Event} (named : entry.name = task.name)
            (status : entry.status = value.status) (within : told ⊆ events) :
            task.Attests context before events entry := by
          refine ⟨named, _, begun.stands.files, ?_, fun _ _ _ ranOther => ?_⟩
          · simp only [status, Task.statusAt, applies, if_true, ran]
          · rw [ran] at ranOther
            cases ranOther
            exact ⟨told, reported, within⟩
        cases value with
        | done =>
            refine ⟨by simp, _, _, longer.trans (lengthens_record standsAfter
              ⟨task.name, .ok, none⟩), attested rfl rfl ?_⟩
            intro event member
            simp [member]
        | skipped reason =>
            have skipped := lengthens_report standsAfter
              ⟨.debug, task.name ++ ": skipped: " ++ reason⟩
            refine ⟨by simp, _, _, (longer.trans skipped).trans (lengthens_record skipped.stands
              ⟨task.name, .skipped, some reason⟩), attested rfl rfl ?_⟩
            intro event member
            simp [member]

theorem Task.attempt_lengthens (leads : Leads before holds scratch (task.run context))
    (spared : ∀ {files}, before files → task.applies context files = false → holds files)
    (stands : Stands before scratch world) :
    (task.attempt context).Ends world fun result after => result = .ok () ∧ ∃ entry events,
      Lengthens holds scratch [entry] events world after ∧
        task.Attests context before events entry := by
  have begun := lengthens_report stands ⟨.stage, task.name⟩
  simp only [Task.attempt, Run.stage, Run.ends_bind, Run.ends_report, Run.ends_tryCatch]
  refine (Task.execute_lengthens leads spared begun.stands).imp ?_
  rintro (stop | _) after ⟨stops, entry, events, longer, attests⟩
  · cases stop with
    | violation => exact (stops _ rfl).elim
    | failure failure =>
        have told := lengthens_report longer.stands
          ⟨.error, task.name ++ ": " ++ failure.fullMessage⟩
        refine ⟨rfl, entry, _, (begun.trans longer).trans told, attests.mono ?_⟩
        intro event member
        simp [member]
  · exact ⟨trivial, entry, _, begun.trans longer, attests.mono (List.subset_append_right _ _)⟩

/-- Whatever became of the others, each task is attempted once. -/
theorem attemptAll_lengthens
    (each : ∀ task ∈ tasks, Preserves holds scratch (task.run context))
    (stands : Stands holds scratch world) :
    (attemptAll context tasks).Ends world fun result after => result = .ok () ∧
      ∃ entries events, Lengthens holds scratch entries events world after ∧
        AttestEach context holds events tasks entries := by
  induction tasks generalizing world with
  | nil => exact ⟨rfl, [], [], ⟨stands, by simp, by simp⟩, .nil⟩
  | cons task rest ih =>
      simp only [attemptAll, Run.ends_bind]
      refine (Task.attempt_lengthens (each task (by simp)) (fun start _ => start) stands).imp ?_
      rintro _ middle ⟨rfl, entry, events, first, attests⟩
      refine (ih (fun other member => each other (by simp [member])) first.stands).imp ?_
      rintro _ after ⟨rfl, entries, more, others, attestsOthers⟩
      refine ⟨rfl, entry :: entries, events ++ more, first.trans others, .cons ?_ ?_⟩
      · exact attests.mono (List.subset_append_left _ _)
      · exact attestsOthers.mono (List.subset_append_right _ _)

theorem attemptAll_append (front back : List Task) :
    attemptAll context (front ++ back) =
      attemptAll context front >>= fun _ => attemptAll context back := by
  induction front with
  | nil => rfl
  | cons task rest ih => simp only [List.cons_append, attemptAll, ih, bind_assoc]

theorem runToCompletion_lengthens {tells : List TaskEntry → List Event → Prop}
    (attempts : (attemptAll context tasks).Ends world fun result after => result = .ok () ∧
      ∃ entries events, Lengthens holds scratch entries events world after ∧ tells entries events)
    (mono : ∀ {entries events more}, tells entries events → tells entries (events ++ more)) :
    (runToCompletion context tasks).Ends world fun _ after =>
      ∃ entries events, Lengthens holds scratch entries events world after ∧
        tells entries events := by
  simp only [runToCompletion, Run.ends_bind, Run.ends_summarize, Run.ends_get]
  refine attempts.imp ?_
  rintro _ middle ⟨rfl, entries, events, longer, told⟩
  have summarized : Lengthens holds scratch [] (Log.summary middle.record middle.logFile) middle
      { middle with events := middle.events ++ Log.summary middle.record middle.logFile } :=
    ⟨⟨longer.stands.files, longer.stands.scratch⟩, by simp, rfl⟩
  have whole := longer.trans summarized
  rw [List.append_nil] at whole
  dsimp only
  split <;> exact ⟨entries, _, whole, mono told⟩

end HostHome.Provision
