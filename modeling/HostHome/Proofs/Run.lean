import Mathlib
import HostHome.Run

/-!
# How runs end

A run ends with a value or stops, and in both cases it leaves a world.  What holds
at the end of a run follows from what holds at the ends of its parts, in their
order.  So do the commands that a run makes: those of its parts, one after the
other.
-/

namespace HostHome.Run

open HostHome.Execution (Command Executor Answer)

variable {α β : Type} {world after : World}

/-- However the run ends, the condition holds of its result and of the world it leaves. -/
def Ends (run : Run α) (world : World) (condition : Except Stop α → World → Prop) : Prop :=
  match run world with
  | .ok value after => condition (.ok value) after
  | .error stop after => condition (.error stop) after

/-- The world that a run leaves, however it ends. -/
def worldAfter (run : Run α) (world : World) : World :=
  match run world with
  | .ok _ after => after
  | .error _ after => after

theorem files_bind (next : FileSystem → Run α) (world : World) :
    (files >>= next) world = next world.files world := rfl

section Conditions

variable {run : Run α} {condition weaker : Except Stop α → World → Prop}

theorem Ends.imp (ends : run.Ends world condition)
    (implies : ∀ result after, condition result after → weaker result after) :
    run.Ends world weaker := by
  unfold Ends at ends ⊢
  split <;> next ended => rw [ended] at ends; exact implies _ _ ends

theorem ends_of_forall (holds : ∀ result after, condition result after) :
    run.Ends world condition := by
  unfold Ends
  split <;> exact holds _ _

theorem Ends.and (ends : run.Ends world condition) (also : run.Ends world weaker) :
    run.Ends world fun result after => condition result after ∧ weaker result after := by
  unfold Ends at ends also ⊢
  split <;> next ended => rw [ended] at ends also; exact ⟨ends, also⟩

theorem Ends.of_ok (ends : run.Ends world condition) {value : α}
    (ended : run world = .ok value after) : condition (.ok value) after := by
  unfold Ends at ends
  rwa [ended] at ends

theorem ends_iff_of_eq_ok {value : α} (ended : run world = .ok value after) :
    run.Ends world condition ↔ condition (.ok value) after := by
  unfold Ends
  rw [ended]

theorem Ends.exists_ok {value : α} (ends : run.Ends world fun result after =>
      result = .ok value ∧ condition result after) :
    ∃ after, run world = .ok value after ∧ condition (.ok value) after := by
  unfold Ends at ends
  split at ends
  · next other after ended =>
      obtain ⟨same, holds⟩ := ends
      cases same
      exact ⟨after, ended, holds⟩
  · cases ends.1

theorem Ends.exists_error (ends : run.Ends world fun result after =>
      (∃ stop, result = .error stop) ∧ condition result after) :
    ∃ stop after, run world = .error stop after ∧ condition (.error stop) after := by
  unfold Ends at ends
  split at ends
  · obtain ⟨_, impossible⟩ := ends.1
    cases impossible
  · next stop after ended => exact ⟨stop, after, ended, ends.2⟩

theorem Ends.exists_ok_iff {result : Except Stop α} {value : α}
    (ends : run.Ends world fun found _ => found = result) :
    (∃ after, run world = .ok value after) ↔ result = .ok value := by
  unfold Ends at ends
  split at ends
  · next other after ended => simp [ended, ← ends]
  · next stop after ended => simp [ended, ← ends]

theorem Ends.exists_error_iff {result : Except Stop α} {stop : Stop}
    (ends : run.Ends world fun found _ => found = result) :
    (∃ after, run world = .error stop after) ↔ result = .error stop := by
  unfold Ends at ends
  split at ends
  · next value after ended => simp [ended, ← ends]
  · next other after ended => simp [ended, ← ends]

theorem ends_worldAfter (holds : World → Prop) :
    run.Ends world (fun _ after => holds after) ↔ holds (run.worldAfter world) := by
  unfold Ends worldAfter
  split <;> rfl

theorem Ends.worldAfter {holds : World → Prop} (ends : run.Ends world fun _ after => holds after) :
    holds (run.worldAfter world) :=
  (ends_worldAfter holds).1 ends

theorem ends_self (run : Run α) (world : World) :
    run.Ends world fun result after =>
      match result with
      | .ok value => run world = .ok value after
      | .error stop => run world = .error stop after := by
  unfold Ends
  split <;> next ended => exact ended

end Conditions

section Parts

variable {condition : Except Stop α → World → Prop}

@[simp]
theorem ends_pure (value : α) : (pure value : Run α).Ends world condition ↔
    condition (.ok value) world := Iff.rfl

@[simp]
theorem ends_throw (stop : Stop) : (throw stop : Run α).Ends world condition ↔
    condition (.error stop) world := Iff.rfl

@[simp]
theorem ends_bind (run : Run β) (next : β → Run α) :
    (run >>= next).Ends world condition ↔
      run.Ends world fun result after =>
        match result with
        | .ok value => (next value).Ends after condition
        | .error stop => condition (.error stop) after := by
  unfold Ends
  simp only [bind, EStateM.bind]
  cases run world <;> rfl

@[simp]
theorem ends_map (change : β → α) (run : Run β) :
    (change <$> run).Ends world condition ↔
      run.Ends world fun result after => condition (result.map change) after := by
  unfold Ends
  simp only [Functor.map, EStateM.map]
  cases run world <;> rfl

@[simp]
theorem ends_tryCatch (run : Run α) (handle : Stop → Run α) :
    (tryCatch run handle).Ends world condition ↔
      run.Ends world fun result after =>
        match result with
        | .ok value => condition (.ok value) after
        | .error stop => (handle stop).Ends after condition := by
  unfold Ends
  simp only [tryCatch, tryCatchThe, MonadExceptOf.tryCatch, EStateM.tryCatch]
  cases run world <;> rfl

@[simp]
theorem ends_fail (cause : Cause) : (fail cause : Run α).Ends world condition ↔
    condition (.error (.failure ⟨cause, []⟩)) world := Iff.rfl

theorem ends_ofExcept (result : Except Cause α) :
    (ofExcept result).Ends world condition ↔
      match result with
      | .ok value => condition (.ok value) world
      | .error cause => condition (.error (.failure ⟨cause, []⟩)) world := by
  cases result <;> rfl

end Parts

@[simp]
theorem ends_get {condition : Except Stop World → World → Prop} :
    (get : Run World).Ends world condition ↔ condition (.ok world) world := Iff.rfl

@[simp]
theorem ends_files {condition : Except Stop FileSystem → World → Prop} :
    files.Ends world condition ↔ condition (.ok world.files) world := Iff.rfl

section Silent

variable {condition : Except Stop Unit → World → Prop}

@[simp]
theorem ends_set (other : World) : (set other : Run Unit).Ends world condition ↔
    condition (.ok ()) other := Iff.rfl

@[simp]
theorem ends_setFiles (files : FileSystem) : (setFiles files).Ends world condition ↔
    condition (.ok ()) { world with files } := Iff.rfl

@[simp]
theorem ends_report (level : Log.Level) (message : String) :
    (report level message).Ends world condition ↔
      condition (.ok ()) { world with events := world.events ++ [⟨level, message⟩] } := Iff.rfl

@[simp]
theorem ends_record (name : String) (status : Log.TaskStatus) (message : Option String) :
    (record name status message).Ends world condition ↔
      condition (.ok ()) { world with record := world.record ++ [⟨name, status, message⟩] } :=
  Iff.rfl

@[simp]
theorem ends_summarize : summarize.Ends world condition ↔
    condition (.ok ()) { world with
      events := world.events ++ Log.summary world.record world.logFile } := Iff.rfl

theorem ends_change (request : FileSystem → Except SystemError FileSystem)
    (cause : SystemError → Cause) :
    (change request cause).Ends world condition ↔
      match request world.files with
      | .ok files => condition (.ok ()) { world with files }
      | .error error => condition (.error (.failure ⟨cause error, []⟩)) world := by
  simp only [change, ends_bind, ends_files]
  cases request world.files <;> rfl

theorem ends_changeStepwise (request : FileSystem → FileSystem × Except SystemError Unit)
    (cause : SystemError → Cause) :
    (changeStepwise request cause).Ends world condition ↔
      match request world.files with
      | (files, .ok ()) => condition (.ok ()) { world with files }
      | (files, .error error) =>
          condition (.error (.failure ⟨cause error, []⟩)) { world with files } := by
  simp only [changeStepwise, ends_bind, ends_files]
  generalize request world.files = changed
  obtain ⟨files, result⟩ := changed
  cases result <;> rfl

end Silent

/-- A command that changes no files is only noted. -/
theorem ends_command {executor : Executor} (keeps : executor.KeepsFiles) {command : Command}
    {condition : Except Stop Answer → World → Prop}
    (answered : ∀ answer, condition (.ok answer)
      { world with calls := world.calls ++ [command] }) :
    (Run.command executor command).Ends world condition := by
  simp only [Run.command, ends_bind, ends_get, ends_set, ends_pure]
  rw [keeps]
  exact answered _

theorem ends_copy {tool : SyncTool} (keeps : tool.executor.KeepsFiles) {source destination : Path}
    {mode : CopyMode} :
    (copy tool source destination mode).Ends world fun _ after => after.files = world.files := by
  unfold copy
  split
  · simp only [ends_throw]
  · exact ends_command keeps fun _ => rfl

section Commands

/-- The stop is a failure, and not a violation. -/
def IsFailure : Stop → Prop
  | .failure _ => True
  | .violation _ => False

/-- Nothing is recorded, the run stops only as it may, and if it does not stop, it has made the
calls. -/
structure Made (stops : Stop → Prop) (calls : List Command) (world : World)
    (result : Except Stop α) (after : World) : Prop where
  record : after.record = world.record
  stops : ∀ stop, result = .error stop → stops stop
  calls : result.isOk → after.calls = world.calls ++ calls

/-- In any world, the run records nothing, stops only as it may, and makes the calls. -/
def Makes (run : Run α) (stops : Stop → Prop) (calls : List Command) : Prop :=
  ∀ world, run.Ends world (Made stops calls world)

variable {stops : Stop → Prop} {calls : List Command}

theorem made_ok_iff {value : α} : Made stops calls world (.ok value) after ↔
    after.record = world.record ∧ after.calls = world.calls ++ calls := by
  constructor
  · exact fun made => ⟨made.record, made.calls rfl⟩
  · exact fun ⟨record, called⟩ => ⟨record, by simp, fun _ => called⟩

theorem made_error_iff {stop : Stop} : Made stops calls world (.error stop : Except Stop α) after ↔
    after.record = world.record ∧ stops stop := by
  constructor
  · exact fun made => ⟨made.record, made.stops stop rfl⟩
  · rintro ⟨record, allowed⟩
    refine ⟨record, ?_, by simp [Except.isOk, Except.toBool]⟩
    rintro _ same
    cases same
    exact allowed

theorem makes_pure (value : α) : (pure value : Run α).Makes stops [] :=
  fun _ => made_ok_iff.2 ⟨rfl, by simp⟩

theorem made_bind {run : Run β} {next : β → Run α} {more : List Command}
    (first : run.Ends world (Made stops calls world))
    (second : ∀ value, (next value).Makes stops more) :
    (run >>= next).Ends world (Made stops (calls ++ more) world) := by
  rw [ends_bind]
  refine first.imp ?_
  intro result middle made
  cases result with
  | error stop => exact made_error_iff.2 (made_error_iff.1 made)
  | ok value =>
      obtain ⟨record, called⟩ := made_ok_iff.1 made
      refine (second value middle).imp ?_
      intro result after made
      refine ⟨made.record.trans record, made.stops, fun ok => ?_⟩
      rw [made.calls ok, called, List.append_assoc]

theorem made_bind_silent {run : Run β} {next : β → Run α}
    (first : run.Ends world (Made stops calls world))
    (second : ∀ value, (next value).Makes stops []) :
    (run >>= next).Ends world (Made stops calls world) := by
  have both := made_bind first second
  rwa [List.append_nil] at both

theorem Makes.bind {run : Run β} {next : β → Run α} {more : List Command}
    (first : run.Makes stops calls) (second : ∀ value, (next value).Makes stops more) :
    (run >>= next).Makes stops (calls ++ more) :=
  fun world => made_bind (first world) second

theorem Makes.bind_silent {run : Run β} {next : β → Run α} (first : run.Makes stops calls)
    (second : ∀ value, (next value).Makes stops []) : (run >>= next).Makes stops calls :=
  fun world => made_bind_silent (first world) second

theorem makes_get : (get : Run World).Makes stops [] := fun _ => made_ok_iff.2 ⟨rfl, by simp⟩

theorem makes_files : files.Makes stops [] := fun _ => made_ok_iff.2 ⟨rfl, by simp⟩

theorem makes_setFiles (later : FileSystem) : (setFiles later).Makes stops [] :=
  fun _ => made_ok_iff.2 ⟨rfl, by simp⟩

theorem makes_report (level : Log.Level) (message : String) :
    (report level message).Makes stops [] := fun _ => made_ok_iff.2 ⟨rfl, by simp⟩

theorem makes_fail (cause : Cause) : (fail cause : Run α).Makes IsFailure [] :=
  fun _ => made_error_iff.2 ⟨rfl, trivial⟩

theorem makes_ofExcept (result : Except Cause α) : (ofExcept result).Makes IsFailure [] := by
  cases result with
  | ok value => exact makes_pure value
  | error cause => exact makes_fail cause

theorem makes_change (request : FileSystem → Except SystemError FileSystem)
    (cause : SystemError → Cause) : (change request cause).Makes IsFailure [] := by
  refine makes_files.bind fun files => ?_
  split
  · exact makes_setFiles _
  · exact makes_fail _

theorem makes_changeStepwise (request : FileSystem → FileSystem × Except SystemError Unit)
    (cause : SystemError → Cause) : (changeStepwise request cause).Makes IsFailure [] := by
  refine makes_files.bind fun files => (makes_setFiles _).bind fun _ => ?_
  split
  · exact makes_pure ()
  · exact makes_fail _

theorem makes_command (executor : Executor) (command : Command) :
    (Run.command executor command).Makes stops [command] :=
  fun _ => made_ok_iff.2 ⟨rfl, rfl⟩

theorem makes_copy (tool : SyncTool) {source destination : Path} (mode : CopyMode)
    (some : source.bytes ≠ []) (somewhere : destination.bytes ≠ []) :
    (copy tool source destination mode).Makes stops
      [tool.copyCommand source destination mode] := by
  have lawful : copyViolation? source destination = none := by
    simp [copyViolation?, Path.isEmpty, some, somewhere]
  unfold copy
  rw [lawful]
  exact makes_command tool.executor _

end Commands

end HostHome.Run
