import HostHome.Proofs.Provision.Marker
import HostHome.Proofs.Provision.Record

/-!
# The copies of a run

A run that brings nothing into the per-host home makes no calls.  Every other one
calls the sync tool for the skeletons, and then for the directives that ask for
copies, in the order of the transfer file.  No call lacks a source or a destination.
-/

namespace HostHome.Provision

open HostHome.Config
open HostHome.Execution (Command)
open Run (Made IsFailure)

variable {context : Context} {task : Task} {files : FileSystem} {world after : World}
  {outcome : Outcome}

theorem Task.Asks.calls_eq {calls : FileSystem → List Command} (asks : task.Asks context calls)
    (executed : task.execute context world = .ok () after) :
    after.calls = world.calls ++
      if task.applies context world.files then calls world.files else [] := by
  have ends : (task.execute context).Ends world fun result after => result.isOk →
      after.calls = world.calls ++
        if task.applies context world.files then calls world.files else [] := by
    cases applies : task.applies context world.files with
    | true =>
        rw [Task.ends_execute_of_applies applies, if_pos rfl]
        refine (asks _).imp ?_
        rintro (stop | value) later made
        · cases stop <;> simp [Except.isOk, Except.toBool]
        · cases value <;> exact fun _ => (Run.made_ok_iff.1 made).2
    | false =>
        rw [Task.ends_execute_of_spared applies]
        simp
  exact ends.of_ok executed rfl

theorem executeAll_calls_eq {tasks : List Task}
    (silent : ∀ task ∈ tasks, task.Asks context fun _ => [])
    (executed : executeAll context tasks world = .ok () after) : after.calls = world.calls := by
  induction tasks generalizing world with
  | nil => cases executed; rfl
  | cons task rest ih =>
      obtain ⟨middle, first, others⟩ := executeAll_cons_eq_ok executed
      rw [ih (fun other member => silent other (by simp [member])) others,
        (silent task (by simp)).calls_eq first]
      simp

theorem executeAll_stops {tasks : List Task} (discreet : ∀ task ∈ tasks, task.Discreet context)
    (world : World) :
    (executeAll context tasks).Ends world fun result _ =>
      ∀ stop, result = .error stop → IsFailure stop := by
  induction tasks generalizing world with
  | nil => simp [executeAll]
  | cons task rest ih =>
      obtain ⟨entry, enters⟩ := (discreet task (by simp)).exists_enters world
      simp only [executeAll, Run.ends_bind]
      refine enters.imp ?_
      rintro result middle ⟨_, tells⟩
      cases tells with
      | failed => simp [IsFailure]
      | spared | done | skipped =>
          exact ih (fun other member => discreet other (by simp [member])) middle

theorem provision_ne_violation (proper : Proper context.layout) (violation : CopyViolation) :
    provision context world ≠ .error (.violation violation) after := by
  intro violated
  have ends : (provision context).Ends world fun result _ =>
      ∀ stop, result = .error stop → IsFailure stop := by
    simp only [provision, Run.ends_bind, Run.ends_files]
    split
    · simp [Run.ends_fail, IsFailure]
    · simp only [Run.ends_bind, Run.ends_files]
      split
      · simp [Run.debug, Run.ends_map, Except.map]
      · simp only [Run.ends_bind]
        refine (executeAll_stops (fun _ => discreet_of_mem_steps proper) world).imp ?_
        rintro (stop | _) later stops
        · intro other same
          cases same
          exact stops _ rfl
        · simp
  unfold Run.Ends at ends
  rw [violated] at ends
  exact ends _ rfl

/-- The call for a copy: in an update, files that are newer are kept. -/
def copyCall (context : Context) (source destination : Path) : Command :=
  ⟨context.sync.program, [Text.encode "-aq"] ++
    (if context.update then [Text.encode "--update"] else []) ++
      [source.bytes, destination.bytes]⟩

/-- The calls for the skeletons, first that of the system and then that of the user: one for each
that is a directory, from what is in it to the per-host home. -/
def skeletonCopies (context : Context) (files : FileSystem) : List Command :=
  ([context.layout.systemSkeleton, context.layout.skeleton].filter fun skeleton =>
      files.isDirectory skeleton).map fun skeleton =>
    copyCall context skeleton.withSlash context.layout.hostHome

/-- The calls for the directives of the transfer file: one for each copy, from its path in the
shared home to its last name in the per-host home. -/
def transferCopies (context : Context) (files : FileSystem) : List Command :=
  ((directivesOf files context.layout.transferFile).filter fun directive =>
      directive.kind = .copy).map fun directive =>
    copyCall context (context.layout.sharedHome.joinText directive.path)
      (context.layout.hostHome.join ⟨(Path.ofText directive.path).fileName?.getD []⟩)

/-- A run that came to skeletons and transfers made no calls if the home was marked before and it
was no update, and otherwise those for skeletons and transfers. -/
def MakesCopies (context : Context) (world after : World) : Prop :=
  ∃ begun moment, Reaches context world (steps.take 4) injectSkeletons begun ∧
    Reaches context world (steps.take 5) applyTransfers moment ∧
    (∀ directive ∈ directivesOf moment.files context.layout.transferFile,
      (Path.ofText directive.path).fileName?.isSome) ∧
    after.calls = world.calls ++
      if context.isMarked world.files && !context.update then []
      else skeletonCopies context begun.files ++ transferCopies context moment.files

theorem copyCommand_eq (context : Context) (source destination : Path) :
    context.sync.copyCommand source destination context.copyMode =
      copyCall context source destination := by
  unfold SyncTool.copyCommand copyCall syncArguments Context.copyMode CopyMode.forUpdate
  cases context.update <;> rfl

theorem asks_injectSkeletons_copies (proper : Proper context.layout)
    (keeps : context.sync.executor.KeepsFiles) :
    injectSkeletons.Asks context (skeletonCopies context) := by
  have asks := asks_injectSkeletons proper keeps
  simp only [skeletonCalls, copyCommand_eq] at asks
  exact asks

theorem asks_applyTransfers_copies (context : Context) :
    applyTransfers.Asks context (transferCopies context) := by
  intro world
  have made : (applyTransfers.run context).Ends world (Made IsFailure _ world) :=
    made_applyTransfers world
  simp only [copyCalls, copyCommand_eq] at made
  exact made

theorem makesCopies_of_executeAll (proper : Proper context.layout)
    (keeps : context.sync.executor.KeepsFiles)
    (isDirectory : world.files.isDirectory context.layout.sharedHome)
    (single : isNested context world.files = false)
    (apart : isPassThrough world.files context.layout = false)
    (executed : executeAll context steps world = .ok () after) :
    MakesCopies context world after := by
  rw [steps_eq_injectSkeletons, executeAll_append] at executed
  obtain ⟨_, begun, before, executed⟩ := bind_eq_ok executed
  obtain ⟨moment, injected, executed⟩ := executeAll_cons_eq_ok executed
  obtain ⟨transferred, applied, behind⟩ := executeAll_cons_eq_ok executed
  have reachesFirst : Reaches context world (steps.take 4) injectSkeletons begun :=
    ⟨single, apart, ⟨_, rfl⟩, before⟩
  have reaches : Reaches context world (steps.take 5) applyTransfers moment := by
    refine ⟨single, apart, ⟨_, rfl⟩, ?_⟩
    rw [take_steps_applyTransfers, executeAll_append_of_ok before]
    exact executeAll_cons_of_ok injected
  -- The copies change no files, so both steps decide by the marker that was there at the start.
  have same : moment.files = begun.files :=
    (injectSkeletons_leaves keeps begun.files).of_ok injected
  have decided : context.isMarked begun.files = context.isMarked world.files :=
    reachesFirst.isMarked_eq proper isDirectory
  refine ⟨begun, moment, reachesFirst, reaches, fun directive listed => ?_, ?_⟩
  · obtain ⟨name, named⟩ := exists_fileName_of_mem listed
    simp [named]
  · rw [executeAll_calls_eq (fun _ => asks_nothing_behind) behind,
      (asks_applyTransfers_copies context).calls_eq applied,
      (asks_injectSkeletons_copies proper keeps).calls_eq injected,
      executeAll_calls_eq (fun _ => asks_nothing_before) before, List.append_assoc]
    simp only [injectSkeletons, applyTransfers, Context.wantsInjection, same, decided]
    cases context.isMarked world.files <;> cases context.update <;> simp

/-- The calls of a run to the sync tool are exactly those for skeletons and transfers, and no call
lacks a source or a destination. -/
theorem provision_makes_copies (prepared : context.Prepared)
    (keeps : context.sync.executor.KeepsFiles)
    (isDirectory : world.files.isDirectory context.layout.sharedHome) :
    (∀ violation after, provision context world ≠ .error (.violation violation) after) ∧
      ∀ outcome after, provision context world = .ok outcome after →
        isPassThrough world.files context.layout = false → MakesCopies context world after := by
  have proper := prepared.proper
  refine ⟨fun violation after => provision_ne_violation proper violation, ?_⟩
  intro outcome after provisioned apart
  obtain ⟨single, ⟨passes, _⟩ | ⟨_, _, executed⟩⟩ := provision_eq_ok provisioned
  · rw [apart] at passes
    cases passes
  · exact makesCopies_of_executeAll proper keeps isDirectory single apart executed

theorem skeleton_copied_in_empty_home :
    homeFiles.isDirectory homeContext.layout.sharedHome ∧
      isPassThrough homeFiles homeContext.layout = false ∧
      ∃ outcome after, provision homeContext { files := homeFiles } = .ok outcome after ∧
        after.calls =
          [copyCall homeContext (.ofText "/home/.multihome/skel/") homeContext.layout.hostHome] ∧
        MakesCopies homeContext { files := homeFiles } after := by
  have isDirectory : homeFiles.isDirectory homeContext.layout.sharedHome := by cbv
  have apart : isPassThrough homeFiles homeContext.layout = false := by cbv
  have called : ((provision homeContext).worldAfter { files := homeFiles }).calls =
      [copyCall homeContext (.ofText "/home/.multihome/skel/") homeContext.layout.hostHome] := by
    cbv
  obtain ⟨outcome, after, provisioned, _⟩ := exists_provision_homeContext
  rw [Run.worldAfter, provisioned] at called
  exact ⟨isDirectory, apart, outcome, after, provisioned, called,
    (provision_makes_copies prepared_homeContext keepsFiles_homeContext isDirectory).2
      outcome after provisioned apart⟩

end HostHome.Provision
