import HostHome.Proofs.Provision.Steps
import HostHome.Proofs.Provision.Transfers

/-!
# What each step asks for

Only two steps call the sync tool.  One calls it for each skeleton that is there, and
the other for each directive that asks for a copy.  The others make no calls, and no
step records anything on its own account.
-/

namespace HostHome.Provision

open HostHome.Config
open HostHome.Execution (Command)
open Run (Makes Made IsFailure)

variable {stops : Stop → Prop} {context : Context} {roots : TransferRoots} {sync : SyncTool}
  {mode : CopyMode} {file : Path}

/-- The calls for some directives: one for each copy, from the path in the shared home to its last
name in the per-host home. -/
def copyCalls (roots : TransferRoots) (sync : SyncTool) (mode : CopyMode)
    (directives : List Directive) : List Command :=
  (directives.filter fun directive => directive.kind = .copy).map fun directive =>
    sync.copyCommand (roots.source.joinText directive.path)
      (roots.destination.join ⟨(Path.ofText directive.path).fileName?.getD []⟩) mode

theorem copyCalls_append (directives others : List Directive) :
    copyCalls roots sync mode (directives ++ others) =
      copyCalls roots sync mode directives ++ copyCalls roots sync mode others := by
  simp [copyCalls]

theorem makes_warnAll (diagnostics : List Diagnostic) : (warnAll diagnostics).Makes stops [] := by
  induction diagnostics with
  | nil => exact Run.makes_pure ()
  | cons diagnostic rest ih => exact (Run.makes_report _ _).bind fun _ => ih

theorem makes_applyLink (link : Link) : (applyLink link).Makes stops [] := by
  refine (Run.makes_report _ _).bind fun _ => Run.makes_files.bind fun files => ?_
  split
  · exact (Run.makes_setFiles _).bind fun _ => Run.makes_pure _
  · exact Run.makes_pure _
  · exact Run.makes_pure _
  · exact Run.makes_pure _

theorem makes_applyCopy {source destination : Path} (some : source.bytes ≠ [])
    (somewhere : destination.bytes ≠ []) :
    (applyCopy sync mode source destination).Makes stops
      [sync.copyCommand source destination mode] := by
  refine (Run.makes_report _ _).bind fun _ =>
    (Run.makes_copy sync mode some somewhere).bind fun answer => ?_
  split
  · split <;> exact Run.makes_pure _
  · exact Run.makes_pure _

theorem bytes_sourceOf_ne_nil {directive : Directive} {name : Text.Bytes}
    (named : (Path.ofText directive.path).fileName? = some name) :
    (roots.sourceOf directive).bytes ≠ [] := by
  have nonempty : (Path.ofText directive.path).bytes ≠ [] := by
    intro empty
    have nameless : (Path.mk []).fileName? = none := rfl
    rw [← empty, named] at nameless
    cases nameless
  unfold TransferRoots.sourceOf Path.joinText Path.join
  split
  · exact nonempty
  · split <;> simp [nonempty]

theorem makes_applyDirective {directive : Directive} {name : Text.Bytes}
    (named : (Path.ofText directive.path).fileName? = some name) :
    (applyDirective roots sync mode directive).Makes stops
      (copyCalls roots sync mode [directive]) := by
  have somewhere : (roots.destination.join ⟨name⟩).bytes ≠ [] :=
    Path.bytes_joinName_ne_nil (Path.ordinaryName_of_fileName? named) _
  simp only [applyDirective, destinationOf?_eq named]
  cases kind : directive.kind with
  | symbolicLink => simpa [copyCalls, kind, linkKind?] using makes_applyLink _
  | hardLink => simpa [copyCalls, kind, linkKind?] using makes_applyLink _
  | copy =>
      have single : copyCalls roots sync mode [directive] =
          [sync.copyCommand (roots.sourceOf directive) (roots.destination.join ⟨name⟩) mode] := by
        simp [copyCalls, kind, named, TransferRoots.sourceOf]
      rw [single]
      exact makes_applyCopy (bytes_sourceOf_ne_nil named) somewhere

theorem makes_countOutcome (directive : Directive) (outcome : DirectiveOutcome) :
    (countOutcome file directive outcome).Makes stops [] := by
  cases outcome with
  | applied | alreadyPresent => exact Run.makes_pure _
  | failed message => exact (Run.makes_report _ _).bind fun _ => Run.makes_pure _

theorem makes_applyLine (line : Line) :
    (applyLine file roots sync mode line).Makes stops
      (copyCalls roots sync mode (Directive.ofLine file line).1.toList) := by
  unfold applyLine
  generalize read : Directive.ofLine file line = reading
  obtain ⟨found, diagnostics⟩ := reading
  refine (makes_warnAll diagnostics).bind fun _ => ?_
  cases found with
  | none => exact Run.makes_pure _
  | some directive =>
      obtain ⟨name, named⟩ := exists_fileName_of_ofLine (congrArg Prod.fst read)
      exact (makes_applyDirective named).bind_silent (makes_countOutcome directive)

theorem makes_applyLines (lines : List Line) :
    (applyLines file roots sync mode lines).Makes stops
      (copyCalls roots sync mode (readDirectives file lines).1) := by
  induction lines with
  | nil => exact Run.makes_pure _
  | cons line rest ih =>
      have parts : (readDirectives file (line :: rest)).1 =
          (Directive.ofLine file line).1.toList ++ (readDirectives file rest).1 := by
        cases found : (Directive.ofLine file line).1 <;> simp [readDirectives, found]
      rw [parts, copyCalls_append]
      exact (makes_applyLine line).bind fun _ => ih.bind_silent fun _ => Run.makes_pure _

/-- A transfer file makes the calls of the directives that are in it, and never stops the run. -/
theorem made_applyTransferFile (world : World) :
    (applyTransferFile file roots sync mode).Ends world
      (Made stops (copyCalls roots sync mode (directivesOf world.files file)) world) := by
  simp only [applyTransferFile, Run.ends_bind, Run.ends_files]
  cases read : world.files.readConfig file with
  | error cause =>
      have unread : directivesOf world.files file = [] := by simp [directivesOf, read]
      rw [unread]
      exact Run.makes_pure _ world
  | ok text =>
      have called : (applyText file roots sync mode text).Makes stops
          (copyCalls roots sync mode (directivesOf world.files file)) := by
        rw [directivesOf_eq read]
        exact (makes_warnAll _).bind fun _ => (makes_applyLines _).bind_silent fun _ =>
          (Run.makes_report _ _).bind fun _ => Run.makes_pure _
      exact called.bind_silent (fun _ => Run.makes_pure _) world

/-- The calls for some skeletons: one for each that is a directory, from what is in it to the
per-host home. -/
def skeletonCalls (context : Context) (files : FileSystem) (skeletons : List Path) :
    List Command :=
  (skeletons.filter fun skeleton => files.isDirectory skeleton).map fun skeleton =>
    context.sync.copyCommand (contentsOf skeleton) context.layout.hostHome context.copyMode

theorem skeletonCalls_append (files : FileSystem) (skeletons others : List Path) :
    skeletonCalls context files (skeletons ++ others) =
      skeletonCalls context files skeletons ++ skeletonCalls context files others := by
  simp [skeletonCalls]

theorem bytes_contentsOf_ne_nil (directory : Path) : (contentsOf directory).bytes ≠ [] := by
  unfold contentsOf Path.withSlash
  split
  · next slashed =>
      intro empty
      simp [Path.endsWithSlash, empty] at slashed
  · simp

theorem made_injectSkeleton (proper : Proper context.layout) (skeleton : Path) (world : World) :
    (injectSkeleton context skeleton).Ends world
      (Made IsFailure (skeletonCalls context world.files [skeleton]) world) := by
  simp only [injectSkeleton, Run.ends_bind, Run.ends_files]
  cases isDirectory : world.files.isDirectory skeleton with
  | false =>
      have none : skeletonCalls context world.files [skeleton] = [] := by
        simp [skeletonCalls, isDirectory]
      rw [none]
      exact (Run.makes_report _ _).bind (fun _ => Run.makes_pure _) world
  | true =>
      have single : skeletonCalls context world.files [skeleton] =
          [context.sync.copyCommand (contentsOf skeleton) context.layout.hostHome
            context.copyMode] := by
        simp [skeletonCalls, isDirectory]
      have copied : (Run.copy context.sync (contentsOf skeleton) context.layout.hostHome
          context.copyMode).Makes IsFailure _ :=
        Run.makes_copy context.sync context.copyMode (bytes_contentsOf_ne_nil skeleton)
          proper.bytes_hostHome_ne_nil
      rw [single]
      refine ((Run.makes_report _ _).bind fun _ => copied.bind_silent fun answer => ?_) world
      split
      · exact Run.makes_fail _
      · split
        · exact Run.makes_pure _
        · exact (Run.makes_report _ _).bind fun _ => Run.makes_pure _

theorem steps_eq_injectSkeletons :
    steps = steps.take 4 ++ injectSkeletons :: applyTransfers :: steps.drop 6 := rfl

theorem steps_eq_applyTransfers : steps = steps.take 5 ++ applyTransfers :: steps.drop 6 := rfl

theorem take_steps_applyTransfers : steps.take 5 = steps.take 4 ++ [injectSkeletons] := rfl

/-- Wherever the task is run, it makes the calls, records nothing itself and stops only by a
failure. -/
def Task.Asks (task : Task) (context : Context) (calls : FileSystem → List Command) : Prop :=
  ∀ world : World, (task.run context).Ends world (Made IsFailure (calls world.files) world)

/-- Wherever the task is run, it records nothing itself and stops only by a failure. -/
def Task.Discreet (task : Task) (context : Context) : Prop :=
  ∀ world : World, (task.run context).Ends world fun result after =>
    after.record = world.record ∧ ∀ stop, result = .error stop → IsFailure stop

theorem Task.Asks.discreet {task : Task} {calls : FileSystem → List Command}
    (asks : task.Asks context calls) : task.Discreet context :=
  fun world => (asks world).imp fun _ _ made => ⟨made.record, made.stops⟩

theorem asks_nothing_before {task : Task} (member : task ∈ steps.take 4) :
    task.Asks context fun _ => [] := by
  have tree {path : Path} {cause : SystemError → Cause} {next : Run TaskResult}
      (more : next.Makes IsFailure []) :
      (Run.changeStepwise (fun files => files.ensureTree path) cause >>= fun _ => next).Makes
        IsFailure [] :=
    (Run.makes_changeStepwise _ _).bind fun _ => more
  simp only [steps, List.take_succ_cons, List.take_zero, List.mem_cons, List.not_mem_nil,
    or_false] at member
  rcases member with rfl | rfl | rfl | rfl
  · refine Run.makes_files.bind fun files => ?_
    split
    · exact Run.makes_pure _
    · exact tree ((Run.makes_report _ _).bind fun _ => Run.makes_pure _)
  · refine Run.makes_files.bind fun files => (Run.makes_ofExcept _).bind fun ensured => ?_
    split
    · exact (Run.makes_setFiles _).bind fun _ => (Run.makes_report _ _).bind fun _ =>
        Run.makes_pure _
    · exact Run.makes_pure _
    · exact (Run.makes_report _ _).bind fun _ => Run.makes_pure _
  · refine Run.makes_files.bind fun files => ?_
    split
    · exact Run.makes_pure _
    · exact tree (Run.makes_pure _)
  · refine Run.makes_files.bind fun files => ?_
    split
    · exact Run.makes_pure _
    · exact (Run.makes_change _ _).bind fun _ => Run.makes_pure _

theorem asks_nothing_behind {task : Task} (member : task ∈ steps.drop 6) :
    task.Asks context fun _ => [] := by
  simp only [steps, List.drop_succ_cons, List.drop_zero, List.mem_cons, List.not_mem_nil,
    or_false] at member
  rcases member with rfl | rfl
  · refine Run.makes_files.bind fun files => ?_
    split
    · exact Run.makes_pure _
    · exact (Run.makes_change _ _).bind fun _ => Run.makes_pure _
  · have script (path : Path) (text : String) : (writeScript path text).Makes IsFailure [] :=
      (Run.makes_change _ _).bind fun _ => Run.makes_report _ _
    refine (Run.makes_get.bind fun world => Run.makes_pure _).bind fun found => ?_
    split
    · exact Run.makes_fail _
    · exact Run.makes_get.bind fun _ => (Run.makes_report _ _).bind fun _ =>
        (script _ _).bind fun _ => (script _ _).bind fun _ => Run.makes_pure _

/-- The transfers make the calls of the directives that are in the transfer file, and never stop
the run. -/
theorem made_applyTransfers (world : World) :
    (applyTransfers.run context).Ends world (Made stops
      (copyCalls (transferRoots context.layout) context.sync context.copyMode
        (directivesOf world.files context.layout.transferFile)) world) := by
  refine Run.made_bind_silent (made_applyTransferFile world) fun answer => ?_
  split
  · exact (Run.makes_report _ _).bind fun _ => Run.makes_pure _
  · split <;> exact Run.makes_pure _

/-- The skeletons make the calls of the two, each by the files at its time. -/
theorem made_injectSkeletons (proper : Proper context.layout) (world : World) :
    (injectSkeletons.run context).Ends world fun result after =>
      ∃ middle, (context.sync.executor.KeepsFiles → middle = world.files) ∧
        Made IsFailure (skeletonCalls context world.files [context.layout.systemSkeleton] ++
          skeletonCalls context middle [context.layout.skeleton]) world result after := by
  -- The first copy may change whether the second skeleton is there, unless it keeps the files.
  have kept : (injectSkeleton context context.layout.systemSkeleton).Ends world fun _ after =>
      context.sync.executor.KeepsFiles → after.files = world.files := by
    by_cases keeps : context.sync.executor.KeepsFiles
    · exact (ends_injectSkeleton keeps _ world).imp fun _ _ same _ => same
    · exact Run.ends_of_forall fun _ _ keeping => absurd keeping keeps
  unfold injectSkeletons
  dsimp only
  rw [Run.ends_bind]
  refine ((made_injectSkeleton proper _ world).and kept).imp ?_
  rintro (stop | copied) middle ⟨made, same⟩
  · exact ⟨world.files, fun _ => rfl, Run.made_error_iff.2 (Run.made_error_iff.1 made)⟩
  · obtain ⟨record, called⟩ := Run.made_ok_iff.1 made
    refine (Run.made_bind_silent (made_injectSkeleton proper _ middle) fun _ => ?_).imp ?_
    · split <;> exact Run.makes_pure _
    · intro result after more
      refine ⟨middle.files, same, more.record.trans record, more.stops, fun ok => ?_⟩
      rw [more.calls ok, called, List.append_assoc]

theorem asks_injectSkeletons (proper : Proper context.layout)
    (keeps : context.sync.executor.KeepsFiles) :
    injectSkeletons.Asks context fun files =>
      skeletonCalls context files [context.layout.systemSkeleton, context.layout.skeleton] := by
  intro world
  refine (made_injectSkeletons proper world).imp ?_
  rintro result after ⟨_, same, made⟩
  rwa [same keeps, ← skeletonCalls_append] at made

/-- Every step is discreet, whatever the sync tool does to the files. -/
theorem discreet_of_mem_steps (proper : Proper context.layout) {task : Task}
    (member : task ∈ steps) : task.Discreet context := by
  rw [steps_eq_injectSkeletons] at member
  simp only [List.mem_append, List.mem_cons] at member
  rcases member with before | rfl | rfl | behind
  · exact (asks_nothing_before before).discreet
  · exact fun world => (made_injectSkeletons proper world).imp
      fun _ _ ⟨_, _, made⟩ => ⟨made.record, made.stops⟩
  · exact fun world => (made_applyTransfers world).imp fun _ _ made => ⟨made.record, made.stops⟩
  · exact (asks_nothing_behind behind).discreet

end HostHome.Provision
