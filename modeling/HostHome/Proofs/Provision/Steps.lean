import HostHome.Provision.Steps
import HostHome.Proofs.FileSystem.Trees
import HostHome.Proofs.Provision.Contexts
import HostHome.Proofs.Provision.Tasks

/-!
# What each step leaves

The steps of provisioning one by one: the files that a step leaves when it is done,
and those that it leaves when it fails.
-/

namespace HostHome.Provision

open HostHome.Config

variable {context : Context} {files : FileSystem}

/-- The directory was there, or its tree was created as far as possible. -/
def TreeLeft (path : Path) (files : FileSystem) (done : Bool) (later : FileSystem) : Prop :=
  if files.isDirectory path then done ∧ later = files
  else later = (files.ensureTree path).1 ∧
    (done ↔ files.ensureTree path = (later, .ok ()))

/-- The file was there, or it was created, or nothing was changed. -/
def FileLeft (path : Path) (files : FileSystem) (done : Bool) (later : FileSystem) : Prop :=
  if files.hasEntry path then done ∧ later = files
  else if done then files.touch path = .ok later
  else later = files

theorem ensureHomeTree_leaves (context : Context) (files : FileSystem) :
    ensureHomeTree.Leaves context files (TreeLeft context.layout.hostHome files) := by
  apply Task.leaves_of_applies rfl
  rintro world rfl
  simp only [ensureHomeTree, Run.ends_bind, Run.ends_files, TreeLeft]
  split
  · simp [alreadyExists, Except.isOk, Except.toBool]
  · simp only [Run.ends_bind, Run.ends_changeStepwise]
    split <;> next made => simp [Run.info, made, Except.isOk, Except.toBool]

theorem ensureHomeTree_eq_ok {world : World}
    (absent : world.files.isDirectory context.layout.hostHome = false)
    (made : world.files.ensureTree context.layout.hostHome = (files, .ok ())) :
    ∃ after, ensureHomeTree.execute context world = .ok () after ∧ after.files = files := by
  have leaves := ensureHomeTree_leaves context world.files
  obtain ⟨after, executed, left⟩ := leaves.exists_ok (by simp [TreeLeft, absent, made])
  simp only [TreeLeft, absent, Bool.false_eq_true, if_false, made] at left
  exact ⟨after, executed, left.1⟩

theorem ensureSkeleton_leaves (context : Context) (files : FileSystem) :
    ensureSkeleton.Leaves context files (TreeLeft context.layout.skeleton files) := by
  apply Task.leaves_of_applies rfl
  rintro world rfl
  simp only [ensureSkeleton, Run.ends_bind, Run.ends_files, TreeLeft]
  split
  · simp [alreadyExists, Except.isOk, Except.toBool]
  · simp only [Run.ends_bind, Run.ends_changeStepwise]
    split <;> next made => simp [made, Except.isOk, Except.toBool]

theorem ensureTransferFile_leaves (context : Context) (files : FileSystem) :
    ensureTransferFile.Leaves context files (FileLeft context.layout.transferFile files) := by
  apply Task.leaves_of_applies rfl
  rintro world rfl
  simp only [ensureTransferFile, Run.ends_bind, Run.ends_files, FileLeft]
  split
  · simp [alreadyExists, Except.isOk, Except.toBool]
  · simp only [Run.ends_bind, Run.ends_change]
    split <;> next made => simp [made, Except.isOk, Except.toBool]

theorem ensureMarker_leaves (context : Context) (files : FileSystem) :
    ensureMarker.Leaves context files (FileLeft context.layout.marker files) := by
  apply Task.leaves_of_applies rfl
  rintro world rfl
  have marked : world.files.hasEntry context.layout.marker = context.isMarked world.files := rfl
  simp only [ensureMarker, Run.ends_bind, Run.ends_files, FileLeft, marked]
  split
  · simp [Except.isOk, Except.toBool]
  · simp only [Run.ends_bind, Run.ends_change]
    split <;> next made => simp [made, Except.isOk, Except.toBool]

/-- The link was made sure of, or nothing was changed. -/
theorem ensureTopLink_leaves (context : Context) (files : FileSystem) :
    ensureTopLink.Leaves context files fun done later =>
      if done then ∃ change, (topLink context.layout).ensure files = .ok (change, later)
      else later = files := by
  apply Task.leaves_of_applies rfl
  rintro world rfl
  simp only [ensureTopLink, Run.ends_bind, Run.ends_files, Run.ends_ofExcept]
  cases ensured : (topLink context.layout).ensure world.files with
  | error cause => simp [Except.isOk, Except.toBool]
  | ok found =>
      obtain ⟨change, later⟩ := found
      cases change with
      | applied => simp [Run.debug, Except.isOk, Except.toBool, Except.map]
      | alreadyCorrect =>
          obtain rfl := Link.ensure_eq_self ensured (by simp)
          simp [Except.isOk, Except.toBool]
      | skipped occupant =>
          obtain rfl := Link.ensure_eq_self ensured (by simp)
          simp [Run.warn, Except.isOk, Except.toBool, Except.map]

theorem ends_injectSkeleton (keeps : context.sync.executor.KeepsFiles) (skeleton : Path)
    (world : World) :
    (injectSkeleton context skeleton).Ends world fun _ after => after.files = world.files := by
  simp only [injectSkeleton, Run.ends_bind, Run.ends_files]
  split
  · simp [Run.debug]
  · simp only [Run.debug, Run.ends_bind, Run.ends_report]
    refine Run.Ends.imp (Run.ends_copy keeps) ?_
    intro result after same
    cases result with
    | error stop => exact same
    | ok answer =>
        cases answer with
        | error fault => exact same
        | ok output =>
            dsimp only
            split <;> simpa [Run.warn, Except.map] using same

/-- A copy into the per-host home writes files only through the sync tool. -/
theorem injectSkeletons_leaves (keeps : context.sync.executor.KeepsFiles) (files : FileSystem) :
    injectSkeletons.Leaves context files fun _ later => later = files := by
  apply Task.leaves_of_run
  · rintro - world rfl
    simp only [injectSkeletons, Run.ends_bind]
    refine (ends_injectSkeleton keeps _ world).imp ?_
    intro first middle same
    cases first with
    | error stop => exact same
    | ok copied =>
        refine (ends_injectSkeleton keeps _ middle).imp ?_
        intro second after again
        cases second with
        | error stop => exact again.trans same
        | ok alsoCopied =>
            dsimp only
            split <;> exact again.trans same
  · intro _
    rfl

end HostHome.Provision
