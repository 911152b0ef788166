import HostHome.Proofs.FileSystem.Trees

/-!
# Trees under a mask

A process has a mask that withholds permissions from the directories it creates.
The creation of trees is described here for any mask.  Under the usual one it is the
creation of trees as it runs, and the mask decides on nothing but permissions.
-/

namespace HostHome.FileSystem

open HostHome.Text (Bytes)

/-- The usual mask: only the owner may write. -/
def usualMask : Nat := 0o022

/-- The permissions of a new directory: the bits that are asked for, without those of the mask. -/
def permissionsUnder (mask : Nat) : Nat := directoryPermissions ^^^ (directoryPermissions &&& mask)

theorem permissionsUnder_usualMask : permissionsUnder usualMask = directoryPermissions := by decide

def makeDirectoryUnder (files : FileSystem) (mask : Nat) (path : Path) :
    Except SystemError FileSystem := do
  let (directory, name) ← files.placeFor path true
  return files.add directory name (.directory (permissionsUnder mask))

def ensureStepUnder (files : FileSystem) (mask : Nat) (path : Path) :
    Except SystemError FileSystem :=
  match files.makeDirectoryUnder mask path with
  | .error error => if error = .occupied then .ok files else .error error
  | .ok files => .ok files

def ensureStepsUnder (files : FileSystem) (mask : Nat) :
    List Path → FileSystem × Except SystemError Unit
  | [] => (files, .ok ())
  | path :: rest =>
      match files.ensureStepUnder mask path with
      | .ok files => files.ensureStepsUnder mask rest
      | .error error => (files, .error error)

/-- Make sure of a directory and of those above it under a mask, name by name. -/
def ensureTreeUnder (files : FileSystem) (mask : Nat) (path : Path) :
    FileSystem × Except SystemError Unit :=
  files.ensureStepsUnder mask (treeSteps path)

variable {files later : FileSystem} {mask : Nat} {path : Path} {error : SystemError}

theorem makeDirectoryUnder_usualMask (files : FileSystem) (path : Path) :
    files.makeDirectoryUnder usualMask path = files.makeDirectory path := by
  rw [makeDirectoryUnder, permissionsUnder_usualMask, makeDirectory]

theorem ensureStepsUnder_usualMask (files : FileSystem) (paths : List Path) :
    files.ensureStepsUnder usualMask paths = files.ensureSteps paths := by
  induction paths generalizing files with
  | nil => rfl
  | cons path rest ih =>
      have step : files.ensureStepUnder usualMask path = files.ensureStep path := rfl
      rw [ensureStepsUnder, ensureSteps, step]
      cases files.ensureStep path with
      | ok middle => exact ih middle
      | error error => rfl

/-- A tree whose path is a text is created name by name, under the usual mask. -/
theorem ensureTree_eq_ensureTreeUnder {text : String}
    (spelled : Text.decode? path.bytes = some text) :
    files.ensureTree path = files.ensureTreeUnder usualMask path := by
  rw [ensureTree_of_spelled spelled, ensureTreeUnder, ensureStepsUnder_usualMask]

/-- A directory that is created is a new entry at the place of its path, with the permissions that
the mask leaves. -/
theorem placedAt_of_makeDirectoryUnder (made : files.makeDirectoryUnder mask path = .ok later) :
    ∃ directory name, files.PlacedAt path directory name ∧
      files.entryAt? (name :: directory) = none ∧
      later = files.add directory name (.directory (permissionsUnder mask)) := by
  unfold makeDirectoryUnder at made
  cases free : files.placeFor path true with
  | error error => simp [free, bind, Except.bind] at made
  | ok place =>
      obtain ⟨placed, vacant⟩ := placedAt_of_placeFor free
      refine ⟨place.1, place.2, placed, vacant, ?_⟩
      simpa [free, bind, Except.bind, pure, Except.pure, eq_comm] using made

theorem makeDirectoryUnder_eq_error_iff :
    files.makeDirectoryUnder mask path = .error error ↔
      files.placeFor path true = .error error := by
  unfold makeDirectoryUnder
  cases files.placeFor path true <;> simp [bind, Except.bind, pure, Except.pure]

theorem taken_iff_makeDirectoryUnder :
    files.Taken path ↔ files.makeDirectoryUnder mask path = .error .occupied := by
  rw [taken_iff_placeFor, makeDirectoryUnder_eq_error_iff]

theorem PlacedAt.makeDirectoryUnder_eq {directory : Location} {name : Bytes}
    (placed : files.PlacedAt path directory name)
    (vacant : files.entryAt? (name :: directory) = none) (mask : Nat) :
    files.makeDirectoryUnder mask path =
      .ok (files.add directory name (.directory (permissionsUnder mask))) := by
  have free : files.placeFor path true = .ok (directory, name) := by
    rw [placed.placeFor_eq, vacant]
    simp
  simp [makeDirectoryUnder, free, bind, Except.bind, pure, Except.pure]

end HostHome.FileSystem
