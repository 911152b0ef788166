import HostHome.FileSystem.Change
import HostHome.Text.Substring

/-!
# Trees of directories

Create a directory and the directories above it. Each directory is created in one
step, and a step that finds its directory already there has nothing to do. So
runs that create the same tree at the same time do not disturb each other.
-/

namespace HostHome.FileSystem

open HostHome.Text (Bytes)

/-- The paths from the first name of a path on, one name longer each. -/
def growingPaths (path : Path) : List Bytes → List Path
  | [] => []
  | piece :: rest => path.join ⟨piece⟩ :: growingPaths (path.join ⟨piece⟩) rest

/-- The directories that lead to a path, from the outermost one to the path itself. -/
def treeSteps (path : Path) : List Path :=
  let start : Path := if path.isAbsolute then ⟨[slash]⟩ else ⟨[]⟩
  growingPaths start (path.pieces.filter (· ≠ []))

/-- Create one directory of a tree, unless its name is taken. -/
def ensureStep (files : FileSystem) (path : Path) : Except SystemError FileSystem :=
  match files.makeDirectory path with
  | .error error => if error = .occupied then .ok files else .error error
  | .ok files => .ok files

/-- Create directories one by one, up to the first that cannot be created. What was created before
it stays. -/
def ensureSteps (files : FileSystem) : List Path → FileSystem × Except SystemError Unit
  | [] => (files, .ok ())
  | path :: rest =>
      match files.ensureStep path with
      | .ok files => files.ensureSteps rest
      | .error error => (files, .error error)

/-- Accept a failed attempt at a directory, if the directory is there. -/
def acceptDirectory (files : FileSystem) (path : Path) (error : SystemError) :
    FileSystem × Except SystemError Unit :=
  (files, if files.isDirectory path then .ok () else .error error)

/-- The paths of the directories above a path, given by its components with the last one first. -/
def pathsAbove : List Component → List Path
  | [] => []
  | _ :: above =>
      if above = [] then [] else Path.ofComponents above.reverse :: pathsAbove above

def pathsUpward (path : Path) : List Path := path :: pathsAbove path.components.reverse

/-- Create the first directory of a list. Where the directory above it is missing, which is the next
one of the list, that one is created before. -/
def createUpward (files : FileSystem) : List Path → FileSystem × Except SystemError Unit
  | [] => (files, .ok ())
  | path :: above =>
      match files.makeDirectory path with
      | .ok files => (files, .ok ())
      | .error error =>
          if error ≠ .absent then files.acceptDirectory path error
          else
            match files.createUpward above with
            | (files, .error error) => (files, .error error)
            | (files, .ok ()) =>
                match files.makeDirectory path with
                | .ok files => (files, .ok ())
                | .error error => files.acceptDirectory path error

/-- Create a directory and those above it. It is a failure if something else is in the way. The empty
path has nothing to create. -/
def createAll (files : FileSystem) (path : Path) : FileSystem × Except SystemError Unit :=
  if path.isEmpty then (files, .ok ()) else files.createUpward (pathsUpward path)

/-- Make sure of a directory and of those above it. A path that is a text is taken name by name, and
what is in the way of a name counts as the directory. -/
def ensureTree (files : FileSystem) (path : Path) : FileSystem × Except SystemError Unit :=
  match Text.decode? path.bytes with
  | some _ => files.ensureSteps (treeSteps path)
  | none =>
      match files.createAll path with
      | (files, .error error) =>
          (files, if error = .occupied then .ok () else .error error)
      | (files, .ok ()) => (files, .ok ())

end HostHome.FileSystem
