import HostHome.FileSystem.Query

/-!
# Changing a file system

Create directories, links and files, write files, and remove what is there. Each
request either changes the file system in one step or fails and leaves it as it
is.
-/

namespace HostHome

open HostHome.Text (Bytes)

def directoryPermissions : Nat := 0o755

def filePermissions : Nat := 0o644

namespace FileSystem

/-- Find the place for a new entry: a directory and a free name in it. A link at the end is not
followed: it takes the name. Only a directory may be created with a slash behind its name. -/
def placeFor (files : FileSystem) (path : Path) (slashAllowed : Bool) :
    Except SystemError (Location × Bytes) := do
  checkPath path
  let start := startOf files.current path
  let steps := withoutSlash path.steps
  match splitName? steps with
  | none =>
      let _ ← files.walkToDirectory start steps.dropLast
      .error .occupied
  | some (before, name) =>
      let directory ← files.walkToDirectory start before
      if nameLimit < name.length then .error .nameTooLong
      else if (files.entryAt? (name :: directory)).isSome then .error .occupied
      else if path.endsWithSlash && !slashAllowed then .error .absent
      else .ok (directory, name)

def makeDirectory (files : FileSystem) (path : Path) : Except SystemError FileSystem := do
  let (directory, name) ← files.placeFor path true
  return files.add directory name (.directory directoryPermissions)

/-- Create a symbolic link. Its target need not exist. -/
def makeSymbolicLink (files : FileSystem) (target link : Path) : Except SystemError FileSystem := do
  if 0 ∈ target.bytes ∨ 0 ∈ link.bytes then .error .zeroInPath
  else
    checkPath target
    let (directory, name) ← files.placeFor link false
    return files.add directory name (.symbolicLink files.freshInode target)

/-- Create a hard link: another entry for the file at the source. A directory has one entry only.
A symbolic link at the source is not followed. -/
def makeHardLink (files : FileSystem) (source link : Path) : Except SystemError FileSystem := do
  if 0 ∈ source.bytes ∨ 0 ∈ link.bytes then .error .zeroInPath
  else
    let (_, entry) ← files.findLink source
    let (directory, name) ← files.placeFor link false
    if entry.isDirectory then .error .notPermitted
    else return files.add directory name entry

/-- Write a file. If there is none, it is created, be it through a link that leads nowhere. -/
def writeFile (files : FileSystem) (path : Path) (content : Bytes) :
    Except SystemError FileSystem := do
  match ← files.follow true path with
  | .vacant directory name _ =>
      return files.add directory name (.file files.freshInode filePermissions content)
  | .entry location _ =>
      match files.entryAt? location with
      | some (.file inode _ _) => return files.setContent inode content
      | _ => .error .isDirectory

/-- Create an empty file, or make the file at a path empty. -/
def touch (files : FileSystem) (path : Path) : Except SystemError FileSystem :=
  files.writeFile path []

/-- Remove an entry, and all that is in it. The root cannot go. -/
def remove (files : FileSystem) (path : Path) : Except SystemError FileSystem := do
  let (location, entry) ← files.findLink path
  if location = [] then .error .busy
  else if path.endsWithSlash && !entry.isDirectory then .error .notDirectory
  else return files.removeAt location

/-- Remove a directory and all that is in it. A symbolic link is removed, and not what it leads
to. A file is no directory. -/
def removeTree (files : FileSystem) (path : Path) : Except SystemError FileSystem := do
  match ← files.findLink path with
  | (_, .file _ _ _) => .error .notDirectory
  | _ => files.remove path

end FileSystem

end HostHome
