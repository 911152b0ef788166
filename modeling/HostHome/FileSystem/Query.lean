import HostHome.FileSystem.Walk

/-!
# Looking at a file system

Ask what a path leads to, with or without following a link at its end, and read
files and links. Nothing here changes anything.
-/

namespace HostHome

open HostHome.Text (Bytes)

/-- The path that leads to a location, without dots and without links. -/
def Location.path (location : Location) : Path :=
  match location with
  | [] => ⟨[slash]⟩
  | location => ⟨location.reverse.flatMap fun name => slash :: name⟩

namespace FileSystem

/-- What a path leads to, and where it is. -/
def find (files : FileSystem) (path : Path) : Except SystemError (Location × Entry) := do
  match ← files.follow false path with
  | .vacant _ _ _ => .error .absent
  | .entry location slashed =>
      match files.entryAt? location with
      | none => .error .absent
      | some entry =>
          if slashed && !entry.isDirectory then .error .notDirectory else .ok (location, entry)

/-- What a path leads to. A symbolic link at the end is not followed, unless a slash stands behind
it. -/
def findLink (files : FileSystem) (path : Path) : Except SystemError (Location × Entry) := do
  checkPath path
  match splitName? path.steps with
  | none => files.find path
  | some (before, name) =>
      let directory ← files.walkToDirectory (startOf files.current path) before
      if nameLimit < name.length then .error .nameTooLong
      else match files.entryAt? (name :: directory) with
        | none => .error .absent
        | some entry => .ok (name :: directory, entry)

/-- The path leads to something. -/
def exists? (files : FileSystem) (path : Path) : Bool := (files.find path).isOk

/-- There is an entry at the path, be it a link that leads nowhere. -/
def hasEntry (files : FileSystem) (path : Path) : Bool := (files.findLink path).isOk

def isDirectory (files : FileSystem) (path : Path) : Bool :=
  match files.find path with
  | .ok (_, entry) => entry.isDirectory
  | .error _ => false

def isFile (files : FileSystem) (path : Path) : Bool :=
  match files.find path with
  | .ok (_, entry) => entry.isFile
  | .error _ => false

/-- The path without dots and links. It may have any length, also one at which a system refuses to
find it because it is longer than `pathLimit`. -/
def canonical (files : FileSystem) (path : Path) : Except SystemError Path := do
  let (location, _) ← files.find path
  return Location.path location

def readLink (files : FileSystem) (path : Path) : Except SystemError Path := do
  match ← files.findLink path with
  | (_, .symbolicLink _ target) => .ok target
  | _ => .error .invalid

def readFile (files : FileSystem) (path : Path) : Except SystemError Bytes := do
  match ← files.find path with
  | (_, .file _ _ content) => .ok content
  | _ => .error .isDirectory

def runnableBits : Nat := 0o111

def isRunnable (permissions : Nat) : Bool := permissions &&& runnableBits ≠ 0

/-- The path leads to a file that can be run. -/
def isProgram (files : FileSystem) (path : Path) : Bool :=
  match files.find path with
  | .ok (_, .file _ permissions _) => isRunnable permissions
  | _ => false

/-- Two entries are one file: they have one inode, or are directories at one location. -/
def isSameFile (location : Location) (entry : Entry) (otherLocation : Location)
    (otherEntry : Entry) : Bool :=
  match entry.inode?, otherEntry.inode? with
  | some inode, some otherInode => inode = otherInode
  | none, none => location = otherLocation
  | _, _ => false

end FileSystem

end HostHome
