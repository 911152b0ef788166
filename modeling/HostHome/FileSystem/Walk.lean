import HostHome.Failure.SystemError
import HostHome.FileSystem.Basic

/-!
# Walking along paths

Follow a path from name to name. Symbolic links on the way are followed, at most
forty of them, and the walk ends at an entry or at a free name in a directory.
-/

namespace HostHome

open HostHome.Text (Bytes)

inductive Step where
  /-- A dot: stay in the directory. -/
  | stay
  /-- Two dots: go to the directory above. -/
  | up
  /-- Go to an entry of the directory. -/
  | name (name : Bytes)
  /-- A slash at the end: what was reached has to be a directory. -/
  | slash
  deriving DecidableEq, Repr

def Step.ofPiece? (piece : Bytes) : Option Step :=
  if piece = [] then none
  else if piece = [dot] then some .stay
  else if piece = [dot, dot] then some .up
  else some (.name piece)

def Path.steps (path : Path) : List Step :=
  path.pieces.filterMap Step.ofPiece? ++ if path.endsWithSlash then [.slash] else []

/-- The number of symbolic links that a walk follows. -/
def linkLimit : Nat := 40

/-- The number of bytes that a name may have. -/
def nameLimit : Nat := 255

/-- The number of bytes that a path may have. -/
def pathLimit : Nat := 4095

/-- Where a walk ends. -/
inductive Spot where
  /-- At an entry, perhaps with a slash behind it. -/
  | entry (location : Location) (slashed : Bool)
  /-- At a free name in a directory, perhaps with a slash behind it. -/
  | vacant (directory : Location) (name : Bytes) (slashed : Bool)
  deriving DecidableEq, Repr

namespace FileSystem

def startOf (place : Location) (path : Path) : Location := if path.isAbsolute then [] else place

/-- Walk from a directory, with a number of links that may still be followed. Whoever walks to a file
in order to write it, and may have to create it, cannot have a slash behind its name. -/
def walk (files : FileSystem) (writing : Bool) (links : Nat) (place : Location)
    (steps : List Step) : Except SystemError Spot :=
  match steps with
  | [] => .ok (.entry place false)
  | [.slash] => .ok (.entry place true)
  | .slash :: rest => walk files writing links place rest
  | .stay :: rest =>
      if files.isDirectoryAt place then walk files writing links place rest else .error .notDirectory
  | .up :: rest =>
      if files.isDirectoryAt place then walk files writing links place.tail rest else .error .notDirectory
  | .name name :: rest =>
      if !files.isDirectoryAt place then .error .notDirectory
      else if writing && rest ≠ [] && rest.all (· = .slash) then .error .isDirectory
      else if nameLimit < name.length then .error .nameTooLong
      else match files.entryAt? (name :: place) with
        | none =>
            if rest.all (· = .slash) then .ok (.vacant place name (!rest.isEmpty))
            else .error .absent
        | some (.symbolicLink _ target) =>
            match links with
            | 0 => .error .tooManyLinks
            | links + 1 => walk files writing links (startOf place target) (target.steps ++ rest)
        | some _ => walk files writing links (name :: place) rest
termination_by (links, steps.length)

/-- Refuse paths that hold a zero byte, are empty or are too long. -/
def checkPath (path : Path) : Except SystemError Unit :=
  if 0 ∈ path.bytes then .error .zeroInPath
  else if path.isEmpty then .error .absent
  else if pathLimit < path.bytes.length then .error .nameTooLong
  else .ok ()

/-- Walk along a path, perhaps in order to write a file. -/
def follow (files : FileSystem) (writing : Bool) (path : Path) : Except SystemError Spot := do
  checkPath path
  files.walk writing linkLimit (startOf files.current path) path.steps

def walkToDirectory (files : FileSystem) (place : Location) (steps : List Step) :
    Except SystemError Location := do
  match ← files.walk false linkLimit place steps with
  | .entry location _ => if files.isDirectoryAt location then .ok location else .error .notDirectory
  | .vacant _ _ _ => .error .absent

/-- The last name of a path, and the steps before it. A path that ends with a dot, with two dots or
at the root has none. -/
def splitName? (steps : List Step) : Option (List Step × Bytes) :=
  match steps.getLast? with
  | some (.name name) => some (steps.dropLast, name)
  | _ => none

def withoutSlash (steps : List Step) : List Step :=
  if steps.getLast? = some .slash then steps.dropLast else steps

end FileSystem

end HostHome
