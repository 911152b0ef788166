import HostHome.Failure.Cause
import HostHome.FileSystem.Change

/-!
# Links

Make sure of a link without ever replacing what is already at its place. What is
there is looked at first, and only a free place is taken.
-/

namespace HostHome

inductive LinkKind where
  | symbolic
  | hard
  deriving DecidableEq, Repr

def LinkKind.description : LinkKind → String
  | symbolic => "symlink"
  | hard => "hard link"

/-- A link at the destination that stands for the source. -/
structure Link where
  kind : LinkKind
  source : Path
  destination : Path
  deriving DecidableEq, Repr

/-- What is at a place that a link should have. -/
inductive Occupant where
  | linkTo (target : Path)
  | directory
  | symbolicLink
  | file
  deriving DecidableEq, Repr

def Occupant.description : Occupant → String
  | linkTo target => "points to " ++ target.display
  | directory => "directory"
  | symbolicLink => "symlink"
  | file => "regular file"

def Occupant.ofEntry : Entry → Occupant
  | .directory _ => directory
  | .symbolicLink _ _ => symbolicLink
  | .file _ _ _ => file

/-- What is at the place of a link. -/
inductive LinkState where
  /-- Nothing. -/
  | missing
  /-- The link. -/
  | correct
  /-- Something else. -/
  | occupied (occupant : Occupant)
  deriving DecidableEq, Repr

/-- What became of a link. -/
inductive LinkChange where
  /-- It was created. -/
  | applied
  /-- It was there. -/
  | alreadyCorrect
  /-- Its place is taken. -/
  | skipped (occupant : Occupant)
  deriving DecidableEq, Repr

def skipReason (occupant : Occupant) : String :=
  "destination exists (" ++ occupant.description ++ ")"

namespace Link

/-- The link in words: an arrow from the destination to the source. -/
def description (link : Link) : String :=
  match link.kind with
  | .symbolic => link.destination.display ++ " -> " ++ link.source.display
  | .hard => link.destination.display ++ " => " ++ link.source.display

/-- The entry at the destination is the file at the source. -/
def sharesFile (files : FileSystem) (link : Link) (location : Location) (entry : Entry) : Bool :=
  match files.findLink link.source with
  | .ok (sourceLocation, source) => FileSystem.isSameFile location entry sourceLocation source
  | .error _ => false

/-- What is at the place of the link. What cannot be looked at counts as nothing. -/
def state (files : FileSystem) (link : Link) : LinkState :=
  match files.findLink link.destination with
  | .error _ => .missing
  | .ok (location, entry) =>
      match link.kind with
      | .symbolic =>
          match entry with
          | .symbolicLink _ target =>
              if target.sameAs link.source then .correct else .occupied (.linkTo target)
          | entry => .occupied (.ofEntry entry)
      | .hard =>
          if link.sharesFile files location entry then .correct else .occupied (.ofEntry entry)

def apply (files : FileSystem) (link : Link) : Except Cause FileSystem :=
  match link.kind with
  | .symbolic =>
      (files.makeSymbolicLink link.source link.destination).mapError
        (.symbolicLink link.destination link.source)
  | .hard =>
      (files.makeHardLink link.source link.destination).mapError
        (.hardLink link.destination link.source)

/-- Create the link if its place is free. -/
def ensure (files : FileSystem) (link : Link) : Except Cause (LinkChange × FileSystem) :=
  match link.state files with
  | .missing => do return (.applied, ← link.apply files)
  | .correct => .ok (.alreadyCorrect, files)
  | .occupied occupant => .ok (.skipped occupant, files)

end Link

end HostHome
