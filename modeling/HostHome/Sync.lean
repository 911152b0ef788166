import HostHome.Execution.Command

/-!
# Copies by the sync tool

A sync tool copies trees of files. This is how it is called, and how a copy that
failed is reported.
-/

namespace HostHome

open HostHome.Text (Bytes)
open HostHome.Execution (Command Output Executor)

def syncProgramName : String := "rsync"

/-- Whether a copy may replace files that are newer than those it brings. -/
inductive CopyMode where
  | normal
  | updateOnly
  deriving DecidableEq, Repr

/-- An update keeps newer files. -/
def CopyMode.forUpdate (update : Bool) : CopyMode := if update then updateOnly else normal

def CopyMode.name : CopyMode → String
  | normal => "Normal"
  | updateOnly => "UpdateOnly"

def CopyMode.options : CopyMode → List Bytes
  | normal => [Text.encode "-aq"]
  | updateOnly => [Text.encode "-aq", Text.encode "--update"]

def syncArguments (source destination : Path) (mode : CopyMode) : List Bytes :=
  mode.options ++ [source.bytes, destination.bytes]

/-- The sync tool, and somebody who runs it. -/
structure SyncTool where
  program : Path
  executor : Executor

def SyncTool.copyCommand (tool : SyncTool) (source destination : Path) (mode : CopyMode) :
    Command :=
  ⟨tool.program, syncArguments source destination mode⟩

def SyncTool.versionCommand (tool : SyncTool) : Command :=
  ⟨tool.program, [Text.encode "--version"]⟩

/-- A copy must have a source and a destination. -/
inductive CopyViolation where
  | emptySource
  | emptyDestination
  deriving DecidableEq, Repr

def CopyViolation.message : CopyViolation → String
  | emptySource => "bulk_copy: empty source"
  | emptyDestination => "bulk_copy: empty destination"

/-- What a copy lacks, if it lacks anything. -/
def copyViolation? (source destination : Path) : Option CopyViolation :=
  if source.isEmpty then some .emptySource
  else if destination.isEmpty then some .emptyDestination
  else none

/-- The report of a copy that failed, with what the tool printed about it. -/
def failureMessage (source : Path) (output : Output) : String :=
  let status := source.display ++ ": sync exited with status " ++ toString output.code
  let reason := Text.trim output.stderr
  if reason = "" then status else status ++ ": " ++ reason

/-- The source for a copy of what is in a directory: the directory with a slash behind it. -/
def contentsOf (directory : Path) : Path := directory.withSlash

end HostHome
