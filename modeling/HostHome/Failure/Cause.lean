import HostHome.Failure.SystemError
import HostHome.Path.Basic
import HostHome.Text.Quoted

/-!
# Failures of a run

A run fails for one cause, and on its way out the failure may gather contexts
that say what was going on. The cause alone decides the status with which the
program exits.
-/

namespace HostHome

/-- Why a run failed. -/
inductive Cause where
  /-- Nothing names a home directory. -/
  | homeUnknown
  /-- The name of this machine could not be read. -/
  | hostNameUnavailable (reason : String)
  /-- The per-host home cannot have this name. -/
  | invalidHomeName (name hostName reason : String)
  /-- A configuration file exists but could not be read. -/
  | unreadableConfig (file : Path) (source : SystemError)
  /-- The shared home is itself a per-host home. -/
  | nested (marker : Path)
  /-- A directory could not be created. -/
  | createDirectory (path : Path) (source : SystemError)
  /-- A symbolic link could not be created. -/
  | symbolicLink (link target : Path) (source : SystemError)
  /-- A hard link could not be created. -/
  | hardLink (link target : Path) (source : SystemError)
  /-- An empty file could not be created. -/
  | createFile (path : Path) (source : SystemError)
  /-- A script could not be written. -/
  | writeScript (path : Path) (source : SystemError)
  /-- The program could not find itself. -/
  | selfLookup (name : String)
  /-- There is no such program. -/
  | commandNotFound (name : String)
  /-- A program could not be started. -/
  | cannotStart (program : String) (source : SystemError)
  /-- A request to the system failed. -/
  | system (source : SystemError)
  /-- Anything else, in words. -/
  | other (text : String)
  deriving DecidableEq, Repr

namespace Cause

def source? : Cause → Option SystemError
  | unreadableConfig _ source | createDirectory _ source | symbolicLink _ _ source
  | hardLink _ _ source | createFile _ source | writeScript _ source | cannotStart _ source
  | system source => some source
  | homeUnknown | hostNameUnavailable _ | invalidHomeName _ _ _ | nested _ | selfLookup _
  | commandNotFound _ | other _ => none

def message : Cause → String
  | homeUnknown => "Unable to determine home directory path"
  | hostNameUnavailable reason => "Unable to determine hostname: " ++ reason
  | invalidHomeName name hostName reason =>
      "Invalid per-host home name " ++ Text.quoted name ++ " (from hostname "
        ++ Text.quoted hostName ++ "): " ++ reason
  | unreadableConfig file source =>
      "IO error reading config file " ++ file.display ++ ": " ++ source.message
  | nested marker => "multihome cannot be nested (found " ++ marker.display ++ ")"
  | createDirectory path source =>
      "cannot create directory " ++ path.display ++ ": " ++ source.message
  | symbolicLink link target source =>
      "cannot create symlink " ++ link.display ++ " -> " ++ target.display ++ ": "
        ++ source.message
  | hardLink link target source =>
      "cannot create hard link " ++ link.display ++ " => " ++ target.display ++ ": "
        ++ source.message
  | createFile path source => "cannot create file " ++ path.display ++ ": " ++ source.message
  | writeScript path source =>
      "cannot write init script " ++ path.display ++ ": " ++ source.message
  | selfLookup name => "cannot locate the multihome program (" ++ name ++ ")"
  | commandNotFound name => "command not found: " ++ name
  | cannotStart program source => "failed to execute " ++ program ++ ": " ++ source.message
  | system source => source.message
  | other text => text

/-- The cause and what is behind it, in words. A cause from the system says it twice: once in its
own words and once behind them. -/
def chain (cause : Cause) : List String :=
  match cause with
  | system source => [source.message]
  | cause => cause.message :: cause.source?.toList.map SystemError.message

/-- The exit status for a cause: the number of the system's error, if it is a status other than
success, and one for everything else. -/
def exitCode (cause : Cause) : Nat :=
  match cause.source?.bind SystemError.number? with
  | some number => if 0 < number ∧ number < 256 then number.toNat else 1
  | none => 1

end Cause

/-- A failure: its cause, and the contexts it has gathered, the outermost one first. -/
structure Failure where
  cause : Cause
  contexts : List String := []
  deriving DecidableEq, Repr

namespace Failure

/-- Add a context around a failure. -/
def within (failure : Failure) (context : String) : Failure :=
  { failure with contexts := context :: failure.contexts }

/-- The failure in words, from the outermost context to the innermost cause. -/
def chain (failure : Failure) : List String := failure.contexts ++ failure.cause.chain

/-- The outermost words of a failure. -/
def message (failure : Failure) : String := failure.contexts.headD failure.cause.message

def fullMessage (failure : Failure) : String := ": ".intercalate failure.chain

def exitCode (failure : Failure) : Nat := failure.cause.exitCode

end Failure

end HostHome
