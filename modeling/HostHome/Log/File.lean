import HostHome.Calendar
import HostHome.Execution.Environment
import HostHome.FileSystem.Tree
import HostHome.Log.Event

/-!
# Log files

Each run writes its own log file, in a directory of the cache of the user. The
file begins with a header and shows every event of the run.
-/

namespace HostHome.Log

open HostHome.Execution (Environment)

/-- The variable that holds the directory of caches. -/
def cacheVariable : String := "XDG_CACHE_HOME"

def homeCacheName : String := ".cache"

def logDirectoryName : String := "multihome"

/-- The directory of caches: the one that the environment names, or one in the home, or one in the
current directory. -/
def cacheRoot (environment : Environment) : Path :=
  match environment.getNonempty? cacheVariable with
  | some directory => ⟨directory⟩
  | none =>
      let home := (environment.getNonempty? Execution.homeVariable).map Path.mk
      (home.getD ⟨[dot]⟩).joinText homeCacheName

def logDirectory (environment : Environment) : Path :=
  (cacheRoot environment).joinText logDirectoryName

def logFileIn (directory : Path) (name : String) : Path := directory.joinText (name ++ ".log")

/-- Find the log file of the given name. Its directory is created if need be; without it there is no
log file. -/
def prepareLogFile (files : FileSystem) (environment : Environment) (name : String) :
    FileSystem × Option Path :=
  let directory := logDirectory environment
  match files.createAll directory with
  | (files, .ok ()) => (files, some (logFileIn directory name))
  | (files, .error _) => (files, none)

def version : String := "0.1.0"

/-- The line above and below the header of a log file. -/
def headerRule : String := "=========================================="

def header (now : Calendar.Moment) : String :=
  headerRule ++ "\nmultihome " ++ version ++ " " ++ now.sortableText ++ "\n" ++ headerRule ++ "\n"

/-- Begin a log file, if it can be written. -/
def openLogFile (files : FileSystem) (now : Calendar.Moment) (file : Path) :
    Option (FileSystem × Nat) :=
  match files.writeFile file (Text.encode (header now)) with
  | .error _ => none
  | .ok files =>
      match files.find file with
      | .ok (_, .file inode _ _) => some (files, inode)
      | _ => none

def contentOfInode (files : FileSystem) (inode : Nat) : Text.Bytes :=
  (files.entries.findSome? fun item =>
    match item.2 with
    | .file own _ content => if own = inode then some content else none
    | _ => none).getD []

/-- Append events to an open log file. -/
def appendEvents (files : FileSystem) (inode : Nat) (now : Calendar.Moment) (events : List Event) :
    FileSystem :=
  let lines := String.join (events.map (Event.fileLine now.timeText))
  files.setContent inode (contentOfInode files inode ++ Text.encode lines)

end HostHome.Log
