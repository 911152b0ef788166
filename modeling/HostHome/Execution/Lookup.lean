import HostHome.Execution.Environment
import HostHome.FileSystem.Query

/-!
# Finding programs

A name with more than one component is the path of a program. Any other name is
looked for in a list of directories, and the first directory that has a program
of this name is taken.
-/

namespace HostHome.Execution

open HostHome.Text (Bytes)

def listSeparator : UInt8 := 58

/-- The name that stands for the home of the user at the beginning of a directory. -/
def tilde : Bytes := [126]

/-- A directory of a list. At its beginning, a tilde stands for the home of the user. -/
def searchDirectory (home : Option Path) (directory : Path) : Path :=
  match directory.components, home with
  | .name name :: rest, some home =>
      if name = tilde then home.join (Path.ofComponents rest) else directory
  | _, _ => directory

/-- The directories of a list. An empty one is the current directory. -/
def searchDirectories (home : Option Path) (search : Bytes) : List Path :=
  (Text.piecesOf listSeparator search).map fun piece => searchDirectory home ⟨piece⟩

/-- The name is the path of a program. -/
def isLiteral (name : Path) : Bool :=
  1 < name.components.length || [dot, slash].isPrefixOf name.bytes

def findLiteral? (files : FileSystem) (name : Path) : Option Path := (files.canonical name).toOption

def findInList? (files : FileSystem) (home : Option Path) (name : Path) (search : Bytes) :
    Option Path :=
  let candidates := (searchDirectories home search).map fun directory => directory.join name
  (candidates.find? files.isProgram).bind fun found => (files.canonical found).toOption

def findProgram? (files : FileSystem) (home : Option Path) (name : Path)
    (search : Option Bytes) : Option Path :=
  if name.isEmpty then none
  else if isLiteral name then findLiteral? files name
  else search.bind (findInList? files home name)

def searchVariable : String := "PATH"

/-- Find a program by its path, or in the directories of a list. The environment says what the home
of the user is. -/
def Environment.findProgramIn? (environment : Environment) (files : FileSystem) (name : Path)
    (search : Option Bytes) : Option Path :=
  Execution.findProgram? files ((environment.getNonempty? homeVariable).map Path.mk) name search

def Environment.findProgram? (environment : Environment) (files : FileSystem) (name : Path) :
    Option Path :=
  environment.findProgramIn? files name (environment.get? searchVariable)

end HostHome.Execution
