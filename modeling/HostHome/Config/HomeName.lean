/-!
# Names of per-host homes

A per-host home is one directory below the directory of all of them. Its name is
therefore nonempty, holds no slash, and is neither `.` nor `..`.
-/

namespace HostHome.Config

/-- Why a name cannot be the name of a per-host home. -/
inductive HomeNameFault where
  | empty
  | dots (name : String)
  | slash (name : String)
  deriving DecidableEq, Repr

def HomeNameFault.message : HomeNameFault → String
  | empty => "name is empty"
  | dots name => "name may not be '" ++ name ++ "'"
  | slash name => "name may not contain '/': " ++ name

/-- What is wrong with a name, if anything is. -/
def homeNameFault? (name : String) : Option HomeNameFault :=
  if name = "" then some .empty
  else if name = "." ∨ name = ".." then some (.dots name)
  else if '/' ∈ name.toList then some (.slash name)
  else none

end HostHome.Config
