import HostHome.Failure.Cause

/-!
# Environments

The variables that a program finds when it starts, and the directory that they
name as the home of its user.
-/

namespace HostHome.Execution

open HostHome.Text (Bytes)

/-- The variables of a program. -/
structure Environment where
  bindings : List (String × Bytes) := []
  deriving DecidableEq, Repr

namespace Environment

def get? (environment : Environment) (name : String) : Option Bytes :=
  (environment.bindings.find? fun item => item.1 = name).map Prod.snd

def unset (environment : Environment) (name : String) : Environment :=
  ⟨environment.bindings.filter fun item => item.1 ≠ name⟩

def set (environment : Environment) (name : String) (value : Bytes) : Environment :=
  ⟨(name, value) :: (environment.unset name).bindings⟩

def getNonempty? (environment : Environment) (name : String) : Option Bytes :=
  (environment.get? name).filter (· ≠ [])

end Environment

/-- Where the path of a home comes from. -/
inductive HomeSource where
  /-- The variable that a login script sets when it leaves the shared home. -/
  | oldHomeVariable
  /-- The variable that holds the home. -/
  | homeVariable
  /-- The accounts of this machine. -/
  | accounts
  deriving DecidableEq, Repr

def HomeSource.name : HomeSource → String
  | oldHomeVariable => "HomeOld"
  | homeVariable => "Home"
  | accounts => "AccountDatabase"

/-- The variable that a login script sets when it leaves the shared home. -/
def oldHomeVariable : String := "HOME_OLD"

def homeVariable : String := "HOME"

def homeIn? (environment : Environment) (name : String) (source : HomeSource) :
    Option (Path × HomeSource) :=
  (environment.getNonempty? name).map fun value => (⟨value⟩, source)

def homeOfAccount? (account : Option Path) : Option (Path × HomeSource) :=
  (account.filter fun home => !home.isEmpty).map fun home => (home, .accounts)

/-- The shared home. An update runs inside the per-host home, and looks first for the home that was
left. -/
def homeDirectory (update : Bool) (environment : Environment) (account : Option Path) :
    Except Cause (Path × HomeSource) :=
  let old := if update then homeIn? environment oldHomeVariable .oldHomeVariable else none
  match old <|> homeIn? environment homeVariable .homeVariable <|> homeOfAccount? account with
  | some found => .ok found
  | none => .error .homeUnknown

end HostHome.Execution
