import HostHome.FileSystem.Query

/-!
# Listings

List a tree: each directory before what is in it, and the entries of a directory
by their names.
-/

namespace HostHome.FileSystem

open HostHome.Text (Bytes)

/-- One line of a listing: a path relative to the top, and what is there. -/
structure Listed where
  path : Path
  entry : Entry
  deriving DecidableEq, Repr

/-- One byte string is before another in the order of their bytes. -/
def isBefore : Bytes → Bytes → Bool
  | [], _ => true
  | _ :: _, [] => false
  | byte :: rest, otherByte :: otherRest =>
      byte < otherByte || (byte = otherByte && isBefore rest otherRest)

/-- One list of names is before another: by the first names that differ. -/
def namesBefore : List Bytes → List Bytes → Bool
  | [], _ => true
  | _ :: _, [] => false
  | name :: rest, otherName :: otherRest =>
      if name = otherName then namesBefore rest otherRest else isBefore name otherName

def namesBelow? (top location : Location) : Option (List Bytes) :=
  if location ≠ top ∧ top.isSuffixOf location then
    some (location.reverse.drop top.length)
  else none

def listBelow (files : FileSystem) (top : Location) : List Listed :=
  let found := files.entries.filterMap fun (location, entry) =>
    (namesBelow? top location).map fun names => (names, entry)
  (found.mergeSort fun one other => namesBefore one.1 other.1).map fun (names, entry) =>
    ⟨⟨[slash].intercalate names⟩, entry⟩

def list (files : FileSystem) (path : Path) : Except SystemError (List Listed) := do
  match ← files.find path with
  | (location, .directory _) => .ok (files.listBelow location)
  | _ => .error .notDirectory

end HostHome.FileSystem
