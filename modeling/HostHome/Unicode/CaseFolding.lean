import HostHome.Unicode.CodeSet
import HostHome.Unicode.CaseClassTable

/-!
# Ignoring case

Close a set of characters under equality without case: with a character, every
character of its case class belongs to the closed set.
-/

namespace HostHome.Unicode

/-- Read case classes: code points with blanks between them, classes with commas. -/
def readClasses (current : List Nat) (value? : Option Nat) : List Char → List (List Nat)
  | [] => [current ++ value?.toList]
  | c :: rest =>
      if c = ',' then (current ++ value?.toList) :: readClasses [] none rest
      else if c = ' ' ∨ c = '\n' then readClasses (current ++ value?.toList) none rest
      else readClasses current (some (value?.getD 0 * 16 + CodeSet.hexDigit c)) rest

/-- The case classes with more than one member. -/
def caseClasses : List (List Char) :=
  (readClasses [] none caseClassText.toList).map fun members => members.map Char.ofNat

/-- Add every character that equals a member when case is ignored. -/
def CodeSet.closeUnderCase (set : CodeSet) : CodeSet :=
  CodeSet.ofIntervals (set.ranges ++
    (caseClasses.filter fun members => members.any set.contains).flatMap fun members =>
      members.map fun c => (ordinal c.toNat, ordinal c.toNat))

/-- Another character equals this one when case is ignored. -/
def hasCaseVariants (c : Char) : Bool :=
  caseClasses.any fun members => members.contains c

end HostHome.Unicode
