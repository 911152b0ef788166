import HostHome.FileSystem.Query
import HostHome.Shell.Arithmetic

/-!
# Conditions of a shell

Decide a condition on files, texts and numbers.
-/

namespace HostHome.Shell

open HostHome.Text (Bytes)

def testOne (files : FileSystem) (operator : String) (operand : Bytes) : Option Bool :=
  let path : Path := ⟨operand⟩
  match operator with
  | "-n" => some (operand ≠ [])
  | "-z" => some (operand = [])
  | "-e" => some (files.exists? path)
  | "-f" => some (files.isFile path)
  | "-d" => some (files.isDirectory path)
  | "-x" => some (files.isProgram path || files.isDirectory path)
  | "-r" | "-w" => some (files.exists? path)
  | "-h" | "-L" => some ((files.readLink path).isOk)
  | "-s" => some (((files.readFile path).toOption.getD []) ≠ [])
  | _ => none

def compareNumbers (operator : String) (left right : Int) : Option Bool :=
  match operator with
  | "-eq" => some (left = right)
  | "-ne" => some (left ≠ right)
  | "-lt" => some (left < right)
  | "-le" => some (left ≤ right)
  | "-gt" => some (right < left)
  | "-ge" => some (right ≤ left)
  | _ => none

def testTwo (operator : String) (left right : Bytes) : Option Bool :=
  match operator with
  | "=" => some (left = right)
  | "!=" => some (left ≠ right)
  | _ => do
      let leftNumber ← numberOf? (Text.decodeCharsLossy left)
      let rightNumber ← numberOf? (Text.decodeCharsLossy right)
      compareNumbers operator leftNumber rightNumber

/-- Decide a condition, if it has meaning. -/
def testCondition (files : FileSystem) (arguments : List Bytes) : Option Bool :=
  match arguments with
  | [] => some false
  | [operand] => some (operand ≠ [])
  | [operator, operand] =>
      if operator = Text.encode "!" then some (operand = [])
      else testOne files (Text.decodeLossy operator) operand
  | [left, operator, right] =>
      if left = Text.encode "!" then
        (testOne files (Text.decodeLossy operator) right).map not
      else testTwo (Text.decodeLossy operator) left right
  | [negation, left, operator, right] =>
      if negation = Text.encode "!" then (testTwo (Text.decodeLossy operator) left right).map not
      else none
  | _ => none

/-- The exit status for a condition. One without meaning is a failure of its own. -/
def testStatus (condition : Option Bool) : Nat :=
  match condition with
  | some true => 0
  | some false => 1
  | none => 2

end HostHome.Shell
