import HostHome.Unicode.Classes

/-!
# Quoted texts

Write a text between double quotes so that every character of it can be seen:
quotes and backslashes are escaped, and characters without a visible form of
their own are written by their code points.
-/

namespace HostHome.Text

def hexDigits (number : Nat) : List Char := Nat.toDigits 16 number

/-- The form of one character between quotes. -/
def quotedChar (c : Char) : List Char :=
  match c with
  | '\x00' => ['\\', '0']
  | '\t' => ['\\', 't']
  | '\r' => ['\\', 'r']
  | '\n' => ['\\', 'n']
  | '"' => ['\\', '"']
  | '\\' => ['\\', '\\']
  | c =>
      if Unicode.attachingSet.contains c || Unicode.unprintableSet.contains c then
        ['\\', 'u', '\x7b'] ++ hexDigits c.toNat ++ ['\x7d']
      else [c]

/-- A text between double quotes. -/
def quoted (text : String) : String :=
  String.ofList (['"'] ++ text.toList.flatMap quotedChar ++ ['"'])

end HostHome.Text
