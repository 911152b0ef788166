import HostHome.Unicode.Classes

/-!
# Lines and blanks

Split a text into its lines and strip the blanks around a text. A line ends at a
line feed, and a carriage return right before the line feed belongs to the end
of the line.
-/

namespace HostHome.Text

open HostHome.Unicode (isBlank)

/-- Drop the blanks at the end. -/
def trimEndChars (chars : List Char) : List Char :=
  chars.foldr (fun c rest => if rest.isEmpty && isBlank c then [] else c :: rest) []

def trimStart (text : String) : String := String.ofList (text.toList.dropWhile isBlank)

def trimEnd (text : String) : String := String.ofList (trimEndChars text.toList)

def trim (text : String) : String := String.ofList (trimEndChars (text.toList.dropWhile isBlank))

/-- The pieces between separators. There is always at least one piece. -/
def piecesOf {α : Type} [DecidableEq α] (separator : α) : List α → List (List α)
  | [] => [[]]
  | item :: rest =>
      if item = separator then [] :: piecesOf separator rest
      else match piecesOf separator rest with
        | [] => [[item]]
        | piece :: pieces => (item :: piece) :: pieces

def dropReturn (line : List Char) : List Char :=
  if line.getLast? = some '\r' then line.dropLast else line

/-- The lines of a text. A line feed at the very end begins no further line. -/
def lineChars (text : List Char) : List (List Char) :=
  let pieces := piecesOf '\n' text
  let finished := pieces.dropLast.map dropReturn
  match pieces.getLast? with
  | none => finished
  | some [] => finished
  | some last => finished ++ [last]

def lines (text : String) : List String := (lineChars text.toList).map String.ofList

end HostHome.Text
