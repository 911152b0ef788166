import HostHome.Path.Basic
import HostHome.Text.Substring

/-!
# Lines of configuration files

Configuration files hold one record a line. Comments begin with `#`, and what is
wrong with a line is reported with the number of that line. A line whose bytes
are no text is reported and then left empty, so that all other lines keep their
numbers.
-/

namespace HostHome.Config

open HostHome.Text (Bytes)

/-- What is wrong with one line of a file. -/
structure Diagnostic where
  file : Path
  line : Nat
  message : String
  deriving DecidableEq, Repr

/-- The report of a diagnostic: file, line and message. -/
def Diagnostic.display (diagnostic : Diagnostic) : String :=
  diagnostic.file.display ++ ":" ++ toString diagnostic.line ++ ": " ++ diagnostic.message

/-- Which lines are comments as a whole: those that begin with `#` in the first column, or also
those with blanks before it. -/
inductive CommentStyle where
  | firstColumn
  | indented
  deriving DecidableEq, Repr

/-- A line that says something: its number, and its text without comment. -/
structure Line where
  number : Nat
  text : String
  deriving DecidableEq, Repr

/-- Cut a line at its first `#` and drop the blanks before it. -/
def stripComment (line : String) : String :=
  match Text.splitAtChar? '#' line with
  | some (code, _) => Text.trimEnd code
  | none => Text.trimEnd line

def isComment (style : CommentStyle) (line : String) : Bool :=
  match style with
  | .firstColumn => line.toList.head? = some '#'
  | .indented => (Text.trimStart line).toList.head? = some '#'

def isBlankText (line : String) : Bool := Text.trim line = ""

/-- Read one line. Lines with nothing but blanks and lines that are comments as a whole say
nothing. Where comments may be indented, neither does a line that is empty without its comment. -/
def Line.ofRaw? (style : CommentStyle) (number : Nat) (raw : String) : Option Line :=
  if isBlankText raw || isComment style raw then none
  else
    let text := stripComment raw
    if style = .indented && isBlankText text then none
    else some ⟨number, text⟩

/-- The lines that say something, with the number of the first line given. -/
def linesFrom (style : CommentStyle) (number : Nat) : List String → List Line
  | [] => []
  | raw :: rest => (Line.ofRaw? style number raw).toList ++ linesFrom style (number + 1) rest

def meaningfulLines (style : CommentStyle) (content : String) : List Line :=
  linesFrom style 1 (Text.lines content)

/-- The text of a file, with reports on the lines that are no text. -/
structure FileText where
  content : String := ""
  diagnostics : List Diagnostic := []
  deriving DecidableEq, Repr

/-- Read the bytes of one line: as its text, or as an empty line with a report. -/
def decodeLine (file : Path) (number : Nat) (raw : Bytes) : List Char × Option Diagnostic :=
  match Text.decodeChars? raw with
  | some line => (line, none)
  | none =>
      ([], some ⟨file, number, "Invalid UTF-8: " ++ Text.trimEnd (Text.decodeLossy raw)⟩)

/-- Read the bytes of some lines, with the number of the first line given. -/
def decodeLinesFrom (file : Path) (number : Nat) : List Bytes → List (List Char × Option Diagnostic)
  | [] => []
  | raw :: rest => decodeLine file number raw :: decodeLinesFrom file (number + 1) rest

def lineFeed : UInt8 := 10

/-- Read the bytes of a file line by line. -/
def FileText.ofLines (file : Path) (bytes : Bytes) : FileText :=
  let decoded := decodeLinesFrom file 1 (Text.piecesOf lineFeed bytes)
  { content := String.ofList (['\n'].intercalate (decoded.map Prod.fst))
    diagnostics := decoded.filterMap Prod.snd }

/-- Read the bytes of a file. Bytes that are a text as a whole are taken at once. -/
def FileText.ofBytes (file : Path) (bytes : Bytes) : FileText :=
  match Text.decode? bytes with
  | some content => { content }
  | none => .ofLines file bytes

end HostHome.Config
