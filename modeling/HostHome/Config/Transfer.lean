import HostHome.Config.Line

/-!
# Transfer directives

A transfer file says which files of the shared home appear in each per-host home,
and how: the first byte of a line is the kind, the path begins at the third one.
-/

namespace HostHome.Config

/-- How a directive brings a file into a per-host home. -/
inductive TransferKind where
  | symbolicLink
  | hardLink
  | copy
  deriving DecidableEq, Repr

def TransferKind.letter : TransferKind → Char
  | symbolicLink => 'L'
  | hardLink => 'H'
  | copy => 'T'

def TransferKind.ofLetter? (letter : Char) : Option TransferKind :=
  if letter = 'L' then some symbolicLink
  else if letter = 'H' then some hardLink
  else if letter = 'T' then some copy
  else none

def TransferKind.description : TransferKind → String
  | symbolicLink => "symlink"
  | hardLink => "hard link"
  | copy => "copy"

/-- Bring the file at a path, relative to the shared home, into the per-host home. -/
structure Directive where
  kind : TransferKind
  path : String
  line : Nat
  deriving DecidableEq, Repr

/-- What there is to say about a line of a transfer file. All but the slash are faults. -/
inductive DirectiveRemark where
  | tooShort (text : String)
  | unknownKind (letter : Char)
  | leadingSlash (path : String)
  | emptyPath
  | noFinalName (path : String)
  deriving DecidableEq, Repr

def DirectiveRemark.message : DirectiveRemark → String
  | tooShort text => "Invalid format: " ++ text
  | unknownKind letter => "Invalid type: " ++ String.singleton letter
  | leadingSlash path => "Ignoring leading '/' in path: " ++ path
  | emptyPath => "Empty path"
  | noFinalName path => "Path has no final component: " ++ path

/-- Strip one slash from the beginning of a path, with a remark. -/
def stripLeadingSlash : List Char → List Char × List DirectiveRemark
  | '/' :: path => (path, [.leadingSlash (String.ofList ('/' :: path))])
  | path => (path, [])

/-- Tell what is wrong with a path without a leading slash, if anything is. -/
def pathRemark? (path : String) : Option DirectiveRemark :=
  if path = "" then some .emptyPath
  else if (Path.ofText path).fileName? = none then some (.noFinalName path)
  else none

/-- The path of a directive begins at the third byte. A separator of more than one byte reaches
over that place and leaves no path. -/
def pathAfter (separator : Char) (rest : List Char) : List Char :=
  if separator.utf8Size = 1 then rest else []

/-- Read the kind and the path of a directive, with remarks. The character between them does not
count, as long as it is a single byte. -/
def readDirective : List Char → Option (TransferKind × String) × List DirectiveRemark
  | letter :: separator :: first :: more =>
      match TransferKind.ofLetter? letter with
      | none => (none, [.unknownKind letter])
      | some kind =>
          let (stripped, remarks) := stripLeadingSlash (pathAfter separator (first :: more))
          let path := String.ofList stripped
          match pathRemark? path with
          | some remark => (none, remarks ++ [remark])
          | none => (some (kind, path), remarks)
  | text => (none, [.tooShort (String.ofList text)])

def Directive.ofLine (file : Path) (line : Line) : Option Directive × List Diagnostic :=
  let (found, remarks) := readDirective line.text.toList
  (found.map fun (kind, path) => ⟨kind, path, line.number⟩,
    remarks.map fun remark => ⟨file, line.number, remark.message⟩)

def readDirectives (file : Path) (lines : List Line) : List Directive × List Diagnostic :=
  (lines.filterMap fun line => (Directive.ofLine file line).1,
    lines.flatMap fun line => (Directive.ofLine file line).2)

def directiveLines (content : String) : List Line := meaningfulLines .firstColumn content

def parseDirectives (file : Path) (content : String) : List Directive × List Diagnostic :=
  readDirectives file (directiveLines content)

end HostHome.Config
