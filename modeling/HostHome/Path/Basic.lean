import HostHome.Text.Lines
import HostHome.Text.Utf8

/-!
# Paths

A path is a string of bytes in which slashes separate components. Repeated
slashes and inner dots do not count: two paths with the same components name the
same place, even where their bytes differ.
-/

namespace HostHome

open HostHome.Text (Bytes)

/-- The byte that separates the components of a path. -/
def slash : UInt8 := 47

/-- The byte from which the names `.` and `..` are made. -/
def dot : UInt8 := 46

/-- A path, by its bytes. -/
structure Path where
  bytes : Bytes
  deriving DecidableEq, Repr, Inhabited

inductive Component where
  /-- The directory from which absolute paths start. -/
  | root
  /-- A dot at the beginning of a relative path. -/
  | here
  /-- The directory above. -/
  | up
  /-- An ordinary name. -/
  | name (name : Bytes)
  deriving DecidableEq, Repr

namespace Path

def ofText (text : String) : Path := ⟨Text.encode text⟩

/-- The path as a text, with replacements for bytes that encode no character. -/
def display (path : Path) : String := Text.decodeLossy path.bytes

def isAbsolute (path : Path) : Bool := path.bytes.head? = some slash

/-- The pieces between the slashes. -/
def pieces (path : Path) : List Bytes := Text.piecesOf slash path.bytes

/-- The component that a piece stands for. Empty pieces and dots stand for none. -/
def componentOf? (piece : Bytes) : Option Component :=
  if piece = [] ∨ piece = [dot] then none
  else if piece = [dot, dot] then some .up
  else some (.name piece)

/-- What stands before the pieces of a path: the root, a dot or nothing. -/
def startOf (path : Path) : List Component :=
  if path.isAbsolute then [.root]
  else if path.pieces.head? = some [dot] then [.here]
  else []

def components (path : Path) : List Component :=
  path.startOf ++ path.pieces.filterMap componentOf?

def sameAs (path other : Path) : Bool := path.components = other.components

/-- The last component, if it is an ordinary name. -/
def fileName? (path : Path) : Option Bytes :=
  match path.components.getLast? with
  | some (.name name) => some name
  | _ => none

/-- Go on from a path. An absolute path starts anew. -/
def join (base next : Path) : Path :=
  if next.isAbsolute then next
  else if base.bytes = [] ∨ base.bytes.getLast? = some slash then ⟨base.bytes ++ next.bytes⟩
  else ⟨base.bytes ++ [slash] ++ next.bytes⟩

/-- Go on from a path to a name. -/
def joinText (base : Path) (text : String) : Path := base.join (.ofText text)

def ofComponents (components : List Component) : Path :=
  components.foldl
    (fun path component =>
      match component with
      | .root => ⟨[slash]⟩
      | .here => path.join ⟨[dot]⟩
      | .up => path.join ⟨[dot, dot]⟩
      | .name name => path.join ⟨name⟩)
    ⟨[]⟩

/-- The path without its last component, if it has one to lose. The root and the empty path have
none. -/
def parent? (path : Path) : Option Path :=
  match path.components.getLast? with
  | none | some .root => none
  | some _ => some (ofComponents path.components.dropLast)

def isEmpty (path : Path) : Bool := path.bytes.isEmpty

def endsWithSlash (path : Path) : Bool := path.bytes.getLast? = some slash

def withSlash (path : Path) : Path :=
  if path.endsWithSlash then path else ⟨path.bytes ++ [slash]⟩

end Path

end HostHome
