/-!
# Escape sequences of terminals

Colours are switched on and off by sequences that begin with the escape
character. Strip them: the escape character with a bracket runs to the first
character from at sign to tilde, and the escape character with any other
character is a sequence of its own.
-/

namespace HostHome.Text

/-- The character that begins a sequence. -/
def escapeChar : Char := '\x1b'

/-- The characters that end a sequence begun with a bracket. -/
def endsSequence (c : Char) : Bool := '@' ≤ c && c ≤ '~'

/-- What the reader has seen: plain text, the beginning of a sequence, or a sequence that runs
to its last character. -/
inductive AnsiState where
  | text
  | escape
  | sequence
  deriving DecidableEq, Repr

/-- Strip the sequences, from a state on. -/
def stripAnsiFrom : AnsiState → List Char → List Char
  | _, [] => []
  | .text, c :: rest =>
      if c = escapeChar then stripAnsiFrom .escape rest else c :: stripAnsiFrom .text rest
  | .escape, c :: rest =>
      if c = '[' then stripAnsiFrom .sequence rest else stripAnsiFrom .text rest
  | .sequence, c :: rest =>
      if endsSequence c then stripAnsiFrom .text rest else stripAnsiFrom .sequence rest

def stripAnsi (text : String) : String := String.ofList (stripAnsiFrom .text text.toList)

end HostHome.Text
