import HostHome.Text.Utf8

/-!
# Words of a shell

Read a word by the quoting rules of the POSIX shell. Single quotes keep every
character as it is. Double quotes keep all but parameters and some backslashes.
Outside quotes a blank, a line end or an operator ends the word.
-/

namespace HostHome.Shell

open HostHome.Text (Bytes)

/-- What is done with the value of a parameter. -/
inductive ParameterRule where
  /-- The value as it is. -/
  | value
  /-- The number of its bytes. -/
  | length
  /-- A text in place of a value that is missing, or also of an empty one. -/
  | orElse (emptyToo : Bool) (text : List Char)
  /-- A text in place of a value that is there, or only of one that is not empty. -/
  | ifSet (emptyToo : Bool) (text : List Char)
  /-- The value without a beginning that has a pattern. -/
  | dropStart (longest : Bool) (pattern : List Char)
  /-- The value without an end that has a pattern. -/
  | dropEnd (longest : Bool) (pattern : List Char)
  deriving DecidableEq, Repr

/-- A parameter, and what is done with its value. -/
structure ParameterUse where
  name : List Char
  rule : ParameterRule := .value
  deriving DecidableEq, Repr

inductive Atom where
  /-- A character that stands for itself. -/
  | char (c : Char) (quoted : Bool)
  /-- The beginning of a quoted part, which makes a word even where nothing is in it. -/
  | quotes
  /-- What a parameter stands for. -/
  | parameter (use : ParameterUse) (quoted : Bool)
  /-- All arguments, each a word of its own. -/
  | arguments (quoted : Bool)
  /-- The value of a sum. -/
  | arithmetic (expression : List Char)
  /-- What the script prints. -/
  | command (script : List Char) (quoted : Bool)
  /-- Bytes that stand for themselves. -/
  | value (bytes : Bytes) (quoted : Bool)
  deriving DecidableEq, Repr

/-- A word, part by part. -/
abbrev Word := List Atom

/-- The quotes in which a reader is. -/
inductive Quotes where
  | none
  | single
  | double
  deriving DecidableEq, Repr

def isBlankChar (c : Char) : Bool := c = ' ' || c = '\t'

def isOperatorChar (c : Char) : Bool := c ∈ [';', '&', '|', '<', '>', '(', ')']

def endsWord (c : Char) : Bool := isBlankChar c || c = '\n' || isOperatorChar c

def isNameChar (c : Char) : Bool := c.isAlphanum || c = '_'

/-- Parameters with a name of one special character. -/
def isSpecialParameter (c : Char) : Bool := c ∈ ['#', '?', '$', '!', '-']

/-- Characters before two closing parentheses, and what is behind them. -/
def untilDoubleClose : List Char → Option (List Char × List Char)
  | [] => none
  | ')' :: ')' :: rest => some ([], rest)
  | c :: rest => (untilDoubleClose rest).map fun (inside, after) => (c :: inside, after)

/-- Characters before a closing brace, and what is behind it. -/
def untilBrace : List Char → Option (List Char × List Char)
  | [] => none
  | c :: rest =>
      if c = '\x7d' then some ([], rest)
      else (untilBrace rest).map fun (inside, after) => (c :: inside, after)

/-- The script before a closing parenthesis, and what is behind it. Parentheses in quotes do not
count, and others come in pairs. -/
def untilParenthesis (depth : Nat) (quote : Option Char) :
    List Char → Option (List Char × List Char)
  | [] => none
  | '\\' :: c :: rest =>
      (untilParenthesis depth quote rest).map fun (inside, after) => ('\\' :: c :: inside, after)
  | c :: rest =>
      match quote with
      | some mark =>
          (untilParenthesis depth (if c = mark then none else some mark) rest).map
            fun (inside, after) => (c :: inside, after)
      | none =>
          if c = ')' ∧ depth = 0 then some ([], rest)
          else
            let depth := if c = '(' then depth + 1 else if c = ')' then depth - 1 else depth
            let quote := if c = '\'' ∨ c = '"' then some c else none
            (untilParenthesis depth quote rest).map fun (inside, after) => (c :: inside, after)

/-- The script before a back quote, and what is behind it. -/
def untilBackQuote : List Char → Option (List Char × List Char)
  | [] => none
  | '\\' :: c :: rest =>
      (untilBackQuote rest).map fun (inside, after) =>
        (if c = '\x60' ∨ c = '\\' ∨ c = '$' then c :: inside else '\\' :: c :: inside, after)
  | c :: rest =>
      if c = '\x60' then some ([], rest)
      else (untilBackQuote rest).map fun (inside, after) => (c :: inside, after)

def parameterName (text : List Char) : List Char :=
  match text with
  | [] => []
  | c :: _ =>
      if isSpecialParameter c ∨ c = '@' ∨ c = '*' then [c]
      else if c.isDigit then text.takeWhile Char.isDigit
      else text.takeWhile isNameChar

/-- Read what is done with the value of a parameter. -/
def readRule (text : List Char) : Option ParameterRule :=
  match text with
  | [] => some .value
  | ':' :: '-' :: rest | ':' :: '=' :: rest => some (.orElse true rest)
  | '-' :: rest | '=' :: rest => some (.orElse false rest)
  | ':' :: '+' :: rest => some (.ifSet true rest)
  | '+' :: rest => some (.ifSet false rest)
  | '#' :: '#' :: rest => some (.dropStart true rest)
  | '#' :: rest => some (.dropStart false rest)
  | '%' :: '%' :: rest => some (.dropEnd true rest)
  | '%' :: rest => some (.dropEnd false rest)
  | _ => none

/-- Read what stands between braces behind a dollar sign. -/
def readUse (text : List Char) : Option ParameterUse :=
  match text with
  | '#' :: first :: rest =>
      if parameterName (first :: rest) = first :: rest then some ⟨first :: rest, .length⟩
      else (readRule (first :: rest)).map fun rule => ⟨['#'], rule⟩
  | text =>
      let name := parameterName text
      if name = [] then none else (readRule (text.drop name.length)).map fun rule => ⟨name, rule⟩

/-- Read what is behind a dollar sign. Where no parameter is, the sign stands for itself. -/
def readDollar (quoted : Bool) (text : List Char) : Option (Atom × List Char) :=
  match text with
  | '(' :: '(' :: rest => (untilDoubleClose rest).map fun (inside, after) =>
      (.arithmetic inside, after)
  | '(' :: rest =>
      (untilParenthesis 0 none rest).map fun (inside, after) => (.command inside quoted, after)
  | c :: rest =>
      if c = '\x7b' then do
        let (inside, after) ← untilBrace rest
        if inside = ['@'] ∨ inside = ['*'] then return (.arguments quoted, after)
        else return (.parameter (← readUse inside) quoted, after)
      else if c = '@' ∨ c = '*' then some (.arguments quoted, rest)
      else if isSpecialParameter c ∨ c.isDigit then some (.parameter ⟨[c], .value⟩ quoted, rest)
      else if isNameChar c then
        some (.parameter ⟨text.takeWhile isNameChar, .value⟩ quoted, text.dropWhile isNameChar)
      else some (.char '$' quoted, text)
  | [] => some (.char '$' quoted, [])

/-- Characters that a backslash makes ordinary inside double quotes. -/
def isEscapableInQuotes (c : Char) : Bool := c ∈ ['$', '\x60', '"', '\\']

/-- Read a word, up to the character that ends it. A word whose quotes are not closed is none. The
fuel bounds the number of parts. -/
def readWordFrom (fuel : Nat) (quotes : Quotes) (text : List Char) : Option (Word × List Char) :=
  match fuel with
  | 0 => none
  | fuel + 1 =>
      match quotes, text with
      | .none, [] => some ([], [])
      | _, [] => none
      | .single, c :: rest =>
          if c = '\'' then readWordFrom fuel .none rest
          else (readWordFrom fuel .single rest).map fun (word, after) => (.char c true :: word, after)
      | .none, '\\' :: '\n' :: rest => readWordFrom fuel .none rest
      | .none, '\\' :: c :: rest =>
          (readWordFrom fuel .none rest).map fun (word, after) => (.char c true :: word, after)
      | .double, '\\' :: '\n' :: rest => readWordFrom fuel .double rest
      | .double, '\\' :: c :: rest =>
          if isEscapableInQuotes c then
            (readWordFrom fuel .double rest).map fun (word, after) => (.char c true :: word, after)
          else
            (readWordFrom fuel .double (c :: rest)).map fun (word, after) =>
              (.char '\\' true :: word, after)
      | quotes, '$' :: rest => do
          let (atom, rest) ← readDollar (quotes = .double) rest
          let (word, after) ← readWordFrom fuel quotes rest
          return (atom :: word, after)
      | quotes, '\x60' :: rest => do
          let (script, rest) ← untilBackQuote rest
          let (word, after) ← readWordFrom fuel quotes rest
          return (.command script (quotes = .double) :: word, after)
      | .double, c :: rest =>
          if c = '"' then readWordFrom fuel .none rest
          else (readWordFrom fuel .double rest).map fun (word, after) => (.char c true :: word, after)
      | .none, c :: rest =>
          if endsWord c then some ([], c :: rest)
          else if c = '\'' then
            (readWordFrom fuel .single rest).map fun (word, after) => (.quotes :: word, after)
          else if c = '"' then
            (readWordFrom fuel .double rest).map fun (word, after) => (.quotes :: word, after)
          else
            (readWordFrom fuel .none rest).map fun (word, after) => (.char c false :: word, after)

def readWord (text : List Char) : Option (Word × List Char) :=
  readWordFrom (text.length + 1) .none text

/-- The characters of a word without quotes and parameters. -/
def plainChars? : Word → Option (List Char)
  | [] => some []
  | .char c false :: rest => (plainChars? rest).map (c :: ·)
  | _ => none

end HostHome.Shell
