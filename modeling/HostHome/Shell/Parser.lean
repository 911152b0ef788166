import HostHome.Shell.Syntax

/-!
# Reading scripts

Read the text of a script. First it is cut into tokens: words, operators, and the
beginnings of redirections. Then commands are read from the tokens.
-/

namespace HostHome.Shell

/-- What a script is cut into. -/
inductive Token where
  /-- A word, and the line on which it stands. -/
  | word (line : Nat) (word : Word)
  | redirection (descriptor : Nat) (kind : RedirectionKind)
  | andIf
  | orIf
  | pipe
  | background
  | separator
  /-- Two separators, which end a choice. -/
  | choiceEnd
  | newline
  | openParenthesis
  | closeParenthesis
  deriving DecidableEq, Repr

/-- Read the operator of a redirection, whose descriptor may be given. -/
def readRedirection (descriptor : Option Nat) : List Char → Option (Token × List Char)
  | '>' :: '>' :: rest => some (.redirection (descriptor.getD 1) .append, rest)
  | '>' :: '&' :: rest => some (.redirection (descriptor.getD 1) .duplicate, rest)
  | '>' :: '|' :: rest => some (.redirection (descriptor.getD 1) .write, rest)
  | '>' :: rest => some (.redirection (descriptor.getD 1) .write, rest)
  | '<' :: '<' :: _ => none
  | '<' :: '&' :: rest => some (.redirection (descriptor.getD 0) .duplicate, rest)
  | '<' :: rest => some (.redirection (descriptor.getD 0) .read, rest)
  | _ => none

/-- Read a token other than a word. -/
def readOperator : List Char → Option (Token × List Char)
  | '&' :: '&' :: rest => some (.andIf, rest)
  | '|' :: '|' :: rest => some (.orIf, rest)
  | '&' :: rest => some (.background, rest)
  | '|' :: rest => some (.pipe, rest)
  | ';' :: ';' :: rest => some (.choiceEnd, rest)
  | ';' :: rest => some (.separator, rest)
  | '(' :: rest => some (.openParenthesis, rest)
  | ')' :: rest => some (.closeParenthesis, rest)
  | text => readRedirection none text

/-- Read one token that is neither blank nor comment. -/
def readToken (line : Nat) (text : List Char) : Option (Token × List Char) :=
  match text with
  | '\n' :: rest => some (.newline, rest)
  | digit :: arrow :: rest =>
      if digit.isDigit ∧ (arrow = '>' ∨ arrow = '<') then
        readRedirection (some (digit.toNat - '0'.toNat)) (arrow :: rest)
      else if isOperatorChar digit then readOperator text
      else (readWord text).map fun (word, after) => (.word line word, after)
  | [c] =>
      if isOperatorChar c then readOperator text
      else (readWord text).map fun (word, after) => (.word line word, after)
  | [] => none

/-- Cut a text into tokens, with the number of its first line given. The fuel bounds the number of
steps. -/
def tokensFrom (fuel line : Nat) (text : List Char) : Option (List Token) :=
  match fuel, text with
  | _, [] => some []
  | 0, _ => none
  | fuel + 1, c :: rest =>
      if isBlankChar c then tokensFrom fuel line rest
      else if c = '#' then tokensFrom fuel line (rest.dropWhile (· ≠ '\n'))
      else if text.take 2 = ['\\', '\n'] then tokensFrom fuel (line + 1) (text.drop 2)
      else do
        let (token, after) ← readToken line text
        let passed := (text.take (text.length - after.length)).count '\n'
        return token :: (← tokensFrom fuel (line + passed) after)

def tokens (text : List Char) : Option (List Token) := tokensFrom (text.length + 1) 1 text

/-- The plain word at the beginning of some tokens. -/
def leadingWord? : List Token → Option String
  | .word _ word :: _ => (plainChars? word).map String.ofList
  | _ => none

/-- The name and the value of an assignment. -/
def assignment? (word : Word) : Option (List Char × Word) :=
  let nameAtoms := word.takeWhile fun atom => atom ≠ .char '=' false
  match plainChars? nameAtoms, word.drop nameAtoms.length with
  | some name, _ :: value =>
      if name.all isNameChar ∧ name.head?.any (fun c => !c.isDigit) then some (name, value)
      else none
  | _, _ => none

def skipNewlines : List Token → List Token
  | .newline :: rest => skipNewlines rest
  | rest => rest

/-- Skip one separator of commands, and the line ends behind it. -/
def skipSeparator : List Token → List Token
  | .separator :: rest => skipNewlines rest
  | rest => skipNewlines rest

/-- Words that end a list of commands. -/
def isClosingWord (word : String) : Bool :=
  word ∈ ["then", "else", "elif", "fi", "do", "done", "\x7d", "esac"]

def expectWord (expected : String) (tokens : List Token) : Option (List Token) :=
  if leadingWord? tokens = some expected then some tokens.tail else none

def readRedirections : List Token → List Redirection × List Token
  | .redirection descriptor kind :: .word _ target :: rest =>
      let (more, after) := readRedirections rest
      (⟨descriptor, kind, target⟩ :: more, after)
  | rest => ([], rest)

/-- Read a simple command, which stands on the given line. Assignments stand before its first word. -/
def readSimple (line : Nat) (assignments : List (List Char × Word)) (words : List Word)
    (redirections : List Redirection) : List Token → Script × List Token
  | .redirection descriptor kind :: .word _ target :: rest =>
      readSimple line assignments words (redirections ++ [⟨descriptor, kind, target⟩]) rest
  | .word _ word :: rest =>
      match words, assignment? word with
      | [], some assignment => readSimple line (assignments ++ [assignment]) words redirections rest
      | _, _ => readSimple line assignments (words ++ [word]) redirections rest
  | rest => (.simple line assignments words redirections, rest)

/-- The line on which some tokens begin, as far as that is known. -/
def leadingLine : List Token → Nat
  | .word line _ :: _ => line
  | _ => 1

def leadingWords : List Token → List Word × List Token
  | .word _ word :: rest =>
      let (words, after) := leadingWords rest
      (word :: words, after)
  | rest => ([], rest)

/-- Read the patterns of a choice, up to the parenthesis behind them. -/
def readPatterns : List Token → Option (List Word × List Token)
  | .word _ pattern :: .closeParenthesis :: rest => some ([pattern], rest)
  | .word _ pattern :: .pipe :: rest =>
      (readPatterns rest).map fun (patterns, after) => (pattern :: patterns, after)
  | _ => none

def skipParenthesis : List Token → List Token
  | .openParenthesis :: rest => rest
  | rest => rest

/-- A command that does nothing, with success. -/
def Script.success : Script := .simple 1 [] [] []

mutual

/-- Read one command, with its redirections. -/
def readCommand (fuel : Nat) (tokens : List Token) : Option (Script × List Token) :=
  match fuel with
  | 0 => none
  | fuel + 1 =>
      match tokens with
      | .openParenthesis :: rest => do
          let (body, rest) ← readList fuel rest
          match rest with
          | .closeParenthesis :: rest =>
              let (redirections, rest) := readRedirections rest
              return (.redirected (.apart body) redirections, rest)
          | _ => none
      | .word _ name :: .openParenthesis :: .closeParenthesis :: rest => do
          let name ← plainChars? name
          let (body, rest) ← readCommand fuel (skipNewlines rest)
          return (.define (String.ofList name) body, rest)
      | tokens =>
          match leadingWord? tokens with
          | some "\x7b" => do
              let (body, rest) ← readList fuel tokens.tail
              let rest ← expectWord "\x7d" rest
              let (redirections, rest) := readRedirections rest
              return (.redirected body redirections, rest)
          | some "if" => do
              let (script, rest) ← readBranch fuel tokens.tail
              let (redirections, rest) := readRedirections rest
              return (.redirected script redirections, rest)
          | some "while" => readLoop fuel true tokens.tail
          | some "until" => readLoop fuel false tokens.tail
          | some "for" => readFor fuel tokens.tail
          | some "case" => readChoice fuel tokens.tail
          | some "!" => do
              let (script, rest) ← readCommand fuel tokens.tail
              return (.opposite script, rest)
          | _ => some (readSimple (leadingLine tokens) [] [] [] tokens)

def readBranch (fuel : Nat) (tokens : List Token) : Option (Script × List Token) :=
  match fuel with
  | 0 => none
  | fuel + 1 => do
      let (condition, rest) ← readList fuel tokens
      let (whenTrue, rest) ← readList fuel (← expectWord "then" rest)
      match leadingWord? rest with
      | some "elif" =>
          let (whenFalse, rest) ← readBranch fuel rest.tail
          return (.branch condition whenTrue whenFalse, rest)
      | some "else" =>
          let (whenFalse, rest) ← readList fuel rest.tail
          return (.branch condition whenTrue whenFalse, ← expectWord "fi" rest)
      | _ => return (.branch condition whenTrue .nothing, ← expectWord "fi" rest)

def readLoop (fuel : Nat) (wanted : Bool) (tokens : List Token) : Option (Script × List Token) :=
  match fuel with
  | 0 => none
  | fuel + 1 => do
      let (condition, rest) ← readList fuel tokens
      let (body, rest) ← readList fuel (← expectWord "do" rest)
      let rest ← expectWord "done" rest
      let (redirections, rest) := readRedirections rest
      return (.redirected (.loop wanted condition body) redirections, rest)

/-- Read a command for each of some words, behind its first word. -/
def readFor (fuel : Nat) (tokens : List Token) : Option (Script × List Token) :=
  match fuel with
  | 0 => none
  | fuel + 1 =>
      match tokens with
      | .word _ nameWord :: rest => do
          let name ← plainChars? nameWord
          let (words, rest) :=
            if leadingWord? rest = some "in" then leadingWords rest.tail
            else ([[.arguments true]], rest)
          let (body, rest) ← readList fuel (← expectWord "do" (skipSeparator rest))
          let rest ← expectWord "done" rest
          let (redirections, rest) := readRedirections rest
          return (.redirected (.forEach name words body) redirections, rest)
      | _ => none

/-- Read a choice behind its first word. -/
def readChoice (fuel : Nat) (tokens : List Token) : Option (Script × List Token) :=
  match fuel with
  | 0 => none
  | fuel + 1 =>
      match tokens with
      | .word _ subject :: rest => do
          let rest ← expectWord "in" (skipNewlines rest)
          let (script, rest) ← readChoices fuel subject rest
          let (redirections, rest) := readRedirections rest
          return (.redirected script redirections, rest)
      | _ => none

/-- Read the patterns and the commands of a choice, up to its last word. -/
def readChoices (fuel : Nat) (subject : Word) (tokens : List Token) :
    Option (Script × List Token) :=
  match fuel with
  | 0 => none
  | fuel + 1 =>
      let tokens := skipNewlines tokens
      if leadingWord? tokens = some "esac" then some (.success, tokens.tail)
      else do
        let (patterns, rest) ← readPatterns (skipParenthesis tokens)
        let (commands, rest) ← readList fuel rest
        let body := match commands with
          | .nothing => .success
          | commands => commands
        match rest with
        | .choiceEnd :: rest => do
            let (otherwise, rest) ← readChoices fuel subject rest
            return (.choice subject patterns body otherwise, rest)
        | rest =>
            return (.choice subject patterns body .success, ← expectWord "esac" rest)

/-- Read what follows a command on the right of a conjunction or an alternative. -/
def readAndOr (fuel : Nat) (first : Script) (tokens : List Token) :
    Option (Script × List Token) :=
  match fuel with
  | 0 => none
  | fuel + 1 =>
      match tokens with
      | .andIf :: rest => do
          let (second, rest) ← readCommand fuel (skipNewlines rest)
          readAndOr fuel (.both first second) rest
      | .orIf :: rest => do
          let (second, rest) ← readCommand fuel (skipNewlines rest)
          readAndOr fuel (.either first second) rest
      | rest => some (first, rest)

/-- Read commands up to the end, or to a word that closes their list. -/
def readList (fuel : Nat) (tokens : List Token) : Option (Script × List Token) :=
  match fuel with
  | 0 => none
  | fuel + 1 =>
      match skipNewlines tokens with
      | [] => some (.nothing, [])
      | .closeParenthesis :: rest => some (.nothing, .closeParenthesis :: rest)
      | .choiceEnd :: rest => some (.nothing, .choiceEnd :: rest)
      | tokens =>
          if (leadingWord? tokens).any isClosingWord then some (.nothing, tokens)
          else do
            let (command, rest) ← readCommand fuel tokens
            let (first, rest) ← readAndOr fuel command rest
            match rest with
            | .separator :: rest => do
                let (second, rest) ← readList fuel rest
                return (.sequence first second, rest)
            | .newline :: rest => do
                let (second, rest) ← readList fuel rest
                return (.sequence first second, rest)
            | rest => return (.sequence first .nothing, rest)

end

def Script.ofText? (text : List Char) : Option Script := do
  let tokens ← tokens text
  let (script, rest) ← readList (4 * tokens.length + 4) tokens
  if rest = [] then some script else none

end HostHome.Shell
