import HostHome.Execution.Environment
import HostHome.Execution.Lookup
import HostHome.FileSystem.Change
import HostHome.Shell.Arithmetic
import HostHome.Shell.Pattern
import HostHome.Shell.Syntax

/-!
# State of a running script

What a script knows and has printed so far, where its output goes, and the values
of its words.
-/

namespace HostHome.Shell

open HostHome.Text (Bytes)
open HostHome.Execution (Environment)

inductive Sink where
  | stdout
  | stderr
  | file (path : Path)
  deriving DecidableEq, Repr

/-- How a script, or a part of it, ends before its end. -/
inductive Ending where
  | exit (status : Nat)
  | signal (number : Nat)
  /-- The end of a command that was called by a name of its own. -/
  | back
  /-- The end of a number of loops. -/
  | outOf (loops : Nat)
  /-- The end of a turn of a loop, and of a number of loops within it. -/
  | nextTurn (loops : Nat)
  deriving DecidableEq, Repr

structure Session where
  files : FileSystem
  environment : Environment
  /-- The name under which the script was called. -/
  name : Bytes
  arguments : List Bytes
  processId : Nat
  bindings : List (List Char × Bytes) := []
  /-- Commands that have names of their own. -/
  functions : List (String × Script) := []
  /-- The number of loops that are running. -/
  loops : Nat := 0
  /-- A command that fails ends the script. -/
  strict : Bool := false
  /-- The line of the command that is running. -/
  line : Nat := 1
  stdout : Bytes := []
  stderr : Bytes := []
  /-- Where the descriptors lead, from the first one for output on. -/
  output : Sink := .stdout
  errors : Sink := .stderr
  /-- The exit status of the last command. -/
  status : Nat := 0
  ending : Option Ending := none

namespace Session

/-- Append to a file, which is created if there is none. -/
def appendFile (files : FileSystem) (path : Path) (content : Bytes) : FileSystem :=
  let old := (files.readFile path).toOption.getD []
  (files.writeFile path (old ++ content)).toOption.getD files

def printTo (session : Session) (sink : Sink) (content : Bytes) : Session :=
  match sink with
  | .stdout => { session with stdout := session.stdout ++ content }
  | .stderr => { session with stderr := session.stderr ++ content }
  | .file path => { session with files := appendFile session.files path content }

def print (session : Session) (content : Bytes) : Session :=
  session.printTo session.output content

/-- Print a complaint, behind the name of the script. -/
def complain (session : Session) (message : String) : Session :=
  session.printTo session.errors
    (session.name ++ Text.encode (": " ++ toString session.line ++ ": " ++ message) ++ [10])

/-- The same session after a command with the given exit status. -/
def withStatus (session : Session) (status : Nat) : Session := { session with status }

def valueOf? (session : Session) (name : List Char) : Option Bytes :=
  match session.bindings.find? fun item => item.1 = name with
  | some item => some item.2
  | none => session.environment.get? (String.ofList name)

/-- Give a variable a value. One of the environment changes there. -/
def assign (session : Session) (name : List Char) (value : Bytes) : Session :=
  let key := String.ofList name
  { session with
    bindings := (name, value) :: session.bindings.filter fun item => item.1 ≠ name
    environment :=
      if (session.environment.get? key).isSome then session.environment.set key value
      else session.environment }

def exportVariable (session : Session) (name : List Char) : Session :=
  { session with
    environment := session.environment.set (String.ofList name) ((session.valueOf? name).getD []) }

def forget (session : Session) (name : List Char) : Session :=
  { session with
    bindings := session.bindings.filter fun item => item.1 ≠ name
    environment := session.environment.unset (String.ofList name) }

/-- The value of a parameter, if it has one. Numbers stand for arguments. -/
def parameter? (session : Session) (name : List Char) : Option Bytes :=
  match name with
  | ['#'] => some (Text.encode (toString session.arguments.length))
  | ['?'] => some (Text.encode (toString session.status))
  | ['$'] => some (Text.encode (toString session.processId))
  | ['0'] => some session.name
  | name =>
      if name = ['@'] ∨ name = ['*'] then
        if session.arguments = [] then none else some ([32].intercalate session.arguments)
      else if name ≠ [] ∧ name.all Char.isDigit then session.arguments[digitsValue name - 1]?
      else session.valueOf? name

def numberIn (session : Session) (name : List Char) : Int :=
  (numberOf? (Text.decodeCharsLossy ((session.valueOf? name).getD []))).getD 0

def sum (session : Session) (expression : List Char) : Bytes :=
  Text.encode (toString ((evaluateSum session.numberIn expression).getD 0))

/-- What a part of a text stands for, where that is no more than a parameter. -/
def simpleValue (session : Session) : Atom → Bytes
  | .char c _ => Text.encodeChars [c]
  | .parameter use _ => (session.parameter? use.name).getD []
  | .arguments _ => [32].intercalate session.arguments
  | .arithmetic expression => session.sum expression
  | .value bytes _ => bytes
  | .quotes | .command _ _ => []

/-- A text that stands in place of a value. -/
def substitute (session : Session) (text : List Char) : Bytes :=
  let plain := text.filter (· ≠ '"')
  match readWordFrom (plain.length + 2) .double (plain ++ ['"']) with
  | some (word, _) => word.flatMap session.simpleValue
  | none => []

/-- A pattern that stands behind the name of a parameter. -/
def patternOf (session : Session) (text : List Char) : List PatternPart :=
  match readWord text with
  | some (word, _) =>
      readPattern (word.flatMap fun atom =>
        match atom with
        | .char c quoted => [(c, quoted)]
        | atom => (Text.decodeCharsLossy (session.simpleValue atom)).map fun c => (c, false))
  | none => []

/-- What the use of a parameter stands for. -/
def valueOf (session : Session) (use : ParameterUse) : Bytes :=
  let found := session.parameter? use.name
  let value := found.getD []
  let hasValue := fun emptyToo : Bool => found.isSome && !(emptyToo && value.isEmpty)
  match use.rule with
  | .value => value
  | .length => Text.encode (toString value.length)
  | .orElse emptyToo text => if hasValue emptyToo then value else session.substitute text
  | .ifSet emptyToo text => if hasValue emptyToo then session.substitute text else []
  | .dropStart longest pattern =>
      Text.encodeChars
        (dropMatchingStart longest (session.patternOf pattern) (Text.decodeCharsLossy value))
  | .dropEnd longest pattern =>
      Text.encodeChars
        (dropMatchingEnd longest (session.patternOf pattern) (Text.decodeCharsLossy value))

/-- A byte that separates words outside quotes. -/
def isBlankByte (byte : UInt8) : Bool := byte = 32 || byte = 9 || byte = 10

/-- The words that were finished, and the one that is not. -/
structure Fields where
  finished : List Bytes := []
  current : Option Bytes := none

def Fields.extend (fields : Fields) (bytes : Bytes) : Fields :=
  { fields with current := some (fields.current.getD [] ++ bytes) }

/-- Finish the current word, if there is one. -/
def Fields.close (fields : Fields) : Fields :=
  { finished := fields.finished ++ fields.current.toList }

/-- Add a value outside quotes, where blanks separate words. -/
def Fields.split (fields : Fields) (value : Bytes) : Fields :=
  value.foldl
    (fun fields byte => if isBlankByte byte then fields.close else fields.extend [byte]) fields

/-- Add values, each a word of its own. -/
def Fields.append (fields : Fields) : List Bytes → Fields
  | [] => fields
  | [value] => fields.extend value
  | value :: rest => (fields.extend value).close.append rest

/-- Add the value of one part of a word. -/
def expandAtom (session : Session) (fields : Fields) (atom : Atom) : Fields :=
  match atom with
  | .char c _ => fields.extend (Text.encodeChars [c])
  | .quotes => fields.extend []
  | .parameter use true => fields.extend (session.valueOf use)
  | .parameter use false => fields.split (session.valueOf use)
  | .arguments true => fields.append session.arguments
  | .arguments false => fields.split ([32].intercalate session.arguments)
  | .arithmetic expression => fields.extend (session.sum expression)
  | .value bytes true => fields.extend bytes
  | .value bytes false => fields.split bytes
  | .command _ _ => fields

/-- A word that is all of the arguments in quotes is no word at all where there are none. -/
def isArgumentsOnly (word : Word) : Bool := word = [.quotes, .arguments true]

/-- The words that a word stands for. -/
def expand (session : Session) (word : Word) : List Bytes :=
  if isArgumentsOnly word then session.arguments
  else (word.foldl session.expandAtom {}).close.finished

def expandAll (session : Session) (words : List Word) : List Bytes := words.flatMap session.expand

/-- The value of a part of a word that stays one word. -/
def wholeValue (session : Session) : Atom → Bytes
  | .parameter use _ => session.valueOf use
  | atom => session.simpleValue atom

/-- The value of a word that stays one word. -/
def expandOne (session : Session) (word : Word) : Bytes := word.flatMap session.wholeValue

/-- The pattern that a word spells. -/
def expandPattern (session : Session) (word : Word) : List PatternPart :=
  readPattern (word.flatMap fun atom =>
    match atom with
    | .char c quoted => [(c, quoted)]
    | .parameter use quoted =>
        (Text.decodeCharsLossy (session.valueOf use)).map fun c => (c, quoted)
    | .value bytes quoted => (Text.decodeCharsLossy bytes).map fun c => (c, quoted)
    | atom => (Text.decodeCharsLossy (session.simpleValue atom)).map fun c => (c, true))

def matchesAny (session : Session) (subject : Word) (patterns : List Word) : Bool :=
  let text := Text.decodeCharsLossy (session.expandOne subject)
  patterns.any fun pattern => matchesPattern (session.expandPattern pattern) text

def connect (session : Session) (descriptor : Nat) (sink : Sink) : Session :=
  if descriptor = 1 then { session with output := sink }
  else if descriptor = 2 then { session with errors := sink }
  else session

def sinkOf (session : Session) (descriptor : Bytes) : Option Sink :=
  if descriptor = Text.encode "1" then some session.output
  else if descriptor = Text.encode "2" then some session.errors
  else none

/-- What is said of a file that cannot be connected. -/
def refusal (request absentText : String) (target : Bytes) (error : SystemError) : String :=
  let reason := match error with
    | .code number =>
        if error = .absent ∨ error = .notDirectory then absentText
        else SystemError.texts.getD number.toNat ""
    | error => error.message
  "cannot " ++ request ++ " " ++ Text.decodeLossy target ++ ": " ++ reason

/-- Connect a descriptor with a file that is to have the given content. -/
def connectFile (session : Session) (descriptor : Nat) (target content : Bytes) :
    Except String Session :=
  match session.files.writeFile ⟨target⟩ content with
  | .ok files => .ok ({ session with files }.connect descriptor (.file ⟨target⟩))
  | .error error => .error (refusal "create" "Directory nonexistent" target error)

/-- Apply a redirection, or tell why that is impossible. -/
def redirect (session : Session) (redirection : Redirection) : Except String Session :=
  let target := session.expandOne redirection.target
  match redirection.kind with
  | .read =>
      match session.files.find ⟨target⟩ with
      | .ok _ => .ok session
      | .error error => .error (refusal "open" "No such file" target error)
  | .write => session.connectFile redirection.descriptor target []
  | .append =>
      session.connectFile redirection.descriptor target
        ((session.files.readFile ⟨target⟩).toOption.getD [])
  | .duplicate =>
      match session.sinkOf target with
      | some sink => .ok (session.connect redirection.descriptor sink)
      | none => .error (Text.decodeLossy target ++ ": Bad file descriptor")

/-- Apply redirections, or tell why that is impossible. -/
def redirectAll (session : Session) : List Redirection → Except String Session
  | [] => .ok session
  | redirection :: rest => do (← session.redirect redirection).redirectAll rest

/-- Connect the descriptors as they are in another session. -/
def reconnect (session before : Session) : Session :=
  { session with output := before.output, errors := before.errors }

/-- Keep what a part of a script printed and did to files, and forget all else that it changed. Its
end is no end of the script, a signal apart. -/
def rejoin (session inner : Session) : Session :=
  let status := match inner.ending with
    | some (.exit status) => status
    | _ => inner.status
  { session with
    files := inner.files.startingAt session.files.current
    stdout := inner.stdout
    stderr := inner.stderr
    status
    ending := match inner.ending with
      | some (.signal number) => some (.signal number)
      | _ => session.ending }

/-- A session that collects what is printed. -/
def collecting (session : Session) : Session := { session with stdout := [], output := .stdout }

/-- Bytes without line ends behind them. -/
def dropLineEnds (bytes : Bytes) : Bytes :=
  bytes.foldr (fun byte rest => if rest.isEmpty && byte = 10 then [] else byte :: rest) []

/-- Take over what a collecting session did, and what it collected. -/
def collected (session inner : Session) : Session × Bytes :=
  ({ session.rejoin inner with stdout := session.stdout }, dropLineEnds inner.stdout)

/-- Call a command by its name, with arguments of its own. -/
def calling (session : Session) (arguments : List Bytes) : Session :=
  { session with arguments, loops := 0 }

/-- Come back from a command that was called by its name. -/
def comeBack (session inner : Session) : Session :=
  { inner with
    arguments := session.arguments
    loops := session.loops
    ending := if inner.ending = some .back then none else inner.ending }

end Session

end HostHome.Shell
