import HostHome.Execution.Command
import HostHome.Shell.Parser
import HostHome.Shell.Printing
import HostHome.Shell.Session
import HostHome.Shell.Testing

/-!
# Running scripts and programs

Run scripts, and run programs that are scripts. One program is the shell itself,
and no other program than this one and its scripts can be run.
-/

namespace HostHome.Shell

open HostHome.Text (Bytes)
open HostHome.Execution (Environment Command CommandFault Output Executor Answer)

/-- The signals that a script can send, by name. -/
def signalNumbers : List (String × Nat) :=
  [("HUP", 1), ("INT", 2), ("QUIT", 3), ("ILL", 4), ("TRAP", 5), ("ABRT", 6), ("BUS", 7),
    ("FPE", 8), ("KILL", 9), ("USR1", 10), ("SEGV", 11), ("USR2", 12), ("PIPE", 13), ("ALRM", 14),
    ("TERM", 15)]

def signalNumber? (name : String) : Option Nat :=
  match signalNumbers.lookup name with
  | some number => some number
  | none => name.toNat?

/-- The signal that the arguments of a command ask for. Only the script itself can be its aim. -/
def signalOf? (processId : Nat) (arguments : List Bytes) : Option Nat :=
  match arguments with
  | [aim] => if aim = Text.encode (toString processId) then some 15 else none
  | [option, signal, aim] =>
      if option = Text.encode "-s" ∧ aim = Text.encode (toString processId) then
        signalNumber? (Text.decodeLossy signal)
      else none
  | [signal, aim] =>
      if aim = Text.encode (toString processId) then
        match (Text.decodeLossy signal).toList with
        | '-' :: name => signalNumber? (String.ofList name)
        | _ => none
      else none
  | _ => none

/-- The end of a script, with a status that is kept within a byte. -/
def exitWith (session : Session) (status : Nat) : Session :=
  { session with status := status % 256, ending := some (.exit (status % 256)) }

/-- The number that a command takes, or the given one if it has no argument. -/
def numberArgument (arguments : List Bytes) (fallback : Nat) : Option Nat :=
  match arguments with
  | [] => some fallback
  | argument :: _ =>
      (numberOf? (Text.decodeCharsLossy argument)).map fun number => (number.emod 256).toNat

def refuseNumber (session : Session) (name : String) (arguments : List Bytes) : Session :=
  exitWith
    (session.complain (name ++ ": Illegal number: " ++ Text.decodeLossy (arguments.headD []))) 2

def runExit (session : Session) (arguments : List Bytes) : Session :=
  match numberArgument arguments session.status with
  | some status => exitWith session status
  | none => refuseNumber session "exit" arguments

/-- Come back from a command that was called by its name. -/
def runReturn (session : Session) (arguments : List Bytes) : Session :=
  match numberArgument arguments session.status with
  | some status => { session with status, ending := some .back }
  | none => refuseNumber session "return" arguments

/-- Leave loops. Without a loop there is nothing to leave. -/
def runLeave (session : Session) (name : String) (ending : Nat → Ending) (arguments : List Bytes) :
    Session :=
  match numberArgument arguments 1 with
  | some number =>
      if session.loops = 0 then session.withStatus 0
      else { session with status := 0, ending := some (ending (min number session.loops - 1)) }
  | none => refuseNumber session name arguments

/-- Go to another directory, or to the home if none is named. -/
def runChangeDirectory (session : Session) (arguments : List Bytes) : Session :=
  let target := arguments.headD ((session.valueOf? "HOME".toList).getD [])
  match session.files.find ⟨target⟩ with
  | .ok (location, .directory _) =>
      { session with files := session.files.startingAt location }.withStatus 0
  | _ => (session.complain ("cd: can't cd to " ++ Text.decodeLossy target)).withStatus 2

/-- The name and the value in an argument with an equals sign, or the name alone. -/
def splitAssignment (argument : Bytes) : List Char × Option Bytes :=
  let name := argument.takeWhile (· ≠ 61)
  let rest := argument.drop name.length
  (Text.decodeCharsLossy name, if rest = [] then none else some rest.tail)

/-- Give variables values, and do something else with them. -/
def runDeclare (session : Session) (further : Session → List Char → Session)
    (arguments : List Bytes) : Session :=
  (arguments.foldl
    (fun session argument =>
      let (name, value) := splitAssignment argument
      further ((value.map (session.assign name)).getD session) name)
    session).withStatus 0

/-- Set options and arguments. -/
def runSet (session : Session) : List Bytes → Session
  | [] => session.withStatus 0
  | argument :: rest =>
      match Text.decodeCharsLossy argument with
      | ['-', '-'] => { session with arguments := rest }.withStatus 0
      | '-' :: letters => runSet { session with strict := session.strict || 'e' ∈ letters } rest
      | '+' :: letters => runSet { session with strict := session.strict && 'e' ∉ letters } rest
      | _ => { session with arguments := argument :: rest }.withStatus 0

/-- Run a command that the shell knows itself. -/
def runBuiltin? (session : Session) (name : String) (arguments : List Bytes) : Option Session :=
  match name with
  | ":" | "true" | "wait" | "trap" => some (session.withStatus 0)
  | "false" => some (session.withStatus 1)
  | "echo" => some ((session.print (echoText arguments)).withStatus 0)
  | "printf" => some ((session.print (printfText arguments)).withStatus 0)
  | "exec" => if arguments.isEmpty then some (session.withStatus 0) else none
  | "pwd" =>
      some ((session.print ((Location.path session.files.current).bytes ++ [10])).withStatus 0)
  | "cd" => some (runChangeDirectory session arguments)
  | "exit" => some (runExit session arguments)
  | "return" => some (runReturn session arguments)
  | "break" => some (runLeave session name .outOf arguments)
  | "continue" => some (runLeave session name .nextTurn arguments)
  | "export" => some (runDeclare session Session.exportVariable arguments)
  | "local" => some (runDeclare session (fun session _ => session) arguments)
  | "unset" =>
      some ((arguments.foldl
        (fun session argument => session.forget (Text.decodeCharsLossy argument)) session).withStatus
          0)
  | "set" => some (runSet session arguments)
  | "test" => some (session.withStatus (testStatus (testCondition session.files arguments)))
  | "[" =>
      if arguments.getLast? = some (Text.encode "]") then
        some (session.withStatus (testStatus (testCondition session.files arguments.dropLast)))
      else some ((session.complain "[: missing ]").withStatus 2)
  | "shift" => some ({ session with arguments := session.arguments.tail }.withStatus 0)
  | "kill" =>
      match signalOf? session.processId arguments with
      | some 0 => some (session.withStatus 0)
      | some number => some { session with ending := some (.signal number) }
      | none => some (session.withStatus 1)
  | _ => none

/-- A program that was started and ended: with which status, and what it printed. -/
structure Finished where
  code : Nat
  stdout : Bytes
  stderr : Bytes

/-- Why a program could not be started, or the files after it and how it ended. -/
abbrev Started := Except SystemError (FileSystem × Finished)

/-- The status that a shell gives to a program that was started, or could not be started. -/
def statusOfStarted : Started → Nat
  | .ok (_, finished) => finished.code
  | .error error => if error = .absent then 127 else 126

/-- Take over what a program printed and changed. -/
def Session.takeOver (session : Session) (started : Started) : Session :=
  match started with
  | .ok (files, finished) =>
      let session := { session with files := files.startingAt session.files.current }
      ((session.printTo session.output finished.stdout).printTo session.errors
        finished.stderr).withStatus (statusOfStarted started)
  | .error _ => session.withStatus (statusOfStarted started)

/-- Go on after a program was started, or complain that it could not be started. -/
def Session.afterStart (session : Session) (program : Path) (started : Started) : Session :=
  let status := statusOfStarted started
  match started with
  | .ok _ => session.takeOver started
  | .error _ =>
      let reason := if status = 127 then ": not found" else ": Permission denied"
      (session.complain (program.display ++ reason)).withStatus status

/-- The command word that lets a program take the place of the script. -/
def replacingName : Bytes := Text.encode "exec"

/-- The program to start for a command, and whether the script ends with it. -/
def programCommand (name : Bytes) (arguments : List Bytes) : Command × Bool :=
  match arguments with
  | program :: rest =>
      if name = replacingName then (⟨⟨program⟩, rest⟩, true) else (⟨⟨name⟩, arguments⟩, false)
  | [] => (⟨⟨name⟩, []⟩, false)

/-- The interpreter that the first line of a program names, and its argument. -/
def interpreterOf? (content : Bytes) : Option (Path × List Bytes) :=
  match content with
  | 35 :: 33 :: rest =>
      let line := rest.takeWhile (· ≠ 10)
      let blank := fun byte : UInt8 => byte = 32 || byte = 9
      let trimmed := (line.dropWhile blank).reverse.dropWhile blank |>.reverse
      let interpreter := trimmed.takeWhile fun byte => !blank byte
      let argument := (trimmed.dropWhile fun byte => !blank byte).dropWhile blank
      some (⟨interpreter⟩, if argument = [] then [] else [argument])
  | _ => none

/-- What the shell is to run: a script given as an argument or in a file, its name and arguments. -/
def shellTask (files : FileSystem) (arguments : List Bytes) :
    Except SystemError (Bytes × Bytes × List Bytes) :=
  match arguments with
  | option :: script :: rest =>
      if option = Text.encode "-c" then
        match rest with
        | [] => .ok (script, Text.encode "sh", [])
        | name :: rest => .ok (script, name, rest)
      else (files.readFile ⟨option⟩).map fun content => (content, option, script :: rest)
  | [file] => (files.readFile ⟨file⟩).map fun content => (content, file, [])
  | [] => .ok ([], Text.encode "sh", [])

/-- How a session ended. A signal counts from a base of its own. -/
def Session.finished (session : Session) : Finished :=
  let code := match session.ending with
    | some (.exit status) => status
    | some (.signal number) => Execution.signalBase.toNat + number
    | _ => session.status
  ⟨code, session.stdout, session.stderr⟩

/-- Where a shell looks for a program: the name itself if it holds a slash, and otherwise the
directories that the environment lists. -/
def candidates (environment : Environment) (name : Path) : List Path :=
  if slash ∈ name.bytes then [name]
  else
    let search := (environment.get? Execution.searchVariable).getD (Text.encode "/bin:/usr/bin")
    (Text.piecesOf Execution.listSeparator search).map fun piece => Path.join ⟨piece⟩ name

/-- Choose the program to start. What cannot be run is passed over, and remembered. -/
def chooseProgram (files : FileSystem) : List Path → SystemError → Except SystemError Path
  | [], error => .error error
  | candidate :: rest, error =>
      match files.find candidate with
      | .ok (_, .file _ permissions _) =>
          if FileSystem.isRunnable permissions then .ok candidate
          else chooseProgram files rest .denied
      | .ok _ => chooseProgram files rest .denied
      | .error found =>
          if found = .absent ∨ found = .notDirectory then
            chooseProgram files rest (if rest = [] ∧ error = .absent then found else error)
          else .error found

/-- Whether a loop goes on after a turn, and the session then. -/
def Session.finishTurn (session : Session) : Session × Bool :=
  match session.ending with
  | none => (session, true)
  | some (.nextTurn 0) => ({ session with ending := none }, true)
  | some (.nextTurn (loops + 1)) => ({ session with ending := some (.nextTurn loops) }, false)
  | some (.outOf 0) => ({ session with ending := none }, false)
  | some (.outOf (loops + 1)) => ({ session with ending := some (.outOf loops) }, false)
  | some _ => (session, false)

/-- End a strict session after a command that failed. -/
def Session.checkStrict (session : Session) : Session :=
  if session.strict && session.status ≠ 0 && session.ending.isNone then
    exitWith session session.status
  else session

/-- Part of the word is to be replaced by what a script prints. -/
def hasCommand (word : Word) : Bool :=
  word.any fun atom => match atom with
    | .command _ _ => true
    | _ => false

mutual

/-- Run a script in a session. The fuel bounds the commands that are run. -/
def runScript (shell : Path) (fuel : Nat) (session : Session) (script : Script) : Session :=
  match fuel with
  | 0 => exitWith session 2
  | fuel + 1 =>
      if session.ending.isSome then session
      else match script with
        | .nothing => session
        | .sequence first second =>
            runScript shell fuel (runScript shell fuel session first) second
        | .both first second =>
            let session := runTested shell fuel session first
            if session.status = 0 then runScript shell fuel session second else session
        | .either first second =>
            let session := runTested shell fuel session first
            if session.status = 0 then session else runScript shell fuel session second
        | .opposite script =>
            let session := runTested shell fuel session script
            if session.ending.isSome then session
            else session.withStatus (if session.status = 0 then 1 else 0)
        | .branch condition whenTrue whenFalse =>
            let session := runTested shell fuel session condition
            if session.ending.isSome then session
            else if session.status = 0 then runScript shell fuel session whenTrue
            else runScript shell fuel (session.withStatus 0) whenFalse
        | .choice subject patterns body otherwise =>
            let (session, subject) := resolveWord shell fuel session subject
            if session.matchesAny subject patterns then runScript shell fuel session body
            else runScript shell fuel session otherwise
        | .loop wanted condition body =>
            let inside := { session with loops := session.loops + 1 }
            { runLoop shell fuel inside wanted condition body 0 with loops := session.loops }
        | .forEach name words body =>
            let (session, words) := resolveWords shell fuel session words
            let inside := { session with loops := session.loops + 1 }
            { runForEach shell fuel inside name body (session.expandAll words) with
              loops := session.loops }
        | .apart script => (session.rejoin (runScript shell fuel session script)).checkStrict
        | .define name body =>
            { session with functions := (name, body) :: session.functions }.withStatus 0
        | .redirected script redirections =>
            match redirections with
            | [] => runScript shell fuel session script
            | redirections =>
                match session.redirectAll redirections with
                | .ok redirected => (runScript shell fuel redirected script).reconnect session
                | .error message => ((session.complain message).withStatus 2).checkStrict
        | .simple line assignments words redirections =>
            let (session, words) := resolveWords shell fuel { session with line } words
            match session.redirectAll redirections with
            | .error message => ((session.complain message).withStatus 2).checkStrict
            | .ok redirected =>
                let session := (runSimple shell fuel redirected assignments
                  (session.expandAll words)).reconnect session
                session.checkStrict

/-- Run a script as a condition. Its failure does not end a strict session. -/
def runTested (shell : Path) (fuel : Nat) (session : Session) (script : Script) : Session :=
  match fuel with
  | 0 => exitWith session 2
  | fuel + 1 =>
      { runScript shell fuel { session with strict := false } script with strict := session.strict }

/-- Run a loop, whose last turn ended with the given status. -/
def runLoop (shell : Path) (fuel : Nat) (session : Session) (wanted : Bool)
    (condition body : Script) (last : Nat) : Session :=
  match fuel with
  | 0 => exitWith session 2
  | fuel + 1 =>
      let (tested, goesOn) := (runTested shell fuel session condition).finishTurn
      if !goesOn then tested
      else if decide (tested.status = 0) = wanted then
        let (turned, goesOn) := (runScript shell fuel tested body).finishTurn
        if goesOn then runLoop shell fuel turned wanted condition body turned.status else turned
      else tested.withStatus last

/-- Run a command for each of some words. -/
def runForEach (shell : Path) (fuel : Nat) (session : Session) (name : List Char) (body : Script)
    (words : List Bytes) : Session :=
  match fuel, words with
  | 0, _ => exitWith session 2
  | _, [] => session
  | fuel + 1, word :: rest =>
      let (turned, goesOn) := (runScript shell fuel (session.assign name word) body).finishTurn
      if goesOn then runForEach shell fuel turned name body rest else turned

/-- Run the scripts in a word, and put what they print into their places. -/
def resolveWord (shell : Path) (fuel : Nat) (session : Session) (word : Word) : Session × Word :=
  match fuel, word with
  | 0, _ => (exitWith session 2, word)
  | _, [] => (session, [])
  | fuel + 1, .command text quoted :: rest =>
      let (session, bytes) := runCollecting shell fuel session text
      let (session, rest) := resolveWord shell fuel session rest
      (session, .value bytes quoted :: rest)
  | fuel + 1, atom :: rest =>
      let (session, rest) := resolveWord shell fuel session rest
      (session, atom :: rest)

def resolveWords (shell : Path) (fuel : Nat) (session : Session) (words : List Word) :
    Session × List Word :=
  match fuel, words with
  | 0, _ => (exitWith session 2, words)
  | _, [] => (session, [])
  | fuel + 1, word :: rest =>
      let (session, word) := resolveWord shell fuel session word
      let (session, rest) := resolveWords shell fuel session rest
      (session, word :: rest)

/-- Run a script and collect what it prints. -/
def runCollecting (shell : Path) (fuel : Nat) (session : Session) (text : List Char) :
    Session × Bytes :=
  match fuel with
  | 0 => (exitWith session 2, [])
  | fuel + 1 =>
      match Script.ofText? text with
      | none => (exitWith (session.complain "Syntax error") 2, [])
      | some script => session.collected (runScript shell fuel session.collecting script)

def runAssignments (shell : Path) (fuel : Nat) (session : Session) :
    List (List Char × Word) → Session
  | [] => session
  | (name, word) :: rest =>
      match fuel with
      | 0 => exitWith session 2
      | fuel + 1 =>
          let (session, word) := resolveWord shell fuel session word
          runAssignments shell fuel (session.assign name (session.expandOne word)) rest

/-- Run assignments, or a command with its arguments. Before a command, assignments are made for the
command alone. -/
def runSimple (shell : Path) (fuel : Nat) (session : Session)
    (assignments : List (List Char × Word)) (words : List Bytes) : Session :=
  match fuel with
  | 0 => exitWith session 2
  | fuel + 1 =>
      let assigned := runAssignments shell fuel session assignments
      if assigned.ending.isSome then assigned
      else match words with
        | [] =>
            if assignments.any fun (_, word) => hasCommand word then assigned
            else assigned.withStatus 0
        | name :: arguments =>
            let exported := assignments.foldl
              (fun session (name, _) => session.exportVariable name) assigned
            let after := runNamed shell fuel exported name arguments
            if assignments = [] then after
            else { after with bindings := session.bindings, environment := session.environment }

def runNamed (shell : Path) (fuel : Nat) (session : Session) (name : Bytes)
    (arguments : List Bytes) : Session :=
  match fuel with
  | 0 => exitWith session 2
  | fuel + 1 =>
      let text := Text.decodeLossy name
      match session.functions.lookup text with
      | some body => session.comeBack (runScript shell fuel (session.calling arguments) body)
      | none =>
          match runBuiltin? session text arguments with
          | some session => session
          | none =>
              let (command, isLast) := programCommand name arguments
              let started := startProgram shell fuel session.files session.environment
                session.processId command
              let after := session.afterStart command.program started
              if isLast then exitWith after after.status else after

def startProgram (shell : Path) (fuel : Nat) (files : FileSystem) (environment : Environment)
    (processId : Nat) (command : Command) : Started :=
  match fuel with
  | 0 => .error .argumentsTooLong
  | fuel + 1 => do
      let program ← chooseProgram files (candidates environment command.program) .absent
      let (location, _) ← files.find program
      if (files.canonical shell).toOption = some (Location.path location) then
        let (content, name, arguments) ← shellTask files command.arguments
        let session : Session := { files, environment, name, arguments, processId }
        match Script.ofText? (Text.decodeCharsLossy content) with
        | none =>
            let session := exitWith (session.complain "Syntax error") 2
            return (session.files, session.finished)
        | some script =>
            let session := runScript shell fuel session script
            return (session.files.startingAt files.current, session.finished)
      else
        let content ← files.readFile program
        match interpreterOf? content with
        | none => .error .notExecutable
        | some (interpreter, arguments) =>
            startProgram shell fuel files environment processId
              ⟨interpreter, arguments ++ [program.bytes] ++ command.arguments⟩

end

/-- The number of commands that a program may run. -/
def commandLimit : Nat := 100000

def answerOf (program : Path) (started : Started) : Answer :=
  match started with
  | .error error =>
      if error = .absent then .error (.notFound program.display)
      else .error (.cannotStart program.display error)
  | .ok (_, finished) =>
      if (finished.code : Int) = Execution.notFoundStatus then .error (.notFound program.display)
      else
        .ok ⟨finished.code, Text.decodeLossy finished.stdout, Text.decodeLossy finished.stderr⟩

/-- Run a command. Neither the program nor an argument can hold a zero byte. -/
def runCommand (shell : Path) (environment : Environment) (processId : Nat) (files : FileSystem)
    (command : Command) : FileSystem × Answer :=
  let texts := command.program.bytes :: command.arguments
  let started :=
    if texts.any fun text => 0 ∈ text then .error .zeroInArgument
    else startProgram shell commandLimit files environment processId command
  (match started with
    | .ok (files, _) => files
    | .error _ => files,
    answerOf command.program started)

/-- The executor that runs the shell at a path, and scripts for it. -/
def executor (shell : Path) (environment : Environment) (processId : Nat) : Executor where
  run files _ command := runCommand shell environment processId files command

end HostHome.Shell
