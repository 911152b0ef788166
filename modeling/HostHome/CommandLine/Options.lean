import HostHome.Path.Basic

/-!
# Options of the command line

The command line holds flags, by their letters or by their names, and the name of
a host. Letters may share one argument, and behind two dashes alone nothing is a
flag.
-/

namespace HostHome.CommandLine

open HostHome.Text (Bytes)

inductive Flag where
  | script
  | tests
  | update
  | verbose
  | help
  | version
  deriving DecidableEq, Repr

/-- All flags, in the order in which they are listed. -/
def Flag.all : List Flag := [script, tests, update, verbose, help, version]

def Flag.letter : Flag → Char
  | script => 's'
  | tests => 't'
  | update => 'u'
  | verbose => 'v'
  | help => 'h'
  | version => 'V'

def Flag.name : Flag → String
  | script => "script"
  | tests => "tests"
  | update => "update"
  | verbose => "verbose"
  | help => "help"
  | version => "version"

def Flag.ofLetter? (letter : Char) : Option Flag := Flag.all.find? fun flag => flag.letter = letter

/-- The flag with a name. Names cannot be shortened. -/
def Flag.ofName? (name : Bytes) : Option Flag :=
  Flag.all.find? fun flag => Text.encode flag.name = name

/-- What the command line asks for. -/
structure Options where
  /-- Write the scripts for login shells. -/
  script : Bool := false
  /-- Run the self-tests. -/
  tests : Bool := false
  /-- Bring skeletons and transfers again into a per-host home that is ready. -/
  update : Bool := false
  /-- Show details. -/
  verbose : Bool := false
  /-- The name to use for this host. -/
  hostName : Option String := none
  deriving DecidableEq, Repr

/-- The name of what is run, as log files have it. -/
def Options.commandName (options : Options) : String :=
  if options.tests then "test" else "provision"

/-- What is wrong with a command line. -/
inductive UsageFault where
  | unknownArgument
  | unexpectedValue
  | repeatedFlag
  | invalidText
  deriving DecidableEq, Repr

def UsageFault.message : UsageFault → String
  | unknownArgument => "unexpected argument found"
  | unexpectedValue => "unexpected value for a flag"
  | repeatedFlag => "a flag cannot be used multiple times"
  | invalidText => "invalid UTF-8 was detected in an argument"

/-- Why a command line gives no options. -/
inductive Interruption where
  /-- The help is asked for, be it in its long form. -/
  | help (long : Bool)
  | version
  | fault (fault : UsageFault)
  deriving DecidableEq, Repr

/-- What was read of a command line. -/
structure Reader where
  options : Options := {}
  /-- The bytes given as the name of the host. -/
  host : Option Bytes := none
  /-- Two dashes alone were read. -/
  flagsEnded : Bool := false

namespace Reader

/-- Read the name of the host, which must be a text. -/
def withHost (reader : Reader) : Except Interruption Options :=
  match reader.host with
  | none => .ok reader.options
  | some bytes =>
      match Text.decode? bytes with
      | some text => .ok { reader.options with hostName := some text }
      | none => .error (.fault .invalidText)

def setOnce (reader : Reader) (given : Options → Bool) (set : Options → Options) :
    Except Interruption Reader :=
  if given reader.options then .error (.fault .repeatedFlag)
  else .ok { reader with options := set reader.options }

/-- Read a flag. A name of the host before it has to be a text. -/
def readFlag (reader : Reader) (long : Bool) (flag : Flag) : Except Interruption Reader := do
  let _ ← reader.withHost
  match flag with
  | .script => reader.setOnce Options.script fun options => { options with script := true }
  | .tests => reader.setOnce Options.tests fun options => { options with tests := true }
  | .update => reader.setOnce Options.update fun options => { options with update := true }
  | .verbose => reader.setOnce Options.verbose fun options => { options with verbose := true }
  | .help => .error (.help long)
  | .version => .error .version

def readLetters (reader : Reader) : List Char → Except Interruption Reader
  | [] => .ok reader
  | letter :: rest =>
      match Flag.ofLetter? letter with
      | none => .error (.fault .unknownArgument)
      | some flag => do (← reader.readFlag false flag).readLetters rest

def equalsSign : UInt8 := 61

/-- Read a flag by its name. A flag takes no value. -/
def readName (reader : Reader) (text : Bytes) : Except Interruption Reader :=
  let name := text.takeWhile (· ≠ equalsSign)
  match Flag.ofName? name with
  | none => .error (.fault .unknownArgument)
  | some flag =>
      if name = text then reader.readFlag true flag else .error (.fault .unexpectedValue)

/-- Read the name of the host, which can be given once. -/
def readHost (reader : Reader) (bytes : Bytes) : Except Interruption Reader :=
  match reader.host with
  | some _ => .error (.fault .unknownArgument)
  | none => .ok { reader with host := some bytes }

def dash : UInt8 := 45

def readArgument (reader : Reader) (argument : Bytes) : Except Interruption Reader :=
  if reader.flagsEnded then reader.readHost argument
  else if argument = [dash, dash] then .ok { reader with flagsEnded := true }
  else if [dash, dash].isPrefixOf argument then reader.readName (argument.drop 2)
  else if argument.head? = some dash ∧ 1 < argument.length then
    reader.readLetters (Text.decodeCharsLossy argument.tail)
  else reader.readHost argument

def readArguments (reader : Reader) : List Bytes → Except Interruption Reader
  | [] => .ok reader
  | argument :: rest => do (← reader.readArgument argument).readArguments rest

end Reader

def Options.ofArguments (arguments : List Bytes) : Except Interruption Options := do
  (← ({} : Reader).readArguments arguments).withHost

end HostHome.CommandLine
