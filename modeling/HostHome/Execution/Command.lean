import HostHome.Failure.Cause
import HostHome.FileSystem.Basic

/-!
# Commands

A command is a program with its arguments. Whoever runs commands answers each
with what the program printed and with its exit status, or tells why it could not
be run, and may change files on the way.
-/

namespace HostHome.Execution

open HostHome.Text (Bytes)

/-- A program with its arguments. -/
structure Command where
  program : Path
  arguments : List Bytes
  deriving DecidableEq, Repr

/-- What a finished program leaves: its exit status and what it printed. -/
structure Output where
  code : Int := 0
  stdout : String := ""
  stderr : String := ""
  deriving DecidableEq, Repr

def Output.succeeded (output : Output) : Bool := output.code = 0

/-- Why a command could not be run. -/
inductive CommandFault where
  | notFound (name : String)
  | cannotStart (program : String) (source : SystemError)
  deriving DecidableEq, Repr

/-- The cause of the failure of a run that needed the command. -/
def CommandFault.cause : CommandFault → Cause
  | notFound name => .commandNotFound name
  | cannotStart program source => .cannotStart program source

/-- What comes of a command. -/
abbrev Answer := Except CommandFault Output

/-- Somebody who runs commands. The answer may depend on the files and on the commands run before,
and the files may change. -/
structure Executor where
  run : FileSystem → List Command → Command → FileSystem × Answer

/-- The executor leaves all files as they are. -/
def Executor.KeepsFiles (executor : Executor) : Prop :=
  ∀ files before command, (executor.run files before command).1 = files

/-- The answer at a place. The last one answers for all places behind it. -/
def answerAt (answers : List Answer) (place : Nat) : Answer :=
  (answers[place]?).getD (answers.getLastD (.ok {}))

/-- The executor that gives prepared answers, one after the other. -/
def Executor.answering (answers : List Answer) : Executor where
  run files before _ := (files, answerAt answers before.length)

theorem Executor.answering_keepsFiles (answers : List Answer) :
    (Executor.answering answers).KeepsFiles := fun _ _ _ => rfl

/-- The exit status that shells give to a command that could not be found. -/
def notFoundStatus : Int := 127

/-- The lowest exit status for programs that a signal ended. -/
def signalBase : Int := 128

/-- The exit status of a program, from the word with which the system reports its end. A signal
counts from a base of its own, and a program that merely stopped has no status. -/
def exitStatus (word : Int) : Int :=
  let signal := word.emod 128
  if signal = 0 then (word / 256).emod 256
  else if signal < 127 then signalBase + signal
  else -1

/-- What a finished program leaves, from the word that reports its end and the bytes it printed. -/
def Output.ofBytes (word : Int) (stdout stderr : Bytes) : Output :=
  ⟨exitStatus word, Text.decodeLossy stdout, Text.decodeLossy stderr⟩

end HostHome.Execution
