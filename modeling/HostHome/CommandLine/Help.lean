import HostHome.CommandLine.Options
import HostHome.Log.File

/-!
# Help

The texts that explain the command line, in a short and a long form.
-/

namespace HostHome.CommandLine

open HostHome.Text (Bytes)

def programName : String := "multihome"

/-- What a flag does. The two forms of the help point to each other. -/
def Flag.description (long : Bool) : Flag → String
  | script => "Write init.sh and init.csh instead of printing the per-host home"
  | tests => "Run self-tests and validate the configuration files"
  | update => "Re-sync skeletons and transfers into an existing per-host home"
  | verbose => "Enable verbose output"
  | help =>
      if long then "Print help (see a summary with '-h')" else "Print help (see more with '--help')"
  | version => "Print version"

def Flag.spelling (flag : Flag) : String :=
  "-" ++ String.singleton flag.letter ++ ", --" ++ flag.name

def purpose : String := "Create and enter a per-host home directory under the shared home"

def purposeDetails : String :=
  "Prints the per-host home on stdout so login scripts can switch `HOME` to it."

def hostPlace : String := "[HOSTNAME]"

def hostDescription : String := "Use this name instead of the machine's node name"

/-- Blanks up to a width. -/
def fill (width : Nat) (text : String) : String :=
  text ++ String.ofList (List.replicate (width - text.length) ' ')

def spellingWidth : Nat := Flag.all.foldl (fun width flag => max width flag.spelling.length) 0

def longEntry (spelling description : String) : String :=
  "  " ++ spelling ++ "\n          " ++ description ++ "\n"

def shortHelp (called : String) : String :=
  let flagLine (flag : Flag) : String :=
    "  " ++ fill spellingWidth flag.spelling ++ "  " ++ flag.description false ++ "\n"
  purpose ++ "\n\nUsage: " ++ called ++ " [OPTIONS] " ++ hostPlace ++ "\n\nArguments:\n  "
    ++ hostPlace ++ "  " ++ hostDescription ++ "\n\nOptions:\n"
    ++ String.join (Flag.all.map flagLine)

def longHelp (called : String) : String :=
  purpose ++ ".\n\n" ++ purposeDetails ++ "\n\nUsage: " ++ called ++ " [OPTIONS] " ++ hostPlace
    ++ "\n\nArguments:\n" ++ longEntry hostPlace hostDescription ++ "\nOptions:\n"
    ++ "\n".intercalate (Flag.all.map fun flag => longEntry flag.spelling (flag.description true))

/-- The name under which the program was called: the last name of its path, if that is a text. -/
def calledName (program : Bytes) : String :=
  ((Path.fileName? ⟨program⟩).bind Text.decode?).getD programName

def versionText : String := programName ++ " " ++ Log.version ++ "\n"

/-- What is printed instead of a run, where that is no fault. -/
def Interruption.text? (program : Bytes) : Interruption → Option String
  | help false => some (shortHelp (calledName program))
  | help true => some (longHelp (calledName program))
  | version => some versionText
  | fault _ => none

end HostHome.CommandLine
