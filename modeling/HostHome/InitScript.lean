import HostHome.Path.Basic

/-!
# Scripts for login shells

A login shell reads one of these scripts to move into the per-host home. Each
holds the path of the program as one quoted word.
-/

namespace HostHome.InitScript

/-- One character between single quotes. A single quote ends the quotes, stands alone behind a
backslash, and begins them again. -/
def quotedChar (c : Char) : List Char := if c = '\'' then ['\'', '\\', '\'', '\''] else [c]

/-- Characters as one word of a shell. -/
def quotedWord (chars : List Char) : List Char := ['\''] ++ chars.flatMap quotedChar ++ ['\'']

def quoted (text : String) : String := String.ofList (quotedWord text.toList)

def unlines (lines : List String) : String := String.join (lines.map (· ++ "\n"))

/-- The lines that open a script: when it was written, and how a shell is to read it. -/
def headerLines (stamp command file : String) : List String :=
  ["#",
    "# This script was generated on " ++ stamp,
    "#",
    "# Source it from your login shell: " ++ command ++ " \"$HOME/.multihome/" ++ file ++ "\"",
    "#",
    ""]

def forShell (program : Path) (stamp : String) : String :=
  unlines (headerLines stamp "." "init.sh" ++
    ["MULTIHOME=" ++ quoted program.display,
      "if [ -x \"$MULTIHOME\" ]; then",
      "    HOME_NEW=\"$(\"$MULTIHOME\")\"",
      "    if [ -n \"$HOME_NEW\" ] && [ \"$HOME_NEW\" != \"$HOME\" ]; then",
      "        HOME_OLD=\"$HOME\"",
      "        HOME=\"$HOME_NEW\"",
      "        export HOME_OLD HOME",
      "        cd \"$HOME\" || true",
      "    fi",
      "    unset HOME_NEW",
      "fi",
      "unset MULTIHOME"])

def forCShell (program : Path) (stamp : String) : String :=
  unlines (headerLines stamp "source" "init.csh" ++
    ["set MULTIHOME=" ++ quoted program.display,
      "if ( -x \"$MULTIHOME\" ) then",
      "    set HOME_NEW=`\"$MULTIHOME\"`",
      "    if ( \"$HOME_NEW\" != \"\" && \"$HOME_NEW\" != \"$HOME\" ) then",
      "        setenv HOME_OLD \"$HOME\"",
      "        setenv HOME \"$HOME_NEW\"",
      "        cd \"$HOME\"",
      "    endif",
      "    unset HOME_NEW",
      "endif",
      "unset MULTIHOME"])

end HostHome.InitScript
