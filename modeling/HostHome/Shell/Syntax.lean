import HostHome.Shell.Word

/-!
# Scripts

The commands of a shell and the ways to put them together.
-/

namespace HostHome.Shell

/-- What a redirection does with its word. -/
inductive RedirectionKind where
  | read
  | write
  | append
  | duplicate
  deriving DecidableEq, Repr

/-- Connect a descriptor with a file, or with another descriptor. -/
structure Redirection where
  descriptor : Nat
  kind : RedirectionKind
  target : Word
  deriving DecidableEq, Repr

inductive Script where
  /-- Assignments, or a command with its arguments, and the line on which they stand. -/
  | simple (line : Nat) (assignments : List (List Char × Word)) (words : List Word)
      (redirections : List Redirection)
  /-- One command and then another. -/
  | sequence (first second : Script)
  /-- The second command only after success of the first. -/
  | both (first second : Script)
  /-- The second command only after failure of the first. -/
  | either (first second : Script)
  /-- The opposite of a status. -/
  | opposite (script : Script)
  /-- The second command as long as the first succeeds, or as long as it fails. -/
  | loop (wanted : Bool) (condition body : Script)
  /-- The second or the third command, by the first. -/
  | branch (condition whenTrue whenFalse : Script)
  /-- The first command if a word has one of some patterns, and otherwise the second. -/
  | choice (subject : Word) (patterns : List Word) (body otherwise : Script)
  /-- A command for each of some words. -/
  | forEach (name : List Char) (words : List Word) (body : Script)
  /-- A command whose changes of variables are forgotten. -/
  | apart (script : Script)
  /-- A name for a command. -/
  | define (name : String) (body : Script)
  /-- A command with redirections. -/
  | redirected (script : Script) (redirections : List Redirection)
  /-- Nothing. -/
  | nothing
  deriving Repr, Inhabited

end HostHome.Shell
