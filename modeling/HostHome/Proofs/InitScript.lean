import HostHome.InitScript
import HostHome.Proofs.Text.Encoding
import HostHome.Proofs.Text.Lossy
import HostHome.Shell.Parser
import HostHome.Shell.Session

/-!
# The program that a script names

A script for login shells assigns the path of the program to a variable, as one word
between single quotes.  A shell reads these quotes back to the text that was quoted,
whatever it holds.  But the text is what the bytes of the path were read as, so the
word stands for the path only where its bytes are a text.
-/

namespace HostHome.InitScript

open HostHome.Shell

def quotedAtoms (c : Char) : Word :=
  if c = '\'' then [.char c true, .quotes] else [.char c true]

/-- The quoted text is read up to its last quote, and the word ends with the line. -/
theorem readWordFrom_quoted (chars behind : List Char) {fuel : Nat}
    (enough : (chars.flatMap quotedChar).length + 2 ≤ fuel) :
    readWordFrom fuel .single (chars.flatMap quotedChar ++ '\'' :: '\n' :: behind) =
      some (chars.flatMap quotedAtoms, '\n' :: behind) := by
  induction chars generalizing fuel with
  | nil =>
      obtain ⟨less, rfl⟩ : ∃ less, fuel = less + 2 := ⟨fuel - 2, by simp at enough; omega⟩
      simp [readWordFrom, endsWord]
  | cons c chars ih =>
      rw [List.flatMap_cons, List.length_append] at enough
      by_cases quote : c = '\''
      · subst quote
        have four : (quotedChar '\'').length = 4 := rfl
        obtain ⟨less, rfl⟩ : ∃ less, fuel = less + 3 := ⟨fuel - 3, by omega⟩
        have later := ih (show (chars.flatMap quotedChar).length + 2 ≤ less by omega)
        simp [quotedChar, quotedAtoms, readWordFrom, endsWord, isBlankChar, isOperatorChar, later]
      · have one : (quotedChar c).length = 1 := by simp [quotedChar, quote]
        obtain ⟨less, rfl⟩ : ∃ less, fuel = less + 1 := ⟨fuel - 1, by omega⟩
        have later := ih (show (chars.flatMap quotedChar).length + 2 ≤ less by omega)
        simp [quotedChar, quotedAtoms, quote, readWordFrom, later]

/-- Characters outside quotes that stand for themselves. -/
def IsPlain (c : Char) : Prop :=
  endsWord c = false ∧ c ∉ ['\'', '"', '\\', '$', '\x60']

theorem readWordFrom_plain {c : Char} (plain : IsPlain c) (fuel : Nat) (text : List Char) :
    readWordFrom (fuel + 1) .none (c :: text) =
      (readWordFrom fuel .none text).map fun (word, after) => (.char c false :: word, after) := by
  obtain ⟨inside, ordinary⟩ := plain
  simp only [List.mem_cons, List.not_mem_nil, or_false, not_or] at ordinary
  obtain ⟨quote, double, backslash, dollar, back⟩ := ordinary
  rw [readWordFrom]
  · simp [inside, quote, double]
  · simp [backslash]
  · simp [backslash]
  · simp [dollar]
  · simp [back]

theorem readWordFrom_plains {chars : List Char} (plain : ∀ c ∈ chars, IsPlain c) (fuel : Nat)
    (text : List Char) :
    readWordFrom (fuel + chars.length) .none (chars ++ text) =
      (readWordFrom fuel .none text).map fun (word, after) =>
        (chars.map (Atom.char · false) ++ word, after) := by
  induction chars with
  | nil => simp
  | cons c chars ih =>
      obtain ⟨first, others⟩ := List.forall_mem_cons.1 plain
      rw [List.length_cons, ← Nat.add_assoc, List.cons_append, readWordFrom_plain first,
        ih others, Option.map_map]
      rfl

/-- The name of the variable that holds the path of the program. -/
def programVariable : List Char := "MULTIHOME".toList

def assignmentOf (program : Path) : List Char :=
  programVariable ++ '=' :: quotedWord program.display.toList

/-- The value of the assignment, part by part. -/
def assignedWord (program : Path) : Word :=
  .quotes :: program.display.toList.flatMap quotedAtoms

theorem programVariable_eq : programVariable = ['M', 'U', 'L', 'T', 'I', 'H', 'O', 'M', 'E'] := by
  decide

theorem isPlain_programVariable : ∀ c ∈ programVariable ++ ['='], IsPlain c := by
  simp [programVariable_eq, IsPlain, endsWord, isBlankChar, isOperatorChar]

theorem readWordFrom_quotedWord (chars behind : List Char) (fuel : Nat)
    (enough : (quotedWord chars).length + 1 ≤ fuel) :
    readWordFrom fuel .none (quotedWord chars ++ '\n' :: behind) =
      some (.quotes :: chars.flatMap quotedAtoms, '\n' :: behind) := by
  have length : (quotedWord chars).length = (chars.flatMap quotedChar).length + 2 := by
    simp [quotedWord]
  obtain ⟨less, rfl⟩ : ∃ less, fuel = less + 1 := ⟨fuel - 1, by omega⟩
  have enoughLess : (chars.flatMap quotedChar).length + 2 ≤ less := by omega
  have quoted := readWordFrom_quoted chars behind enoughLess
  simp [quotedWord, readWordFrom, endsWord, isBlankChar, isOperatorChar, quoted]

theorem readWord_assignmentOf (program : Path) (behind : List Char) :
    readWord (assignmentOf program ++ '\n' :: behind) =
      some ((programVariable ++ ['=']).map (Atom.char · false) ++ assignedWord program,
        '\n' :: behind) := by
  let value := quotedWord program.display.toList ++ '\n' :: behind
  have spelled : assignmentOf program ++ '\n' :: behind = (programVariable ++ ['=']) ++ value := by
    simp [assignmentOf, value]
  have fuel : (assignmentOf program ++ '\n' :: behind).length + 1 =
      value.length + 1 + (programVariable ++ ['=']).length := by
    rw [spelled, List.length_append]
    omega
  have read := readWordFrom_quotedWord program.display.toList behind
    (value.length + 1) (by simp [value])
  rw [readWord, fuel, spelled, readWordFrom_plains isPlain_programVariable]
  simp only [value, read, Option.map_some, assignedWord]

theorem assignment?_assignedWord (program : Path) :
    assignment? ((programVariable ++ ['=']).map (Atom.char · false) ++ assignedWord program) =
      some (programVariable, assignedWord program) := by
  rw [programVariable_eq]
  rfl

theorem flatMap_quotedAtoms (session : Session) (chars : List Char) :
    (chars.flatMap quotedAtoms).flatMap session.wholeValue = Text.encodeChars chars := by
  induction chars with
  | nil => rfl
  | cons c chars ih =>
      have first : (quotedAtoms c).flatMap session.wholeValue = Text.encodeChars [c] := by
        unfold quotedAtoms
        split <;> simp [Session.wholeValue, Session.simpleValue]
      rw [List.flatMap_cons, List.flatMap_append, first, ih]
      simp [Text.encodeChars]

/-- The value is the text as which the path was read. -/
theorem expandOne_assignedWord (session : Session) (program : Path) :
    session.expandOne (assignedWord program) = Text.encode program.display := by
  have quotes : session.wholeValue .quotes = [] := rfl
  rw [Session.expandOne, assignedWord, List.flatMap_cons, quotes, List.nil_append,
    flatMap_quotedAtoms, Text.encode]

theorem display_eq_of_assignmentOf {program other : Path} {behind : List Char}
    (same : assignmentOf program ++ '\n' :: behind = assignmentOf other ++ '\n' :: behind) :
    program.display = other.display := by
  have read := readWord_assignmentOf program behind
  rw [same, readWord_assignmentOf] at read
  have words : assignedWord other = assignedWord program :=
    List.append_cancel_left (Prod.mk.inj (Option.some.inj read)).1
  apply Text.encode_injective
  let session : Session :=
    { files := .empty, environment := {}, name := [], arguments := [], processId := 1 }
  calc Text.encode program.display
      = session.expandOne (assignedWord program) := (expandOne_assignedWord session program).symm
    _ = session.expandOne (assignedWord other) := by rw [words]
    _ = Text.encode other.display := expandOne_assignedWord session other

theorem toList_unlines_append (lines more : List String) :
    (unlines (lines ++ more)).toList = (unlines lines).toList ++ (unlines more).toList := by
  simp [unlines]

theorem toList_unlines_cons (line : String) (lines : List String) :
    (unlines (line :: lines)).toList = line.toList ++ '\n' :: (unlines lines).toList := by
  simp [unlines]

theorem toList_assignment (program : Path) :
    ("MULTIHOME=" ++ quoted program.display).toList = assignmentOf program := by
  have name : "MULTIHOME=".toList = programVariable ++ ['='] := by decide
  rw [String.toList_append, name, quoted, String.toList_ofList, assignmentOf, List.append_assoc]
  rfl

/-- What stands behind the assignment is the same in all scripts, and a shell can read it. -/
theorem exists_behind_forShell :
    ∃ behind, (tokens ('\n' :: behind)).isSome ∧ ∀ program stamp,
      (forShell program stamp).toList =
        (unlines (headerLines stamp "." "init.sh")).toList ++
          (assignmentOf program ++ '\n' :: behind) := by
  refine ⟨(unlines ?_).toList, ?_, ?_⟩
  rotate_left
  rotate_left
  · intro program stamp
    rw [forShell, toList_unlines_append, toList_unlines_cons, toList_assignment]
  · decide +kernel

/-- Nothing in the script but the assignment depends on the program. -/
theorem exists_toList_forShell (stamp : String) :
    ∃ before behind, ∀ program,
      (forShell program stamp).toList = before ++ (assignmentOf program ++ '\n' :: behind) := by
  obtain ⟨behind, _, spelled⟩ := exists_behind_forShell
  exact ⟨_, behind, fun program => spelled program stamp⟩

theorem exists_toList_forCShell (stamp : String) :
    ∃ before behind, ∀ program,
      (forCShell program stamp).toList = before ++ (assignmentOf program ++ '\n' :: behind) := by
  refine ⟨(unlines (headerLines stamp "source" "init.csh")).toList ++ "set ".toList,
    (unlines ?_).toList, ?_⟩
  rotate_left
  · intro program
    have spelled : "set MULTIHOME=" = "set " ++ "MULTIHOME=" := by decide
    rw [forCShell, toList_unlines_append, toList_unlines_cons, spelled, String.append_assoc,
      String.toList_append, toList_assignment, List.append_assoc, List.append_assoc]

/-- Two programs have the same script exactly if their paths are read as the same text. -/
theorem forShell_eq_iff {program other : Path} {stamp : String} :
    forShell program stamp = forShell other stamp ↔ program.display = other.display := by
  constructor
  · intro same
    obtain ⟨before, behind, spelled⟩ := exists_toList_forShell stamp
    have texts := congrArg String.toList same
    rw [spelled, spelled] at texts
    exact display_eq_of_assignmentOf (List.append_cancel_left texts)
  · intro same
    rw [forShell, forShell, same]

theorem forCShell_eq_iff {program other : Path} {stamp : String} :
    forCShell program stamp = forCShell other stamp ↔ program.display = other.display := by
  constructor
  · intro same
    obtain ⟨before, behind, spelled⟩ := exists_toList_forCShell stamp
    have texts := congrArg String.toList same
    rw [spelled, spelled] at texts
    exact display_eq_of_assignmentOf (List.append_cancel_left texts)
  · intro same
    rw [forCShell, forCShell, same]

end HostHome.InitScript
