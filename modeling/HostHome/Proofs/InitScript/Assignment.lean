import HostHome.Proofs.InitScript
import HostHome.Proofs.Shell.Tokens

/-!
# The assignment among the tokens of a script

Whatever path a script names, a shell cuts it into the same tokens but for one word.  It
is the assignment of the path, alone on its line, and its value are the bytes of the path:
no path can end the quotes and bring a command of its own.
-/

namespace HostHome.InitScript

open HostHome.Shell

variable {remarks : List String} {fuel line : Nat} {text behind : List Char} {found : List Token}

/-- Every line that opens a script is empty or a comment, as long as the time is one line. -/
theorem isRemark_of_mem_headerLines {stamp : String} (oneLine : '\n' ∉ stamp.toList) :
    ∀ header ∈ headerLines stamp "." "init.sh", IsRemark header.toList := by
  intro header member
  simp only [headerLines, List.mem_cons, List.not_mem_nil, or_false] at member
  rcases member with rfl | rfl | rfl | rfl | rfl | rfl <;> simp [IsRemark, oneLine]

/-- Of lines without commands only their ends are left. -/
theorem tokensFrom_remarks (areRemarks : ∀ remark ∈ remarks, IsRemark remark.toList)
    (cut : tokensFrom fuel (line + remarks.length) text = some found) :
    tokensFrom (fuel + (unlines remarks).toList.length) line ((unlines remarks).toList ++ text) =
      some (List.replicate remarks.length .newline ++ found) := by
  induction remarks generalizing line with
  | nil => simpa [unlines] using cut
  | cons remark remarks ih =>
      obtain ⟨first, others⟩ := List.forall_mem_cons.1 areRemarks
      rw [List.length_cons, Nat.add_comm remarks.length, ← Nat.add_assoc] at cut
      have later := tokensFrom_remark first (ih others cut)
      simpa [toList_unlines_cons, List.replicate_succ, Nat.add_assoc, Nat.add_comm,
        Nat.add_left_comm] using later

theorem count_quotedWord (chars : List Char) :
    (quotedWord chars).count '\n' = chars.count '\n' := by
  have inside : (chars.flatMap quotedChar).count '\n' = chars.count '\n' := by
    induction chars with
    | nil => rfl
    | cons c chars ih =>
        have first : (quotedChar c).count '\n' = [c].count '\n' := by
          unfold quotedChar
          split
          · next quote => rw [quote]; rfl
          · rfl
        rw [List.flatMap_cons, List.count_append, first, ih, ← List.count_append]
        rfl
  simp [quotedWord, inside]

theorem count_assignmentOf (program : Path) :
    (assignmentOf program).count '\n' = program.display.toList.count '\n' := by
  simp [assignmentOf, programVariable_eq, count_quotedWord]

/-- A script is cut into the ends of its first lines, one word, and the tokens of the rest. -/
theorem tokens_around_assignment {program : Path} {word : Word}
    (areRemarks : ∀ remark ∈ remarks, IsRemark remark.toList)
    (read : readWord (assignmentOf program ++ '\n' :: behind) = some (word, '\n' :: behind))
    (cut : tokens ('\n' :: behind) = some found) :
    tokens ((unlines remarks).toList ++ (assignmentOf program ++ '\n' :: behind)) =
      some (List.replicate remarks.length .newline ++ .word (1 + remarks.length) word ::
        found.map (.moved (remarks.length + program.display.toList.count '\n'))) := by
  obtain ⟨chars, spelled⟩ : ∃ chars, assignmentOf program = 'M' :: chars := by
    rw [assignmentOf, programVariable_eq]
    exact ⟨_, rfl⟩
  rw [← count_assignmentOf program]
  rw [spelled] at read ⊢
  have rest : tokensFrom (('\n' :: behind).length + 1)
      (1 + remarks.length + ('M' :: chars).count '\n') ('\n' :: behind) =
        some (found.map (.moved (remarks.length + ('M' :: chars).count '\n'))) := by
    rw [Nat.add_assoc, tokensFrom_moved, ← tokens, cut, Option.map_some]
  have withWord := tokensFrom_word (by decide) (by decide) read (tokensFrom_mono chars.length rest)
  have whole := tokensFrom_remarks areRemarks withWord
  have enough : ('\n' :: behind).length + 1 + chars.length + 1 + (unlines remarks).toList.length =
      ((unlines remarks).toList ++ ('M' :: chars ++ '\n' :: behind)).length + 1 := by
    simp only [List.length_append, List.length_cons]
    omega
  rw [enough] at whole
  exact whole

/-- For every path that is a text, a shell reads the script as the same tokens around one word.
The word assigns the path itself to the variable.  The text before the assignment depends on the
time alone, and the text behind it on nothing. -/
theorem program_is_one_word :
    ∃ (before : String → List Char) (behind : List Char) (others : List Token),
      tokens ('\n' :: behind) = some (.newline :: others) ∧
      ∀ (program : Path) (stamp : String),
        Text.decode? program.bytes ≠ none → '\n' ∉ stamp.toList →
          ∃ word value,
            (forShell program stamp).toList =
              before stamp ++ (assignmentOf program ++ '\n' :: behind) ∧
            readWord (assignmentOf program ++ '\n' :: behind) = some (word, '\n' :: behind) ∧
            assignment? word = some (programVariable, value) ∧
            (∀ session : Session, session.expandOne value = program.bytes) ∧
            tokens (forShell program stamp).toList =
              some (List.replicate 6 .newline ++ .word 7 word :: .newline ::
                others.map (.moved (6 + program.display.toList.count '\n'))) := by
  obtain ⟨behind, readable, spelled⟩ := exists_behind_forShell
  obtain ⟨others, cut⟩ : ∃ others, tokens ('\n' :: behind) = some (.newline :: others) := by
    obtain ⟨found, cut⟩ := Option.isSome_iff_exists.1 readable
    rw [tokens, tokensFrom_lineFeed] at cut
    obtain ⟨others, _, rfl⟩ := Option.map_eq_some_iff.1 cut
    exact ⟨others, by rw [tokens, tokensFrom_lineFeed, cut]⟩
  refine ⟨fun stamp => (unlines (headerLines stamp "." "init.sh")).toList, behind, others, cut, ?_⟩
  intro program stamp decoded oneLine
  have read := readWord_assignmentOf program behind
  refine ⟨_, assignedWord program, spelled program stamp, read, assignment?_assignedWord program,
    fun session => ?_, ?_⟩
  · rw [expandOne_assignedWord]
    exact (Text.encode_decodeLossy_iff program.bytes).2 decoded
  · rw [spelled]
    exact tokens_around_assignment (isRemark_of_mem_headerLines oneLine) read cut

/-- A path with quotes, a line feed, and what would be a command and a comment. -/
def awkwardProgram : Path := .ofText "/it's\n$(here); # '"

theorem awkward_program_is_one_word :
    Text.decode? awkwardProgram.bytes ≠ none ∧ '\n' ∉ "01-02-2026 @ 03:04:05".toList ∧
      ∃ word value others, assignment? word = some (programVariable, value) ∧
        (∀ session : Session, session.expandOne value = awkwardProgram.bytes) ∧
        tokens (forShell awkwardProgram "01-02-2026 @ 03:04:05").toList =
          some (List.replicate 6 .newline ++ .word 7 word :: .newline :: others) := by
  have decoded : Text.decode? awkwardProgram.bytes ≠ none := by decide +kernel
  have oneLine : '\n' ∉ "01-02-2026 @ 03:04:05".toList := by decide
  obtain ⟨_, _, others, _, assigns⟩ := program_is_one_word
  obtain ⟨word, value, _, _, named, expands, cut⟩ := assigns awkwardProgram _ decoded oneLine
  exact ⟨decoded, oneLine, word, value, _, named, expands, cut⟩

end HostHome.InitScript
