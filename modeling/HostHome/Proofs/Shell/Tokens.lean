import HostHome.Shell.Parser

/-!
# The tokens of a script, part by part

A script is cut into tokens from its beginning.  What its first lines are does not
matter to the tokens of the rest, but for the numbers of the lines on which words stand.
-/

namespace HostHome.Shell

variable {fuel line : Nat} {text : List Char} {found : List Token}

def Token.moved (lines : Nat) : Token → Token
  | .word line own => .word (line + lines) own
  | token => token

theorem readRedirection_moved (lines : Nat) (descriptor : Option Nat) (text : List Char) :
    (readRedirection descriptor text).map (Prod.map (Token.moved lines) id) =
      readRedirection descriptor text := by
  unfold readRedirection
  split <;> rfl

theorem readOperator_moved (lines : Nat) (text : List Char) :
    (readOperator text).map (Prod.map (Token.moved lines) id) = readOperator text := by
  unfold readOperator
  split
  case h_9 => exact readRedirection_moved lines none text
  all_goals rfl

theorem readToken_moved (line lines : Nat) (text : List Char) :
    readToken (line + lines) text =
      (readToken line text).map (Prod.map (Token.moved lines) id) := by
  unfold readToken
  split
  · rfl
  · split
    · exact (readRedirection_moved lines _ _).symm
    · split
      · exact (readOperator_moved lines _).symm
      · cases readWord _ <;> rfl
  · split
    · exact (readOperator_moved lines _).symm
    · cases readWord _ <;> rfl
  · rfl

/-- The line feeds before a rest of a text. -/
def lineFeedsBefore (after text : List Char) : Nat :=
  (text.take (text.length - after.length)).count '\n'

theorem lineFeedsBefore_append (chars after : List Char) :
    lineFeedsBefore after (chars ++ after) = chars.count '\n' := by
  simp [lineFeedsBefore]

/-- What one step does with a text. -/
theorem tokensFrom_cons (fuel line : Nat) (c : Char) (rest : List Char) :
    tokensFrom (fuel + 1) line (c :: rest) =
      if isBlankChar c then tokensFrom fuel line rest
      else if c = '#' then tokensFrom fuel line (rest.dropWhile (· ≠ '\n'))
      else if (c :: rest).take 2 = ['\\', '\n'] then
        tokensFrom fuel (line + 1) ((c :: rest).drop 2)
      else (readToken line (c :: rest)).bind fun read =>
        (tokensFrom fuel (line + lineFeedsBefore read.2 (c :: rest)) read.2).map (read.1 :: ·) := by
  simp only [tokensFrom, lineFeedsBefore, Option.map_eq_bind]
  rfl

theorem tokensFrom_moved (fuel line lines : Nat) (text : List Char) :
    tokensFrom fuel (line + lines) text =
      (tokensFrom fuel line text).map (List.map (Token.moved lines)) := by
  induction fuel generalizing line text with
  | zero => cases text <;> rfl
  | succ fuel ih =>
      cases text with
      | nil => rfl
      | cons c rest =>
          simp only [tokensFrom_cons, Nat.add_right_comm line lines, ih, readToken_moved]
          split
          · rfl
          · split
            · rfl
            · split
              · rfl
              · cases readToken line (c :: rest) with
                | none => rfl
                | some read =>
                    simp only [Option.map_some, Option.bind_some, Option.map_map]
                    rfl

theorem tokensFrom_mono (more : Nat) (cut : tokensFrom fuel line text = some found) :
    tokensFrom (fuel + more) line text = some found := by
  induction fuel generalizing line text found with
  | zero =>
      cases text with
      | nil => rw [← cut]; cases more <;> rfl
      | cons c rest => cases cut
  | succ fuel ih =>
      cases text with
      | nil => rw [← cut]; cases more <;> rfl
      | cons c rest =>
          rw [Nat.add_right_comm]
          rw [tokensFrom_cons] at cut ⊢
          by_cases blank : isBlankChar c
          · rw [if_pos blank] at cut ⊢
            exact ih cut
          rw [if_neg blank] at cut ⊢
          by_cases comment : c = '#'
          · rw [if_pos comment] at cut ⊢
            exact ih cut
          rw [if_neg comment] at cut ⊢
          by_cases joined : (c :: rest).take 2 = ['\\', '\n']
          · rw [if_pos joined] at cut ⊢
            exact ih cut
          rw [if_neg joined] at cut ⊢
          obtain ⟨⟨token, after⟩, read, whole⟩ := Option.bind_eq_some_iff.1 cut
          obtain ⟨others, cutRest, rfl⟩ := Option.map_eq_some_iff.1 whole
          rw [read, Option.bind_some, ih cutRest, Option.map_some]

theorem tokensFrom_lineFeed (fuel line : Nat) (text : List Char) :
    tokensFrom (fuel + 1) line ('\n' :: text) =
      (tokensFrom fuel (line + 1) text).map (.newline :: ·) := by
  have passed : lineFeedsBefore text ('\n' :: text) = 1 := lineFeedsBefore_append ['\n'] text
  rw [tokensFrom_cons, if_neg (by decide), if_neg (by decide), if_neg (by simp), readToken,
    Option.bind_some, passed]

/-- A line without commands: it is empty, or a comment. -/
def IsRemark (chars : List Char) : Prop := '\n' ∉ chars ∧ ∀ c ∈ chars.head?, c = '#'

theorem tokensFrom_remark {chars : List Char} (remark : IsRemark chars)
    (cut : tokensFrom fuel (line + 1) text = some found) :
    tokensFrom (fuel + (chars.length + 1)) line (chars ++ '\n' :: text) =
      some (.newline :: found) := by
  obtain ⟨oneLine, begins⟩ := remark
  cases chars with
  | nil =>
      rw [List.nil_append, List.length_nil, tokensFrom_lineFeed, cut]
      rfl
  | cons c chars =>
      obtain rfl : c = '#' := begins c rfl
      have skipped : (chars ++ '\n' :: text).dropWhile (· ≠ '\n') = '\n' :: text := by
        rw [List.dropWhile_append_of_pos]
        · simp
        · intro c member
          exact decide_eq_true fun lineFeed => oneLine (.tail _ (lineFeed ▸ member))
      rw [List.length_cons, ← Nat.add_assoc, List.cons_append, tokensFrom, if_neg (by decide),
        if_pos rfl, skipped, ← Nat.add_assoc, tokensFrom_lineFeed, tokensFrom_mono _ cut]
      rfl

theorem readToken_eq_word {c : Char} {rest after : List Char} {word : Word}
    (noLineFeed : c ≠ '\n') (noDigit : c.isDigit = false) (noOperator : isOperatorChar c = false)
    (read : readWord (c :: rest) = some (word, after)) :
    readToken line (c :: rest) = some (.word line word, after) := by
  cases rest with
  | nil =>
      rw [readToken, if_neg (by simp [noOperator]), read]
      · rfl
      · exact noLineFeed
  | cons d rest =>
      rw [readToken, if_neg (by simp [noDigit]), if_neg (by simp [noOperator]), read]
      · rfl
      · exact noLineFeed

/-- A text that begins like a name begins with a word. -/
theorem tokensFrom_word {c : Char} {chars after : List Char} {word : Word}
    (begins : isNameChar c) (noDigit : c.isDigit = false)
    (read : readWord (c :: chars ++ after) = some (word, after))
    (cut : tokensFrom fuel (line + (c :: chars).count '\n') after = some found) :
    tokensFrom (fuel + 1) line (c :: chars ++ after) = some (.word line word :: found) := by
  have differs (special : Char) (strange : isNameChar special = false) : c ≠ special := by
    rintro rfl
    simp [strange] at begins
  have noBlank : isBlankChar c = false := by
    simp [isBlankChar, differs ' ' (by decide), differs '\t' (by decide)]
  have noOperator : isOperatorChar c = false := by
    refine decide_eq_false fun member => ?_
    simp only [List.mem_cons, List.not_mem_nil, or_false] at member
    rcases member with rfl | rfl | rfl | rfl | rfl | rfl | rfl <;> cases begins
  have passed := lineFeedsBefore_append (c :: chars) after
  rw [List.cons_append] at passed read ⊢
  rw [tokensFrom_cons, if_neg (by simp [noBlank]), if_neg (differs '#' (by decide)),
    if_neg (by simp [differs '\\' (by decide)]),
    readToken_eq_word (differs '\n' (by decide)) noDigit noOperator read, Option.bind_some, passed,
    cut, Option.map_some]

end HostHome.Shell
