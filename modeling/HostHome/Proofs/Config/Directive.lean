import HostHome.Config.Transfer

/-!
# What a line of a transfer file states

A line states a directive if it has a kind, any separator and a path that names
something.  The path stands behind the separator, less one slash at its beginning,
but it is read from the third byte on: so a separator of several bytes, which is one
character like all others, leaves no path, and the line is refused.
-/

namespace HostHome.Config

variable {file : Path} {line : Line} {directive : Directive}

/-- The path that stands behind the first two characters, less one slash. -/
def statedPath (text : List Char) : List Char :=
  if (text.drop 2).head? = some '/' then (text.drop 2).tail else text.drop 2

/-- The line has a letter, a separator and at least one more character: its letter is that of the
kind, and what is left behind the separator is the path, which has a last name. -/
structure States (line : Line) (directive : Directive) : Prop where
  long : 3 ≤ line.text.toList.length
  letter : line.text.toList.head? = some directive.kind.letter
  path : directive.path.toList = statedPath line.text.toList
  nonempty : directive.path ≠ ""
  named : (Path.ofText directive.path).fileName? ≠ none
  number : directive.line = line.number

instance (line : Line) (directive : Directive) : Decidable (States line directive) :=
  decidable_of_iff
    (3 ≤ line.text.toList.length ∧ line.text.toList.head? = some directive.kind.letter ∧
      directive.path.toList = statedPath line.text.toList ∧ directive.path ≠ "" ∧
      (Path.ofText directive.path).fileName? ≠ none ∧ directive.line = line.number)
    ⟨fun ⟨long, letter, path, nonempty, named, number⟩ =>
        ⟨long, letter, path, nonempty, named, number⟩,
      fun ⟨long, letter, path, nonempty, named, number⟩ =>
        ⟨long, letter, path, nonempty, named, number⟩⟩

def HasByteSeparator (line : Line) : Prop :=
  ∀ separator ∈ line.text.toList[1]?, separator.utf8Size = 1

instance (line : Line) : Decidable (HasByteSeparator line) :=
  Option.decidableForallMem line.text.toList[1]?

/-- The path on the line begins with a slash, which is stripped. -/
def HasSlash (line : Line) : Prop := (line.text.toList.drop 2).head? = some '/'

instance (line : Line) : Decidable (HasSlash line) := by
  unfold HasSlash
  infer_instance

theorem ofLetter?_eq_some_iff {letter : Char} {kind : TransferKind} :
    TransferKind.ofLetter? letter = some kind ↔ letter = kind.letter := by
  constructor
  · intro found
    unfold TransferKind.ofLetter? at found
    split at found
    · next same => cases found; exact same
    · split at found
      · next same => cases found; exact same
      · split at found
        · next same => cases found; exact same
        · cases found
  · rintro rfl
    cases kind <;> rfl

theorem stripLeadingSlash_eq (path : List Char) :
    stripLeadingSlash path =
      if path.head? = some '/' then (path.tail, [.leadingSlash (String.ofList path)])
      else (path, []) := by
  unfold stripLeadingSlash
  split
  · simp
  · next other =>
      rw [if_neg]
      intro slashed
      obtain ⟨rest, whole⟩ := List.head?_eq_some_iff.1 slashed
      exact other rest whole

theorem pathRemark?_eq_none_iff {path : String} :
    pathRemark? path = none ↔ path ≠ "" ∧ (Path.ofText path).fileName? ≠ none := by
  unfold pathRemark?
  by_cases empty : path = "" <;> simp [empty]

theorem readDirective_of_letter (kind : TransferKind) (separator first : Char)
    (more : List Char) :
    readDirective (kind.letter :: separator :: first :: more) =
      let stripped := stripLeadingSlash (pathAfter separator (first :: more))
      match pathRemark? (String.ofList stripped.1) with
      | some remark => (none, stripped.2 ++ [remark])
      | none => (some (kind, String.ofList stripped.1), stripped.2) := by
  have found : TransferKind.ofLetter? kind.letter = some kind := ofLetter?_eq_some_iff.2 rfl
  cases remark : pathRemark? (String.ofList
      (stripLeadingSlash (pathAfter separator (first :: more))).1) <;>
    simp only [readDirective, found, remark]

/-- A separator of several bytes leaves no path. -/
theorem readDirective_of_long_separator {separator : Char} (long : separator.utf8Size ≠ 1)
    (kind : TransferKind) (first : Char) (more : List Char) :
    readDirective (kind.letter :: separator :: first :: more) = (none, [.emptyPath]) := by
  rw [readDirective_of_letter, pathAfter, if_neg long]
  rfl

/-- A separator of a single byte leaves the stated path, with a remark if a slash is stripped. -/
theorem readDirective_of_byte_separator {separator : Char} (single : separator.utf8Size = 1)
    (kind : TransferKind) (first : Char) (more : List Char) :
    let text := kind.letter :: separator :: first :: more
    let path := String.ofList (statedPath text)
    let remarks := if first = '/' then [.leadingSlash (String.ofList (first :: more))] else []
    readDirective text =
      match pathRemark? path with
      | some remark => (none, remarks ++ [remark])
      | none => (some (kind, path), remarks) := by
  have stripped : stripLeadingSlash (pathAfter separator (first :: more)) =
      (statedPath (kind.letter :: separator :: first :: more),
        if first = '/' then [.leadingSlash (String.ofList (first :: more))] else []) := by
    rw [pathAfter, if_pos single, stripLeadingSlash_eq]
    by_cases slashed : first = '/' <;> simp [statedPath, slashed]
  simp only [readDirective_of_letter, stripped]

theorem remarks_ne_nil_of_none {text : List Char} (refused : (readDirective text).1 = none) :
    (readDirective text).2 ≠ [] := by
  unfold readDirective at refused ⊢
  split
  · next letter separator first more =>
      cases found : TransferKind.ofLetter? letter with
      | none => simp
      | some kind =>
          simp only [found] at refused ⊢
          split
          · simp
          · next fine => simp [fine] at refused
  · simp

theorem ofLine_fst_eq_some_iff :
    (Directive.ofLine file line).1 = some directive ↔
      (readDirective line.text.toList).1 = some (directive.kind, directive.path) ∧
        directive.line = line.number := by
  constructor
  · intro found
    obtain ⟨⟨kind, path⟩, read, rfl⟩ := Option.map_eq_some_iff.1 found
    exact ⟨read, rfl⟩
  · rintro ⟨read, number⟩
    obtain ⟨kind, path, _⟩ := directive
    cases number
    exact Option.map_eq_some_iff.2 ⟨_, read, rfl⟩

theorem States.exists_spelled (states : States line directive) :
    ∃ separator first more,
      line.text.toList = directive.kind.letter :: separator :: first :: more := by
  have long := states.long
  obtain ⟨rest, spelled⟩ := List.head?_eq_some_iff.1 states.letter
  rw [spelled] at long ⊢
  match rest, long with
  | separator :: first :: more, _ => exact ⟨separator, first, more, rfl⟩

theorem hasByteSeparator_iff {letter separator : Char} {rest : List Char}
    (spelled : line.text.toList = letter :: separator :: rest) :
    HasByteSeparator line ↔ separator.utf8Size = 1 := by
  simp [HasByteSeparator, spelled]

theorem read_of_states (states : States line directive) (single : HasByteSeparator line) :
    readDirective line.text.toList = (some (directive.kind, directive.path),
      if HasSlash line then [.leadingSlash (String.ofList (line.text.toList.drop 2))] else []) := by
  obtain ⟨separator, first, more, spelled⟩ := states.exists_spelled
  have path : String.ofList (statedPath line.text.toList) = directive.path := by
    rw [← states.path, String.ofList_toList]
  have fine : pathRemark? directive.path = none :=
    pathRemark?_eq_none_iff.2 ⟨states.nonempty, states.named⟩
  have slash : HasSlash line ↔ first = '/' := by simp [HasSlash, spelled]
  rw [spelled] at path
  rw [spelled, readDirective_of_byte_separator ((hasByteSeparator_iff spelled).1 single), path, fine]
  simp [slash]

/-- A separator of several bytes leaves no path of a line, whatever it states. -/
theorem read_of_long_separator (states : States line directive)
    (long : ¬ HasByteSeparator line) :
    readDirective line.text.toList = (none, [.emptyPath]) := by
  obtain ⟨separator, first, more, spelled⟩ := states.exists_spelled
  rw [hasByteSeparator_iff spelled] at long
  rw [spelled, readDirective_of_long_separator long]

theorem states_of_read {kind : TransferKind} {path : String}
    (read : (readDirective line.text.toList).1 = some (kind, path)) :
    States line ⟨kind, path, line.number⟩ ∧ HasByteSeparator line := by
  match spelled : line.text.toList, read with
  | letter :: separator :: first :: more, read =>
      cases found : TransferKind.ofLetter? letter with
      | none => simp [readDirective, found] at read
      | some other =>
          cases ofLetter?_eq_some_iff.1 found
          by_cases single : separator.utf8Size = 1
          · refine ⟨?_, (hasByteSeparator_iff spelled).2 single⟩
            rw [readDirective_of_byte_separator single] at read
            split at read
            · cases read
            · next fine =>
                cases read
                obtain ⟨nonempty, named⟩ := pathRemark?_eq_none_iff.1 fine
                constructor <;> simp_all
          · rw [readDirective_of_long_separator single] at read
            cases read
  | [], read | [_], read | [_, _], read => cases read

theorem ofLine_of_read {found : Option (TransferKind × String)} {remarks : List DirectiveRemark}
    (read : readDirective line.text.toList = (found, remarks)) :
    Directive.ofLine file line =
      (found.map fun (kind, path) => ⟨kind, path, line.number⟩,
        remarks.map fun remark => ⟨file, line.number, remark.message⟩) := by
  simp only [Directive.ofLine, read]

/-- A line gives a directive exactly if it states one and its separator is a single byte.  Then one
slash is reported if one is stripped, and nothing else.  A line that states a directive behind a
separator of several bytes is refused for want of a path, and every line that is refused is
reported, with its file and its number. -/
theorem ofLine_eq_some_iff_states (file : Path) (line : Line) :
    (∀ directive, (Directive.ofLine file line).1 = some directive ↔
      States line directive ∧ HasByteSeparator line) ∧
    (∀ directive, States line directive → ¬ HasByteSeparator line →
      Directive.ofLine file line = (none, [⟨file, line.number, "Empty path"⟩])) ∧
    (match (Directive.ofLine file line).1 with
      | none => (Directive.ofLine file line).2 ≠ []
      | some _ => (Directive.ofLine file line).2 =
          if HasSlash line then
            [⟨file, line.number,
              "Ignoring leading '/' in path: " ++ String.ofList (line.text.toList.drop 2)⟩]
          else []) ∧
    ∀ diagnostic ∈ (Directive.ofLine file line).2,
      diagnostic.file = file ∧ diagnostic.line = line.number := by
  have gives (directive : Directive) : (Directive.ofLine file line).1 = some directive ↔
      States line directive ∧ HasByteSeparator line := by
    rw [ofLine_fst_eq_some_iff]
    constructor
    · rintro ⟨read, number⟩
      obtain ⟨states, single⟩ := states_of_read read
      rw [← number] at states
      exact ⟨states, single⟩
    · rintro ⟨states, single⟩
      rw [read_of_states states single]
      exact ⟨rfl, states.number⟩
  refine ⟨gives, ?_, ?_, ?_⟩
  · intro directive states long
    rw [ofLine_of_read (read_of_long_separator states long)]
    rfl
  · split
    · next refused =>
        have unread : (readDirective line.text.toList).1 = none := Option.map_eq_none_iff.1 refused
        simpa [Directive.ofLine] using remarks_ne_nil_of_none unread
    · next directive found =>
        obtain ⟨states, single⟩ := (gives directive).1 found
        rw [ofLine_of_read (read_of_states states single)]
        split <;> rfl
  · intro diagnostic reported
    obtain ⟨remark, _, rfl⟩ := List.mem_map.1 reported
    exact ⟨rfl, rfl⟩

theorem directive_of_unusual_separator :
    let line : Line := ⟨7, "Hx/in/."⟩
    let directive : Directive := ⟨.hardLink, "in/.", 7⟩
    (States line directive ∧ HasByteSeparator line) ∧
      (Directive.ofLine (.ofText "/transfer") line).1 = some directive := by
  have states : States ⟨7, "Hx/in/."⟩ ⟨.hardLink, "in/.", 7⟩ := by decide
  have single : HasByteSeparator ⟨7, "Hx/in/."⟩ := by decide
  exact ⟨⟨states, single⟩, ((ofLine_eq_some_iff_states _ _).1 _).2 ⟨states, single⟩⟩

/-- A line that states a directive, with a letter of two bytes as the separator, and gives none. -/
theorem not_ofLine_eq_some_of_states :
    ¬ ∀ (file : Path) (line : Line) (directive : Directive),
      (Directive.ofLine file line).1 = some directive ↔ States line directive := by
  intro accepts
  have states : States ⟨1, "Lé.ssh"⟩ ⟨.symbolicLink, ".ssh", 1⟩ := by decide
  have found := (accepts (.ofText "/transfer") _ _).2 states
  revert found
  decide

end HostHome.Config
