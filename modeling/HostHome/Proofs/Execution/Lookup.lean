import Mathlib
import HostHome.Execution.Lookup
import HostHome.FileSystem.Change
import HostHome.Proofs.FileSystem.Places

/-!
# Programs that are found by their paths

A name with a slash in it is the path of a program, and no list of directories matters
to it.  Only a name with nothing behind its first slash is taken for a plain one.  A
path that ends like this leads to a directory, wherever it starts, and so no program
is found by it.
-/

namespace HostHome

open HostHome.Text (Bytes)

namespace Text

theorem getLast?_eq_of_piecesOf {separator : UInt8} {bytes : Bytes} (nonempty : bytes ≠ [])
    (last : (piecesOf separator bytes).getLast? = some []) :
    bytes.getLast? = some separator := by
  induction bytes with
  | nil => exact absurd rfl nonempty
  | cons byte rest ih =>
      obtain ⟨piece, pieces, found⟩ := List.exists_cons_of_ne_nil
        (piecesOf_ne_nil rest : piecesOf separator rest ≠ [])
      cases rest with
      | nil =>
          by_cases same : byte = separator
          · simp [same]
          · simp [piecesOf, same] at last
      | cons next rest =>
          have behind : (piecesOf separator (next :: rest)).getLast? = some [] := by
            unfold piecesOf at last
            split at last
            · simpa [found] using last
            · rw [found] at last ⊢
              cases pieces with
              | nil => simp at last
              | cons other pieces => simpa using last
          simpa using ih (by simp) behind

end Text

namespace Path

/-- The last step along the path is a dot, or it is a slash. -/
def EndsInDirectory (path : Path) : Prop :=
  path.steps.getLast? = some .stay ∨ path.steps.getLast? = some .slash

theorem steps_join (base : Path) {next : Path} (relative : next.isAbsolute = false)
    (nonempty : next.bytes ≠ []) : (base.join next).steps = base.course ++ next.steps := by
  rw [steps_eq, steps_eq, endsWithSlash_join base relative nonempty, ← List.append_assoc]
  exact congrArg (· ++ _) (filterMap_pieces_join rfl base relative)

theorem EndsInDirectory.join {path : Path} (ends : path.EndsInDirectory) (base : Path) :
    (base.join path).EndsInDirectory := by
  cases absolute : path.isAbsolute with
  | true => simpa [Path.join, absolute] using ends
  | false =>
      have nonempty : path.bytes ≠ [] := by
        intro empty
        obtain ⟨bytes⟩ := path
        cases empty
        simp [EndsInDirectory, steps, pieces, Text.piecesOf, Step.ofPiece?, endsWithSlash] at ends
      have same : (base.join path).steps.getLast? = path.steps.getLast? := by
        rw [steps_join base absolute nonempty, List.getLast?_append]
        rcases ends with last | last <;> simp [last]
      unfold EndsInDirectory
      rwa [same]

end Path

namespace FileSystem

variable {files : FileSystem} {location : Location} {path : Path} {entry : Entry}

/-- A walk whose last step is a dot or a slash ends in a directory, or with that slash. -/
theorem Walks.isDirectoryAt_of_last {links left : Nat} {place : Location} {steps : List Step}
    {slashed : Bool} (walks : Walks files links place steps left (.entry location slashed))
    (last : steps.getLast? = some .stay ∨ steps.getLast? = some .slash) :
    slashed ∨ files.isDirectoryAt location := by
  generalize reached : Spot.entry location slashed = spot at walks
  have behind {step : Step} {rest : List Step} (more : rest ≠ []) :
      (step :: rest).getLast? = rest.getLast? := by
    obtain ⟨next, rest, rfl⟩ := List.exists_cons_of_ne_nil more
    exact List.getLast?_cons_cons
  induction walks with
  | arrive => simp at last
  | arriveSlashed => cases reached; exact .inl rfl
  | slash more walks ih =>
      rw [behind more] at last
      exact ih last reached
  | @stay _ _ _ rest _ within walks ih =>
      by_cases none : rest = []
      · subst none
        cases walks
        cases reached
        exact .inr within
      · rw [behind none] at last
        exact ih last reached
  | @up _ _ _ rest _ within walks ih =>
      by_cases none : rest = []
      · simp [none] at last
      · rw [behind none] at last
        exact ih last reached
  | vacant => cases reached
  | @enter _ _ _ _ rest _ _ within short found direct walks ih =>
      by_cases none : rest = []
      · simp [none] at last
      · rw [behind none] at last
        exact ih last reached
  | @follow _ _ _ _ rest _ _ target within short found walks ih =>
      by_cases none : rest = []
      · simp [none] at last
      · rw [behind none] at last
        refine ih ?_ reached
        rw [List.getLast?_append]
        rcases last with last | last <;> simp [last]

theorem isDirectory_of_find (ends : path.EndsInDirectory)
    (found : files.find path = .ok (location, entry)) : entry.isDirectory := by
  obtain ⟨_, present, left, slashed, walks, whenSlashed⟩ := find_eq_ok_iff.1 found
  rcases walks.isDirectoryAt_of_last ends with slashed | isDirectory
  · exact whenSlashed slashed
  · simpa [isDirectoryAt, present] using isDirectory

theorem isProgram_eq_false (ends : path.EndsInDirectory) : files.isProgram path = false := by
  unfold isProgram
  split
  · next location inode permissions content found => cases isDirectory_of_find ends found
  · rfl

theorem exists?_eq_isOk_canonical : files.exists? path = (files.canonical path).isOk := by
  unfold exists? canonical
  cases files.find path <;> rfl

end FileSystem

namespace Execution

variable {files : FileSystem} {home : Option Path} {name : Path}

/-- Behind its first slash the name has nothing but slashes and lone dots, and it does not begin
with a lone dot. -/
def LooksPlain (name : Path) : Prop :=
  name.pieces.head? ≠ some [dot] ∧ ∀ piece ∈ name.pieces.tail, piece = [] ∨ piece = [dot]

instance (name : Path) : Decidable (LooksPlain name) := by
  unfold LooksPlain
  infer_instance

/-- The pieces of a name with a slash are what stands before the first slash, and the pieces of what
stands behind it. -/
theorem exists_pieces_of_slash (slashed : slash ∈ name.bytes) :
    ∃ front back, name.bytes = front ++ slash :: back ∧ slash ∉ front ∧
      name.pieces = front :: Text.piecesOf slash back := by
  obtain ⟨front, back, spelled, first⟩ := List.eq_append_cons_of_mem slashed
  refine ⟨front, back, spelled, first, ?_⟩
  rw [Path.pieces, spelled, Text.piecesOf_append_separator, Text.piecesOf_of_notMem first]
  rfl

theorem filterMap_componentOf?_eq_nil_iff {pieces : List Bytes} :
    pieces.filterMap Path.componentOf? = [] ↔ ∀ piece ∈ pieces, piece = [] ∨ piece = [dot] := by
  rw [List.filterMap_eq_nil_iff]
  refine forall₂_congr fun piece _ => ?_
  unfold Path.componentOf?
  split
  · next plain => simp [plain]
  · next other => split <;> simp [other]

/-- Of the names with slashes, these are the ones that do not count as paths. -/
theorem isLiteral_eq_false_iff (slashed : slash ∈ name.bytes) :
    isLiteral name = false ↔ LooksPlain name := by
  obtain ⟨front, back, spelled, first, pieces⟩ := exists_pieces_of_slash slashed
  have begins : [dot, slash].isPrefixOf name.bytes ↔ front = [dot] := by
    rw [spelled, List.isPrefixOf_iff_prefix]
    constructor
    · rintro ⟨rest, same⟩
      rcases front with _ | ⟨byte, _ | ⟨other, front⟩⟩
      · cases same
      · cases same
        rfl
      · cases same
        simp at first
    · rintro rfl
      exact ⟨back, rfl⟩
  have absolute : name.isAbsolute ↔ front = [] := by
    unfold Path.isAbsolute
    rw [spelled, decide_eq_true_iff]
    cases front with
    | nil => simp
    | cons byte front => simpa using fun same => first (by simp [same])
  have behind := @filterMap_componentOf?_eq_nil_iff (Text.piecesOf slash back)
  have counted : front ≠ [dot] →
      name.components.length = 1 + ((Text.piecesOf slash back).filterMap
        Path.componentOf?).length := by
    intro notDot
    by_cases empty : front = []
    · simp [Path.components, Path.startOf, absolute.2 empty, pieces, empty, Path.componentOf?]
      omega
    · have relative : name.isAbsolute = false := by simpa [empty] using absolute
      have counts : (Path.componentOf? front).isSome := by
        unfold Path.componentOf?
        rw [if_neg (by simp [empty, notDot])]
        split <;> rfl
      obtain ⟨component, means⟩ := Option.isSome_iff_exists.1 counts
      simp [Path.components, Path.startOf, relative, pieces, notDot, means]
      omega
  unfold isLiteral LooksPlain
  rw [pieces, List.tail_cons, List.head?_cons, ← behind, Bool.or_eq_false_iff,
    Bool.eq_false_iff, Bool.eq_false_iff, Ne, Ne, begins, decide_eq_true_iff]
  constructor
  · rintro ⟨few, notDot⟩
    rw [counted notDot] at few
    exact ⟨by simpa using notDot, List.length_eq_zero_iff.1 (by omega)⟩
  · rintro ⟨notDot, none⟩
    have notDot : front ≠ [dot] := by simpa using notDot
    rw [counted notDot, none]
    exact ⟨by simp, notDot⟩

theorem endsInDirectory_of_looksPlain (slashed : slash ∈ name.bytes) (plain : LooksPlain name) :
    name.EndsInDirectory := by
  obtain ⟨front, back, spelled, _, pieces⟩ := exists_pieces_of_slash slashed
  obtain ⟨_, plain⟩ := plain
  rw [pieces, List.tail_cons] at plain
  unfold Path.EndsInDirectory
  rw [Path.steps_eq]
  cases open_ : name.endsWithSlash with
  | true => exact .inr (by simp)
  | false =>
      left
      have lastByte : name.bytes.getLast? ≠ some slash := by simpa [Path.endsWithSlash] using open_
      obtain ⟨before, last, split⟩ : ∃ before last, Text.piecesOf slash back = before ++ [last] :=
        ⟨_, _, (List.dropLast_concat_getLast (Text.piecesOf_ne_nil back)).symm⟩
      have nonempty : back ≠ [] := by
        rintro rfl
        simp [spelled] at lastByte
      have isDot : last = [dot] := by
        refine (plain last (by simp [split])).resolve_left ?_
        rintro rfl
        have ends : back.getLast? = some slash :=
          Text.getLast?_eq_of_piecesOf nonempty (by simp [split])
        exact lastByte (by simp [spelled, List.getLast?_append, List.getLast?_cons, ends])
      simp [Path.course, pieces, split, isDot, Step.ofPiece?, dot]

/-- The name of a program with a slash in it is found as a path or not at all. -/
theorem findProgram?_of_slash (slashed : slash ∈ name.bytes) (search : Option Bytes) :
    findProgram? files home name search =
      if LooksPlain name then none else (files.canonical name).toOption := by
  have nonempty : name.isEmpty = false := List.isEmpty_eq_false_iff.2 (List.ne_nil_of_mem slashed)
  unfold findProgram?
  rw [nonempty, if_neg (by simp)]
  by_cases plain : LooksPlain name
  · rw [(isLiteral_eq_false_iff slashed).2 plain, if_neg (by simp), if_pos plain]
    have ends := endsInDirectory_of_looksPlain slashed plain
    cases search with
    | none => rfl
    | some search =>
        have nowhere : ((searchDirectories home search).map fun directory =>
            directory.join name).find? files.isProgram = none := by
          refine List.find?_eq_none.2 fun candidate member => ?_
          obtain ⟨directory, _, rfl⟩ := List.mem_map.1 member
          simp [FileSystem.isProgram_eq_false (ends.join directory)]
        simp [findInList?, nowhere]
  · have literal : isLiteral name := by
      rw [← Bool.not_eq_false, isLiteral_eq_false_iff slashed]
      exact plain
    rw [literal, if_pos rfl, if_neg plain]
    rfl

/-- The directories of a list do not matter to a name with a slash.  What is found is what the name
leads to as a path, unless it leads somewhere and has nothing behind its first slash. -/
theorem found_as_path_iff (files : FileSystem) (home : Option Path)
    (slashed : slash ∈ name.bytes) :
    (∀ search other, findProgram? files home name search = findProgram? files home name other) ∧
      ((∀ search, findProgram? files home name search = (files.canonical name).toOption) ↔
        ¬ (LooksPlain name ∧ files.exists? name)) := by
  refine ⟨fun search other => ?_, ?_⟩
  · rw [findProgram?_of_slash slashed, findProgram?_of_slash slashed]
  · rw [FileSystem.exists?_eq_isOk_canonical]
    simp only [findProgram?_of_slash slashed, forall_const]
    by_cases plain : LooksPlain name
    · cases files.canonical name with
      | error error => simp [Except.toOption, Except.isOk, Except.toBool]
      | ok path => simp [plain, Except.toOption, Except.isOk, Except.toBool]
    · simp [plain]

def toolFiles : FileSystem :=
  FileSystem.empty.add [] (Text.encode "tool") (.directory directoryPermissions)

/-- A name that begins with a dot is found as a path, whatever the list of directories is. -/
theorem tool_found_behind_dot :
    slash ∈ (Path.ofText "./tool/").bytes ∧ ∀ search,
      findProgram? toolFiles none (.ofText "./tool/") search = some (.ofText "/tool") := by
  have found : toolFiles.canonical (.ofText "./tool/") = .ok (.ofText "/tool") := by cbv
  have literal : ¬ LooksPlain (.ofText "./tool/") := by decide
  have asPath := (found_as_path_iff toolFiles none
    (by decide : slash ∈ (Path.ofText "./tool/").bytes)).2.2 fun both => literal both.1
  refine ⟨by decide, fun search => ?_⟩
  rw [asPath search, found]
  rfl

/-- The directory `tool` is there, and it is not found as `tool/`. -/
theorem not_found_as_path :
    ¬ ∀ (files : FileSystem) (home : Option Path) (name : Path) (search : Option Bytes),
      slash ∈ name.bytes →
        findProgram? files home name search = (files.canonical name).toOption := by
  intro asPath
  have found : toolFiles.canonical (.ofText "tool/") = .ok (.ofText "/tool") := by cbv
  have slashed : slash ∈ (Path.ofText "tool/").bytes := by decide
  have missed := @findProgram?_of_slash toolFiles none _ slashed none
  rw [if_pos (by decide), asPath toolFiles none _ none slashed, found] at missed
  cases missed

end Execution

end HostHome
