import HostHome.Proofs.FileSystem.NewTrees
import HostHome.Proofs.FileSystem.TreeCreation
import HostHome.Proofs.Text.Decoding

/-!
# What a created tree delivers

A name that is taken counts as created.  So behind the creation of a tree its path
leads to a directory, or something else has the last name of the path, and then it
had it before.  Repeated slashes count for the length of a path only, and a path that
is too long because of them is created under its plain form.
-/

namespace HostHome

open HostHome.Text (Bytes)

namespace Path

theorem mem_bytes {path : Path} {byte : UInt8} (member : byte ∈ path.bytes) :
    byte = slash ∨ ∃ piece ∈ path.pieces.filter (· ≠ []), byte ∈ piece := by
  obtain ⟨first, rest, spelled⟩ : ∃ first rest, path.pieces = first :: rest :=
    List.exists_cons_of_ne_nil (Text.piecesOf_ne_nil path.bytes)
  have within {piece : Bytes} (inPieces : piece ∈ path.pieces) (inPiece : byte ∈ piece) :
      byte = slash ∨ ∃ piece ∈ path.pieces.filter (· ≠ []), byte ∈ piece := by
    have nonempty : piece ≠ [] := List.ne_nil_of_mem inPiece
    exact .inr ⟨piece, List.mem_filter.2 ⟨inPieces, by simpa using nonempty⟩, inPiece⟩
  rw [bytes_eq_pieces spelled, List.mem_append, List.mem_flatMap] at member
  rcases member with inFirst | ⟨piece, inRest, member⟩
  · exact within (by simp [spelled]) inFirst
  · rcases List.mem_cons.1 member with rfl | inPiece
    · exact .inl rfl
    · exact within (by simp [spelled, inRest]) inPiece

/-- The plain form of a path leaves out nothing but slashes. -/
theorem mem_bytes_plain {path : Path} {byte : UInt8} (member : byte ∈ path.bytes) :
    byte = slash ∨ byte ∈ path.plain.bytes := by
  refine (mem_bytes member).imp_right ?_
  rintro ⟨piece, inPieces, inPiece⟩
  obtain ⟨first, rest, spelled⟩ := List.exists_cons_of_ne_nil (List.ne_nil_of_mem inPieces)
  have proper : ∀ piece ∈ path.pieces.filter (· ≠ []), piece ≠ [] ∧ slash ∉ piece :=
    fun piece => notMem_of_mem_pieces
  rw [plain, bytes_joinPieces_origin proper spelled]
  rw [spelled] at inPieces
  rcases List.mem_cons.1 inPieces with rfl | inRest
  · simp [inPiece]
  · have behind : byte ∈ rest.flatMap (slash :: ·) :=
      List.mem_flatMap.2 ⟨piece, inRest, List.mem_cons_of_mem slash inPiece⟩
    exact List.mem_append_right _ behind

end Path

namespace FileSystem

variable {files later : FileSystem} {path upper : Path} {location : Location} {entry : Entry}

/-- The plain form of a path is the last path of its tree, unless there is no piece in it. -/
theorem plain_mem_treeSteps (some : path.pieces.filter (· ≠ []) ≠ []) :
    path.plain ∈ treeSteps path := by
  rw [treeSteps_eq, Path.plain, ← List.dropLast_concat_getLast some, growingPaths_append]
  simp [Path.joinPieces]

theorem plain_eq_root (nonempty : path.bytes ≠ []) (none : path.pieces.filter (· ≠ []) = []) :
    path.plain = ⟨[slash]⟩ := by
  have absolute : path.isAbsolute := by
    obtain ⟨byte, rest, spelled⟩ := List.exists_cons_of_ne_nil nonempty
    have onlySlash : byte = slash := by
      rcases Path.mem_bytes (show byte ∈ path.bytes by simp [spelled]) with
        isSlash | ⟨piece, within, _⟩
      · exact isSlash
      · rw [none] at within
        cases within
    simp [Path.isAbsolute, spelled, onlySlash]
  rw [Path.plain, none, Path.origin, if_pos absolute]
  rfl

theorem checkPath_plain (accepted : checkPath path = .ok ()) : checkPath path.plain = .ok () := by
  by_cases none : path.pieces.filter (· ≠ []) = []
  · rw [plain_eq_root (checkPath_ok_iff.1 accepted).2.1 none]
    decide
  · exact checkPath_of_mem_treeSteps accepted (plain_mem_treeSteps none)

theorem checkPath_iff_of_plain (nonempty : path.bytes ≠ [])
    (plain : checkPath path.plain = .ok ()) :
    checkPath path = .ok () ↔ path.bytes.length ≤ pathLimit := by
  rw [checkPath_ok_iff]
  have noZero : 0 ∉ path.bytes := by
    intro zero
    rcases Path.mem_bytes_plain zero with isSlash | within
    · exact absurd isSlash (by decide)
    · exact (checkPath_ok_iff.1 plain).1 within
  simp [noZero, nonempty]

theorem leadsInto_plain_iff : files.LeadsInto path.plain location ↔ files.LeadsInto path location :=
  ⟨leadsInto_of_course path.course_plain path.isAbsolute_plain,
    leadsInto_of_course path.course_plain.symm path.isAbsolute_plain.symm⟩

theorem Taken.plain (taken : files.Taken path) : files.Taken path.plain := by
  have accepted := checkPath_plain taken.accepted
  have start := startOf_of_isAbsolute files.current path.isAbsolute_plain
  rw [taken_iff] at taken ⊢
  rw [path.course_plain, start]
  rcases taken with ⟨_, reached⟩ | ⟨directory, name, entry, ⟨_, last, short⟩, present⟩
  · exact .inl ⟨accepted, reached⟩
  · refine .inr ⟨directory, name, entry, ⟨accepted, ?_, short⟩, present⟩
    rwa [path.course_plain, start]

theorem PlacedAt.endsWithSlash_plain {directory : Location} {name : Bytes}
    (placed : files.PlacedAt path.plain directory name) : path.plain.endsWithSlash = false := by
  obtain ⟨before, split, _⟩ := placed.last
  have course : path.plain.course ≠ [] := by
    rw [course_of_splitName? split]
    simp
  have some : path.pieces.filter (· ≠ []) ≠ [] := by
    intro none
    apply course
    rw [path.course_plain, Path.course, ← Path.filterMap_filter_ne_nil rfl, none]
    rfl
  exact (begins_of_mem_treeSteps (plain_mem_treeSteps some)).open_ course

/-- Something that is no directory, and leads to none, has the last name of the path. -/
def Obstructed (files : FileSystem) (path : Path) : Prop :=
  ∃ directory name entry, files.PlacedAt path directory name ∧
    files.entryAt? (name :: directory) = some entry ∧ entry.isDirectory = false ∧
    ∀ place, ¬ files.LeadsInto path place

theorem not_obstructed_of_isDirectory (isDirectory : files.isDirectory path) :
    ¬ files.Obstructed path := by
  obtain ⟨_, place, leads⟩ := isDirectory_iff.1 isDirectory
  rintro ⟨_, _, _, _, _, _, nowhere⟩
  exact nowhere place leads

/-- A path whose last step is a dot or two dots leads to a directory if it leads to one without
this step. -/
theorem exists_leadsInto_of_dropLast (split : splitName? path.course = none) {directory : Location}
    (reached : files.walkToDirectory (startOf files.current path) path.course.dropLast =
      .ok directory) :
    ∃ place, files.LeadsInto path place := by
  obtain ⟨isDirectory, left, slashed, walks⟩ := walkToDirectory_eq_ok_iff.1 reached
  unfold LeadsInto
  cases last : path.course.getLast? with
  | none =>
      rw [List.getLast?_eq_none_iff] at last
      rw [last] at reached ⊢
      exact ⟨directory, reached⟩
  | some step =>
      obtain ⟨front, spelled⟩ := List.getLast?_eq_some_iff.1 last
      rw [spelled, List.dropLast_concat] at walks
      rw [spelled]
      cases step with
      | name name => simp [splitName?, last] at split
      | slash => exact absurd (by simp [spelled]) path.slash_notMem_course
      | stay =>
          have stays : Walks files left directory [.stay] left (.entry directory false) :=
            .stay isDirectory (.arrive left directory)
          exact ⟨directory, walkToDirectory_eq_ok_iff.2
            ⟨isDirectory, left, false, walks.append stays (by simp)⟩⟩
      | up =>
          have goesUp : Walks files left directory [.up] left (.entry directory.tail false) :=
            .up isDirectory (.arrive left directory.tail)
          exact ⟨directory.tail, walkToDirectory_eq_ok_iff.2
            ⟨isDirectoryAt_tail isDirectory, left, false, walks.append goesUp (by simp)⟩⟩

theorem Taken.leadsInto_or_obstructed (taken : files.Taken path) :
    (∃ directory, files.LeadsInto path directory) ∨ files.Obstructed path := by
  by_cases leads : ∃ directory, files.LeadsInto path directory
  · exact .inl leads
  · right
    rcases taken_iff.1 taken with
      ⟨_, split, directory, reached⟩ | ⟨directory, name, entry, placed, present⟩
    · exact absurd (exists_leadsInto_of_dropLast split reached) leads
    · refine ⟨directory, name, entry, placed, present, ?_, not_exists.1 leads⟩
      cases entry with
      | directory permissions => exact absurd ⟨_, placed.leadsInto present⟩ leads
      | symbolicLink inode target => rfl
      | file inode permissions content => rfl

theorem exists_adds_of_ensureTree (files : FileSystem) (path : Path) :
    ∃ paths, AddsDirectories usualMask paths files (files.ensureTree path).1 := by
  cases spelled : Text.decode? path.bytes with
  | some text =>
      rw [ensureTree_eq_ensureTreeUnder spelled]
      exact ⟨_, ensureStepsUnder_adds files usualMask (treeSteps path)⟩
  | none =>
      refine ⟨pathsUpward path, ?_⟩
      rw [ensureTree_of_unspelled spelled, createAll]
      split
      · exact .refl files
      · refine createUpward_preserves ?_ (.refl files)
        intro upper member middle later before made
        rw [← makeDirectoryUnder_usualMask] at made
        exact before.trans ((adds_of_makeDirectoryUnder made).mono (by simpa using member))

/-- The path of a tree that was created is taken, unless something is in the way above it. -/
theorem taken_of_ensureTree (nonempty : path.bytes ≠ [])
    (done : files.ensureTree path = (later, .ok ()))
    (clear : Text.decode? path.bytes = none →
      ∀ upper ∈ pathsAbove path.components.reverse, ¬ later.Obstructed upper) :
    later.Taken path.plain := by
  cases spelled : Text.decode? path.bytes with
  | some text =>
      rw [ensureTree_of_spelled spelled] at done
      by_cases none : path.pieces.filter (· ≠ []) = []
      · have leads : later.LeadsInto ⟨[slash]⟩ [] := by
          refine walkToDirectory_eq_ok_iff.2 ⟨rfl, linkLimit, false, ?_⟩
          exact .arrive linkLimit []
        rw [plain_eq_root nonempty none]
        exact leads.taken (by decide)
      · exact taken_of_ensureSteps done _ (plain_mem_treeSteps none)
  | none =>
      have some : path.isEmpty = false := by simpa [Path.isEmpty] using nonempty
      rw [ensureTree, spelled] at done
      simp only [createAll, some, Bool.false_eq_true, ↓reduceIte] at done
      split at done
      · next middle error created =>
          split at done
          · next occupied =>
              cases done
              obtain ⟨upper, member, taken, other⟩ :=
                exists_taken_of_createUpward (occupied ▸ created)
              rcases List.mem_cons.1 member with rfl | above
              · exact taken.plain
              · rcases taken.leadsInto_or_obstructed with ⟨place, leads⟩ | obstructed
                · exact absurd (isDirectory_iff.2 ⟨taken.accepted, place, leads⟩) other
                · exact absurd obstructed (clear spelled upper above)
          · cases done
      · next created =>
          cases done
          obtain ⟨accepted, place, leads⟩ := isDirectory_iff.1 (isDirectory_of_createUpward created)
          exact (leads.taken accepted).plain

theorem ensureTree_slashes (files : FileSystem) (count : Nat) :
    files.ensureTree ⟨List.replicate count slash⟩ = (files, .ok ()) := by
  have pieces : (Path.mk (List.replicate count slash)).pieces.filter (· ≠ []) = [] := by
    unfold Path.pieces
    induction count with
    | zero => rfl
    | succ count ih => simpa [List.replicate_succ, Text.piecesOf] using ih
  have spelled : Text.decode? (List.replicate count slash) =
      some (String.ofList (List.replicate count '/')) := by
    have empty : Text.decodeChars? [] = some [] := by simp [Text.decodeChars?]
    have decoded (count : Nat) : Text.decodeChars? (List.replicate count slash) =
        some (List.replicate count '/') := by
      induction count with
      | zero => exact empty
      | succ count ih =>
          have joined := Text.decodeChars?_append_separator (show slash < 0x80 by decide) []
            (List.replicate count slash)
          rw [List.nil_append, empty, ih] at joined
          exact joined
    simp [Text.decode?, decoded]
  rw [ensureTree_of_spelled spelled, treeSteps_eq, pieces]
  rfl

/-- A creation that succeeds delivers a directory, if the system accepts the length of the path, and
unless the last name of the path is that of something else.  This was there before, and is as it
was.  A path that is no text may have nothing else in the way above it. -/
theorem isDirectory_iff_of_ensureTree (nonempty : path.bytes ≠ [])
    (done : files.ensureTree path = (later, .ok ()))
    (clear : Text.decode? path.bytes = none →
      ∀ upper ∈ pathsAbove path.components.reverse, ¬ later.Obstructed upper) :
    (later.isDirectory path ↔
      path.bytes.length ≤ pathLimit ∧ ¬ later.Obstructed path.plain) ∧
    (later.Obstructed path.plain → ∃ location entry,
      later.findLink path.plain = .ok (location, entry) ∧ entry.isDirectory = false ∧
        files.entryAt? location = some entry) := by
  have taken := taken_of_ensureTree nonempty done clear
  constructor
  · rw [isDirectory_iff, checkPath_iff_of_plain nonempty taken.accepted]
    refine and_congr_right fun _ => ?_
    have same : (∃ place, later.LeadsInto path place) ↔ ∃ place, later.LeadsInto path.plain place :=
      exists_congr fun _ => leadsInto_plain_iff.symm
    rw [same]
    constructor
    · rintro ⟨place, leads⟩ ⟨_, _, _, _, _, _, nowhere⟩
      exact nowhere place leads
    · exact fun free => taken.leadsInto_or_obstructed.resolve_right free
  · rintro ⟨directory, name, entry, placed, present, other, _⟩
    obtain ⟨paths, adds⟩ := exists_adds_of_ensureTree files path
    rw [done] at adds
    exact ⟨_, entry, placed.findLink_eq_ok placed.endsWithSlash_plain present, other,
      adds.entryAt?_eq_some present other⟩

/-- The file `f` of a directory `d`, and a link `l` that leads nowhere. -/
def filesWithLink : FileSystem :=
  filesWithFile.add [] (Text.encode "l") (.symbolicLink 2 (.ofText "/nowhere"))

/-- The path `/d/x/../f`, with an `x` that is no text. -/
def unspelledPath : Path := ⟨Text.encode "/d/" ++ [0xFF] ++ Text.encode "/../f"⟩

theorem file_keeps_last_name :
    ∃ later, filesWithFile.ensureTree unspelledPath = (later, .ok ()) ∧
      (∀ upper ∈ pathsAbove unspelledPath.components.reverse, ¬ later.Obstructed upper) ∧
      later.isDirectory unspelledPath = false ∧
      ∃ location entry, later.findLink unspelledPath.plain = .ok (location, entry) ∧
        entry.isDirectory = false ∧ filesWithFile.entryAt? location = some entry := by
  have created : (filesWithFile.ensureTree unspelledPath).2 = .ok () := by cbv
  have above : (pathsAbove unspelledPath.components.reverse).all
      (filesWithFile.ensureTree unspelledPath).1.isDirectory = true := by cbv
  have other : (filesWithFile.ensureTree unspelledPath).1.isDirectory unspelledPath = false := by
    cbv
  have clear := fun upper member =>
    not_obstructed_of_isDirectory (List.all_eq_true.1 above upper member)
  have nonempty : unspelledPath.bytes ≠ [] := by decide
  obtain ⟨delivers, was⟩ := isDirectory_iff_of_ensureTree nonempty (Prod.ext rfl created)
    fun _ => clear
  have obstructed : (filesWithFile.ensureTree unspelledPath).1.Obstructed unspelledPath.plain := by
    refine Classical.byContradiction fun free => ?_
    rw [delivers.2 ⟨by decide, free⟩] at other
    cases other
  exact ⟨_, Prod.ext rfl created, clear, other, was obstructed⟩

/-- Creations succeed, and no directory is there: the name is that of a file, the path is too long
because of its slashes, or a path that is no text leads through a link that leads nowhere. -/
theorem created_without_directory :
    (filesWithLink.ensureTree (.ofText "/d/f") = (filesWithLink, .ok ()) ∧
      filesWithLink.isDirectory (.ofText "/d/f") = false) ∧
    (filesWithLink.ensureTree ⟨List.replicate 4096 slash⟩ = (filesWithLink, .ok ()) ∧
      filesWithLink.isDirectory ⟨List.replicate 4096 slash⟩ = false) ∧
    (filesWithLink.ensureTree ⟨Text.encode "/l/" ++ [0xFF]⟩ = (filesWithLink, .ok ()) ∧
      filesWithLink.isDirectory ⟨Text.encode "/l/" ++ [0xFF]⟩ = false) := by
  refine ⟨⟨by cbv, by cbv⟩, ⟨ensureTree_slashes filesWithLink 4096, ?_⟩, by cbv, by cbv⟩
  rw [Bool.eq_false_iff]
  intro isDirectory
  have short := (checkPath_ok_iff.1 (isDirectory_iff.1 isDirectory).1).2.2
  rw [List.length_replicate] at short
  exact absurd short (by decide)

end FileSystem

end HostHome
