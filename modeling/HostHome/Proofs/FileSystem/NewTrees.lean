import HostHome.Proofs.FileSystem.Trees

/-!
# Where new trees lead

If the creation of a tree lets its path lead to a directory, and the path led
nowhere before, then this directory is new, and nothing is in it.  It is enough that
all but the last two names of the path were there: only these two are created.
-/

namespace HostHome.FileSystem

open HostHome.Text (Bytes)

variable {files middle later : FileSystem} {path base upper : Path}
  {location directory : Location} {name outer last : Bytes}

theorem leadsInto_of_course (course : upper.course = path.course)
    (absolute : upper.isAbsolute = path.isAbsolute) (leads : files.LeadsInto upper directory) :
    files.LeadsInto path directory := by
  unfold LeadsInto at leads ⊢
  rw [← course, ← startOf_of_isAbsolute files.current absolute]
  exact leads

theorem Grows.entryAt?_eq_none (grows : Grows files later)
    (absent : later.entryAt? location = none) : files.entryAt? location = none := by
  cases found : files.entryAt? location with
  | none => rfl
  | some entry =>
      obtain ⟨now, present, _⟩ := grows.kept found
      rw [absent] at present
      cases present

/-- The only new entry is the directory that was created. -/
theorem placedAt_of_new (made : files.makeDirectory path = .ok later) {entry : Entry}
    (found : later.entryAt? location = some entry) (new : files.entryAt? location = none) :
    ∃ directory name, location = name :: directory ∧ files.PlacedAt path directory name ∧
      later.LeadsInto path location := by
  obtain ⟨directory, name, placed, vacant, rfl⟩ := placedAt_of_makeDirectory made
  rw [entryAt?_add placed.isDirectoryAt vacant] at found
  split at found
  · next same =>
      subst same
      obtain ⟨placedLater, present⟩ := placed.add vacant (.directory directoryPermissions)
      exact ⟨directory, name, rfl, placed, placedLater.leadsInto present⟩
  · rw [new] at found
    cases found

/-- Of a tree, the last two directories were created, or only one of them, or none. The paths by
which they were created lead the same ways as the path of the tree. -/
inductive LastTwoMade (base : Path) (outer last : Bytes) (files later : FileSystem) : Prop
  | intro {directory : Location} {upper path : Path} {middle : FileSystem}
      (leadsBase : files.LeadsInto base directory) (leadsUpper : files.LeadsInto upper directory)
      (first : middle = files ∨ files.makeDirectory (upper.join ⟨outer⟩) = .ok middle)
      (course : path.course = ((base.join ⟨outer⟩).join ⟨last⟩).course)
      (absolute : path.isAbsolute = ((base.join ⟨outer⟩).join ⟨last⟩).isAbsolute)
      (second : later = middle ∨ middle.makeDirectory path = .ok later)

namespace LastTwoMade

theorem leadsInto (made : LastTwoMade base outer last files later)
    (ordinaryOuter : OrdinaryName outer) (ordinaryLast : OrdinaryName last)
    (accepted : checkPath ((base.join ⟨outer⟩).join ⟨last⟩) = .ok ())
    (leads : later.LeadsInto ((base.join ⟨outer⟩).join ⟨last⟩) location) :
    files.LeadsInto ((base.join ⟨outer⟩).join ⟨last⟩) location ∨
      files.entryAt? location = none := by
  obtain ⟨leadsBase, leadsUpper, first, course, absolute, second⟩ := made
  rcases second with rfl | made
  · rcases first with rfl | made
    · exact .inl leads
    · exfalso
      obtain ⟨place, own, placed, vacant, rfl⟩ := placedAt_of_makeDirectory made
      obtain ⟨_, rfl, short, leadsPlace⟩ := (placedAt_joinName_iff ordinaryOuter).1 placed
      obtain rfl := leadsPlace.unique leadsUpper
      have grows := grows_add files place own (.directory directoryPermissions)
      obtain ⟨_, present⟩ := placed.add vacant (.directory directoryPermissions)
      have acceptedOuter := checkPath_base ordinaryLast
        (Path.bytes_joinName_ne_nil ordinaryOuter base) accepted
      have placedOuter := (placedAt_joinName_iff ordinaryOuter).2
        ⟨acceptedOuter, rfl, short, grows.leadsInto leadsBase⟩
      obtain ⟨within, entry, placedLast, found⟩ := leads.exists_placedAt accepted
        (splitName?_joinName ordinaryLast (base.join ⟨own⟩))
      obtain ⟨_, _, _, leadsWithin⟩ := (placedAt_joinName_iff ordinaryLast).1 placedLast
      obtain rfl := leadsWithin.unique (placedOuter.leadsInto present)
      rw [entryAt?_add placed.isDirectoryAt vacant, if_neg (by simp),
        entryAt?_eq_none_of_directory vacant] at found
      cases found
  · right
    obtain ⟨place, leadsPath, vacant⟩ := exists_leadsInto_of_makeDirectory made
    obtain rfl := leads.unique (leadsInto_of_course course absolute leadsPath)
    rcases first with rfl | madeFirst
    · exact vacant
    · exact (grows_of_makeDirectory madeFirst).entryAt?_eq_none vacant

/-- A new entry is the outer directory, in a directory that was there, or it is the last one, to
which the path of the tree leads. -/
theorem cases_of_new (made : LastTwoMade base outer last files later)
    (ordinaryOuter : OrdinaryName outer) (ordinaryLast : OrdinaryName last) {entry : Entry}
    (found : later.entryAt? location = some entry) (new : files.entryAt? location = none) :
    (∃ place, location = outer :: place ∧ files.isDirectoryAt place) ∨
      ∃ place, location = last :: place ∧
        later.LeadsInto ((base.join ⟨outer⟩).join ⟨last⟩) location := by
  obtain @⟨_, upper, path, middle, _, _, first, course, absolute, second⟩ := made
  have madeOuter {middle : FileSystem} (found : middle.entryAt? location = some entry)
      (made : files.makeDirectory (upper.join ⟨outer⟩) = .ok middle) :
      ∃ place, location = outer :: place ∧ files.isDirectoryAt place := by
    obtain ⟨place, name, rfl, placed, _⟩ := placedAt_of_new made found new
    obtain ⟨_, rfl, _, leads⟩ := (placedAt_joinName_iff ordinaryOuter).1 placed
    exact ⟨place, rfl, leads.isDirectoryAt⟩
  cases present : middle.entryAt? location with
  | some old =>
      have same : old = entry := by
        rcases second with rfl | made
        · exact Option.some.inj (present.symm.trans found)
        · obtain ⟨_, _, _, _, rfl⟩ := placedAt_of_makeDirectory made
          exact Option.some.inj ((entryAt?_add_of_some present).symm.trans found)
      subst same
      rcases first with rfl | made
      · rw [new] at present
        cases present
      · exact .inl (madeOuter present made)
  | none =>
      rcases second with rfl | made
      · rw [present] at found
        cases found
      · obtain ⟨place, name, rfl, placed, leads⟩ := placedAt_of_new made found present
        obtain ⟨before, split, _⟩ := placed.last
        rw [course, splitName?_joinName ordinaryLast] at split
        cases split
        exact .inr ⟨place, rfl, leadsInto_of_course course absolute leads⟩

theorem entryAt?_within_eq_none (made : LastTwoMade base outer last files later)
    (ordinaryOuter : OrdinaryName outer) (ordinaryLast : OrdinaryName last)
    (leads : later.LeadsInto ((base.join ⟨outer⟩).join ⟨last⟩) location)
    (new : files.entryAt? location = none) : later.entryAt? (name :: location) = none := by
  cases found : later.entryAt? (name :: location) with
  | none => rfl
  | some entry =>
      rcases made.cases_of_new ordinaryOuter ordinaryLast found
        (entryAt?_eq_none_of_directory new) with ⟨place, same, within⟩ | ⟨place, _, leadsWithin⟩
      · obtain ⟨_, rfl⟩ := List.cons.inj same
        simp [isDirectoryAt, new] at within
      · exact absurd (leads.unique leadsWithin) ne_cons_self

end LastTwoMade

/-- Where nothing can be created, steps change nothing before the first that fails. -/
theorem ensureSteps_append {first : List Path}
    (unmade : ∀ path ∈ first, ∀ later, files.makeDirectory path ≠ .ok later) (rest : List Path) :
    (files.ensureSteps (first ++ rest)).1 = files ∨
      files.ensureSteps (first ++ rest) = files.ensureSteps rest := by
  induction first with
  | nil => exact .inr rfl
  | cons path first ih =>
      rw [List.cons_append, ensureSteps]
      split
      · next later done =>
          rcases ensureStep_eq_ok done with rfl | made
          · exact ih fun other member => unmade other (by simp [member])
          · exact absurd made (unmade path (by simp) later)
      · exact .inl rfl

theorem ensureSteps_pair (upper path : Path) (files : FileSystem) :
    ∃ middle, (middle = files ∨ files.makeDirectory upper = .ok middle) ∧
      ((files.ensureSteps [upper, path]).1 = middle ∨
        middle.makeDirectory path = .ok (files.ensureSteps [upper, path]).1) := by
  simp only [ensureSteps]
  cases first : files.ensureStep upper with
  | error error => exact ⟨files, .inl rfl, .inl rfl⟩
  | ok middle =>
      refine ⟨middle, ensureStep_eq_ok first, ?_⟩
      dsimp only
      cases second : middle.ensureStep path with
      | error error => exact .inl rfl
      | ok later => exact ensureStep_eq_ok second

theorem makeDirectory_ne_absent (ordinary : OrdinaryName name)
    (leads : files.LeadsInto base directory) :
    files.makeDirectory (base.join ⟨name⟩) ≠ .error .absent := by
  intro absent
  have refused : files.placeFor (base.join ⟨name⟩) true = .error .absent := by
    unfold makeDirectory at absent
    cases free : files.placeFor (base.join ⟨name⟩) true with
    | error error => simpa [free, bind, Except.bind] using absent
    | ok place => simp [free, bind, Except.bind, pure, Except.pure] at absent
  cases accepted : checkPath (base.join ⟨name⟩) with
  | error error =>
      have nonempty := Path.bytes_joinName_ne_nil ordinary base
      simp only [placeFor, accepted, bind, Except.bind, Except.error.injEq] at refused
      subst refused
      simp only [checkPath, Path.isEmpty, List.isEmpty_iff, nonempty, if_false] at accepted
      split at accepted
      · cases accepted
      · split at accepted <;> cases accepted
  | ok _ =>
      by_cases short : name.length ≤ nameLimit
      · have placed := (placedAt_joinName_iff ordinary).2 ⟨accepted, rfl, short, leads⟩
        rw [placed.placeFor_eq] at refused
        split at refused
        · cases refused
        · simp at refused
      · have split := splitName?_joinName ordinary base
        unfold LeadsInto at leads
        rw [← Path.startOf_joinName ordinary] at leads
        simp [placeFor, accepted, split, leads, bind, Except.bind, Nat.lt_of_not_le short]
          at refused

/-- Upwards, nothing is created but the last two directories if the others are there. -/
theorem createUpward_pair (upper path : Path) (rest : List Path) (files : FileSystem)
    (present : files.makeDirectory upper ≠ .error .absent) :
    ∃ middle, (middle = files ∨ files.makeDirectory upper = .ok middle) ∧
      ((files.createUpward (path :: upper :: rest)).1 = middle ∨
        middle.makeDirectory path = .ok (files.createUpward (path :: upper :: rest)).1) := by
  rw [createUpward]
  cases direct : files.makeDirectory path with
  | ok later => exact ⟨files, .inl rfl, .inr direct⟩
  | error error =>
      dsimp only
      split
      · exact ⟨files, .inl rfl, .inl rfl⟩
      · rw [createUpward]
        cases made : files.makeDirectory upper with
        | ok middle =>
            refine ⟨middle, .inr rfl, ?_⟩
            dsimp only
            cases again : middle.makeDirectory path with
            | ok later => exact .inr rfl
            | error error => exact .inl rfl
        | error refused =>
            have known : refused ≠ .absent := fun same => present (same ▸ made)
            refine ⟨files, .inl rfl, ?_⟩
            dsimp only
            rw [if_pos known, acceptDirectory]
            split
            · next failed =>
                split at failed
                · cases failed
                · cases failed; exact .inl rfl
            · next created =>
                split at created
                · cases created
                  cases again : files.makeDirectory path with
                  | ok later => exact .inr rfl
                  | error error => exact .inl rfl
                · cases created

/-- The names of a path that leads to a directory are taken one by one. -/
theorem makeDirectory_ne_ok_of_mem_treeSteps (leads : files.LeadsInto path directory) :
    ∀ upper ∈ treeSteps path, ∀ later, files.makeDirectory upper ≠ .ok later := by
  intro upper member later made
  obtain ⟨absolute, rest, course⟩ := course_of_mem_treeSteps member
  obtain ⟨_, leadsUpper⟩ := leads.above absolute course.symm
  obtain ⟨_, _, placed, _⟩ := placedAt_of_makeDirectory made
  have taken := leadsUpper.taken placed.accepted
  rw [Taken, made] at taken
  cases taken

theorem lastTwoMade_ensureSteps (ordinaryOuter : OrdinaryName outer)
    (ordinaryLast : OrdinaryName last) (leadsBase : files.LeadsInto base directory) :
    LastTwoMade base outer last files
      (files.ensureSteps (treeSteps ((base.join ⟨outer⟩).join ⟨last⟩))).1 := by
  have leadsPlain := leadsInto_of_course (Path.course_plain base).symm
    (Path.isAbsolute_plain base).symm leadsBase
  have plain : (base.join ⟨outer⟩).plain = base.plain.join ⟨outer⟩ :=
    Path.plain_joinName ordinaryOuter base
  rw [treeSteps_joinName ordinaryLast, treeSteps_joinName ordinaryOuter, plain, List.append_assoc,
    List.singleton_append]
  rcases ensureSteps_append (makeDirectory_ne_ok_of_mem_treeSteps leadsBase)
    [base.plain.join ⟨outer⟩, (base.plain.join ⟨outer⟩).join ⟨last⟩] with unchanged | created
  · exact .intro leadsBase leadsBase (.inl rfl) rfl rfl (.inl unchanged)
  · rw [created]
    obtain ⟨middle, first, second⟩ := ensureSteps_pair (base.plain.join ⟨outer⟩)
      ((base.plain.join ⟨outer⟩).join ⟨last⟩) files
    refine .intro leadsBase leadsPlain first ?_ ?_ second
    · rw [Path.course_joinName ordinaryLast, Path.course_joinName ordinaryOuter,
        Path.course_plain, Path.course_joinName ordinaryLast, Path.course_joinName ordinaryOuter]
    · simp [Path.isAbsolute_joinName ordinaryLast, Path.isAbsolute_joinName ordinaryOuter,
        Path.isAbsolute_plain]

theorem lastTwoMade_createAll (ordinaryOuter : OrdinaryName outer)
    (ordinaryLast : OrdinaryName last) (nonempty : base.bytes ≠ [])
    (leadsBase : files.LeadsInto base directory) :
    LastTwoMade base outer last files
      (files.createAll ((base.join ⟨outer⟩).join ⟨last⟩)).1 := by
  have some : ((base.join ⟨outer⟩).join ⟨last⟩).isEmpty = false := by
    simpa [Path.isEmpty] using Path.bytes_joinName_ne_nil ordinaryLast (base.join ⟨outer⟩)
  have leadsUpper := leadsBase.ofComponents (Path.components_ne_nil nonempty)
  obtain ⟨rest, upward⟩ := pathsUpward_joinNames ordinaryOuter ordinaryLast base
  rw [createAll, if_neg (by simp [some]), upward]
  obtain ⟨middle, first, second⟩ := createUpward_pair _ _ rest files
    (makeDirectory_ne_absent ordinaryOuter leadsUpper)
  exact .intro leadsBase leadsUpper first rfl rfl second

/-- The creation of a tree creates at most its last two directories, as far as the others were
there. -/
theorem lastTwoMade_ensureTree (ordinaryOuter : OrdinaryName outer)
    (ordinaryLast : OrdinaryName last) (isDirectory : files.isDirectory base) :
    LastTwoMade base outer last files
      (files.ensureTree ((base.join ⟨outer⟩).join ⟨last⟩)).1 := by
  obtain ⟨acceptedBase, directory, leadsBase⟩ := isDirectory_iff.1 isDirectory
  cases spelled : Text.decode? ((base.join ⟨outer⟩).join ⟨last⟩).bytes with
  | some text =>
      rw [ensureTree_of_spelled spelled]
      exact lastTwoMade_ensureSteps ordinaryOuter ordinaryLast leadsBase
  | none =>
      have nonempty := (checkPath_ok_iff.1 acceptedBase).2.1
      rw [ensureTree_of_unspelled spelled]
      exact lastTwoMade_createAll ordinaryOuter ordinaryLast nonempty leadsBase

end HostHome.FileSystem
