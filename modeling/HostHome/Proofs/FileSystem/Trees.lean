import HostHome.Proofs.FileSystem.TreePaths
import HostHome.Proofs.FileSystem.Writing

/-!
# Creating trees

A tree of directories that was created once is created again without a change: each
of its names is taken, and taken names stay taken.  The creation adds directories
at beginnings of the path and nothing else, whether it succeeds or not.
-/

namespace HostHome.FileSystem

open HostHome.Text (Bytes)

variable {files middle later : FileSystem} {path upper base : Path} {location directory : Location}
  {name : Bytes}

theorem walk_ne_occupied {links : Nat} {place : Location} {steps : List Step} :
    files.walk false links place steps ≠ .error .occupied := by
  fun_induction walk files false links place steps with
  | case3 _ _ _ _ ih | case4 _ _ _ _ ih | case6 _ _ _ _ ih => exact ih
  | case14 _ _ _ _ _ _ _ _ _ _ ih | case15 _ _ _ _ _ _ _ _ _ _ ih => exact ih
  | _ => simp

theorem walkToDirectory_ne_occupied {place : Location} {steps : List Step} :
    files.walkToDirectory place steps ≠ .error .occupied := by
  intro occupied
  unfold walkToDirectory at occupied
  cases walked : files.walk false linkLimit place steps with
  | error error =>
      rw [walked] at occupied
      cases occupied
      exact walk_ne_occupied walked
  | ok spot =>
      cases spot with
      | vacant => simp [walked, bind, Except.bind] at occupied
      | entry found slashed =>
          simp only [walked, bind, Except.bind] at occupied
          split at occupied <;> cases occupied

theorem checkPath_ne_occupied : checkPath path ≠ .error .occupied := by
  unfold checkPath
  repeat' split
  all_goals simp

/-- A directory cannot be created at the path because something is there. -/
def Taken (files : FileSystem) (path : Path) : Prop := files.makeDirectory path = .error .occupied

theorem taken_iff_placeFor : files.Taken path ↔ files.placeFor path true = .error .occupied := by
  unfold Taken makeDirectory
  cases files.placeFor path true <;> simp [bind, Except.bind, pure, Except.pure]

/-- A path is taken if an entry is at its place, or if it leads to a directory without a name at
its end. -/
theorem taken_iff :
    files.Taken path ↔
      (checkPath path = .ok () ∧ splitName? path.course = none ∧
        ∃ directory, files.walkToDirectory (startOf files.current path) path.course.dropLast =
          .ok directory) ∨
      ∃ directory name entry, files.PlacedAt path directory name ∧
        files.entryAt? (name :: directory) = some entry := by
  rw [taken_iff_placeFor]
  constructor
  · intro occupied
    cases accepted : checkPath path with
    | error error =>
        simp only [placeFor, accepted, bind, Except.bind, Except.error.injEq] at occupied
        exact absurd (occupied ▸ accepted) checkPath_ne_occupied
    | ok _ =>
        simp only [placeFor, accepted, bind, Except.bind, Path.withoutSlash_steps] at occupied
        split at occupied
        · next split =>
            cases reached : files.walkToDirectory (startOf files.current path)
                path.course.dropLast with
            | error error =>
                simp only [reached, Except.error.injEq] at occupied
                exact absurd (occupied ▸ reached) walkToDirectory_ne_occupied
            | ok directory => exact .inl ⟨rfl, split, directory, rfl⟩
        · next before name split =>
            cases reached : files.walkToDirectory (startOf files.current path) before with
            | error error =>
                simp only [reached, Except.error.injEq] at occupied
                exact absurd (occupied ▸ reached) walkToDirectory_ne_occupied
            | ok directory =>
                simp only [reached] at occupied
                split at occupied
                · cases occupied
                · next short =>
                    split at occupied
                    · next present =>
                        obtain ⟨entry, present⟩ := Option.isSome_iff_exists.1 present
                        exact .inr ⟨directory, name, entry,
                          ⟨accepted, ⟨before, split, reached⟩, Nat.not_lt.1 short⟩, present⟩
                    · simp at occupied
  · rintro (⟨accepted, split, directory, reached⟩ | ⟨directory, name, entry, placed, present⟩)
    · simp [placeFor, accepted, split, reached, bind, Except.bind]
    · rw [placed.placeFor_eq, present]
      rfl

theorem Grows.taken (grows : Grows files later) (taken : files.Taken path) : later.Taken path := by
  rw [taken_iff] at taken ⊢
  rcases taken with
    ⟨accepted, split, directory, reached⟩ | ⟨directory, name, entry, placed, present⟩
  · left
    rw [grows.startOf_current]
    exact ⟨accepted, split, directory, grows.walkToDirectory reached⟩
  · right
    obtain ⟨now, presentNow, _⟩ := grows.kept present
    exact ⟨directory, name, now, grows.placedAt placed, presentNow⟩

theorem Taken.accepted (taken : files.Taken path) : checkPath path = .ok () := by
  rcases taken_iff.1 taken with ⟨accepted, _⟩ | ⟨_, _, _, placed, _⟩
  · exact accepted
  · exact placed.accepted

theorem grows_of_makeDirectory (made : files.makeDirectory path = .ok later) :
    Grows files later := by
  obtain ⟨directory, name, _, _, rfl⟩ := placedAt_of_makeDirectory made
  exact grows_add files directory name _

theorem exists_new_of_makeDirectory (made : files.makeDirectory path = .ok later) :
    ∃ directory name, files.entryAt? (name :: directory) = none ∧
      later.PlacedAt path directory name ∧
      later.entryAt? (name :: directory) = some (.directory directoryPermissions) := by
  obtain ⟨directory, name, placed, vacant, rfl⟩ := placedAt_of_makeDirectory made
  exact ⟨directory, name, vacant, placed.add vacant _⟩

theorem taken_of_makeDirectory (made : files.makeDirectory path = .ok later) :
    later.Taken path := by
  obtain ⟨directory, name, _, placed, present⟩ := exists_new_of_makeDirectory made
  exact taken_iff.2 (.inr ⟨directory, name, _, placed, present⟩)

theorem exists_leadsInto_of_makeDirectory (made : files.makeDirectory path = .ok later) :
    ∃ location, later.LeadsInto path location ∧ files.entryAt? location = none := by
  obtain ⟨directory, name, vacant, placed, present⟩ := exists_new_of_makeDirectory made
  exact ⟨name :: directory, placed.leadsInto present, vacant⟩

theorem LeadsInto.taken (leads : files.LeadsInto path directory)
    (accepted : checkPath path = .ok ()) : files.Taken path := by
  rw [taken_iff]
  cases split : splitName? path.course with
  | none =>
      left
      refine ⟨accepted, rfl, ?_⟩
      cases last : path.course.getLast? with
      | none =>
          rw [List.getLast?_eq_none_iff] at last
          refine ⟨directory, ?_⟩
          unfold LeadsInto at leads
          simpa [last] using leads
      | some step =>
          obtain ⟨front, steps⟩ := List.getLast?_eq_some_iff.1 last
          have inner : Step.slash ∉ [step] := by
            intro member
            apply Path.slash_notMem_course path
            simp [steps, List.mem_singleton.1 member]
          rw [steps, List.dropLast_concat]
          exact exists_walkToDirectory_of_append leads steps inner
  | some found =>
      right
      obtain ⟨directory, entry, placed⟩ := leads.exists_placedAt accepted split
      exact ⟨directory, found.2, entry, placed⟩

theorem ensureStep_eq_ok (done : files.ensureStep path = .ok later) :
    later = files ∨ files.makeDirectory path = .ok later := by
  unfold ensureStep at done
  split at done
  · split at done
    · cases done; exact .inl rfl
    · cases done
  · next made => cases done; exact .inr made

theorem taken_of_ensureStep (done : files.ensureStep path = .ok later) : later.Taken path := by
  unfold ensureStep at done
  split at done
  · next error refused =>
      split at done
      · next occupied =>
          cases done
          rw [occupied] at refused
          exact refused
      · cases done
  · next made => cases done; exact taken_of_makeDirectory made

theorem ensureSteps_preserves {holds : FileSystem → Prop} {paths : List Path}
    (each : ∀ path ∈ paths, ∀ {files later : FileSystem}, holds files →
      files.makeDirectory path = .ok later → holds later)
    (start : holds files) : holds (files.ensureSteps paths).1 := by
  induction paths generalizing files with
  | nil => exact start
  | cons path rest ih =>
      have others : ∀ other ∈ rest, ∀ {files later : FileSystem}, holds files →
          files.makeDirectory other = .ok later → holds later :=
        fun other member => each other (by simp [member])
      rw [ensureSteps]
      split
      · next middle done =>
          rcases ensureStep_eq_ok done with rfl | made
          · exact ih others start
          · exact ih others (each path (by simp) start made)
      · exact start

theorem createUpward_preserves {holds : FileSystem → Prop} {paths : List Path}
    (each : ∀ path ∈ paths, ∀ {files later : FileSystem}, holds files →
      files.makeDirectory path = .ok later → holds later)
    (start : holds files) : holds (files.createUpward paths).1 := by
  induction paths generalizing files with
  | nil => exact start
  | cons path above ih =>
      have others : ∀ other ∈ above, ∀ {files later : FileSystem}, holds files →
          files.makeDirectory other = .ok later → holds later :=
        fun other member => each other (by simp [member])
      rw [createUpward]
      cases made : files.makeDirectory path with
      | ok later => exact each path (by simp) start made
      | error error =>
          dsimp only
          split
          · exact start
          · have first := ih others start
            split
            · next created => rw [created] at first; exact first
            · next middle created =>
                rw [created] at first
                cases again : middle.makeDirectory path with
                | ok later => exact each path (by simp) first again
                | error error => exact first

theorem grows_ensureSteps (files : FileSystem) (paths : List Path) :
    Grows files (files.ensureSteps paths).1 :=
  ensureSteps_preserves (fun _ _ _ _ before made => before.trans (grows_of_makeDirectory made))
    (.refl files)

theorem taken_of_ensureSteps {paths : List Path}
    (done : files.ensureSteps paths = (later, .ok ())) : ∀ path ∈ paths, later.Taken path := by
  induction paths generalizing files with
  | nil => simp
  | cons path rest ih =>
      rw [ensureSteps] at done
      split at done
      · next middle first =>
          intro other member
          rcases List.mem_cons.1 member with rfl | member
          · have grows := grows_ensureSteps middle rest
            rw [done] at grows
            exact grows.taken (taken_of_ensureStep first)
          · exact ih done other member
      · cases done

theorem ensureSteps_of_taken {paths : List Path} (taken : ∀ path ∈ paths, files.Taken path) :
    files.ensureSteps paths = (files, .ok ()) := by
  induction paths with
  | nil => rfl
  | cons path rest ih =>
      have first : files.makeDirectory path = .error .occupied := taken path (by simp)
      have others := ih fun other member => taken other (by simp [member])
      simp [ensureSteps, ensureStep, first, others]

/-- Directories may be created at the beginnings of a path. -/
def Allowance.tree (path : Path) : Allowance where
  creates upper entry :=
    upper.components <+: path.components ∧ entry = .directory directoryPermissions
  writes _ := False

theorem permits_makeDirectory (begins : upper.Begins path)
    (made : files.makeDirectory upper = .ok later) :
    (Allowance.tree path).Permits files later := by
  obtain ⟨directory, name, placed, vacant, rfl⟩ := placedAt_of_makeDirectory made
  have open_ : upper.endsWithSlash = false := by
    obtain ⟨before, split, _⟩ := placed.last
    apply begins.open_
    rw [course_of_splitName? split]
    simp
  exact Allowance.permits_add placed vacant open_ ⟨begins.components, rfl⟩

theorem permits_ensureSteps {paths : List Path} (begin : ∀ upper ∈ paths, upper.Begins path) :
    (Allowance.tree path).Permits files (files.ensureSteps paths).1 := by
  refine ensureSteps_preserves ?_ (.refl files)
  intro upper member middle later before made
  exact before.trans (permits_makeDirectory (begin upper member) made)

theorem permits_createUpward {paths : List Path} (begin : ∀ upper ∈ paths, upper.Begins path) :
    (Allowance.tree path).Permits files (files.createUpward paths).1 := by
  refine createUpward_preserves ?_ (.refl files)
  intro upper member middle later before made
  exact before.trans (permits_makeDirectory (begin upper member) made)

theorem begins_of_mem_pathsUpward (named : path.endsWithSlash = false) :
    ∀ upper ∈ pathsUpward path, upper.Begins path := by
  intro upper member
  rcases List.mem_cons.1 member with rfl | member
  · exact ⟨List.prefix_refl _, fun _ => named⟩
  · exact begins_of_mem_pathsAbove member

theorem ensureTree_of_spelled {text : String} (spelled : Text.decode? path.bytes = some text) :
    files.ensureTree path = files.ensureSteps (treeSteps path) := by
  unfold ensureTree
  rw [spelled]

theorem ensureTree_of_unspelled (unspelled : Text.decode? path.bytes = none) :
    (files.ensureTree path).1 = (files.createAll path).1 := by
  unfold ensureTree
  rw [unspelled]
  dsimp only
  split <;> next created => rw [created]

/-- The creation of a tree adds directories at beginnings of its path. -/
theorem permits_ensureTree (files : FileSystem) (named : path.endsWithSlash = false) :
    (Allowance.tree path).Permits files (files.ensureTree path).1 := by
  cases spelled : Text.decode? path.bytes with
  | some text =>
      rw [ensureTree_of_spelled spelled]
      exact permits_ensureSteps fun upper => begins_of_mem_treeSteps
  | none =>
      rw [ensureTree_of_unspelled spelled, createAll]
      split
      · exact .refl files
      · exact permits_createUpward (begins_of_mem_pathsUpward named)

theorem isDirectory_of_makeDirectory (made : files.makeDirectory path = .ok later) :
    later.isDirectory path := by
  obtain ⟨directory, name, _, placed, present⟩ := exists_new_of_makeDirectory made
  exact isDirectory_iff.2 ⟨placed.accepted, _, placed.leadsInto present⟩

theorem isDirectory_of_acceptDirectory {error : SystemError}
    (accepted : files.acceptDirectory path error = (later, .ok ())) : later.isDirectory path := by
  unfold acceptDirectory at accepted
  split at accepted
  · next isDirectory => cases accepted; exact isDirectory
  · cases accepted

theorem isDirectory_of_createUpward {above : List Path}
    (created : files.createUpward (path :: above) = (later, .ok ())) : later.isDirectory path := by
  rw [createUpward] at created
  split at created
  · next made => cases created; exact isDirectory_of_makeDirectory made
  · split at created
    · exact isDirectory_of_acceptDirectory created
    · split at created
      · cases created
      · split at created
        · next made => cases created; exact isDirectory_of_makeDirectory made
        · exact isDirectory_of_acceptDirectory created

theorem taken_of_acceptDirectory {error : SystemError}
    (refused : files.makeDirectory path = .error error)
    (accepted : files.acceptDirectory path error = (later, .error .occupied)) :
    later.Taken path ∧ ¬ later.isDirectory path := by
  unfold acceptDirectory at accepted
  split at accepted
  · cases accepted
  · next other =>
      cases accepted
      exact ⟨refused, other⟩

/-- A creation that meets something in its way meets it at one of its paths. -/
theorem exists_taken_of_createUpward {paths : List Path}
    (created : files.createUpward paths = (later, .error .occupied)) :
    ∃ upper ∈ paths, later.Taken upper ∧ ¬ later.isDirectory upper := by
  induction paths generalizing files with
  | nil => cases created
  | cons path above ih =>
      rw [createUpward] at created
      split at created
      · cases created
      · next error refused =>
          split at created
          · exact ⟨path, by simp, taken_of_acceptDirectory refused created⟩
          · split at created
            · next failed =>
                cases created
                obtain ⟨upper, member, taken⟩ := ih failed
                exact ⟨upper, by simp [member], taken⟩
            · next middle _ =>
                split at created
                · cases created
                · next again => exact ⟨path, by simp, taken_of_acceptDirectory again created⟩

/-- A tree whose outer directories are there is created a second time without a change. -/
theorem ensureTree_again (ordinary : OrdinaryName name) (nonempty : base.bytes ≠ [])
    (done : files.ensureTree (base.join ⟨name⟩) = (middle, .ok ()))
    (outer : middle.LeadsInto base directory) (grows : Grows middle later)
    (other : ¬ later.isDirectory (base.join ⟨name⟩)) :
    later.ensureTree (base.join ⟨name⟩) = (later, .ok ()) := by
  unfold ensureTree at done ⊢
  split at done
  · next spelled =>
      exact ensureSteps_of_taken fun upper member =>
        grows.taken (taken_of_ensureSteps done upper member)
  · next unspelled =>
      have some : (base.join ⟨name⟩).isEmpty = false := by
        have joined := Path.bytes_join_ne_nil nonempty (Path.isAbsolute_ofName ordinary)
        simpa [Path.isEmpty] using joined
      have blocked : middle.Taken (base.join ⟨name⟩) := by
        simp only [createAll, some] at done
        split at done
        · next created =>
            split at done
            · next occupied =>
                cases done
                rw [occupied] at created
                obtain ⟨upper, member, taken, notDirectory⟩ := exists_taken_of_createUpward created
                rcases List.mem_cons.1 member with rfl | member
                · exact taken
                · obtain ⟨first, notNil, within, rfl⟩ := exists_of_mem_pathsAbove member
                  rw [Path.components_joinName ordinary, List.reverse_append] at within
                  obtain ⟨place, leads⟩ := outer.ofFirstComponents (by simpa using within) notNil
                  exact absurd (isDirectory_iff.2 ⟨taken.accepted, place, leads⟩) notDirectory
            · cases done
        · next created =>
            cases done
            exact absurd (grows.isDirectory (isDirectory_of_createUpward created)) other
      have refused : later.makeDirectory (base.join ⟨name⟩) = .error .occupied :=
        grows.taken blocked
      simp [createAll, some, createUpward, pathsUpward, refused, acceptDirectory, other]

end HostHome.FileSystem
