import HostHome.Proofs.Provision.TransferReport

/-!
# What transfers add

Whatever is there when a transfer file is applied stays as it is.  What is new lies
in the per-host home itself, under the last name of a directive that asks for a
link: a symbolic link to its source, or the entry that is found there.
-/

namespace HostHome.Provision

open HostHome.Config
open HostHome.FileSystem (Grows entryAt?_of_findLink)
open HostHome.Text (Bytes)

variable {roots : TransferRoots} {sync : SyncTool} {mode : CopyMode} {world after : World}
  {files middle later : FileSystem} {directive : Directive} {directives : List Directive}
  {outcomes : List DirectiveOutcome} {location : Location} {entry : Entry} {name : Bytes}

/-- The entry is the link for which the directive asks: a symbolic link that holds the path of the
source, or the entry at the source, which has another location and is no directory. -/
def IsLinkFor (roots : TransferRoots) (directive : Directive) (later : FileSystem)
    (location : Location) (entry : Entry) : Prop :=
  match directive.kind with
  | .symbolicLink =>
      ∃ inode, entry = .symbolicLink inode (roots.source.joinText directive.path)
  | .hardLink =>
      ∃ other inode, other ≠ location ∧ entry.inode? = some inode ∧
        later.findLink (roots.source.joinText directive.path) = .ok (other, entry)
  | .copy => False

/-- All entries stay as they are, and each new one lies in the directory to which the destination
leads. It has the last name of a directive there, and is the link for which it asks. -/
structure AddsLinks (roots : TransferRoots) (directives : List Directive)
    (files later : FileSystem) : Prop where
  current : later.current = files.current
  kept : ∀ {location : Location} {entry : Entry}, files.entryAt? location = some entry →
    later.entryAt? location = some entry
  added : ∀ {location : Location} {entry : Entry}, files.entryAt? location = none →
    later.entryAt? location = some entry →
      ∃ directive ∈ directives, ∃ name directory, location = name :: directory ∧
        (Path.ofText directive.path).fileName? = some name ∧
        files.LeadsInto roots.destination directory ∧
        IsLinkFor roots directive later location entry

theorem AddsLinks.refl (files : FileSystem) : AddsLinks roots directives files files :=
  ⟨rfl, id, fun absent present => by rw [absent] at present; cases present⟩

theorem AddsLinks.mono {more : List Directive} (adds : AddsLinks roots directives files later)
    (within : directives ⊆ more) : AddsLinks roots more files later := by
  refine ⟨adds.current, adds.kept, fun absent present => ?_⟩
  obtain ⟨directive, member, rest⟩ := adds.added absent present
  exact ⟨directive, within member, rest⟩

theorem AddsLinks.grows (adds : AddsLinks roots directives files later) : Grows files later :=
  ⟨adds.current, fun present => ⟨_, adds.kept present, rfl⟩⟩

theorem AddsLinks.findLink (adds : AddsLinks roots directives files later) {path : Path}
    (found : files.findLink path = .ok (location, entry)) :
    later.findLink path = .ok (location, entry) :=
  adds.grows.findLink_of_kept found (adds.kept (entryAt?_of_findLink found))

/-- If there is nothing new, the file systems have the same entries. -/
theorem AddsLinks.grows_back (adds : AddsLinks roots directives files later)
    (nothing : ∀ location entry, files.entryAt? location = none →
      later.entryAt? location ≠ some entry) : Grows later files := by
  refine ⟨adds.current.symm, fun {location entry} present => ?_⟩
  cases before : files.entryAt? location with
  | none => exact absurd present (nothing location entry before)
  | some old =>
      have same := (adds.kept before).symm.trans present
      exact ⟨old, rfl, by rw [Option.some.inj same]⟩

theorem AddsLinks.leadsInto (adds : AddsLinks roots directives files later) {directory : Location}
    (leads : later.LeadsInto roots.destination directory) :
    files.LeadsInto roots.destination directory := by
  by_cases new : ∃ location entry, files.entryAt? location = none ∧
      later.entryAt? location = some entry
  · obtain ⟨location, entry, absent, present⟩ := new
    obtain ⟨_, _, _, other, _, _, before, _⟩ := adds.added absent present
    rwa [leads.unique (adds.grows.leadsInto before)]
  · apply (adds.grows_back _).leadsInto leads
    intro location entry absent present
    exact new ⟨location, entry, absent, present⟩

theorem AddsLinks.trans (first : AddsLinks roots directives files middle)
    (second : AddsLinks roots directives middle later) :
    AddsLinks roots directives files later := by
  refine ⟨second.current.trans first.current, fun present => second.kept (first.kept present), ?_⟩
  intro location entry absent present
  cases between : middle.entryAt? location with
  | none =>
      obtain ⟨directive, member, name, directory, placed, named, leads, link⟩ :=
        second.added between present
      exact ⟨directive, member, name, directory, placed, named, first.leadsInto leads, link⟩
  | some old =>
      obtain ⟨directive, member, name, directory, placed, named, leads, link⟩ :=
        first.added absent between
      refine ⟨directive, member, name, directory, placed, named, leads, ?_⟩
      have same := (second.kept between).symm.trans present
      cases Option.some.inj same
      unfold IsLinkFor at link ⊢
      cases kind : directive.kind with
      | symbolicLink => simpa only [kind] using link
      | copy => simp [kind] at link
      | hardLink =>
          simp only [kind] at link ⊢
          obtain ⟨other, inode, different, numbered, found⟩ := link
          exact ⟨other, inode, different, numbered, second.findLink found⟩

/-- A link of a directive is made sure of: it is there, or is added. -/
theorem addsLinks_of_ensure {kind : LinkKind} {change : LinkChange}
    (named : (Path.ofText directive.path).fileName? = some name)
    (asked : linkKind? directive.kind = some kind)
    (ensured : Link.ensure files
      ⟨kind, roots.sourceOf directive, roots.destination.join ⟨name⟩⟩ = .ok (change, later)) :
    AddsLinks roots [directive] files later := by
  rcases Link.ensure_eq_ok ensured with ⟨_, rfl⟩ | ⟨_, applied⟩
  · exact .refl _
  · obtain ⟨directory, own, made, placed, vacant, rfl, symbolic, hard⟩ :=
      Link.placedAt_of_apply applied
    obtain ⟨_, rfl, _, leads⟩ :=
      (FileSystem.placedAt_joinName_iff (Path.ordinaryName_of_fileName? named)).1 placed
    refine ⟨FileSystem.current_add .., FileSystem.entryAt?_add_of_some, ?_⟩
    intro location entry absent present
    rw [FileSystem.entryAt?_add leads.isDirectoryAt vacant] at present
    split at present
    · next same =>
        cases present
        refine ⟨directive, by simp, own, directory, same, named, leads, ?_⟩
        unfold IsLinkFor
        cases asks : directive.kind with
        | copy => simp [asks, linkKind?] at asked
        | symbolicLink =>
            simp only [asks, linkKind?, Option.some.injEq] at asked
            exact ⟨_, symbolic asked.symm⟩
        | hardLink =>
            simp only [asks, linkKind?, Option.some.injEq] at asked
            obtain ⟨noDirectory, other, found⟩ := hard asked.symm
            obtain ⟨inode, numbered⟩ := Entry.exists_inode? noDirectory
            have there := entryAt?_of_findLink found
            refine ⟨other, inode, ?_, numbered, ?_⟩
            · rintro rfl
              rw [absent] at there
              cases there
            · exact (FileSystem.grows_add ..).findLink_of_kept found
                (FileSystem.entryAt?_add_of_some there)
    · rw [absent] at present
      cases present

theorem applyDirective_addsLinks (keeps : sync.executor.KeepsFiles)
    (named : (Path.ofText directive.path).fileName? = some name) (world : World) :
    (applyDirective roots sync mode directive).Ends world fun _ after =>
      AddsLinks roots [directive] world.files after.files := by
  simp only [applyDirective, destinationOf?_eq named]
  cases asked : linkKind? directive.kind with
  | none =>
      refine (applyCopy_keeps keeps _ _).imp ?_
      intro _ after same
      rw [same]
      exact .refl world.files
  | some kind =>
      simp only [applyLink, Run.debug, Run.ends_bind, Run.ends_report, Run.ends_files]
      cases ensured : Link.ensure world.files
          ⟨kind, roots.sourceOf directive, roots.destination.join ⟨name⟩⟩ with
      | error cause => exact .refl world.files
      | ok found =>
          obtain ⟨change, later⟩ := found
          have adds := addsLinks_of_ensure named asked ensured
          cases change with
          | applied => exact adds
          | alreadyCorrect => exact .refl world.files
          | skipped occupant => exact .refl world.files

theorem Performs.addsLinks (keeps : sync.executor.KeepsFiles)
    (performed : Performs roots sync mode directives outcomes world after)
    (named : ∀ directive ∈ directives, ∃ name,
      (Path.ofText directive.path).fileName? = some name) :
    AddsLinks roots directives world.files after.files := by
  induction performed with
  | done reported =>
      rw [reported.files]
      exact .refl _
  | @next world ready middle after directive outcome directives outcomes reported applied _ ih =>
      obtain ⟨name, spelled⟩ := named directive (by simp)
      have first : AddsLinks roots [directive] world.files middle.files := by
        rw [← reported.files]
        exact (applyDirective_addsLinks keeps spelled ready).of_ok applied
      have others := ih fun other member => named other (by simp [member])
      exact (first.mono (by simp)).trans (others.mono (List.subset_cons_self _ _))

/-- The file of a directive appears under an ordinary name: the last one of its path. -/
theorem exists_destinationOf? {file : Path} {line : Line}
    (found : (Directive.ofLine file line).1 = some directive) (roots : TransferRoots) :
    ∃ name destination, (Path.ofText directive.path).fileName? = some name ∧
      OrdinaryName name ∧ roots.destinationOf? directive = some destination ∧
      destination = roots.destination.join ⟨name⟩ ∧ destination.fileName? = some name := by
  obtain ⟨name, named⟩ := exists_fileName_of_ofLine found
  have ordinary := Path.ordinaryName_of_fileName? named
  exact ⟨name, _, named, ordinary, destinationOf?_eq named, rfl,
    Path.fileName?_join _ (Path.fileName?_ofName ordinary)⟩

theorem ends_applyTransferFile_addsLinks (keeps : sync.executor.KeepsFiles) (file : Path)
    (roots : TransferRoots) (mode : CopyMode) (world : World) :
    (applyTransferFile file roots sync mode).Ends world fun _ after =>
      AddsLinks roots (directivesOf world.files file) world.files after.files := by
  cases read : world.files.readConfig file with
  | error cause =>
      simp only [applyTransferFile, Run.ends_bind, Run.ends_files, read]
      exact .refl world.files
  | ok text =>
      refine (performs_of_readConfig read).imp ?_
      rintro _ after ⟨outcomes, rfl, performed⟩
      exact performed.addsLinks keeps fun directive member => exists_fileName_of_mem member

/-- Transfers with a sync tool that changes no files replace nothing, and what they add are links
in the per-host home itself: the links for which the directives of the file ask, each under the
last name of its path, which is an ordinary name. -/
theorem applyTransferFile_addsLinks (keeps : sync.executor.KeepsFiles) (file : Path)
    (roots : TransferRoots) (mode : CopyMode) (world : World) :
    AddsLinks roots (directivesOf world.files file) world.files
        ((applyTransferFile file roots sync mode).worldAfter world).files ∧
      ∀ line directive, (Directive.ofLine file line).1 = some directive →
        ∃ name destination, (Path.ofText directive.path).fileName? = some name ∧
          OrdinaryName name ∧ roots.destinationOf? directive = some destination ∧
          destination = roots.destination.join ⟨name⟩ ∧ destination.fileName? = some name := by
  refine ⟨?_, fun line directive found => exists_destinationOf? found roots⟩
  exact (Run.ends_worldAfter fun after =>
    AddsLinks roots (directivesOf world.files file) world.files after.files).1
      (ends_applyTransferFile_addsLinks keeps file roots mode world)

/-- Two files in the directory `old`, an empty directory `new`, and a transfer file that asks for a
link of each kind. -/
def filesToLink : FileSystem :=
  ((((FileSystem.empty.add [] (Text.encode "old") (.directory directoryPermissions)).add
    [Text.encode "old"] (Text.encode "b") (.file 1 filePermissions [])).add
    [] (Text.encode "new") (.directory directoryPermissions)).add
    [] (Text.encode "list") (.file 2 filePermissions (Text.encode "L a\nH b\n")))

theorem files_applyTransferFile {file : Path} {content : String} {lines : List Line}
    (read : world.files.readConfig file = .ok ⟨content, []⟩)
    (listed : directiveLines content = lines) :
    ((applyTransferFile file roots sync mode).worldAfter world).files =
      ((applyLines file roots sync mode lines).worldAfter world).files := by
  refine (Run.ends_worldAfter fun after => after.files =
    ((applyLines file roots sync mode lines).worldAfter world).files).1 ?_
  simp only [applyTransferFile, applyText, Run.ends_bind, Run.ends_files, Run.ends_pure, read,
    warnAll, listed]
  have ends : (applyLines file roots sync mode lines).Ends world fun _ after =>
      after.files = ((applyLines file roots sync mode lines).worldAfter world).files :=
    (Run.ends_worldAfter fun after => after.files = _).2 rfl
  refine ends.imp ?_
  rintro (stop | report) after same
  · exact same
  · exact same

theorem links_added_in_new_directory :
    (⟨.ofText "rsync", .answering []⟩ : SyncTool).executor.KeepsFiles ∧
      ∃ after : FileSystem,
        after = ((applyTransferFile (.ofText "/list") ⟨.ofText "/old", .ofText "/new"⟩
          ⟨.ofText "rsync", .answering []⟩ .normal).worldAfter { files := filesToLink }).files ∧
        after.entryAt? [Text.encode "a", Text.encode "new"] =
          some (.symbolicLink 3 (.ofText "/old/a")) ∧
        after.entryAt? [Text.encode "b", Text.encode "new"] = some (.file 1 filePermissions []) ∧
        AddsLinks ⟨.ofText "/old", .ofText "/new"⟩ (directivesOf filesToLink (.ofText "/list"))
          filesToLink after := by
  have keeps : (⟨.ofText "rsync", .answering []⟩ : SyncTool).executor.KeepsFiles :=
    Execution.Executor.answering_keepsFiles []
  have read : filesToLink.readConfig (.ofText "/list") = .ok ⟨"L a\nH b\n", []⟩ := by cbv
  have listed : directiveLines "L a\nH b\n" = [⟨1, "L a"⟩, ⟨2, "H b"⟩] := by decide +kernel
  refine ⟨keeps, _, rfl, ?_, ?_, (applyTransferFile_addsLinks keeps (.ofText "/list")
    ⟨.ofText "/old", .ofText "/new"⟩ .normal { files := filesToLink }).1⟩
  · rw [files_applyTransferFile read listed]
    cbv
  · rw [files_applyTransferFile read listed]
    cbv

end HostHome.Provision
