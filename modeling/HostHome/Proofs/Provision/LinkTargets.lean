import HostHome.Proofs.FileSystem.LinkTargets
import HostHome.Proofs.Provision.Commands
import HostHome.Proofs.Provision.Provisioning
import HostHome.Proofs.Provision.TransferLinks
import HostHome.Proofs.Provision.WriteSet

/-!
# Where the links of a run lead

A run makes symbolic links in the per-host home: one to the shared home, and one for
each directive that asks for one.  They hold the paths of their sources as the run
spells them.  What such a path means to the link is what it means in the per-host
home, and not where the run was started.
-/

namespace HostHome.Provision

open HostHome.Config
open HostHome.FileSystem (FindsFrom Grows LeadsLeaving PlacedAt)
open HostHome.Text (Bytes)

variable {context : Context} {directives : List Directive} {files later : FileSystem}
  {world after : World} {location directory : Location} {inode : Nat} {target : Path}
  {name : Bytes} {outcome : Outcome}

/-- A symbolic link for which the run asks, by its name in the per-host home and its target: the
link to the shared home, or the link to the source of a directive. -/
inductive AsksForLink (context : Context) (directives : List Directive) : Bytes → Path → Prop
  | topLink :
      AsksForLink context directives (Text.encode topLinkName) context.layout.sharedHome
  | transferred {directive : Directive} {name : Bytes} (listed : directive ∈ directives)
      (symbolic : directive.kind = .symbolicLink)
      (named : (Path.ofText directive.path).fileName? = some name) :
      AsksForLink context directives name ((transferRoots context.layout).sourceOf directive)

/-- The entry is also found at the source of a directive that asks for a hard link. -/
def IsHardLink (context : Context) (directives : List Directive) (files : FileSystem)
    (location : Location) (entry : Entry) : Prop :=
  ∃ directive ∈ directives, directive.kind = .hardLink ∧ ∃ other, other ≠ location ∧
    files.findLink ((transferRoots context.layout).sourceOf directive) = .ok (other, entry)

theorem placedAt_of_findLink_joinName {base : Path} {entry : Entry} (ordinary : OrdinaryName name)
    (found : files.findLink (base.join ⟨name⟩) = .ok (location, entry)) :
    ∃ directory, location = name :: directory ∧
      files.PlacedAt (base.join ⟨name⟩) directory name := by
  obtain ⟨directory, same, placed, _⟩ := FileSystem.placedAt_of_findLink
    (FileSystem.splitName?_joinName ordinary base) (Path.endsWithSlash_joinName ordinary base) found
  exact ⟨directory, same, placed⟩

/-- The files to which the scripts are written are no links. -/
theorem find_script_direct (proper : Proper context.layout) {path : Path} {entry : Entry}
    (writes : (writeSet context directives).writes path)
    (found : files.find path = .ok (location, entry)) :
    entry ≠ .symbolicLink inode target := by
  obtain ⟨_, rfl | rfl⟩ := writes
  · rw [proper.shellScript] at found
    exact FileSystem.find_joinName_direct ordinaryName_shellScriptName found inode target
  · rw [proper.cShellScript] at found
    exact FileSystem.find_joinName_direct ordinaryName_cShellScriptName found inode target

/-- A new symbolic link that the run may make is the link to the shared home, or has the last name
of a directive. -/
theorem findLink_of_permits (proper : Proper context.layout)
    (permits : (writeSet context directives).Permits files later)
    (absent : files.entryAt? location = none)
    (present : later.entryAt? location = some (.symbolicLink inode target)) :
    (target = context.layout.sharedHome ∧ later.findLink context.layout.topLink =
        .ok (location, .symbolicLink inode target)) ∨
      ∃ directive ∈ directives, ∃ name, (Path.ofText directive.path).fileName? = some name ∧
        later.findLink (context.layout.hostHome.join ⟨name⟩) =
          .ok (location, .symbolicLink inode target) := by
  rcases permits.made present absent with
    ⟨path, entry, creates, found, same, _⟩ | ⟨path, writes, found⟩
  · cases creates with
    | topLink own =>
        simp only [Entry.shape, Entry.symbolicLink.injEq] at same
        exact .inl ⟨same.2, found⟩
    | transferred _ listed named => exact .inr ⟨_, listed, _, named, found⟩
    | hostHome | skeleton | transferFile | marker => simp [Entry.shape] at same
  · exact absurd rfl (find_script_direct proper writes found)

/-- A new symbolic link that the run may make lies in the per-host home. -/
theorem exists_placedAt_of_permits (proper : Proper context.layout)
    (permits : (writeSet context directives).Permits files later)
    (absent : files.entryAt? location = none)
    (present : later.entryAt? location = some (.symbolicLink inode target)) :
    ∃ name directory, OrdinaryName name ∧ location = name :: directory ∧
      later.PlacedAt (context.layout.hostHome.join ⟨name⟩) directory name := by
  rcases findLink_of_permits proper permits absent present with
    ⟨_, found⟩ | ⟨directive, _, name, named, found⟩
  · rw [proper.topLink] at found
    obtain ⟨directory, same, placed⟩ :=
      placedAt_of_findLink_joinName ordinaryName_topLinkName found
    exact ⟨_, directory, ordinaryName_topLinkName, same, placed⟩
  · have ordinary := Path.ordinaryName_of_fileName? named
    obtain ⟨directory, same, placed⟩ := placedAt_of_findLink_joinName ordinary found
    exact ⟨name, directory, ordinary, same, placed⟩

/-- Without directives, the link to the shared home is the only one that the run may make. -/
theorem asksForLink_of_permits (proper : Proper context.layout)
    (permits : (writeSet context []).Permits files later)
    (absent : files.entryAt? location = none)
    (present : later.entryAt? location = some (.symbolicLink inode target)) :
    ∃ name directory, location = name :: directory ∧
      AsksForLink context directives name target := by
  rcases findLink_of_permits proper permits absent present with
    ⟨rfl, found⟩ | ⟨_, listed, _⟩
  · rw [proper.topLink] at found
    obtain ⟨directory, same, _⟩ := placedAt_of_findLink_joinName ordinaryName_topLinkName found
    exact ⟨_, directory, same, .topLink⟩
  · cases listed

theorem applyTransfers_addsLinks (keeps : context.sync.executor.KeepsFiles)
    (files : FileSystem) :
    applyTransfers.Leaves context files fun _ later =>
      AddsLinks (transferRoots context.layout)
        (directivesOf files context.layout.transferFile) files later := by
  apply Task.leaves_of_run
  · rintro - world rfl
    simp only [applyTransfers, Run.ends_bind]
    refine (ends_applyTransferFile_addsLinks keeps _ _ _ world).imp ?_
    intro result after adds
    cases result with
    | error stop => exact adds
    | ok answer =>
        cases answer with
        | error cause => exact adds
        | ok report =>
            dsimp only
            split <;> exact adds
  · intro _
    exact .refl files

theorem AddsLinks.asksForLink
    (adds : AddsLinks (transferRoots context.layout) directives files later)
    (absent : files.entryAt? location = none)
    (present : later.entryAt? location = some (.symbolicLink inode target)) :
    IsHardLink context directives later location (.symbolicLink inode target) ∨
      ∃ name directory, location = name :: directory ∧
        AsksForLink context directives name target := by
  obtain ⟨directive, listed, name, directory, placed, named, _, link⟩ := adds.added absent present
  unfold IsLinkFor at link
  cases kind : directive.kind with
  | copy => simp [kind] at link
  | symbolicLink =>
      simp only [kind, Entry.symbolicLink.injEq] at link
      obtain ⟨_, _, rfl⟩ := link
      exact .inr ⟨name, directory, placed, .transferred listed kind named⟩
  | hardLink =>
      simp only [kind] at link
      obtain ⟨other, _, different, _, found⟩ := link
      exact .inl ⟨directive, listed, kind, other, different, found⟩

theorem IsHardLink.grows (grows : Grows files later)
    (hard : IsHardLink context directives files location (.symbolicLink inode target)) :
    IsHardLink context directives later location (.symbolicLink inode target) := by
  obtain ⟨directive, listed, kind, other, different, found⟩ := hard
  have kept := grows.symbolicLink (FileSystem.entryAt?_of_findLink found)
  exact ⟨directive, listed, kind, other, different, grows.findLink_of_kept found kept⟩

/-- The symbolic links that all steps together add are hard links to others, or the run asks for
them. -/
theorem asksForLink_of_executeAll (proper : Proper context.layout)
    (keeps : context.sync.executor.KeepsFiles)
    (executed : executeAll context steps world = .ok () after)
    (absent : world.files.entryAt? location = none)
    (present : after.files.entryAt? location = some (.symbolicLink inode target)) :
    IsHardLink context (directivesRead context world) after.files location
        (.symbolicLink inode target) ∨
      ∃ name directory, location = name :: directory ∧
        AsksForLink context (directivesRead context world) name target := by
  rw [steps_eq_applyTransfers, executeAll_append] at executed
  obtain ⟨_, moment, before, executed⟩ := bind_eq_ok executed
  obtain ⟨transferred, applied, behind⟩ := executeAll_cons_eq_ok executed
  have read : directivesRead context world =
      directivesOf moment.files context.layout.transferFile := by
    simp [directivesRead, before]
  have first := (executeAll_beforeTransfers_permits proper keeps [] world).of_ok before
  have adds := (applyTransfers_addsLinks keeps moment.files).of_ok applied
  have last := (executeAll_behindTransfers_permits proper [] transferred).of_ok behind
  rw [← read] at adds
  have direct {files : FileSystem} (grows : Grows files after.files) {entry : Entry}
      (there : files.entryAt? location = some entry) :
      files.entryAt? location = some (.symbolicLink inode target) := by
    obtain ⟨now, foundNow, same⟩ := grows.kept there
    rw [present, Option.some.injEq] at foundNow
    subst foundNow
    rw [there, Entry.shape_eq_symbolicLink_iff.1 same.symm]
  cases between : moment.files.entryAt? location with
  | some entry =>
      have link := direct (adds.grows.trans last.grows) between
      exact .inr (asksForLink_of_permits proper first absent link)
  | none =>
      cases later : transferred.files.entryAt? location with
      | some entry =>
          have link := direct last.grows later
          exact (adds.asksForLink between link).imp_left fun hard => hard.grows last.grows
      | none => exact .inr (asksForLink_of_permits proper last later present)

/-- The link leads to what its target leads to from the directory that holds the link, with a link
less to follow. With an absolute target it leads to what the target leads to from anywhere, unless
there are too many links on the way. -/
structure LeadsLike (files : FileSystem) (link target : Path) (directory : Location)
    (spare : Nat) : Prop where
  from_directory : ∀ goal entry, files.find link = .ok (goal, entry) ↔
    ∃ links, spare = links + 1 ∧ FindsFrom files links directory target goal entry
  of_absolute : target.isAbsolute → ∀ goal entry, files.find target = .ok (goal, entry) →
    files.find link = .ok (goal, entry) ∨ files.find link = .error .tooManyLinks

/-- The symbolic links that a run makes in the per-host home lead to what their sources lead to from
there. So those with an absolute source lead to what the source leads to. -/
theorem new_links_lead_from_hostHome (prepared : context.Prepared)
    (keeps : context.sync.executor.KeepsFiles)
    (provisioned : provision context world = .ok outcome after)
    (apart : isPassThrough world.files context.layout = false)
    (absent : world.files.entryAt? location = none)
    (present : after.files.entryAt? location = some (.symbolicLink inode target)) :
    IsHardLink context (directivesRead context world) after.files location
        (.symbolicLink inode target) ∨
      ∃ name directory spare, location = name :: directory ∧
        AsksForLink context (directivesRead context world) name target ∧
        after.files.LeadsLeaving context.layout.hostHome directory spare ∧
        LeadsLike after.files (context.layout.hostHome.join ⟨name⟩) target directory spare := by
  have executed : executeAll context steps world = .ok () after := by
    rcases (provision_eq_ok provisioned).2 with ⟨passes, _⟩ | ⟨_, _, executed⟩
    · rw [apart] at passes
      cases passes
    · exact executed
  have proper := prepared.proper
  have permits := (executeAll_steps_permits proper keeps world).of_ok executed
  rcases asksForLink_of_executeAll proper keeps executed absent present with
    hard | ⟨name, directory, rfl, asks⟩
  · exact .inl hard
  · obtain ⟨own, holder, ordinary, same, placed⟩ :=
      exists_placedAt_of_permits proper permits absent present
    obtain ⟨rfl, rfl⟩ := List.cons.inj same
    obtain ⟨accepted, _, short, leads⟩ :=
      (FileSystem.placedAt_joinName_iff ordinary).1 placed
    obtain ⟨spare, leaves⟩ := FileSystem.leadsInto_iff_leadsLeaving.1 leads
    refine .inr ⟨name, directory, spare, rfl, asks, leaves, ?_, ?_⟩
    · intro goal entry
      exact FileSystem.find_link_iff ordinary accepted short leaves present
    · intro absolute goal entry found
      exact FileSystem.find_link_of_isAbsolute ordinary accepted short leaves present absolute found

def topLinkLocation : Location := Text.encode topLinkName :: hostLocation

/-- A run in a home that is spelled from the root links the per-host home to it. -/
theorem exists_topLink_homeContext :
    ∃ outcome after, provision homeContext { files := homeFiles } = .ok outcome after ∧
      after.files.entryAt? topLinkLocation = some (.symbolicLink 1 (.ofText "/home")) := by
  have checked : (match provision homeContext { files := homeFiles } with
      | .ok _ after =>
          after.files.entryAt? topLinkLocation = some (.symbolicLink 1 (.ofText "/home"))
      | .error _ _ => False) := by cbv
  split at checked
  · next outcome after provisioned => exact ⟨outcome, after, provisioned, checked⟩
  · cases checked

theorem topLink_leads_from_hostHome :
    homeContext.Prepared ∧ homeContext.sync.executor.KeepsFiles ∧
      isPassThrough homeFiles homeContext.layout = false ∧
      homeFiles.entryAt? topLinkLocation = none ∧
      ∃ outcome after, provision homeContext { files := homeFiles } = .ok outcome after ∧
        after.files.entryAt? topLinkLocation = some (.symbolicLink 1 (.ofText "/home")) ∧
        (IsHardLink homeContext (directivesRead homeContext { files := homeFiles }) after.files
            topLinkLocation (.symbolicLink 1 (.ofText "/home")) ∨
          ∃ name directory spare, topLinkLocation = name :: directory ∧
            AsksForLink homeContext (directivesRead homeContext { files := homeFiles }) name
              (.ofText "/home") ∧
            after.files.LeadsLeaving homeContext.layout.hostHome directory spare ∧
            LeadsLike after.files (homeContext.layout.hostHome.join ⟨name⟩) (.ofText "/home")
              directory spare) := by
  have apart : isPassThrough homeFiles homeContext.layout = false := by cbv
  have absent : homeFiles.entryAt? topLinkLocation = none := by cbv
  obtain ⟨outcome, after, provisioned, present⟩ := exists_topLink_homeContext
  exact ⟨prepared_homeContext, keepsFiles_homeContext, apart, absent, outcome, after, provisioned,
    present, new_links_lead_from_hostHome prepared_homeContext keepsFiles_homeContext provisioned
      apart absent present⟩

/-- The context of a plain run with a home that is spelled from the current directory. -/
def relativeContext : Context := plainContextAt (.ofText "home")

/-- In such a home, the link to the shared home leads nowhere. -/
theorem exists_topLink_relativeContext :
    ∃ outcome after, provision relativeContext { files := homeFiles } = .ok outcome after ∧
      after.files.entryAt? topLinkLocation = some (.symbolicLink 1 (.ofText "home")) ∧
      after.files.find (.ofText "home") =
        .ok ([Text.encode "home"], .directory directoryPermissions) ∧
      after.files.find relativeContext.layout.topLink = .error .absent := by
  have checked : (match provision relativeContext { files := homeFiles } with
      | .ok _ after =>
          after.files.entryAt? topLinkLocation = some (.symbolicLink 1 (.ofText "home")) ∧
            after.files.find (.ofText "home") =
              .ok ([Text.encode "home"], .directory directoryPermissions) ∧
            after.files.find relativeContext.layout.topLink = .error .absent
      | .error _ _ => False) := by cbv
  split at checked
  · next outcome after provisioned => exact ⟨outcome, after, provisioned, checked⟩
  · cases checked

/-- Not every symbolic link that a run makes leads to what its source leads to. -/
theorem not_new_links_lead_to_sources :
    ¬ ∀ (context : Context) (world after : World) (outcome : Outcome), context.Prepared →
      context.layout.sharedHome.bytes ≠ [] → context.sync.executor.KeepsFiles →
      provision context world = .ok outcome after →
      isPassThrough world.files context.layout = false →
      ∀ name directory inode target,
        AsksForLink context (directivesRead context world) name target →
        world.files.entryAt? (name :: directory) = none →
        after.files.entryAt? (name :: directory) = some (.symbolicLink inode target) →
        ∀ goal entry, after.files.find target = .ok (goal, entry) →
          after.files.find (context.layout.hostHome.join ⟨name⟩) = .ok (goal, entry) := by
  intro lead
  have noHostGroups : homeFiles.readFile (hostGroupFileOf (.ofText "home")) = .error .absent := by
    cbv
  have apart : isPassThrough homeFiles relativeContext.layout = false := by cbv
  have absent : homeFiles.entryAt? topLinkLocation = none := by cbv
  have named : relativeContext.layout.sharedHome.bytes ≠ [] := by decide
  obtain ⟨outcome, after, provisioned, present, source, link⟩ := exists_topLink_relativeContext
  have found := lead relativeContext { files := homeFiles } after outcome
    (prepared_plainContextAt noHostGroups) named (Execution.Executor.answering_keepsFiles [])
    provisioned apart _ hostLocation _ _ .topLink absent present _ _ source
  have here : relativeContext.layout.hostHome.join ⟨Text.encode topLinkName⟩ =
      relativeContext.layout.topLink := rfl
  rw [here, link] at found
  cases found

end HostHome.Provision
