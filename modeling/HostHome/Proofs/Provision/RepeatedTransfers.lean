import HostHome.Proofs.FileSystem.CorrectLinks
import HostHome.Proofs.Provision.TransferLinks

/-!
# Transfers that are repeated

A transfer file that was applied may be applied again at any time.  Each link that
was created or found the first time is found the second time, whatever the other
directives do, and nothing that is there is replaced.
-/

namespace HostHome.Provision

open HostHome.Config
open HostHome.FileSystem (Grows)

def TransferRoots.linkOf? (roots : TransferRoots) (directive : Directive) : Option Link := do
  let kind ← linkKind? directive.kind
  let destination ← roots.destinationOf? directive
  return ⟨kind, roots.sourceOf directive, destination⟩

variable {roots : TransferRoots} {sync syncAgain : SyncTool} {mode modeAgain : CopyMode}
  {file : Path} {world middle again after : World} {directive : Directive}
  {directives : List Directive} {outcomes outcomesAgain : List DirectiveOutcome} {link : Link}

def DirectiveOutcome.ofChange (link : Link) : LinkChange → DirectiveOutcome
  | .applied => .applied
  | .alreadyCorrect => .alreadyPresent
  | .skipped occupant => .failed (link.destination.display ++ ": " ++ skipReason occupant)

theorem applyLink_ends_of_ensure {change : LinkChange} {later : FileSystem}
    (ensured : link.ensure world.files = .ok (change, later)) :
    (applyLink link).Ends world fun result after =>
      result = .ok (.ofChange link change) ∧ after.files = later := by
  simp only [applyLink, Run.debug, Run.ends_bind, Run.ends_report, Run.ends_files, ensured]
  cases change with
  | applied => exact ⟨rfl, rfl⟩
  | alreadyCorrect => exact ⟨rfl, (Link.ensure_eq_self ensured (by simp)).symm⟩
  | skipped occupant => exact ⟨rfl, (Link.ensure_eq_self ensured (by simp)).symm⟩

/-- Where a link was created or found, it is correct. -/
theorem applyLink_leaves_correct (link : Link) (world : World) :
    (applyLink link).Ends world fun result after =>
      ∀ outcome, result = .ok outcome → outcome.isFailed = false →
        link.state after.files = .correct := by
  cases ensured : link.ensure world.files with
  | ok found =>
      refine (applyLink_ends_of_ensure ensured).imp ?_
      rintro _ after ⟨rfl, same⟩ outcome ⟨⟩ unfailed
      rw [same]
      apply Link.state_eq_correct_of_ensure ensured
      rintro occupant skipped
      rw [skipped] at unfailed
      cases unfailed
  | error cause =>
      simp only [applyLink, Run.debug, Run.ends_bind, Run.ends_report, Run.ends_files, ensured]
      rintro _ ⟨⟩ unfailed
      cases unfailed

theorem applyDirective_of_linkOf? (asks : roots.linkOf? directive = some link) :
    applyDirective roots sync mode directive = applyLink link := by
  unfold TransferRoots.linkOf? at asks
  cases asked : linkKind? directive.kind with
  | none => simp [asked] at asks
  | some kind =>
      cases placed : roots.destinationOf? directive with
      | none => simp [placed] at asks
      | some destination =>
          obtain rfl : ⟨kind, roots.sourceOf directive, destination⟩ = link := by
            simpa [asked, placed] using asks
          simp only [applyDirective, asked, placed]

theorem exists_linkOf? {name : Text.Bytes}
    (named : (Path.ofText directive.path).fileName? = some name)
    (asks : linkKind? directive.kind ≠ none) : ∃ link, roots.linkOf? directive = some link := by
  obtain ⟨kind, asked⟩ := Option.ne_none_iff_exists'.1 asks
  exact ⟨⟨kind, roots.sourceOf directive, roots.destination.join ⟨name⟩⟩, by
    simp [TransferRoots.linkOf?, asked, destinationOf?_eq named]⟩

def Named (directives : List Directive) : Prop :=
  ∀ directive ∈ directives, ∃ name, (Path.ofText directive.path).fileName? = some name

theorem named_directivesOf (files : FileSystem) (file : Path) : Named (directivesOf files file) :=
  fun _ => exists_fileName_of_mem

theorem Named.tail (named : Named (directive :: directives)) : Named directives :=
  fun other member => named other (by simp [member])

theorem grows_of_applyDirective (keeps : sync.executor.KeepsFiles)
    (named : Named (directive :: directives)) {outcome : DirectiveOutcome}
    (applied : applyDirective roots sync mode directive world = .ok outcome middle) :
    Grows world.files middle.files := by
  obtain ⟨name, spelled⟩ := named directive (by simp)
  exact ((applyDirective_addsLinks keeps spelled world).of_ok applied).grows

theorem Performs.state_eq_correct (keeps : sync.executor.KeepsFiles)
    (performed : Performs roots sync mode directives outcomes world after)
    (named : Named directives) {index : Nat} {outcome : DirectiveOutcome}
    (listed : directives[index]? = some directive) (asks : roots.linkOf? directive = some link)
    (became : outcomes[index]? = some outcome) (unfailed : outcome.isFailed = false) :
    link.state after.files = .correct := by
  induction performed generalizing index with
  | done => simp at listed
  | @next world ready middle after first own directives outcomes reported applied others ih =>
      cases index with
      | succ index => exact ih named.tail (by simpa using listed) (by simpa using became)
      | zero =>
          simp only [List.getElem?_cons_zero, Option.some.injEq] at listed became
          subst listed became
          have correct : link.state middle.files = .correct := by
            rw [applyDirective_of_linkOf? asks] at applied
            exact (applyLink_leaves_correct link ready).of_ok applied _ rfl unfailed
          exact Link.state_eq_correct_of_grows (others.addsLinks keeps named.tail).grows correct

theorem Performs.finds (keeps : sync.executor.KeepsFiles)
    (performed : Performs roots sync mode directives outcomes world after)
    (named : Named directives) {index : Nat} (listed : directives[index]? = some directive)
    (asks : roots.linkOf? directive = some link) (correct : link.state world.files = .correct) :
    outcomes[index]? = some .alreadyPresent := by
  induction performed generalizing index with
  | done => simp at listed
  | @next world ready middle after first own directives outcomes reported applied others ih =>
      rw [← reported.files] at correct
      cases index with
      | succ index =>
          have grows := grows_of_applyDirective keeps named applied
          simpa using ih named.tail (by simpa using listed)
            (Link.state_eq_correct_of_grows grows correct)
      | zero =>
          simp only [List.getElem?_cons_zero, Option.some.injEq] at listed ⊢
          subst listed
          rw [applyDirective_of_linkOf? asks] at applied
          have found := applyLink_ends_of_ensure (Link.ensure_of_correct correct)
          exact Except.ok.inj (found.of_ok applied).1

/-- The run is a pass over the transfer file with one outcome for each of its directives, and the
report that it ends with counts these outcomes. -/
structure Pass (file : Path) (roots : TransferRoots) (sync : SyncTool) (mode : CopyMode)
    (outcomes : List DirectiveOutcome) (world after : World) : Prop where
  performed : Performs roots sync mode (directivesOf world.files file) outcomes world after
  counted : ∃ invalid,
    applyTransferFile file roots sync mode world = .ok (.ok (.ofOutcomes outcomes invalid)) after

theorem exists_pass {text : FileText} (read : world.files.readConfig file = .ok text) :
    ∃ outcomes after, Pass file roots sync mode outcomes world after := by
  have ends : (applyTransferFile file roots sync mode).Ends world _ := performs_of_readConfig read
  unfold Run.Ends at ends
  split at ends
  · next after ended =>
      obtain ⟨outcomes, told, performed⟩ := ends
      cases told
      exact ⟨outcomes, after, performed, _, ended⟩
  · obtain ⟨_, told, _⟩ := ends
    cases told

theorem Pass.addsLinks (keeps : sync.executor.KeepsFiles)
    (pass : Pass file roots sync mode outcomes world after) :
    AddsLinks roots (directivesOf world.files file) world.files after.files :=
  pass.performed.addsLinks keeps (named_directivesOf world.files file)

theorem exists_readConfig_of_pass (pass : Pass file roots sync mode outcomes world after) :
    ∃ text, world.files.readConfig file = .ok text := by
  obtain ⟨_, ended⟩ := pass.counted
  cases read : world.files.readConfig file with
  | ok text => exact ⟨text, rfl⟩
  | error cause =>
      simp only [applyTransferFile, Run.files_bind, read] at ended
      cases ended

theorem AddsLinks.readFile {files later : FileSystem}
    (adds : AddsLinks roots directives files later)
    {bytes : Text.Bytes} (read : files.readFile file = .ok bytes) :
    later.readFile file = .ok bytes := by
  unfold FileSystem.readFile at read ⊢
  cases found : files.find file with
  | error error => simp [found, bind, Except.bind] at read
  | ok place =>
      obtain ⟨now, foundNow, present, _⟩ := adds.grows.find found
      rw [adds.kept (FileSystem.find_eq_ok_iff.1 found).2.1, Option.some.injEq] at present
      subst present
      rw [found] at read
      rwa [foundNow]

theorem directivesOf_of_absent {files : FileSystem}
    (absent : files.readFile file = .error .absent) :
    directivesOf files file = [] := by
  simp only [directivesOf, FileSystem.readConfig, absent, if_true]
  rfl

/-- A pass over a transfer file leaves the file as it is. -/
theorem Pass.readConfig (keeps : sync.executor.KeepsFiles)
    (pass : Pass file roots sync mode outcomes world after) :
    after.files.readConfig file = world.files.readConfig file := by
  cases read : world.files.readFile file with
  | ok bytes =>
      have readAfter := (pass.addsLinks keeps).readFile read
      simp only [FileSystem.readConfig, read, readAfter]
  | error error =>
      obtain ⟨text, readable⟩ := exists_readConfig_of_pass pass
      by_cases absent : error = .absent
      · subst absent
        have performed := pass.performed
        rw [directivesOf_of_absent read] at performed
        cases performed with
        | done reported => rw [reported.files]
      · simp [FileSystem.readConfig, read, absent] at readable

/-- A transfer file is passed over a second time in the same way, with any sync tool that changes
no files: each link that was created or found is found again, and what there was after the first
pass is there after the second. -/
theorem links_found_again (keeps : sync.executor.KeepsFiles)
    (keepsAgain : syncAgain.executor.KeepsFiles) (file : Path) (roots : TransferRoots)
    (mode modeAgain : CopyMode) (world : World) :
    (∀ text, world.files.readConfig file = .ok text →
      ∃ outcomes middle, Pass file roots sync mode outcomes world middle) ∧
    ∀ outcomes middle, Pass file roots sync mode outcomes world middle →
      ∀ again : World, again.files = middle.files →
        (∃ outcomesAgain after, Pass file roots syncAgain modeAgain outcomesAgain again after) ∧
        ∀ outcomesAgain after, Pass file roots syncAgain modeAgain outcomesAgain again after →
          directivesOf again.files file = directivesOf world.files file ∧
          (∀ (index : Nat) directive outcome,
            (directivesOf world.files file)[index]? = some directive →
            linkKind? directive.kind ≠ none → outcomes[index]? = some outcome →
            outcome = .applied ∨ outcome = .alreadyPresent →
            outcomesAgain[index]? = some .alreadyPresent) ∧
          ∀ location entry, middle.files.entryAt? location = some entry →
            after.files.entryAt? location = some entry := by
  refine ⟨fun text read => exists_pass read, ?_⟩
  intro outcomes middle pass again same
  have unchanged := pass.readConfig keeps
  rw [← same] at unchanged
  refine ⟨?_, fun outcomesAgain after second => ?_⟩
  · obtain ⟨text, read⟩ := exists_readConfig_of_pass pass
    exact exists_pass (unchanged.trans read)
  · have listedAgain : directivesOf again.files file = directivesOf world.files file := by
      simp only [directivesOf, unchanged]
    refine ⟨listedAgain, ?_, ?_⟩
    · intro index directive outcome listed asks became succeeded
      obtain ⟨name, spelled⟩ := exists_fileName_of_mem (List.mem_of_getElem? listed)
      obtain ⟨link, asks⟩ : ∃ link, roots.linkOf? directive = some link :=
        exists_linkOf? spelled asks
      have unfailed : outcome.isFailed = false := by
        rcases succeeded with rfl | rfl <;> rfl
      have correct := pass.performed.state_eq_correct keeps (named_directivesOf _ _) listed asks
        became unfailed
      rw [← same] at correct
      rw [← listedAgain] at listed
      exact second.performed.finds keepsAgain (named_directivesOf _ _) listed asks correct
    · intro location entry present
      rw [← same] at present
      exact (second.addsLinks keepsAgain).kept present

/-- Two empty directories `old` and `new`, and a transfer file with two directives for one name. -/
def filesForOneName : FileSystem :=
  ((FileSystem.empty.add [] (Text.encode "old") (.directory directoryPermissions)).add
    [] (Text.encode "new") (.directory directoryPermissions)).add
    [] (Text.encode "list") (.file 2 filePermissions (Text.encode "L a\nL x/a\n"))

theorem directivesOf_filesForOneName :
    directivesOf filesForOneName (.ofText "/list") =
      [⟨.symbolicLink, "a", 1⟩, ⟨.symbolicLink, "x/a", 2⟩] := by
  have read : filesForOneName.readConfig (.ofText "/list") = .ok ⟨"L a\nL x/a\n", []⟩ := by cbv
  rw [directivesOf_eq read]
  decide +kernel

theorem head?_of_pass_filesForOneName
    (pass : Pass (.ofText "/list") ⟨.ofText "/old", .ofText "/new"⟩ sync mode outcomes
      { files := filesForOneName } after) : outcomes[0]? = some .applied := by
  have performed := pass.performed
  rw [directivesOf_filesForOneName] at performed
  cases performed with
  | @next _ ready middle _ _ outcome _ _ reported applied _ =>
      have files : ready.files = filesForOneName := reported.files
      have asks : (⟨.ofText "/old", .ofText "/new"⟩ : TransferRoots).linkOf?
          ⟨.symbolicLink, "a", 1⟩ = some ⟨.symbolic, .ofText "/old/a", .ofText "/new/a"⟩ := by
        decide +kernel
      have created : Link.ensure filesForOneName
          ⟨.symbolic, .ofText "/old/a", .ofText "/new/a"⟩ = .ok (.applied,
            filesForOneName.add [Text.encode "new"] (Text.encode "a")
              (.symbolicLink 3 (.ofText "/old/a"))) := by cbv
      rw [applyDirective_of_linkOf? asks] at applied
      rw [← files] at created
      exact congrArg some (Except.ok.inj ((applyLink_ends_of_ensure created).of_ok applied).1)

theorem link_found_again_under_one_name :
    (⟨.ofText "rsync", .answering []⟩ : SyncTool).executor.KeepsFiles ∧
      ∃ outcomes outcomesAgain middle after,
        Pass (.ofText "/list") ⟨.ofText "/old", .ofText "/new"⟩ ⟨.ofText "rsync", .answering []⟩
          .normal outcomes { files := filesForOneName } middle ∧
        Pass (.ofText "/list") ⟨.ofText "/old", .ofText "/new"⟩ ⟨.ofText "rsync", .answering []⟩
          .updateOnly outcomesAgain middle after ∧
        outcomes[0]? = some .applied ∧ outcomesAgain[0]? = some .alreadyPresent := by
  have keeps : (⟨.ofText "rsync", .answering []⟩ : SyncTool).executor.KeepsFiles :=
    Execution.Executor.answering_keepsFiles []
  have read : filesForOneName.readConfig (.ofText "/list") = .ok ⟨"L a\nL x/a\n", []⟩ := by cbv
  obtain ⟨first, second⟩ := links_found_again keeps keeps (.ofText "/list")
    ⟨.ofText "/old", .ofText "/new"⟩ .normal .updateOnly { files := filesForOneName }
  obtain ⟨outcomes, middle, pass⟩ := first _ read
  obtain ⟨⟨outcomesAgain, after, again⟩, finds⟩ := second outcomes middle pass middle rfl
  have applied := head?_of_pass_filesForOneName pass
  have listed : (directivesOf filesForOneName (.ofText "/list"))[0]? =
      some ⟨.symbolicLink, "a", 1⟩ := by rw [directivesOf_filesForOneName]; rfl
  exact ⟨keeps, outcomes, outcomesAgain, middle, after, pass, again, applied,
    (finds outcomesAgain after again).2.1 0 _ _ listed (by simp [linkKind?]) applied (.inl rfl)⟩

end HostHome.Provision
