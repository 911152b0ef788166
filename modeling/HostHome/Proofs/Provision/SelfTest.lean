import HostHome.Proofs.Config.HostGroup
import HostHome.Proofs.Provision.Validation

/-!
# Self-tests and the runs that they stand for

A self-test comes to each of its checks, whatever became of the others, and leaves the
files as they were.  So what it finds in the configuration is what the setup of the
run has found there, and what the transfers find.
-/

namespace HostHome.Provision

open HostHome.Config
open HostHome.FileSystem (Alike)
open HostHome.Log (Event TaskEntry TaskStatus)

variable {world after ready : World} {files : FileSystem} {file : Path} {text : FileText}
  {directory : Location} {context : Context} {language : PatternLanguage}
  {invocation : Invocation} {events : List Event}

def temporaryDirectory (world : World) : Path :=
  ((world.environment.get? temporaryVariable).map Path.mk).getD defaultTemporary

/-- A host-group file in which nothing is reported gives the host its identity: that of the first of
its rules that applies, which is the one that is told. -/
def AgreesOnHostGroups (language : PatternLanguage) (context : Context) (files : FileSystem)
    (events : List Event) : Prop :=
  let file := context.layout.hostGroupFile
  let shortName := context.identity.shortName
  ∃ text rules, files.readConfig file = .ok text ∧ text.diagnostics = [] ∧
    parseRules language file text.content = (rules, []) ∧
    files.resolveIdentity language shortName file = .ok ⟨context.identity, []⟩ ∧
    context.identity = (match rules.find? fun rule => rule.appliesTo shortName with
      | some rule => ⟨shortName, rule.replacement, true⟩
      | none => .unmatched shortName) ∧
    ⟨.info, ruleReport rules shortName⟩ ∈ events

/-- A transfer file in which nothing is reported is applied to its end, whatever the sync tool
answers: no line is invalid, and each directive has an outcome.  The number of directives is told,
if there are any, and otherwise the check is skipped. -/
def AgreesOnTransfers (context : Context) (files : FileSystem) (status : TaskStatus)
    (events : List Event) : Prop :=
  let file := context.layout.transferFile
  ∃ text directives, files.readConfig file = .ok text ∧ text.diagnostics = [] ∧
    parseDirectives file text.content = (directives, []) ∧
    (status = .skipped ↔ directives = []) ∧
    (directives ≠ [] →
      ⟨.info, toString directives.length ++ " transfer directive(s)"⟩ ∈ events) ∧
    ∀ (roots : TransferRoots) (sync : SyncTool) (mode : CopyMode) (world : World),
      world.files = files → ∃ report after,
        applyTransferFile file roots sync mode world = .ok (.ok report) after ∧
        report.invalid = 0 ∧
        report.applied + report.alreadyPresent + report.failed = directives.length

theorem resolution_of_parseRules (shortName : String) {rules : List (HostRule language)}
    (clean : text.diagnostics = [])
    (parsed : parseRules language file text.content = (rules, [])) :
    text.resolveIdentity language shortName file =
      ⟨match rules.find? fun rule => rule.appliesTo shortName with
        | some rule => ⟨shortName, rule.replacement, true⟩
        | none => .unmatched shortName, []⟩ := by
  unfold FileText.resolveIdentity
  rw [resolveIdentity_eq_ofRules, parsed, clean]
  unfold Resolution.ofRules
  cases rules.find? fun rule => rule.appliesTo shortName <;> rfl

theorem agreesOnHostGroups (given : setup language invocation world = .ok context ready)
    {rules : List (HostRule language)}
    (read : world.files.readConfig context.layout.hostGroupFile = .ok text)
    (clean : text.diagnostics = [])
    (parsed : parseRules language context.layout.hostGroupFile text.content = (rules, []))
    (told : ⟨.info, ruleReport rules context.identity.shortName⟩ ∈ events) :
    AgreesOnHostGroups language context world.files events := by
  obtain ⟨resolution, resolved, _, rfl, _⟩ := setup_eq_ok given
  have same : (contextOf invocation resolution.identity).layout.hostGroupFile =
      hostGroupFileOf invocation.home := rfl
  rw [same] at read parsed
  have found : resolution = text.resolveIdentity language (shortHostName invocation.hostName)
      (hostGroupFileOf invocation.home) := by
    rw [FileSystem.resolveIdentity, read] at resolved
    cases resolved
    rfl
  have tried := resolution_of_parseRules (shortHostName invocation.hostName) clean parsed
  rw [tried] at found
  have named : resolution.identity.shortName = shortHostName invocation.hostName := by
    rw [found]
    cases rules.find? fun rule => rule.appliesTo (shortHostName invocation.hostName) <;> rfl
  have spelled : (contextOf invocation resolution.identity).identity.shortName =
      shortHostName invocation.hostName := named
  refine ⟨text, rules, read, clean, parsed, ?_, ?_, told⟩
  · rw [spelled, same, resolved]
    rw [found]
    rfl
  · rw [spelled]
    rw [found]
    rfl

theorem isSome_of_diagnostics_eq_nil {line : Line} (silent : (Directive.ofLine file line).2 = []) :
    (Directive.ofLine file line).1.isSome := by
  have none := List.map_eq_nil_iff.1 silent
  rw [Directive.ofLine, Option.isSome_map, Option.isSome_iff_ne_none]
  exact fun refused => remarks_ne_nil_of_none refused none

theorem agreesOnTransfers {directives : List Directive} {status : TaskStatus}
    (read : files.readConfig context.layout.transferFile = .ok text)
    (clean : text.diagnostics = [])
    (parsed : parseDirectives context.layout.transferFile text.content = (directives, []))
    (skipped : status = .skipped ↔ directives = [])
    (told : directives ≠ [] →
      ⟨.info, toString directives.length ++ " transfer directive(s)"⟩ ∈ events) :
    AgreesOnTransfers context files status events := by
  refine ⟨text, directives, read, clean, parsed, skipped, told, ?_⟩
  rintro roots sync mode world rfl
  have none : countNoDirective context.layout.transferFile (directiveLines text.content) = 0 := by
    refine List.countP_eq_zero.2 fun line member => ?_
    have silent := List.flatMap_eq_nil_iff.1 (congrArg Prod.snd parsed) line member
    simp [Option.isNone_eq_false_iff.2 (isSome_of_diagnostics_eq_nil silent)]
  have ends : (applyTransferFile context.layout.transferFile roots sync mode).Ends world _ :=
    performs_of_readConfig read
  rw [directivesOf_eq read, parsed, none, clean] at ends
  unfold Run.Ends at ends
  split at ends
  · next answer after ended =>
      obtain ⟨outcomes, same, performed⟩ := ends
      cases same
      have counted := TransferReport.sum_ofOutcomes outcomes 0
      exact ⟨_, after, ended, rfl, counted.trans performed.length_eq⟩
  · obtain ⟨_, same, _⟩ := ends
    cases same

def scratchName (world : World) : Text.Bytes :=
  Text.encode ("multihome-self-test-" ++ toString world.processId)

theorem scratchDirectory_eq (world : World) :
    scratchDirectory world = (temporaryDirectory world).join ⟨scratchName world⟩ := rfl

theorem ordinaryName_scratchName (world : World) : OrdinaryName (scratchName world) := by
  have spelled : ("multihome-self-test-" ++ toString world.processId).toList =
      "multihome-self-test-".toList ++ Nat.toDigits 10 world.processId := by
    rw [String.toList_append]
    exact congrArg _ Nat.toList_repr
  have begins : ("multihome-self-test-" ++ toString world.processId).toList.head? = some 'm' := by
    rw [spelled]
    rfl
  have noSlash : '/' ∉ ("multihome-self-test-" ++ toString world.processId).toList := by
    rw [spelled, List.mem_append, not_or]
    refine ⟨by decide, fun member => ?_⟩
    have digit := Nat.isDigit_of_mem_toDigits (by decide) (by decide) member
    cases digit
  have other {text : String} (different : text.toList.head? ≠ some 'm') :
      "multihome-self-test-" ++ toString world.processId ≠ text := by
    intro same
    rw [same] at begins
    exact different begins
  apply ordinaryName_of_homeNameFault?
  rw [homeNameFault?_eq_none_iff]
  exact ⟨other (by decide), other (by decide), other (by decide), noSlash⟩

/-- The checks come one after the other to files that are as the setup found them. -/
theorem selfTest_lengthens (language : PatternLanguage)
    (keeps : context.sync.executor.KeepsFiles)
    (temporary : world.files.LeadsInto (temporaryDirectory world) directory)
    (absent : world.files.findLink (scratchDirectory world) = .error .absent)
    (reported : OnlyReports world ready) :
    (selfTest language context).Ends ready fun _ after => ∃ entries events,
      Lengthens (Alike world.files) (scratchDirectory world) entries events ready after ∧
        AttestEach context (Alike world.files) events (checks language) entries := by
  rw [scratchDirectory_eq] at absent
  have ordinary := ordinaryName_scratchName world
  obtain ⟨placed, vacant⟩ :=
    FileSystem.placedAt_of_findLink_eq_absent ordinary temporary absent
  have free : Free world.files (scratchDirectory world) directory (scratchName world) :=
    ⟨vacant, placed, temporaryDirectory world, ordinary, rfl⟩
  have stands : Stands (Alike world.files) (scratchDirectory world) ready := by
    obtain ⟨events, rfl⟩ := reported
    exact ⟨.refl _, rfl⟩
  refine runToCompletion_lengthens
    (attemptAll_lengthens (checks_preserve keeps (checkFiles_preserves free)) stands) ?_
  intro entries events more attest
  exact attest.mono (List.subset_append_left _ _)

/-- The files that the check of files leaves are those that the checks behind it come to, and those
that the self-test leaves. -/
theorem selfTest_leads (language : PatternLanguage) {before holds : FileSystem → Prop}
    {scratch : Path} (keeps : context.sync.executor.KeepsFiles)
    (leads : Leads before holds scratch (checkFiles.run context))
    (stands : Stands before scratch ready) :
    (selfTest language context).Ends ready fun _ after => ∃ entries events,
      Lengthens holds scratch entries events ready after ∧
        ∃ others, others ⊆ entries ∧ AttestEach context holds events
          [validateHostGroups language, validateTransfers] others := by
  refine runToCompletion_lengthens ?_ fun ⟨others, within, attest⟩ =>
    ⟨others, within, attest.mono (List.subset_append_left _ _)⟩
  rw [checks_eq, attemptAll_append, Run.ends_bind]
  refine (attemptAll_lengthens (surroundings_preserve keeps) stands).imp ?_
  rintro _ early ⟨rfl, entries, events, first, _⟩
  rw [attemptAll, Run.ends_bind]
  refine (Task.attempt_lengthens leads ?_ first.stands).imp ?_
  · intro _ _ spared
    cases spared
  rintro _ middle ⟨rfl, entry, told, second, _⟩
  refine (attemptAll_lengthens configuration_preserves second.stands).imp ?_
  rintro _ after ⟨rfl, others, more, third, attest⟩
  exact ⟨rfl, _, _, (first.trans second).trans third, others, List.subset_append_right _ _,
    attest.mono (List.subset_append_right _ _)⟩

theorem nodup_names_checks (language : PatternLanguage) :
    ((checks language).map Task.name).Nodup := by
  have names : (checks language).map Task.name = ["Check sync tool", "Check process execution",
      "Check text utilities", "Check filesystem primitives", "Validate host groups",
      "Validate transfer config"] := rfl
  rw [names]
  decide

theorem mem_of_reports {moment : World} {told reported : List Event} {event : Event}
    (first : after.events = moment.events ++ told) (also : after.events = moment.events ++ reported)
    (among : told ⊆ events) (member : event ∈ reported) : event ∈ events := by
  obtain rfl := List.append_cancel_left (first.symm.trans also)
  exact among member

/-- The self-test records each check.  Where it finds nothing wrong with the host groups, the setup
has found the identity that they give.  Where it finds nothing wrong with the transfers, they are
applied to their end. -/
def SelfTestAgrees (language : PatternLanguage) (context : Context) (files : FileSystem)
    (ready : World) : Prop :=
  ∃ entries events,
    ((selfTest language context).worldAfter ready).record = ready.record ++ entries ∧
    ((selfTest language context).worldAfter ready).events = ready.events ++ events ∧
    entries.map TaskEntry.name = (checks language).map Task.name ∧
    (∀ message, ⟨(validateHostGroups language).name, .ok, message⟩ ∈ entries →
      AgreesOnHostGroups language context files events) ∧
    ∀ status message, status = .ok ∨ status = .skipped →
      ⟨validateTransfers.name, status, message⟩ ∈ entries →
        AgreesOnTransfers context files status events

/-- If there is a directory for temporary files, and the directory for checks is not in it yet, the
self-test and the runs that it stands for agree about the configuration. -/
theorem selfTest_agrees_with_setup
    (given : setup language invocation world = .ok context ready)
    (keeps : context.sync.executor.KeepsFiles)
    (temporary : ∃ directory, world.files.LeadsInto (temporaryDirectory world) directory)
    (absent : world.files.findLink (scratchDirectory world) = .error .absent) :
    SelfTestAgrees language context world.files ready := by
  obtain ⟨directory, temporary⟩ := temporary
  obtain ⟨_, _, _, _, reported⟩ := setup_eq_ok given
  obtain ⟨entries, events, longer, attest⟩ :=
    (selfTest_lengthens language keeps temporary absent reported).worldAfter
  have nodup := nodup_names_checks language
  refine ⟨entries, events, longer.record, longer.events, attest.map_name_eq, ?_, ?_⟩
  · intro message member
    have attests := attest.attests nodup (by simp [checks]) member rfl
    obtain ⟨moment, value, after, told, alike, applies, ran, _, after_eq, among⟩ :=
      attests.exists_run (.inl rfl)
    obtain ⟨text, rules, read, clean, parsed, listed⟩ := validateHostGroups_eq_ok ran
    refine agreesOnHostGroups given (readConfig_of_alike alike applies read) clean parsed ?_
    exact mem_of_reports after_eq listed among (List.mem_singleton_self _)
  · intro status message ended member
    have attests := attest.attests nodup (by simp [checks]) member rfl
    obtain ⟨moment, value, after, told, alike, applies, ran, same, after_eq, among⟩ :=
      attests.exists_run ended
    obtain ⟨text, directives, read, clean, parsed, skipped, listed⟩ := validateTransfers_eq_ok ran
    dsimp only at same
    rw [← same] at skipped
    refine agreesOnTransfers (readConfig_of_alike alike applies read) clean parsed skipped
      fun some => ?_
    obtain ⟨reported, after_told, within⟩ := listed some
    exact mem_of_reports after_eq after_told among within

def configuredFiles : FileSystem :=
  homeFiles
    |>.add configLocation.tail (Text.encode configDirectoryName) (.directory directoryPermissions)
    |>.add configLocation (Text.encode hostGroupFileName)
      (.file 0 filePermissions (Text.encode "web = www\n"))
    |>.add configLocation (Text.encode transferFileName)
      (.file 1 filePermissions (Text.encode "L a\n"))

/-- A world with these files, and with a directory for temporary files. -/
def configuredWorld (temporary : String) : World where
  files := configuredFiles
  environment := ({} : Execution.Environment).set temporaryVariable (Text.encode temporary)

/-- A run on the host `web01`, with a sync tool that does nothing. -/
def invocationAt (home : String) : Invocation where
  home := .ofText home
  hostName := "web01"
  entryPoint := .ofText "multihome"
  sync := ⟨.ofText syncProgramName, .answering []⟩

/-- What is found with the home, also as the directory for temporary files. -/
theorem found_at_home :
    configuredFiles.readFile (hostGroupFileOf (.ofText "/home")) =
        .ok (Text.encode "web = www\n") ∧
      configuredFiles.readFile
          (Layout.of (.ofText "/home") "www" systemSkeletonPath).transferFile =
        .ok (Text.encode "L a\n") ∧
      (configuredWorld "/home").files.LeadsInto (temporaryDirectory (configuredWorld "/home"))
        [Text.encode "home"] ∧
      (configuredWorld "/home").files.findLink (scratchDirectory (configuredWorld "/home")) =
        .error .absent := by
  unfold FileSystem.LeadsInto
  refine ⟨?_, ?_, ?_, ?_⟩ <;> cbv

theorem decode_hostGroups : Text.decode? (Text.encode "web = www\n") = some "web = www\n" := by
  decide +kernel

theorem decode_transfers : Text.decode? (Text.encode "L a\n") = some "L a\n" := by
  decide +kernel

theorem resolveIdentity_hostGroups :
    FileText.resolveIdentity regularExpressions "web01" (hostGroupFileOf (.ofText "/home"))
      ⟨"web = www\n", []⟩ = ⟨⟨"web01", "www", true⟩, []⟩ := by
  decide +kernel

theorem exists_rules_hostGroups :
    ∃ rules, parseRules regularExpressions (hostGroupFileOf (.ofText "/home")) "web = www\n" =
      (rules, []) := by
  have clean : (parseRules regularExpressions (hostGroupFileOf (.ofText "/home"))
      "web = www\n").2 = [] := by decide +kernel
  exact ⟨_, Prod.ext rfl clean⟩

theorem parseDirectives_transfers (file : Path) :
    parseDirectives file "L a\n" = ([⟨.symbolicLink, "a", 1⟩], []) := rfl

/-- A self-test that finds nothing wrong, with the home as the directory for temporary files. -/
theorem selfTest_agrees_for_configuredWorld :
    ∃ context ready events,
      setup regularExpressions (invocationAt "/home") (configuredWorld "/home") =
        .ok context ready ∧
      ((selfTest regularExpressions context).worldAfter ready).events = ready.events ++ events ∧
      AgreesOnHostGroups regularExpressions context configuredFiles events ∧
      AgreesOnTransfers context configuredFiles .ok events := by
  obtain ⟨readGroups, readTransfers, temporary, absent⟩ := found_at_home
  have resolved : configuredFiles.resolveIdentity regularExpressions "web01"
      (hostGroupFileOf (.ofText "/home")) = .ok ⟨⟨"web01", "www", true⟩, []⟩ := by
    rw [FileSystem.resolveIdentity, readConfig_of_readFile readGroups decode_hostGroups]
    exact congrArg _ resolveIdentity_hostGroups
  obtain ⟨ready, given⟩ := exists_setup (invocationAt "/home") (configuredWorld "/home")
    resolved (by decide)
  have keeps : (contextOf (invocationAt "/home") ⟨"web01", "www", true⟩).sync.executor.KeepsFiles :=
    Execution.Executor.answering_keepsFiles []
  obtain ⟨entries, events, record, told, names, groups, transfers⟩ :=
    selfTest_agrees_with_setup given keeps ⟨_, temporary⟩ absent
  obtain ⟨_, _, _, _, reported⟩ := setup_eq_ok given
  obtain ⟨found, _, longer, attest⟩ :=
    (selfTest_lengthens regularExpressions keeps temporary absent reported).worldAfter
  obtain rfl := List.append_cancel_left (longer.record.symm.trans record)
  have valid : ∃ message, ⟨(validateHostGroups regularExpressions).name, .ok, message⟩ ∈ found := by
    refine attest.mem_of_statusAt (by simp [checks]) fun moment alike => ?_
    obtain ⟨rules, parsed⟩ := exists_rules_hostGroups
    have read := alike.readFile readGroups
    exact statusAt_validateHostGroups (exists?_of_readFile read)
      (readConfig_of_readFile read decode_hostGroups) rfl parsed
  have validTransfers : ∃ message, ⟨validateTransfers.name, .ok, message⟩ ∈ found := by
    refine attest.mem_of_statusAt (by simp [checks]) fun moment alike => ?_
    have read := alike.readFile readTransfers
    exact statusAt_validateTransfers (exists?_of_readFile read)
      (readConfig_of_readFile read decode_transfers) rfl (parseDirectives_transfers _) (by simp)
  obtain ⟨message, member⟩ := valid
  obtain ⟨remark, listed⟩ := validTransfers
  exact ⟨_, ready, events, given, told, groups message member,
    transfers .ok remark (.inl rfl) listed⟩

/-- The directory for checks, below a directory that is not there. -/
def lostScratch : Path := scratchDirectory (configuredWorld "/home/new")

def lostTree : Path := lostScratch.joinText "this/is/a/test"

def treeFiles : FileSystem := (configuredFiles.ensureTree lostTree).1

def touchedFiles : FileSystem :=
  treeFiles.add (lostTree.pieces.reverse.filter (· ≠ [])) (Text.encode "file")
    (.file 2 filePermissions [])

/-- The files from which the directory for checks is removed, but not the one above it. -/
def clearedFiles : FileSystem :=
  configuredFiles.add [Text.encode "home"] (Text.encode "new") (.directory directoryPermissions)

def lostContext : Context := contextOf (invocationAt "/home/new/..") (.unmatched "web01")

/-- The tree is put up, and what is removed again is not all that was created.  So the transfer file
is found afterwards, and it was not before. -/
theorem lostTree_put_up :
    configuredFiles.hasEntry lostScratch = false ∧
      configuredFiles.readFile lostContext.layout.hostGroupFile = .error .absent ∧
      configuredFiles.readFile lostContext.layout.transferFile = .error .absent ∧
      configuredFiles.ensureTree lostTree = (treeFiles, .ok ()) ∧
      treeFiles.ensureTree lostTree = (treeFiles, .ok ()) ∧
      treeFiles.isDirectory lostTree = true ∧
      treeFiles.touch (lostTree.joinText "file") = .ok touchedFiles ∧
      touchedFiles.touch (lostTree.joinText "file") = .ok touchedFiles ∧
      touchedFiles.isFile (lostTree.joinText "file") = true ∧
      touchedFiles.removeTree lostScratch = .ok clearedFiles ∧
      clearedFiles.readFile lostContext.layout.transferFile = .ok (Text.encode "L a\n") := by
  refine ⟨?_, ?_, ?_, ?_, ?_, ?_, ?_, ?_, ?_, ?_, ?_⟩ <;> cbv

/-- The directory above the one for checks is created, and it stays. -/
theorem checkFiles_leads_clearedFiles :
    Leads (· = configuredFiles) (· = clearedFiles) lostScratch (checkFiles.run context) := by
  rintro world ⟨files, scratch⟩
  have tree : lostScratch.joinText "this/is/a/test" = lostTree := rfl
  obtain ⟨_, _, _, put, again, directory, touched, touchedAgain, file, removed, _⟩ :=
    lostTree_put_up
  simp only [checkFiles, exerciseFiles, removeScratch, Run.ends_bind, Run.ends_get,
    Run.ends_tryCatch, Run.ends_changeStepwise, Run.ends_change, Run.ends_files, scratch, tree,
    files, put, again, directory, touched, touchedAgain, file, removed, Bool.not_true,
    Bool.false_eq_true, if_false, Run.ends_pure, Run.ends_setFiles]
  exact ⟨⟨⟨rfl, scratch⟩, rfl, [], by simp⟩, by simp⟩

/-- The transfer file is found once the directory above the one for checks is there. -/
theorem selfTest_lengthens_lostContext (stands : Stands (· = configuredFiles) lostScratch ready) :
    (selfTest regularExpressions lostContext).Ends ready fun _ after => ∃ entries events,
      Lengthens (· = clearedFiles) lostScratch entries events ready after ∧
        ∃ message, ⟨validateTransfers.name, .ok, message⟩ ∈ entries := by
  have keeps : lostContext.sync.executor.KeepsFiles := Execution.Executor.answering_keepsFiles []
  refine (selfTest_leads regularExpressions keeps checkFiles_leads_clearedFiles stands).imp ?_
  rintro _ after ⟨entries, events, longer, others, within, attest⟩
  refine ⟨entries, events, longer, ?_⟩
  obtain ⟨message, member⟩ : ∃ message, ⟨validateTransfers.name, .ok, message⟩ ∈ others := by
    refine attest.mem_of_statusAt (by simp) ?_
    rintro moment files
    obtain ⟨_, _, _, _, _, _, _, _, _, _, read⟩ := lostTree_put_up
    rw [← files] at read
    exact statusAt_validateTransfers (exists?_of_readFile read)
      (readConfig_of_readFile read decode_transfers) rfl (parseDirectives_transfers _) (by simp)
  exact ⟨message, within member⟩

/-- Without a directory for temporary files, the self-test may find a configuration that other runs
do not find. -/
theorem not_selfTest_agrees :
    ¬ ∀ (invocation : Invocation) (world ready : World) (context : Context),
      setup regularExpressions invocation world = .ok context ready →
      context.sync.executor.KeepsFiles →
      world.files.hasEntry (scratchDirectory world) = false →
      SelfTestAgrees regularExpressions context world.files ready := by
  intro agree
  obtain ⟨noScratch, noGroups, noTransfers, _⟩ := lostTree_put_up
  have resolved : configuredFiles.resolveIdentity regularExpressions "web01"
      (hostGroupFileOf (.ofText "/home/new/..")) = .ok ⟨.unmatched "web01", []⟩ :=
    resolveIdentity_of_absent noGroups "web01"
  obtain ⟨ready, given⟩ := exists_setup (invocationAt "/home/new/..")
    (configuredWorld "/home/new") resolved (by decide)
  obtain ⟨entries, events, record, told, names, groups, transfers⟩ := agree _ _ _ _ given
    (Execution.Executor.answering_keepsFiles []) noScratch
  obtain ⟨_, _, _, _, reported⟩ := setup_eq_ok given
  have stands : Stands (· = configuredFiles) lostScratch ready := by
    obtain ⟨_, rfl⟩ := reported
    exact ⟨rfl, rfl⟩
  obtain ⟨found, _, longer, message, member⟩ :=
    (selfTest_lengthens_lostContext stands).worldAfter
  obtain rfl := List.append_cancel_left (longer.record.symm.trans record)
  obtain ⟨text, directives, read, _, parsed, skipped, _⟩ :=
    transfers .ok message (.inl rfl) member
  have nothing : configuredFiles.readConfig lostContext.layout.transferFile = .ok {} := by
    rw [FileSystem.readConfig, noTransfers]
    rfl
  obtain rfl := Except.ok.inj (read.symm.trans nothing)
  cases parsed
  cases skipped.2 rfl

end HostHome.Provision
