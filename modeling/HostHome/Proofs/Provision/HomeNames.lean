import HostHome.Proofs.Config.HostGroup
import HostHome.Proofs.Path.Components
import HostHome.Proofs.Provision.Setup

/-!
# Hosts and their homes

The setup of a run gives each name a home of its own: a directory in the directory of
all per-host homes, under this name and no other.  The name is that of the first rule
that applies to the host, or else the name of the host itself, without its domain.  A
rule whose replacement cannot name a directory is no rule, so only a host that no rule
applies to can be refused for its name.
-/

namespace HostHome

namespace Config

variable {short : String}

theorem shortHostName_of_notMem (noDot : '.' ∉ short.toList) : shortHostName short = short := by
  simp [shortHostName, Text.splitAtChar?, Text.splitFirst?_of_notMem noDot]

/-- What stands behind the first dot is the domain, and no part of the name. -/
theorem shortHostName_append_domain (noDot : '.' ∉ short.toList) (domain : String) :
    shortHostName (short ++ "." ++ domain) = short := by
  have split := Text.splitFirst?_append_separator noDot domain.toList
  simp [shortHostName, Text.splitAtChar?, split]

theorem dot_notMem_shortHostName (name : String) : '.' ∉ (shortHostName name).toList := by
  by_cases dotted : '.' ∈ name.toList
  · obtain ⟨front, back, spelled, noDot⟩ := List.eq_append_cons_of_mem dotted
    have split := Text.splitFirst?_append_separator noDot back
    simpa [shortHostName, Text.splitAtChar?, spelled, split] using noDot
  · rwa [shortHostName_of_notMem dotted]

/-- The identity that a file gives a host: that of the first of its rules that applies. -/
theorem identity_resolveIdentity (language : PatternLanguage) (shortName : String) (file : Path)
    (text : FileText) :
    (text.resolveIdentity language shortName file).identity =
      match (parseRules language file text.content).1.find? fun rule =>
          rule.appliesTo shortName with
      | some rule => ⟨shortName, rule.replacement, true⟩
      | none => .unmatched shortName := by
  simp only [FileText.resolveIdentity, resolveIdentity_eq_ofRules, Resolution.ofRules]
  cases (parseRules language file text.content).1.find? fun rule => rule.appliesTo shortName <;>
    rfl

/-- No directory can have the name that a file gives a host only if no rule of the file applies,
and if none can have the name of the host. -/
theorem homeNameFault?_resolveIdentity_eq_none_iff (language : PatternLanguage)
    (shortName : String) (file : Path) (text : FileText) :
    homeNameFault? (text.resolveIdentity language shortName file).identity.homeName = none ↔
      (∃ rule ∈ (parseRules language file text.content).1, rule.appliesTo shortName) ∨
        homeNameFault? shortName = none := by
  rw [identity_resolveIdentity]
  cases found : (parseRules language file text.content).1.find? fun rule =>
      rule.appliesTo shortName with
  | some rule =>
      have member := List.mem_of_find?_eq_some found
      obtain ⟨line, _, read⟩ := mem_rules_iff.1 member
      have applies := List.find?_some found
      exact iff_of_true (homeNameFault?_replacement read) (.inl ⟨rule, member, applies⟩)
  | none =>
      have none := List.find?_eq_none.1 found
      simp only [HostIdentity.unmatched]
      constructor
      · exact .inr
      · rintro (⟨rule, member, applies⟩ | fine)
        · exact absurd applies (none rule member)
        · exact fine

end Config

namespace Provision

open HostHome.Config

/-- The layout is that of a home with a name: the name is that of one directory, the home is this
directory among all per-host homes of the shared home, and its link and its marker are in it. -/
structure IsHomeOf (layout : Layout) (sharedHome : Path) (name : String) : Prop where
  nonempty : name ≠ ""
  notDot : name ≠ "."
  notDots : name ≠ ".."
  noSlash : '/' ∉ name.toList
  hostHome : layout.hostHome.IsChild (sharedHome.joinText perHostDirectoryName) (Text.encode name)
  topLink : layout.topLink.IsChild layout.hostHome (Text.encode topLinkName)
  marker : layout.marker.IsChild layout.hostHome (Text.encode markerName)

variable {language : PatternLanguage} {invocation other : Invocation} {world : World}
  {name otherName : String}

theorem isHomeOf_layout (accepted : homeNameFault? name = none)
    (sharedHome systemSkeleton : Path) :
    IsHomeOf (.of sharedHome name systemSkeleton) sharedHome name := by
  obtain ⟨nonempty, notDot, notDots, noSlash⟩ := homeNameFault?_eq_none_iff.1 accepted
  refine ⟨nonempty, notDot, notDots, noSlash, ?_, ?_, ?_⟩
  · exact Path.isChild_joinName (ordinaryName_of_homeNameFault? accepted) _
  · exact Path.isChild_joinName ordinaryName_topLinkName _
  · exact Path.isChild_joinName ordinaryName_markerName _

theorem hostHomeOf_sameAs_iff (accepted : homeNameFault? name = none)
    (acceptedOther : homeNameFault? otherName = none) (sharedHome : Path) :
    (hostHomeOf sharedHome name).sameAs (hostHomeOf sharedHome otherName) ↔ name = otherName := by
  have same := Path.joinName_sameAs_iff (ordinaryName_of_homeNameFault? accepted)
    (ordinaryName_of_homeNameFault? acceptedOther) (sharedHome.joinText perHostDirectoryName)
  exact same.trans ⟨fun bytes => Text.encode_injective bytes, congrArg Text.encode⟩

theorem setupResult_domain {short : String} (noDot : '.' ∉ short.toList) (domain : String)
    (files : FileSystem) (context : Context) :
    setupResult language { invocation with hostName := short ++ "." ++ domain } files =
        .ok context ↔
      setupResult language { invocation with hostName := short } files = .ok context := by
  simp only [setupResult, shortHostName_append_domain noDot, shortHostName_of_notMem noDot]
  cases files.resolveIdentity language short (hostGroupFileOf invocation.home) with
  | error cause => rfl
  | ok resolution =>
      dsimp only
      cases homeNameFault? resolution.identity.homeName with
      | some fault => simp
      | none => rfl

theorem readConfig_eq_error {files : FileSystem} {file : Path} {cause : Cause}
    (refused : files.readConfig file = .error cause) :
    ∃ error, cause = .unreadableConfig file error ∧
      files.readFile file = .error error ∧ error ≠ .absent := by
  unfold FileSystem.readConfig at refused
  split at refused
  · cases refused
  · next error unread =>
      split at refused
      · cases refused
      · next present =>
          cases refused
          exact ⟨error, rfl, unread, present⟩

/-- A host is refused for its name if its host-group file can be read, no rule applies to it, and no
directory can have its own name. -/
theorem setupResult_eq_invalidHomeName_iff {files : FileSystem} :
    (∃ name hostName reason contexts, setupResult language invocation files =
        .error (.failure ⟨.invalidHomeName name hostName reason, contexts⟩)) ↔
      ∃ text, files.readConfig (hostGroupFileOf invocation.home) = .ok text ∧
        (∀ rule ∈ (parseRules language (hostGroupFileOf invocation.home) text.content).1,
          rule.appliesTo (shortHostName invocation.hostName) = false) ∧
        homeNameFault? (shortHostName invocation.hostName) ≠ none := by
  cases read : files.readConfig (hostGroupFileOf invocation.home) with
  | error cause =>
      obtain ⟨error, rfl, _⟩ := readConfig_eq_error read
      simp [setupResult, FileSystem.resolveIdentity, read, bind, Except.bind]
  | ok text =>
      have resolved : files.resolveIdentity language (shortHostName invocation.hostName)
          (hostGroupFileOf invocation.home) = .ok (text.resolveIdentity language
            (shortHostName invocation.hostName) (hostGroupFileOf invocation.home)) := by
        rw [FileSystem.resolveIdentity, read]
        rfl
      have named := homeNameFault?_resolveIdentity_eq_none_iff language
        (shortHostName invocation.hostName) (hostGroupFileOf invocation.home) text
      simp only [setupResult, resolved, Except.ok.injEq, exists_eq_left']
      cases fault : homeNameFault? (text.resolveIdentity language
          (shortHostName invocation.hostName)
          (hostGroupFileOf invocation.home)).identity.homeName with
      | none =>
          rcases named.1 fault with ⟨rule, member, applies⟩ | fine
          · refine iff_of_false (by simp) fun given => ?_
            simp [given.1 rule member] at applies
          · exact iff_of_false (by simp) fun given => given.2 fine
      | some found =>
          rw [fault] at named
          obtain ⟨spared, refused⟩ := not_or.1 (mt named.2 (by simp))
          refine iff_of_true ⟨_, _, _, _, rfl⟩ ⟨?_, refused⟩
          intro rule member
          exact Bool.eq_false_iff.2 fun applies => spared ⟨rule, member, applies⟩

/-- Where the setup succeeds, the home of a host lies under its name, and under no other, in the
directory of all per-host homes, with its link and its marker in it, and homes with different names
are different directories of one shared home.  The domain of a host counts for nothing.  A host is
refused for its name exactly if its host-group file can be read (one that is missing says nothing),
no rule applies to it, and no directory can have its own name. -/
theorem setup_names_homes (language : PatternLanguage) (invocation : Invocation) (world : World) :
    (∀ context ready, setup language invocation world = .ok context ready →
      IsHomeOf context.layout invocation.home context.identity.homeName) ∧
    (∀ context ready other otherWorld otherContext otherReady,
      setup language invocation world = .ok context ready →
      setup language other otherWorld = .ok otherContext otherReady →
      other.home = invocation.home →
      (context.layout.hostHome.sameAs otherContext.layout.hostHome ↔
        context.identity.homeName = otherContext.identity.homeName)) ∧
    (∀ short domain : String, '.' ∉ short.toList → ∀ context,
      (∃ ready, setup language { invocation with hostName := short ++ "." ++ domain } world =
          .ok context ready) ↔
        ∃ ready, setup language { invocation with hostName := short } world =
          .ok context ready) ∧
    ((∃ name hostName reason contexts after, setup language invocation world =
        .error (.failure ⟨.invalidHomeName name hostName reason, contexts⟩) after) ↔
      ∃ text, world.files.readConfig (hostGroupFileOf invocation.home) = .ok text ∧
        (∀ rule ∈ (parseRules language (hostGroupFileOf invocation.home) text.content).1,
          rule.appliesTo (shortHostName invocation.hostName) = false) ∧
        homeNameFault? (shortHostName invocation.hostName) ≠ none) := by
  refine ⟨?_, ?_, ?_, ?_⟩
  · intro context ready given
    obtain ⟨resolution, _, named, rfl, _⟩ := setup_eq_ok given
    exact isHomeOf_layout named _ _
  · intro context ready other otherWorld otherContext otherReady given givenOther same
    obtain ⟨resolution, _, named, rfl, _⟩ := setup_eq_ok given
    obtain ⟨otherResolution, _, namedOther, rfl, _⟩ := setup_eq_ok givenOther
    have apart := hostHomeOf_sameAs_iff named namedOther invocation.home
    simpa only [contextOf, Layout.of, same] using apart
  · intro short domain noDot context
    rw [exists_setup_eq_ok_iff, exists_setup_eq_ok_iff]
    exact setupResult_domain noDot domain world.files context
  · simp only [exists_setup_eq_error_iff]
    exact setupResult_eq_invalidHomeName_iff

theorem home_of_host_with_domain :
    let invocation : Invocation := {
      home := .ofText "/home"
      hostName := "web01.example.org"
      entryPoint := .ofText "multihome"
      sync := ⟨.ofText syncProgramName, .answering []⟩ }
    ∃ context ready, setup regularExpressions invocation { files := homeFiles } =
        .ok context ready ∧
      context.identity = .unmatched "web01" ∧
      IsHomeOf context.layout (.ofText "/home") "web01" := by
  intro invocation
  obtain ⟨contained, _, domain, _⟩ :=
    setup_names_homes regularExpressions invocation { files := homeFiles }
  have short : shortHostName "web01" = "web01" := by decide
  have absent : homeFiles.readFile (hostGroupFileOf invocation.home) = .error .absent := by cbv
  have resolved : homeFiles.resolveIdentity regularExpressions (shortHostName "web01")
      (hostGroupFileOf invocation.home) = .ok ⟨.unmatched (shortHostName "web01"), []⟩ :=
    resolveIdentity_of_absent absent _
  obtain ⟨ready, given⟩ := exists_setup { invocation with hostName := "web01" }
    { files := homeFiles } resolved (by decide)
  obtain ⟨ready, given⟩ := (domain "web01" "example.org" (by decide) _).2 ⟨ready, given⟩
  have spelled : "web01" ++ "." ++ "example.org" = invocation.hostName := by decide
  rw [spelled] at given
  have home := contained _ _ given
  simp only [contextOf, HostIdentity.unmatched, short] at home
  exact ⟨_, ready, given, by simp only [contextOf, short], home⟩

end Provision

end HostHome
