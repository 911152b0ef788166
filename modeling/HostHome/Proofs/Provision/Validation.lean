import HostHome.Proofs.Provision.Attempts
import HostHome.Proofs.Provision.Setup

/-!
# Checks of configuration files

A file is found to be right exactly if nothing in it is reported.  The check reads it
as a whole, and its verdict depends on nothing but the text.
-/

namespace HostHome.Provision

open HostHome.Config
open HostHome.FileSystem (Alike)

variable {world after moment : World} {files : FileSystem} {file : Path} {text : FileText}
  {context : Context} {language : PatternLanguage} {value : TaskResult}

theorem readFile_ne_absent (there : files.exists? file) : files.readFile file ≠ .error .absent := by
  intro absent
  unfold FileSystem.readFile at absent
  unfold FileSystem.exists? at there
  cases found : files.find file with
  | error error => rw [found] at there; cases there
  | ok place =>
      simp only [found, bind, Except.bind] at absent
      split at absent <;> cases absent

theorem exists?_of_readFile {bytes : Text.Bytes} (read : files.readFile file = .ok bytes) :
    files.exists? file := by
  unfold FileSystem.readFile at read
  unfold FileSystem.exists?
  cases found : files.find file with
  | error error => simp [found, bind, Except.bind] at read
  | ok place => rfl

/-- What can be read of a file that is there can be read of it where the same entries are. -/
theorem readConfig_of_alike (alike : Alike files world.files) (there : world.files.exists? file)
    (read : world.files.readConfig file = .ok text) : files.readConfig file = .ok text := by
  unfold FileSystem.readConfig at read ⊢
  cases content : world.files.readFile file with
  | ok bytes =>
      rw [content] at read
      rw [alike.symm.readFile content]
      exact read
  | error error =>
      have known : error ≠ .absent := by
        rintro rfl
        exact readFile_ne_absent there content
      simp [content, known] at read

theorem readConfig_of_readFile {bytes : Text.Bytes} {content : String}
    (read : files.readFile file = .ok bytes) (decoded : Text.decode? bytes = some content) :
    files.readConfig file = .ok ⟨content, []⟩ := by
  simp only [FileSystem.readConfig, read, FileText.ofBytes, decoded]

/-- A host-group file that was validated holds nothing but rules. -/
theorem validateHostGroups_eq_ok
    (ran : (validateHostGroups language).run context moment = .ok value after) :
    ∃ text rules, moment.files.readConfig context.layout.hostGroupFile = .ok text ∧
      text.diagnostics = [] ∧
      parseRules language context.layout.hostGroupFile text.content = (rules, []) ∧
      after.events = moment.events ++ [⟨.info, ruleReport rules context.identity.shortName⟩] := by
  obtain ⟨files, _, given, reading⟩ := bind_eq_ok ran
  cases given
  obtain ⟨text, _, got, validating⟩ := bind_eq_ok reading
  obtain ⟨read, rfl⟩ := ofExcept_eq_ok got
  refine ⟨text, (parseRules language context.layout.hostGroupFile text.content).1, read, ?_⟩
  generalize parseRules language context.layout.hostGroupFile text.content = parsed at validating ⊢
  obtain ⟨rules, diagnostics⟩ := parsed
  obtain ⟨_, reported, told, ending⟩ := bind_eq_ok validating
  by_cases none : text.diagnostics ++ diagnostics = []
  · rw [none] at told ending
    cases told
    cases ending
    obtain ⟨clean, rfl⟩ := List.append_eq_nil_iff.1 none
    exact ⟨clean, rfl, rfl⟩
  · rw [if_pos none] at ending
    cases ending

/-- A transfer file that was validated holds nothing but directives, and the check is skipped if
there are none. -/
theorem validateTransfers_eq_ok (ran : validateTransfers.run context moment = .ok value after) :
    ∃ text directives, moment.files.readConfig context.layout.transferFile = .ok text ∧
      text.diagnostics = [] ∧
      parseDirectives context.layout.transferFile text.content = (directives, []) ∧
      (value.status = .skipped ↔ directives = []) ∧
      (directives ≠ [] → ∃ told, after.events = moment.events ++ told ∧
        ⟨.info, toString directives.length ++ " transfer directive(s)"⟩ ∈ told) := by
  obtain ⟨files, _, given, reading⟩ := bind_eq_ok ran
  cases given
  obtain ⟨text, _, got, validating⟩ := bind_eq_ok reading
  obtain ⟨read, rfl⟩ := ofExcept_eq_ok got
  refine ⟨text, (parseDirectives context.layout.transferFile text.content).1, read, ?_⟩
  generalize parseDirectives context.layout.transferFile text.content = parsed at validating ⊢
  obtain ⟨directives, diagnostics⟩ := parsed
  obtain ⟨_, reported, told, checking⟩ := bind_eq_ok validating
  by_cases none : text.diagnostics ++ diagnostics = []
  · rw [none] at told checking
    cases told
    obtain ⟨clean, rfl⟩ := List.append_eq_nil_iff.1 none
    refine ⟨clean, rfl, ?_⟩
    obtain ⟨_, warned, sources, ending⟩ := bind_eq_ok checking
    have stands (world : World) : Stands (fun _ => True) (scratchDirectory world) world :=
      ⟨trivial, rfl⟩
    have only := (warnMissingSources_preserves _ _ _ _ (stands _)).of_ok sources
    obtain ⟨warnings, listed⟩ := only.1.events
    cases directives with
    | nil =>
        cases ending
        simp [TaskResult.status]
    | cons directive rest =>
        cases ending
        refine ⟨by simp [TaskResult.status], fun _ => ⟨warnings ++ [_], ?_,
          List.mem_append_right _ (List.mem_singleton_self _)⟩⟩
        rw [← List.append_assoc, ← listed]
  · rw [if_pos none] at checking
    cases checking

theorem statusAt_validateHostGroups {rules : List (HostRule language)}
    (there : moment.files.exists? context.layout.hostGroupFile)
    (read : moment.files.readConfig context.layout.hostGroupFile = .ok text)
    (clean : text.diagnostics = [])
    (parsed : parseRules language context.layout.hostGroupFile text.content = (rules, [])) :
    (validateHostGroups language).statusAt context moment = .ok := by
  have ends : ((validateHostGroups language).run context).Ends moment fun result _ =>
      result = .ok .done := by
    simp [validateHostGroups, Run.ends_ofExcept, read, clean, parsed, reportErrors, Run.info,
      Except.map]
  exact Task.statusAt_eq there ends

theorem warnMissingSources_ends (file sharedHome : Path) (directives : List Directive)
    (world : World) :
    (warnMissingSources file sharedHome directives).Ends world fun result _ => result = .ok () := by
  induction directives generalizing world with
  | nil => rfl
  | cons directive rest ih =>
      simp only [warnMissingSources, Run.warn, Run.ends_bind, Run.ends_files]
      split
      · exact ih _
      · exact ih world

theorem statusAt_validateTransfers {directives : List Directive}
    (there : moment.files.exists? context.layout.transferFile)
    (read : moment.files.readConfig context.layout.transferFile = .ok text)
    (clean : text.diagnostics = [])
    (parsed : parseDirectives context.layout.transferFile text.content = (directives, []))
    (some : directives ≠ []) : validateTransfers.statusAt context moment = .ok := by
  have ends : (validateTransfers.run context).Ends moment fun result _ =>
      result = .ok .done := by
    simp only [validateTransfers, Run.ends_bind, Run.ends_files, Run.ends_ofExcept, read, clean,
      parsed]
    simp only [List.append_nil, reportErrors, ne_eq, not_true_eq_false, if_false, Run.ends_pure,
      Run.ends_bind]
    refine (warnMissingSources_ends _ _ directives moment).imp ?_
    rintro _ after rfl
    have listed : ¬ directives.isEmpty := by simpa using some
    dsimp only
    rw [if_neg listed]
    rfl
  exact Task.statusAt_eq there ends

end HostHome.Provision
