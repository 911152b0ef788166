import HostHome.Config.HomeName
import HostHome.Config.Line
import HostHome.Config.Pattern

/-!
# Host groups

A host-group file maps host names to names of per-host homes. Each line holds a
pattern and a replacement, and the first rule whose pattern matches the name of a
host decides. Lines after that rule have no effect: they are not even read.
-/

namespace HostHome.Config

/-- The name of a host without its domain. -/
def shortHostName (name : String) : String :=
  match Text.splitAtChar? '.' name with
  | some (short, _) => short
  | none => name

/-- A rule: hosts whose name matches the pattern use the replacement. -/
structure HostRule (language : PatternLanguage) where
  pattern : language.Pattern
  patternText : String
  replacement : String
  line : Nat

def HostRule.appliesTo {language : PatternLanguage} (rule : HostRule language) (host : String) :
    Bool :=
  language.isMatch rule.pattern host

/-- Why a line is no rule. -/
inductive HostRuleFault where
  | noSeparator (text : String)
  | emptyPattern
  | emptyReplacement (pattern : String)
  | unusableReplacement (pattern : String) (fault : HomeNameFault)
  | unusablePattern (pattern : String) (reason : String)
  deriving DecidableEq, Repr

def HostRuleFault.message : HostRuleFault → String
  | noSeparator text => "Invalid format (expected 'pattern = replacement'): " ++ text
  | emptyPattern => "Empty pattern"
  | emptyReplacement pattern => "Empty replacement for pattern: " ++ pattern
  | unusableReplacement pattern fault =>
      "Invalid replacement for pattern " ++ pattern ++ ": " ++ fault.message
  | unusablePattern pattern reason => "Invalid pattern '" ++ pattern ++ "': " ++ reason

/-- Read the two fields of a rule, which stand on both sides of the first `=`. -/
def ruleFields (text : String) : Except HostRuleFault (String × String) :=
  match Text.splitAtChar? '=' text with
  | none => .error (.noSeparator text)
  | some (before, after) =>
      let pattern := Text.trim before
      let replacement := Text.trim after
      if pattern = "" then .error .emptyPattern
      else if replacement = "" then .error (.emptyReplacement pattern)
      else match homeNameFault? replacement with
        | some fault => .error (.unusableReplacement pattern fault)
        | none => .ok (pattern, replacement)

def HostRule.ofText (language : PatternLanguage) (line : Line) :
    Except HostRuleFault (HostRule language) := do
  let (patternText, replacement) ← ruleFields line.text
  match language.compile patternText with
  | .error reason => .error (.unusablePattern patternText reason)
  | .ok pattern => .ok ⟨pattern, patternText, replacement, line.number⟩

def HostRule.ofLine (language : PatternLanguage) (file : Path) (line : Line) :
    Except Diagnostic (HostRule language) :=
  (HostRule.ofText language line).mapError fun fault => ⟨file, line.number, fault.message⟩

/-- Read all rules of some lines, and report the lines that are none. -/
def readRules (language : PatternLanguage) (file : Path) :
    List Line → List (HostRule language) × List Diagnostic
  | [] => ([], [])
  | line :: rest =>
      let (rules, diagnostics) := readRules language file rest
      match HostRule.ofLine language file line with
      | .ok rule => (rule :: rules, diagnostics)
      | .error diagnostic => (rules, diagnostic :: diagnostics)

def parseRules (language : PatternLanguage) (file : Path) (content : String) :
    List (HostRule language) × List Diagnostic :=
  readRules language file (meaningfulLines .indented content)

/-- The name under which a host has its home. -/
structure HostIdentity where
  /-- The name of the host without its domain. -/
  shortName : String
  /-- The name of its home. -/
  homeName : String
  /-- A rule gave the name of the home. -/
  matched : Bool
  deriving DecidableEq, Repr

/-- The identity of a host to which no rule applies. -/
def HostIdentity.unmatched (shortName : String) : HostIdentity := ⟨shortName, shortName, false⟩

/-- An identity, with reports on the lines that were read to find it. -/
structure Resolution where
  identity : HostIdentity
  diagnostics : List Diagnostic
  deriving DecidableEq, Repr

/-- Put a report before the others. -/
def Resolution.report (resolution : Resolution) (diagnostic : Diagnostic) : Resolution :=
  { resolution with diagnostics := diagnostic :: resolution.diagnostics }

/-- Read lines up to the first rule that applies to a host. -/
def resolveLines (language : PatternLanguage) (shortName : String) (file : Path) :
    List Line → Resolution
  | [] => ⟨.unmatched shortName, []⟩
  | line :: rest =>
      match HostRule.ofLine language file line with
      | .ok rule =>
          if rule.appliesTo shortName then ⟨⟨shortName, rule.replacement, true⟩, []⟩
          else resolveLines language shortName file rest
      | .error diagnostic => (resolveLines language shortName file rest).report diagnostic

def resolveIdentity (language : PatternLanguage) (shortName : String) (file : Path)
    (content : String) : Resolution :=
  resolveLines language shortName file (meaningfulLines .indented content)

/-- Find the identity of a host in a host-group file. The lines that are no text are reported
first. -/
def FileText.resolveIdentity (language : PatternLanguage) (shortName : String) (file : Path)
    (text : FileText) : Resolution :=
  let resolution := Config.resolveIdentity language shortName file text.content
  { resolution with diagnostics := text.diagnostics ++ resolution.diagnostics }

end HostHome.Config
