import HostHome.Regex.Pattern

/-!
# Pattern languages

Rules on host names hold patterns, and all that reading and applying a rule asks
of a pattern is whether its text can be used and whether it matches a name.
-/

namespace HostHome.Config

/-- A way to read patterns and to match names with them. -/
structure PatternLanguage where
  /-- What a pattern is read as. -/
  Pattern : Type
  /-- Read the text of a pattern, or tell what is wrong with it. -/
  compile : String → Except String Pattern
  /-- Some part of the name matches. -/
  isMatch : Pattern → String → Bool

def regularExpressions : PatternLanguage where
  Pattern := Regex.Pattern
  compile text := (Regex.Pattern.ofText text).mapError Regex.Fault.message
  isMatch pattern name := pattern.matchesIn name

end HostHome.Config
