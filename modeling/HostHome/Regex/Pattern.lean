import HostHome.Regex.Parser
import HostHome.Regex.Elaboration
import HostHome.Regex.Matching
import HostHome.Regex.Size

/-!
# Usable patterns

A pattern is usable when its text can be read, its classes have meaning and its
automaton is not too large, in both directions.
-/

namespace HostHome.Regex

/-- A usable pattern: its text and its expression. -/
structure Pattern where
  text : String
  expr : Expr

def Pattern.ofText (text : String) : Except Fault Pattern := do
  let found ← Syntax.ofText text
  let (expr, _) ← found.toExpr {}
  if sizeLimit < expr.automatonBytes false ∨ sizeLimit < expr.automatonBytes true then
    .error .tooLarge
  else return ⟨text, expr⟩

def Pattern.matchesIn (pattern : Pattern) (text : String) : Bool :=
  pattern.expr.matchesIn text

end HostHome.Regex
