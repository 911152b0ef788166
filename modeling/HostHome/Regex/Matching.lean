import HostHome.Regex.Expr
import HostHome.Regex.Elaboration
import HostHome.Unicode.Classes

/-!
# Matching

Decide whether some part of a text matches an expression. The meaning of an
expression is a step from the positions at which a match may begin to those at
which it may end. A repetition need not be followed for more rounds than the
text has positions, because a later round reaches nothing new.
-/

namespace HostHome.Regex

open HostHome.Unicode (CodeSet)

def isWordChar (unicode : Bool) (c? : Option Char) : Bool :=
  match c? with
  | none => false
  | some c => if unicode then Unicode.wordSet.contains c else c.isAlphanum || c == '_'

/-- Decide a condition between two characters, either of which may be missing. -/
def Look.holds (before? after? : Option Char) : Look → Bool
  | .textStart => before?.isNone
  | .textEnd => after?.isNone
  | .lineStart => before?.isNone || before? == some '\n'
  | .lineEnd => after?.isNone || after? == some '\n'
  | .crlfLineStart =>
      before?.isNone || before? == some '\n'
        || (before? == some '\r' && after? != some '\n')
  | .crlfLineEnd =>
      after?.isNone || after? == some '\r'
        || (after? == some '\n' && before? != some '\r')
  | .word unicode edge =>
      let before := isWordChar unicode before?
      let after := isWordChar unicode after?
      match edge with
      | .boundary => before != after
      | .inside => before == after
      | .start => !before && after
      | .stop => before && !after
      | .startHalf => !before
      | .stopHalf => !after

/-- The positions of a text, from the first on, with a mark at those that are reached. -/
abbrev Reached := List Bool

namespace Reached

/-- The positions reached by either. -/
def or (first second : Reached) : Reached := List.zipWith (fun a b => a || b) first second

def isNone (reached : Reached) : Bool := reached.all (· == false)

end Reached

/-- Go over one character of the set, from each reached position before such a character. -/
def stepOver (members : CodeSet) (text : List Char) (reached : Reached) : Reached :=
  false :: List.zipWith (fun c mark => mark && members.contains c) text reached

def stepOverChar (expected : Char) (text : List Char) (reached : Reached) : Reached :=
  false :: List.zipWith (fun c mark => mark && c == expected) text reached

/-- Keep the positions at which a condition holds. -/
def keepWhere (condition : Look) : Option Char → List Char → Reached → Reached
  | before?, [], marks => marks.map fun mark => mark && condition.holds before? none
  | _, _ :: _, [] => []
  | before?, c :: text, mark :: marks =>
      (mark && condition.holds before? (some c)) :: keepWhere condition (some c) text marks

/-- Follow a step for a number of rounds, stopping when nothing changes. -/
def iterate (step : Reached → Reached) : Nat → Reached → Reached
  | 0, reached => reached
  | rounds + 1, reached =>
      let next := step reached
      if next == reached then reached else iterate step rounds next

/-- Everything reached within a number of rounds. -/
def gather (step : Reached → Reached) : Nat → Reached → Reached
  | 0, reached => reached
  | rounds + 1, reached =>
      let next := reached.or (step reached)
      if next == reached then reached else gather step rounds next

mutual

/-- The positions at which a match may end, from those at which it may begin. -/
def Expr.ends (text : List Char) : Expr → Reached → Reached
  | .empty, reached => reached
  | .literal chars, reached => chars.foldl (fun marks c => stepOverChar c text marks) reached
  | .set members, reached => stepOver members text reached
  | .look condition, reached => keepWhere condition none text reached
  | .repetition least most? _ operand, reached =>
      let positions := text.length + 1
      let required := iterate (operand.ends text) (min least (positions + 1)) reached
      let optional := match most? with
        | none => positions + 1
        | some most => min (most - least) (positions + 1)
      gather (operand.ends text) optional required
  | .capture _ _ content, reached => content.ends text reached
  | .sequence parts, reached => Expr.endsOfAll text parts reached
  | .alternatives branches, reached => Expr.endsOfAny text branches reached

def Expr.endsOfAll (text : List Char) : List Expr → Reached → Reached
  | [], reached => reached
  | part :: parts, reached =>
      if reached.isNone then reached else Expr.endsOfAll text parts (part.ends text reached)

def Expr.endsOfAny (text : List Char) : List Expr → Reached → Reached
  | [], reached => reached.map fun _ => false
  | branch :: branches, reached =>
      (branch.ends text reached).or (Expr.endsOfAny text branches reached)

end

/-- Some part of the text matches the expression. -/
def Expr.matchesIn (expr : Expr) (text : String) : Bool :=
  let chars := text.toList
  (expr.ends chars (List.replicate (chars.length + 1) true)).any id

end HostHome.Regex
